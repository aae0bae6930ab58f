import WasmCoverage.Json.Display
import WasmCoverage.Number.Numeral
import WasmCoverage.Text.Occurrence

/-!
# Reading typed values out of payloads

A payload is JSON that should hold a typed value.  Reading it never stops at the first thing that
is wrong: everything wrong is collected, in the order of the fields, each with the way that leads
to it.  The rules that tie the fields of a value together are tested only once all fields could
be read, and then the first broken rule is the one that is told.

Values are coerced where that is harmless: whatever should be a text becomes its display form,
and whatever should be a count may be a numeral or a number with a fraction, which is cut.

Main statement: `seq_eq_ok_iff`, a combined value is read exactly if both parts are.
-/

namespace WasmCoverage.Payload

open WasmCoverage.Text

/-! ## What is wrong, and where -/

/-- What can be wrong with a part of a payload. -/
inductive Flaw where
  /-- A field that must be there is not. -/
  | missing
  /-- The value cannot be of the type. -/
  | wrongType
  /-- The value cannot be asked for its keys. -/
  | noKeys
  /-- The text is none of those that are allowed. -/
  | notAllowed
  /-- The number is infinite. -/
  | infinite
  /-- There are keys that no field has. -/
  | extraKeys (keys : List String)
  /-- A rule is broken. -/
  | rule (message : String)
  deriving DecidableEq, Repr

/-- A step into a payload. -/
inductive Segment where
  | field (name : String)
  | item (index : Nat)
  deriving DecidableEq, Repr

/-- A flaw and the way to it. -/
structure Leaf where
  way : List Segment
  flaw : Flaw
  deriving DecidableEq, Repr

/-- The text of a way: field names with dots between them, item numbers in brackets. -/
def wayText : List Segment → String
  | [] => ""
  | .field name :: rest => name ++ tail rest
  | .item index :: rest => "[" ++ toString index ++ "]" ++ tail rest
where
  /-- The text of the steps after the first. -/
  tail : List Segment → String
    | [] => ""
    | .field name :: rest => "." ++ name ++ tail rest
    | .item index :: rest => "[" ++ toString index ++ "]" ++ tail rest

/-! ## Readings -/

/-- What reading gives: a value, or everything that is wrong. -/
inductive Reading (α : Type) where
  | ok (value : α)
  | flawed (leaves : List Leaf)
  deriving Repr

namespace Reading

variable {α β : Type}

/-- The value with a function applied to it. -/
def map (f : α → β) : Reading α → Reading β
  | ok value => ok (f value)
  | flawed leaves => flawed leaves

/-- A function and its argument read side by side; what is wrong with both is kept. -/
def seq (f : Reading (α → β)) (x : Reading α) : Reading β :=
  match f, x with
  | ok f, ok x => ok (f x)
  | flawed a, flawed b => flawed (a ++ b)
  | flawed a, ok _ => flawed a
  | ok _, flawed b => flawed b

instance : Applicative Reading where
  pure := ok
  map f x := map f x
  seq f x := seq f (x ())

/-- **A combined value is read exactly if both parts are.** -/
theorem seq_eq_ok_iff {f : Reading (α → β)} {x : Reading α} {b : β} :
    seq f x = ok b ↔ ∃ g a, f = ok g ∧ x = ok a ∧ g a = b := by
  cases f <;> cases x <;> simp [seq]

/-- A single flaw at the value itself. -/
def flaw (flaw : Flaw) : Reading α :=
  flawed [⟨[], flaw⟩]

/-- The reading of a part, seen from the whole. -/
def within (segment : Segment) : Reading α → Reading α
  | ok value => ok value
  | flawed leaves => flawed (leaves.map fun leaf => ⟨segment :: leaf.way, leaf.flaw⟩)

/-- The reading with the first broken rule, if the value was read. -/
def check (rules : α → List (Option Flaw)) : Reading α → Reading α
  | ok value =>
    match (rules value).findSome? id with
    | some broken => flaw broken
    | none => ok value
  | flawed leaves => flawed leaves

/-- The readings of a list, put together. -/
def all : List (Reading α) → Reading (List α)
  | [] => ok []
  | first :: rest => seq (map List.cons first) (all rest)

end Reading

/-! ## Scalars -/

/-- A text: the display form of the value. -/
def readText (value : Json) : Reading LooseText :=
  .ok value.display

/-- A text or nothing. -/
def readText? (value : Json) : Reading (Option LooseText) :=
  match value with
  | .null => .ok none
  | value => .ok (some value.display)

/-- A text of characters. -/
def readString (value : Json) : Reading String :=
  (readText value).map LooseText.lossy

/-- A text of characters or nothing. -/
def readString? (value : Json) : Reading (Option String) :=
  (readText? value).map fun s => s.map LooseText.lossy

/-- The fault of a numeral as a broken rule. -/
def numeralFlaw (fault : NumeralFault) : Flaw :=
  .rule fault.message

/-- A whole number. -/
def readInteger (value : Json) : Reading Int :=
  match value with
  | .bool b => .ok (if b then 1 else 0)
  | .integer n => .ok n
  | .real (.finite negative significand exponent) =>
    .ok (Double.truncate negative significand exponent)
  | .real (.infinite _) => .flaw .infinite
  | .real .nan => .flaw (.rule "cannot convert float NaN to integer")
  | .text s =>
    match Numeral.readLoose s with
    | .ok n => .ok n
    | .error fault => .flaw (numeralFlaw fault)
  | _ => .flaw .wrongType

/-- One of some texts. -/
def readChoice {α : Type} (ofName? : String → Option α) (value : Json) : Reading α :=
  match value with
  | .text s =>
    match ofName? s.lossy with
    | some choice => .ok choice
    | none => .flaw .notAllowed
  | _ => .flaw .notAllowed

/-! ## Lists -/

/-- The items of a value that can be gone through: a text has its characters and a record its
keys. -/
def itemsOf? : Json → Option (List Json)
  | .list items => some items
  | .text s => some (s.points.map fun point => .text ⟨[point]⟩)
  | .record entries => some (entries.map fun entry => .ofKey entry.1)
  | _ => none

/-- The readings of items, each seen from the list; `index` is the number of the first. -/
def readItems {α : Type} (read : Json → Reading α) (index : Nat) : List Json → List (Reading α)
  | [] => []
  | item :: rest => (read item).within (.item index) :: readItems read (index + 1) rest

/-- A list. -/
def readList {α : Type} (read : Json → Reading α) (value : Json) : Reading (List α) :=
  match itemsOf? value with
  | some items => .all (readItems read 0 items)
  | none => .flaw .wrongType

/-! ## Fields -/

/-- A value that can be asked whether it has a field. -/
inductive Source where
  | record (entries : List (Key × Json))
  /-- A text or a list, which may seem to have a field but cannot give it. -/
  | foreign (seems : String → Bool)

/-- Is the value this text? -/
def isText (value : Json) (s : String) : Bool :=
  match value with
  | .text t => t = (s : LooseText)
  | _ => false

/-- The value as a source of fields. -/
def sourceOf? : Json → Option Source
  | .record entries => some (.record entries)
  | .text s => some (.foreign fun name => textOccursIn name s.lossy)
  | .list items => some (.foreign fun name => items.any fun item => isText item name)
  | _ => none

namespace Source

variable {α : Type}

/-- A field that must be there. -/
def required (source : Source) (name : String) (read : Json → Reading α) : Reading α :=
  match source with
  | .record entries =>
    match Json.Entries.get? name entries with
    | some value => (read value).within (.field name)
    | none => (Reading.flaw .missing).within (.field name)
  | .foreign _ => (Reading.flaw .wrongType).within (.field name)

/-- A field that has a default. -/
def optional (source : Source) (name : String) (default : α) (read : Json → Reading α) :
    Reading α :=
  match source with
  | .record entries =>
    match Json.Entries.get? name entries with
    | some value => (read value).within (.field name)
    | none => .ok default
  | .foreign seems =>
    if seems name then (Reading.flaw .wrongType).within (.field name) else .ok default

end Source

/-- A value read through its fields. -/
def readFields {α : Type} (read : Source → Reading α) (value : Json) : Reading α :=
  match sourceOf? value with
  | some source => read source
  | none => .flaw .wrongType

/-! ## Rules -/

/-- Does the text begin at the root directory? -/
def isAbsoluteText (s : LooseText) : Bool :=
  s.points.head? = some (.char '/')

/-- The message about a path that is not absolute. -/
def notAbsolute (name : String) (s : LooseText) : String :=
  name ++ " must be an absolute path, got " ++ s.quoted

/-- The rule that a path is absolute. -/
def absolute (name : String) (s : LooseText) : Option Flaw :=
  if isAbsoluteText s then none else some (.rule (notAbsolute name s))

/-- The rule that a path is absolute, if there is one. -/
def absolute? (name : String) (s : Option LooseText) : Option Flaw :=
  s.bind (absolute name)

/-- The message about a negative count. -/
def negative (name : String) (shown : String) : String :=
  name ++ " must be non-negative, got " ++ shown

/-- The rule that a count is not negative. -/
def natural (name : String) (n : Int) : Option Flaw :=
  if n < 0 then some (.rule (negative name (toString n))) else none

end WasmCoverage.Payload
