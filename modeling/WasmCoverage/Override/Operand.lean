import WasmCoverage.Json.Display
import WasmCoverage.Json.Key
import WasmCoverage.Text.Split

/-!
# Operands

What is written behind the equals sign of an override is an operand: a number, a truth value,
nothing, a text, a list, a record, or several values to choose from.  Values with commas between
them are a choice; so are the results of some functions, and others count through a range, name
an interval or a pattern.  A text in quotes stays apart from others while functions are applied.

Operands are equal as values are; of two numbers, texts or lists one can be before the other, and
nothing else can be compared.

Main statement: `perm_sort?`, sorting keeps what is sorted.
-/

namespace WasmCoverage.Override

/-- What is written where a value can stand. -/
inductive Operand where
  | null
  | bool (b : Bool)
  | integer (n : Int)
  | real (x : Double)
  | text (s : String)
  /-- A text in quotes. -/
  | quoted (mark : Char) (s : String)
  | list (items : List Operand)
  | record (entries : List (Key × Operand))
  /-- These values; `simple` if they are just written with commas between them. -/
  | choice (simple : Bool) (items : List Operand)
  | range (bounds : List Operand)
  | interval (bounds : List Operand)
  | pattern
  deriving Repr

namespace Operand

/-- Does the operand stand for several values? -/
def isSeveral : Operand → Bool
  | choice _ _ | range _ | interval _ | pattern => true
  | _ => false

/-- A text without its quotes. -/
def unquoted : Operand → Operand
  | quoted _ s => text s
  | operand => operand

/-! ## Values -/

mutual

/-- The value of an operand that stands for one. -/
def value? : Operand → Option Json
  | null => some .null
  | bool b => some (.bool b)
  | integer n => some (.integer n)
  | real x => some (.real x)
  | text s => some (.text s)
  | quoted _ s => some (.text s)
  | list items => (values? items).map .list
  | record entries => (entryValues? entries).map .record
  | choice _ _ | range _ | interval _ | pattern => none

/-- The values of operands that stand for one each. -/
def values? : List Operand → Option (List Json)
  | [] => some []
  | item :: rest => do
    let value ← value? item
    let values ← values? rest
    return value :: values

/-- Entries with the values of operands that stand for one each. -/
def entryValues? : List (Key × Operand) → Option (List (Key × Json))
  | [] => some []
  | (key, item) :: rest => do
    let value ← value? item
    let entries ← entryValues? rest
    return (key, value) :: entries

end

mutual

/-- The operand that a value is written as. -/
def ofValue : Json → Operand
  | .null => null
  | .bool b => bool b
  | .integer n => integer n
  | .real x => real x
  | .text s => text s.lossy
  | .list items => list (ofItems items)
  | .record entries => record (ofEntries entries)

/-- The operands that values are written as. -/
def ofItems : List Json → List Operand
  | [] => []
  | item :: rest => ofValue item :: ofItems rest

/-- Entries with the operands that values are written as. -/
def ofEntries : List (Key × Json) → List (Key × Operand)
  | [] => []
  | (key, value) :: rest => (key, ofValue value) :: ofEntries rest

end

/-- The operand that a key is written as. -/
def ofKey : Key → Operand
  | .null => null
  | .bool b => bool b
  | .integer n => integer n
  | .real x => real x
  | .text s => text s.lossy

/-! ## In messages -/

mutual

/-- An operand in the notation of messages. -/
def shown : Operand → String
  | quoted mark s =>
    "QuotedString(text=" ++ Text.quote s ++ ", quote=" ++
      (if mark = '"' then "<Quote.double: 1>" else "<Quote.single: 0>") ++ ")"
  | list items => "[" ++ Text.joinText ", " (shownItems items) ++ "]"
  | record entries => "\x7b" ++ Text.joinText ", " (shownEntries entries) ++ "\x7d"
  | choice simple items =>
    "ChoiceSweep(tags=set(), list=[" ++ Text.joinText ", " (shownItems items) ++
      "], simple_form=" ++ Json.shown (.bool simple) ++ ", shuffle=False)"
  | range _ => "RangeSweep"
  | interval _ => "IntervalSweep"
  | pattern => "Glob"
  | null => Json.shown .null
  | bool b => Json.shown (.bool b)
  | integer n => Json.shown (.integer n)
  | real x => Json.shown (.real x)
  | text s => Text.quote s

/-- Operands in the notation of messages. -/
def shownItems : List Operand → List String
  | [] => []
  | item :: rest => shown item :: shownItems rest

/-- Entries in the notation of messages. -/
def shownEntries : List (Key × Operand) → List String
  | [] => []
  | (key, item) :: rest => (Json.shownKey key ++ ": " ++ shown item) :: shownEntries rest

end

/-! ## Comparison -/

/-- The size of a number; truth values are the numbers zero and one. -/
def size? : Operand → Option Size
  | bool b => some (.ofInt (if b then 1 else 0))
  | integer n => some (.ofInt n)
  | real x => some (.ofDouble x)
  | _ => none

mutual

/-- Are two operands equal? -/
def same : Operand → Operand → Bool
  | null, null => true
  | text s, text t => s = t
  | quoted m s, quoted n t => m = n && s = t
  | list xs, list ys => sameItems xs ys
  | record xs, record ys => xs.length = ys.length && sameEntries xs ys
  | x, y =>
    match x.size?, y.size? with
    | some m, some n => m.same n
    | _, _ => false

/-- Are the items of two lists equal? -/
def sameItems : List Operand → List Operand → Bool
  | [], [] => true
  | x :: xs, y :: ys => same x y && sameItems xs ys
  | _, _ => false

/-- Does the second record have an equal operand for every entry? -/
def sameEntries : List (Key × Operand) → List (Key × Operand) → Bool
  | [], _ => true
  | (key, operand) :: rest, entries =>
    (match Key.find? key entries with
      | some other => same operand other
      | none => false) && sameEntries rest entries

end

mutual

/-- Is one operand before another, if they can be compared? -/
def isBefore? : Operand → Operand → Option Bool
  | text s, text t => some (s < t)
  | list xs, list ys => areBefore? xs ys
  | x, y => do
    let m ← x.size?
    let n ← y.size?
    return m.before n

/-- Are some items before others?  The first difference decides. -/
def areBefore? : List Operand → List Operand → Option Bool
  | [], [] => some false
  | [], _ :: _ => some true
  | _ :: _, [] => some false
  | x :: xs, y :: ys => if same x y then areBefore? xs ys else isBefore? x y

end

/-! ## Sorting -/

/-- How many items after one go on ascending, or descending strictly if `falling`. -/
def runLength? (falling : Bool) (previous : Operand) : List Operand → Option Nat
  | [] => some 0
  | item :: rest => do
    if (← isBefore? item previous) = falling then
      return 1 + (← runLength? falling item rest)
    else return 0

/-- The place of an item between `low` and `high` among items in order, found by halving; it goes
behind those that are as great. -/
def place? (items : List Operand) (item : Operand) : Nat → Nat → Nat → Option Nat
  | 0, low, _ => some low
  | fuel + 1, low, high =>
    if low < high then
      let middle := (low + high) / 2
      match items[middle]? with
      | none => none
      | some other => do
        if ← isBefore? item other then place? items item fuel low middle
        else place? items item fuel (middle + 1) high
    else some low

/-- Items put one after the other among items in order. -/
def insertAll? (done : List Operand) : List Operand → Option (List Operand)
  | [] => some done
  | item :: rest => do
    let place ← place? done item (done.length + 1) 0 done.length
    insertAll? (done.take place ++ item :: done.drop place) rest

/-- The operands in ascending order, if they can be compared: a run at the start is taken as it
is, or turned around, and every other operand is put into its place. -/
def sort? : List Operand → Option (List Operand)
  | first :: second :: rest => do
    let falling ← isBefore? second first
    let length ← runLength? falling second rest
    let run := first :: second :: rest.take length
    insertAll? (if falling then run.reverse else run) (rest.drop length)
  | few => some few

/-- Putting items in their places keeps all of them. -/
theorem perm_insertAll? {items done sorted : List Operand}
    (h : insertAll? done items = some sorted) : sorted.Perm (done ++ items) := by
  induction items generalizing done with
  | nil => simp_all [insertAll?]
  | cons item rest ih =>
    simp only [insertAll?, Option.bind_eq_bind, Option.bind_eq_some_iff] at h
    obtain ⟨place, _, h⟩ := h
    refine (ih h).trans ?_
    refine ((List.perm_middle).append_right rest).trans ?_
    rw [List.take_append_drop]
    exact (@List.perm_middle _ item done rest).symm

/-- **Sorting keeps what is sorted.** -/
theorem perm_sort? {items sorted : List Operand} (h : sort? items = some sorted) :
    sorted.Perm items := by
  match items, h with
  | [], h => cases h; exact .refl _
  | [_], h => cases h; exact .refl _
  | first :: second :: rest, h =>
    simp only [sort?, Option.bind_eq_bind, Option.bind_eq_some_iff] at h
    obtain ⟨falling, _, length, _, h⟩ := h
    refine (perm_insertAll? h).trans ?_
    have turned : (if falling then (first :: second :: rest.take length).reverse
        else first :: second :: rest.take length).Perm (first :: second :: rest.take length) := by
      split
      · exact List.reverse_perm _
      · exact .refl _
    refine (turned.append_right _).trans ?_
    simp

end Operand

end WasmCoverage.Override
