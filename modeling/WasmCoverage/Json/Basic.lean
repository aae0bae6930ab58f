import WasmCoverage.Number.Double
import WasmCoverage.Table
import WasmCoverage.Text.Loose

/-!
# JSON values

Payloads, summaries and the messages of the build tool are JSON.  A record is a table: it keeps
its entries in the order in which they were first written, and a key that is written again
changes the value in place.  In JSON all keys are texts; the settings of a run may also have
numbers, truth values or nothing at all as keys.
-/

namespace WasmCoverage

/-- A key of a record. -/
inductive Key where
  | text (s : LooseText)
  | integer (n : Int)
  | bool (b : Bool)
  | real (x : Double)
  | null
  deriving DecidableEq, Repr

instance : Coe String Key := ⟨fun s => .text s⟩

/-- A JSON value. -/
inductive Json where
  | null
  | bool (b : Bool)
  | integer (n : Int)
  | real (x : Double)
  | text (s : LooseText)
  | list (items : List Json)
  | record (entries : List (Key × Json))
  deriving Repr

namespace Json

/-- The entries of a record. -/
abbrev Entries := List (Key × Json)

/-- The value under a name. -/
def Entries.get? (name : String) (entries : Entries) : Option Json :=
  Table.get? (name : Key) entries

/-- The entries with a value put under a name. -/
def Entries.insert (name : String) (value : Json) (entries : Entries) : Entries :=
  Table.insert (name : Key) value entries

/-- The entries without a name. -/
def Entries.erase (name : String) (entries : Entries) : Entries :=
  Table.erase (name : Key) entries

/-- The value under a name of a record. -/
def get? (name : String) : Json → Option Json
  | record entries => Entries.get? name entries
  | _ => none

/-- A text or nothing. -/
def ofText? : Option LooseText → Json
  | none => null
  | some s => text s

/-- A text or nothing. -/
def ofString? (s : Option String) : Json :=
  ofText? (s.map .ofString)

/-- A list of texts. -/
def ofTexts (texts : List String) : Json :=
  list (texts.map fun s : String => text s)

/-- Does the value count as true?  Nothing, zero and everything empty do not. -/
def isTruthy : Json → Bool
  | null => false
  | bool b => b
  | integer n => n ≠ 0
  | real x => !x.isZero
  | text s => !s.isEmpty
  | list items => !items.isEmpty
  | record entries => !entries.isEmpty

/-- The value of a key. -/
def ofKey : Key → Json
  | .text s => text s
  | .integer n => integer n
  | .bool b => bool b
  | .real x => real x
  | .null => null

end Json

end WasmCoverage
