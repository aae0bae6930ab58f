import WasmCoverage.Yaml.Scalar

/-!
# YAML documents of sections

The effective settings are stored as a document of two levels: sections, and in each of them
entries whose values are scalars or lists of texts.  Entries are indented by two blanks, and the
items of a list stand in the column of their key.
-/

namespace WasmCoverage.Yaml

/-- The value of an entry. -/
inductive Value where
  | null
  | flag (b : Bool)
  | text (s : String)
  | texts (items : List String)
  deriving DecidableEq, Repr

/-- Entries with their keys. -/
abbrev Section := List (String × Value)

/-- A text or nothing. -/
def Value.ofText? : Option String → Value
  | none => null
  | some s => text s

/-- The indentation of a line that goes on with the scalar of the line before. -/
def continued : Nat := 4

/-- An item of a list on its own line. -/
def writeItem (item : String) : List Char :=
  "\n  - ".toList ++ writeText continued 4 item

/-- What follows the colon of an entry, whose key has `width` characters. -/
def writeValue (width : Nat) : Value → List Char
  | .null => " null".toList
  | .flag b => (if b then " true" else " false").toList
  | .text s => ' ' :: writeText continued (width + 4) s
  | .texts [] => " []".toList
  | .texts items => items.flatMap writeItem

/-- An entry on its own lines. -/
def writeEntry (entry : String × Value) : List Char :=
  "  ".toList ++ entry.1.toList ++ ':' :: writeValue entry.1.length entry.2 ++ ['\n']

/-- A section on its own lines. -/
def writeSection (part : String × Section) : List Char :=
  part.1.toList ++ ":\n".toList ++ part.2.flatMap writeEntry

/-- The text of a document. -/
def document (parts : List (String × Section)) : String :=
  String.ofList (parts.flatMap writeSection)

end WasmCoverage.Yaml
