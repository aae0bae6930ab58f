import WasmCoverage.Json.Basic
import WasmCoverage.Text.Hex

/-!
# Writing JSON

Values are written in ASCII: a quote and a backslash are escaped by a backslash, the common
controls by their letter, and every other character outside the printable ASCII range by its
UTF-16 code units, as half of a surrogate pair alone is.  There are two layouts: everything on one
line (`line`), and one entry per line with two blanks of indentation per level (`pretty`).

Main statements: `isAscii_of_mem_writeChar` and `isAscii_of_mem_writePoint`, nothing but ASCII is
written.
-/

namespace WasmCoverage.Json

open WasmCoverage.Text

/-! ## Strings -/

/-- The escape of one UTF-16 code unit. -/
def unitEscape (unit : Nat) : List Char :=
  '\\' :: 'u' :: hexDigits 4 unit

/-- The escape of a character by its UTF-16 code units. -/
def codeEscape (c : Char) : List Char :=
  if c.toNat < 0x10000 then unitEscape c.toNat
  else
    unitEscape (0xD800 + (c.toNat - 0x10000) / 0x400) ++
      unitEscape (0xDC00 + (c.toNat - 0x10000) % 0x400)

/-- The form of one character in a string. -/
def writeChar (c : Char) : List Char :=
  if c = '"' ∨ c = '\\' then ['\\', c]
  else if c = '\n' then ['\\', 'n']
  else if c = '\r' then ['\\', 'r']
  else if c = '\t' then ['\\', 't']
  else if c = '\x08' then ['\\', 'b']
  else if c = '\x0c' then ['\\', 'f']
  else if 0x20 ≤ c.toNat ∧ c.toNat ≤ 0x7E then [c]
  else codeEscape c

/-- The form of one point in a string. -/
def writePoint : Point → List Char
  | .char c => writeChar c
  | .half h => unitEscape h.unit

/-- A string in quotes. -/
def writeString (s : LooseText) : List Char :=
  '"' :: s.points.flatMap writePoint ++ ['"']

/-- The name of a key; what is no text is written as a value. -/
def nameOf : Key → LooseText
  | .text s => s
  | .integer n => toString n
  | .bool b => if b then "true" else "false"
  | .real x => x.text
  | .null => "null"

theorem hexDigit_lt (n : Nat) (h : n < 16) : (hexDigit n).toNat < 0x80 := by
  have : ∀ n : Fin 16, (hexDigit n.val).toNat < 0x80 := by decide
  exact this ⟨n, h⟩

theorem lt_of_mem_hexDigits {width n : Nat} {c : Char} (h : c ∈ hexDigits width n) :
    c.toNat < 0x80 := by
  induction width generalizing n with
  | zero => simp [hexDigits] at h
  | succ width ih =>
    rcases List.mem_append.1 h with h | h
    · exact ih h
    · simp only [List.mem_singleton] at h
      subst h
      exact hexDigit_lt _ (Nat.mod_lt _ (by decide))

theorem lt_of_mem_unitEscape {unit : Nat} {c : Char} (h : c ∈ unitEscape unit) :
    c.toNat < 0x80 := by
  simp only [unitEscape, List.mem_cons] at h
  rcases h with rfl | rfl | h
  · decide
  · decide
  · exact lt_of_mem_hexDigits h

/-- **Nothing but ASCII is written.** -/
theorem isAscii_of_mem_writeChar {c e : Char} (h : e ∈ writeChar c) : e.toNat < 0x80 := by
  simp only [writeChar, codeEscape] at h
  split at h
  · next hc =>
    simp only [List.mem_cons, List.not_mem_nil, or_false] at h
    rcases h with rfl | rfl
    · decide
    · rcases hc with rfl | rfl <;> decide
  · repeat'
      first
        | (split at h)
        | (simp only [List.mem_cons, List.not_mem_nil, or_false] at h)
    all_goals first
      | (rcases h with rfl | rfl <;> decide)
      | exact lt_of_mem_unitEscape h
      | (subst h; omega)
      | (rcases List.mem_append.1 h with h | h <;> exact lt_of_mem_unitEscape h)

/-- **Nothing but ASCII is written for a half either.** -/
theorem isAscii_of_mem_writePoint {point : Point} {e : Char} (h : e ∈ writePoint point) :
    e.toNat < 0x80 := by
  cases point with
  | char c => exact isAscii_of_mem_writeChar h
  | half half => exact lt_of_mem_unitEscape h

/-! ## Values on one line -/

/-- The texts with a separator between neighbours. -/
def between (separator : List Char) : List (List Char) → List Char
  | [] => []
  | [piece] => piece
  | piece :: pieces => piece ++ separator ++ between separator pieces

/-- The text of a value that holds no other values. -/
def writeScalar : Json → List Char
  | null => "null".toList
  | bool b => (if b then "true" else "false").toList
  | integer n => (toString n).toList
  | real .nan => "NaN".toList
  | real (.infinite negative) => (if negative then "-Infinity" else "Infinity").toList
  | real x => x.text.toList
  | text s => writeString s
  | list _ => "[]".toList
  | record _ => "\x7b\x7d".toList

mutual

/-- A value on one line. -/
def writeLine : Json → List Char
  | list items => '[' :: between [',', ' '] (writeItems items) ++ [']']
  | record entries => '{' :: between [',', ' '] (writeEntries entries) ++ ['}']
  | scalar => writeScalar scalar

/-- The items on one line each. -/
def writeItems : List Json → List (List Char)
  | [] => []
  | item :: rest => writeLine item :: writeItems rest

/-- The entries on one line each. -/
def writeEntries : List (Key × Json) → List (List Char)
  | [] => []
  | (key, value) :: rest =>
    (writeString (nameOf key) ++ ':' :: ' ' :: writeLine value) :: writeEntries rest

end

/-- The text of a value on one line. -/
def line (value : Json) : String :=
  String.ofList (writeLine value)

/-! ## Values with one entry per line -/

/-- A line break and the indentation of a level. -/
def newLine (level : Nat) : List Char :=
  '\n' :: List.replicate (2 * level) ' '

/-- Pieces between brackets, one per line. -/
def block (opening closing : Char) (level : Nat) (pieces : List (List Char)) : List Char :=
  opening :: newLine (level + 1) ++ between (',' :: newLine (level + 1)) pieces ++
    newLine level ++ [closing]

mutual

/-- A value with one entry per line, at a level. -/
def writePretty (level : Nat) : Json → List Char
  | list (item :: items) => block '[' ']' level (prettyItems (level + 1) (item :: items))
  | record (entry :: entries) => block '{' '}' level (prettyEntries (level + 1) (entry :: entries))
  | scalar => writeScalar scalar

/-- The items at a level. -/
def prettyItems (level : Nat) : List Json → List (List Char)
  | [] => []
  | item :: rest => writePretty level item :: prettyItems level rest

/-- The entries at a level. -/
def prettyEntries (level : Nat) : List (Key × Json) → List (List Char)
  | [] => []
  | (key, value) :: rest =>
    (writeString (nameOf key) ++ ':' :: ' ' :: writePretty level value) :: prettyEntries level rest

end

/-- The text of a value with one entry per line. -/
def pretty (value : Json) : String :=
  String.ofList (writePretty 0 value)

end WasmCoverage.Json
