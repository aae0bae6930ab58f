import WasmCoverage.Json.Basic
import WasmCoverage.Number.Numeral

/-!
# Values in messages and as text

A setting or a field that must be a text takes any value and keeps the value's display form: a
text is itself, and every other value is shown in the notation of messages, where nothing is
`None`, truth values are capitalised and texts inside other values stand in quotes.

Main statement: `display_text`, a text is displayed as itself.
-/

namespace WasmCoverage.Json

open WasmCoverage.Text

/-- A key in the notation of messages. -/
def shownKey : Key → String
  | .text s => s.quoted
  | .integer n => toString n
  | .bool b => if b then "True" else "False"
  | .real x => x.text
  | .null => "None"

mutual

/-- A value in the notation of messages. -/
def shown : Json → String
  | null => "None"
  | bool b => if b then "True" else "False"
  | integer n => toString n
  | real x => x.text
  | text s => s.quoted
  | list items => "[" ++ String.intercalate ", " (shownItems items) ++ "]"
  | record entries => "\x7b" ++ String.intercalate ", " (shownEntries entries) ++ "\x7d"

/-- The items in the notation of messages. -/
def shownItems : List Json → List String
  | [] => []
  | item :: rest => shown item :: shownItems rest

/-- The entries in the notation of messages. -/
def shownEntries : List (Key × Json) → List String
  | [] => []
  | (key, value) :: rest => (shownKey key ++ ": " ++ shown value) :: shownEntries rest

end

/-- A value as a text. -/
def display : Json → LooseText
  | text s => s
  | value => value.shown

/-- A value as a text of characters. -/
def string (value : Json) : String :=
  value.display.lossy

/-- **A text is displayed as itself.** -/
theorem display_text (s : LooseText) : (text s).display = s := rfl

/-- A key as a text. -/
def keyText : Key → String
  | .text s => s.lossy
  | key => shownKey key

end WasmCoverage.Json
