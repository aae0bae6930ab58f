import WasmCoverage.Text.Hex
import WasmCoverage.Text.Printable

/-!
# Quoted text

Messages show a text they complain about in quotes.  The quote is `'`, unless the text holds a
`'` and no `"`.  The quote itself and the backslash are escaped by a backslash, the three common
controls by their letter, and every other character that is not printable by its code point, in
two, four or eight hexadecimal digits.

Main statement: `quoteMark_eq_double_iff` says when the double quote is used.
-/

namespace WasmCoverage.Text

/-- The quote a text is shown in. -/
def quoteMark (text : List Char) : Char :=
  if text.contains '\'' && !text.contains '"' then '"' else '\''

/-- The form of one character between quotes. -/
def quoteChar (mark c : Char) : List Char :=
  if c = mark ∨ c = '\\' then ['\\', c]
  else if c = '\n' then ['\\', 'n']
  else if c = '\r' then ['\\', 'r']
  else if c = '\t' then ['\\', 't']
  else if isPrintable c then [c]
  else if c.toNat < 0x100 then '\\' :: 'x' :: hexDigits 2 c.toNat
  else if c.toNat < 0x10000 then '\\' :: 'u' :: hexDigits 4 c.toNat
  else '\\' :: 'U' :: hexDigits 8 c.toNat

/-- The text in quotes. -/
def quoteChars (text : List Char) : List Char :=
  let mark := quoteMark text
  mark :: text.flatMap (quoteChar mark) ++ [mark]

/-- The text in quotes. -/
def quote (text : String) : String :=
  String.ofList (quoteChars text.toList)

/-- **The double quote is used exactly for a text with a `'` and without a `"`.** -/
theorem quoteMark_eq_double_iff (text : List Char) :
    quoteMark text = '"' ↔ '\'' ∈ text ∧ '"' ∉ text := by
  simp [quoteMark]

/-- Quoted text is at least its two quotes. -/
theorem two_le_length_quoteChars (text : List Char) : 2 ≤ (quoteChars text).length := by
  simp [quoteChars]

end WasmCoverage.Text
