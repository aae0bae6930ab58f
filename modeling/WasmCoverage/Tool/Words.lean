import WasmCoverage.Text.Split

/-!
# Commands as text

A command in a message is written so that a shell would read it back: words of harmless
characters stand as they are, every other word stands in single quotes, and a single quote in it
is written as `'"'"'`.
-/

namespace WasmCoverage.Tool

open WasmCoverage.Text

/-- Does the character mean itself to a shell? -/
def isHarmless (c : Char) : Bool :=
  c.isAlphanum || "_@%+=:,./-".toList.contains c

/-- The form of a character between single quotes. -/
def quoteWordChar (c : Char) : List Char :=
  if c = '\'' then ['\'', '"', '\'', '"', '\''] else [c]

/-- A word as a shell reads it. -/
def quoteWord (word : String) : String :=
  if word.toList ≠ [] ∧ word.toList.all isHarmless then word
  else String.ofList ('\'' :: word.toList.flatMap quoteWordChar ++ ['\''])

/-- A command as a shell reads it. -/
def quoteWords (words : List String) : String :=
  joinText " " (words.map quoteWord)

/-- A harmless word stands as it is. -/
theorem quoteWord_of_harmless {word : String} (hne : word.toList ≠ [])
    (h : word.toList.all isHarmless = true) : quoteWord word = word := by
  simp only [quoteWord, hne, ne_eq, not_false_eq_true, h, and_self, if_true]

end WasmCoverage.Tool
