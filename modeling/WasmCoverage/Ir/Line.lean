import WasmCoverage.Text.Blank
import WasmCoverage.Text.Utf8
import WasmCoverage.Text.WordChar

/-!
# Lines of textual IR

Textual IR is read line by line.  String literals never hold a raw quote and, like comments,
never span lines, so a line's braces can be told structural or not by looking at that line alone.

* `toLines` cuts a text after each line feed; `flatten_toLines` says nothing is lost.
* `Line.braces` lists the structural braces with their columns: those outside `"…"` literals and
  before the first `;` outside a literal.
* `Line.beginsDefinition` recognises a function definition: the word `define` at column 0.
* `Line.endsAfter` says that only blanks or a comment follow a column.
-/

namespace WasmCoverage.Ir

open WasmCoverage.Text

/-- A line of text, with its line feed if it has one. -/
abbrev Line := List Glyph

/-- The text cut after each line feed. -/
def toLines : List Glyph → List Line
  | [] => []
  | g :: rest =>
    if g = .char '\n' then [g] :: toLines rest
    else
      match toLines rest with
      | [] => [[g]]
      | line :: lines => (g :: line) :: lines

/-- **Nothing is lost.** -/
theorem flatten_toLines (text : List Glyph) : (toLines text).flatten = text := by
  induction text with
  | nil => rfl
  | cons g rest ih =>
    simp only [toLines]
    split
    · simp [ih]
    · split
      · next h => rw [h] at ih; simp at ih; simp [← ih]
      · next line lines h => rw [h] at ih; simp at ih; simp [← ih]

/-- No line is empty. -/
theorem ne_nil_of_mem_toLines {text : List Glyph} {line : Line} (h : line ∈ toLines text) :
    line ≠ [] := by
  induction text generalizing line with
  | nil => simp [toLines] at h
  | cons g rest ih =>
    simp only [toLines] at h
    split at h
    · rcases List.mem_cons.1 h with rfl | h
      · simp
      · exact ih h
    · split at h
      · simp_all
      · next first others hs =>
        rcases List.mem_cons.1 h with rfl | h
        · simp
        · exact ih (by rw [hs]; exact List.mem_cons_of_mem _ h)

/-! ## Structural braces -/

/-- The two braces. -/
inductive Brace where
  | opening
  | closing
  deriving DecidableEq, Repr

namespace Line

/-- The structural braces from column `column` on; `inString` tells whether a string literal is
open there. -/
def bracesFrom (inString : Bool) (column : Nat) : Line → List (Nat × Brace)
  | [] => []
  | g :: rest =>
    if inString then bracesFrom (g ≠ .char '"') (column + 1) rest
    else if g = .char '"' then bracesFrom true (column + 1) rest
    else if g = .char ';' then []
    else if g = .char '{' then (column, .opening) :: bracesFrom false (column + 1) rest
    else if g = .char '}' then (column, .closing) :: bracesFrom false (column + 1) rest
    else bracesFrom false (column + 1) rest

/-- The structural braces of a line with their columns. -/
def braces (line : Line) : List (Nat × Brace) :=
  bracesFrom false 0 line

theorem column_of_mem_bracesFrom {inString : Bool} {column : Nat} {glyphs : Line} {i : Nat}
    {b : Brace} (h : (i, b) ∈ bracesFrom inString column glyphs) :
    column ≤ i ∧ glyphs[i - column]? = some (.char (if b = .opening then '{' else '}')) := by
  induction glyphs generalizing inString column with
  | nil => simp [bracesFrom] at h
  | cons g rest ih =>
    have step {s : Bool} (h : (i, b) ∈ bracesFrom s (column + 1) rest) :
        column ≤ i ∧
          (g :: rest)[i - column]? = some (.char (if b = .opening then '{' else '}')) := by
      obtain ⟨hle, hget⟩ := ih h
      refine ⟨by omega, ?_⟩
      rw [show i - column = (i - (column + 1)) + 1 by omega]
      simpa using hget
    simp only [bracesFrom] at h
    split at h
    · exact step h
    · split at h
      · exact step h
      · split at h
        · simp at h
        · split at h
          · rcases List.mem_cons.1 h with heq | h
            · obtain ⟨rfl, rfl⟩ := Prod.mk.inj heq
              simp_all
            · exact step h
          · split at h
            · rcases List.mem_cons.1 h with heq | h
              · obtain ⟨rfl, rfl⟩ := Prod.mk.inj heq
                simp_all
              · exact step h
            · exact step h

/-- **A structural brace stands at its column.** -/
theorem getElem?_of_mem_braces {glyphs : Line} {i : Nat} {b : Brace} (h : (i, b) ∈ braces glyphs) :
    glyphs[i]? = some (.char (if b = .opening then '{' else '}')) := by
  simpa using (column_of_mem_bracesFrom h).2

/-! ## The start of a definition and the end of a line -/

/-- Is the glyph a word character? -/
def isWord : Glyph → Bool
  | .char c => isWordChar c
  | .stray _ => false

/-- Is the glyph blank? -/
def isBlankGlyph : Glyph → Bool
  | .char c => isBlank c
  | .stray _ => false

/-- The keyword of a function definition. -/
def definitionKeyword : List Glyph :=
  "define".toList.map .char

/-- Does the line begin with the word `define`? -/
def beginsDefinition (line : Line) : Bool :=
  definitionKeyword.isPrefixOf line &&
    ((line.drop definitionKeyword.length).head?.map isWord).getD false == false

/-- Do only blanks or a comment follow the column? -/
def endsAfter (line : Line) (column : Nat) : Bool :=
  ((line.drop (column + 1)).takeWhile (· ≠ .char ';')).all isBlankGlyph

end Line

end WasmCoverage.Ir
