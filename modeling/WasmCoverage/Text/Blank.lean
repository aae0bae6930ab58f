import WasmCoverage.Text.CodeRanges
import WasmCoverage.Text.Trim

/-!
# Blank space, words and lines

Blank space and line boundaries in the sense of the Unicode standard, and the three ways of
cutting a text at them: `trim` (no blanks at either end), `words` (the runs between blanks) and
`lines` (the stretches between line boundaries, the boundaries dropped).

Main statements: a word holds no blank and is not empty (`not_blank_of_mem_words`,
`ne_nil_of_mem_words`), and a line holds no boundary (`not_lineEnd_of_mem_lines`).
-/

namespace WasmCoverage.Text

/-! ## The two classes -/

/-- The blank characters. -/
def blankRanges : CodeRanges :=
  [(0x9, 0xD), (0x1C, 0x20), (0x85, 0x85), (0xA0, 0xA0), (0x1680, 0x1680), (0x2000, 0x200A),
   (0x2028, 0x2029), (0x202F, 0x202F), (0x205F, 0x205F), (0x3000, 0x3000)]

/-- Is the character blank? -/
def isBlank (c : Char) : Bool :=
  blankRanges.contains c

/-- The characters that end a line. -/
def lineEndRanges : CodeRanges :=
  [(0xA, 0xD), (0x1C, 0x1E), (0x85, 0x85), (0x2028, 0x2029)]

/-- Does the character end a line? -/
def isLineEnd (c : Char) : Bool :=
  lineEndRanges.contains c

/-- What core calls white space is blank. -/
theorem isBlank_of_isWhitespace {c : Char} (h : c.isWhitespace = true) : isBlank c = true := by
  simp only [Char.isWhitespace, Bool.or_eq_true, decide_eq_true_eq] at h
  rcases h with ((rfl | rfl) | rfl) | rfl <;> decide

/-- What ends a line is blank. -/
theorem isBlank_of_isLineEnd {c : Char} (h : isLineEnd c = true) : isBlank c = true := by
  simp only [isLineEnd, lineEndRanges, isBlank, blankRanges, CodeRanges.contains, List.any_cons,
    List.any_nil, Bool.or_false, Bool.or_eq_true, Bool.and_eq_true, decide_eq_true_eq] at h ⊢
  omega

/-! ## Trimming -/

/-- The text without the blanks at either end. -/
def trimChars (text : List Char) : List Char :=
  trimWhile isBlank text

/-- The text without the blanks at either end. -/
def trim (text : String) : String :=
  String.ofList (trimChars text.toList)

/-! ## Words -/

/-- The words of a text whose first word has begun with `word`, reversed. -/
def wordsFrom (word : List Char) : List Char → List (List Char)
  | [] => if word.isEmpty then [] else [word.reverse]
  | c :: rest =>
    if isBlank c then
      if word.isEmpty then wordsFrom [] rest else word.reverse :: wordsFrom [] rest
    else wordsFrom (c :: word) rest

/-- The runs of characters between blanks. -/
def words (text : List Char) : List (List Char) :=
  wordsFrom [] text

theorem mem_wordsFrom {word text w : List Char} (hword : ∀ c ∈ word, isBlank c = false)
    (h : w ∈ wordsFrom word text) : w ≠ [] ∧ ∀ c ∈ w, isBlank c = false := by
  induction text generalizing word with
  | nil =>
    simp only [wordsFrom] at h
    split at h
    · simp at h
    · simp only [List.mem_singleton] at h
      subst h
      simp_all
  | cons c rest ih =>
    simp only [wordsFrom] at h
    split at h
    · split at h
      · exact ih (by simp) h
      · rcases List.mem_cons.1 h with rfl | h
        · simp_all
        · exact ih (by simp) h
    · exact ih (by simp_all) h

/-- **A word holds no blank.** -/
theorem not_blank_of_mem_words {text w : List Char} (h : w ∈ words text) :
    ∀ c ∈ w, isBlank c = false :=
  (mem_wordsFrom (by simp) h).2

/-- **A word is not empty.** -/
theorem ne_nil_of_mem_words {text w : List Char} (h : w ∈ words text) : w ≠ [] :=
  (mem_wordsFrom (by simp) h).1

/-! ## Lines -/

/-- The lines of a text whose first line has begun with `line`, reversed.  A carriage return and
the line feed after it are one boundary. -/
def linesFrom (line : List Char) : List Char → List (List Char)
  | [] => if line.isEmpty then [] else [line.reverse]
  | '\r' :: '\n' :: rest => line.reverse :: linesFrom [] rest
  | c :: rest =>
    if isLineEnd c then line.reverse :: linesFrom [] rest else linesFrom (c :: line) rest

/-- The stretches between line boundaries. -/
def lines (text : List Char) : List (List Char) :=
  linesFrom [] text

theorem mem_linesFrom {line text l : List Char} (hline : ∀ c ∈ line, isLineEnd c = false)
    (h : l ∈ linesFrom line text) : ∀ c ∈ l, isLineEnd c = false := by
  fun_induction linesFrom line text with
  | case1 => simp_all
  | case2 => simp_all
  | case3 line rest ih =>
    rcases List.mem_cons.1 h with rfl | h
    · simpa using hline
    · exact ih (by simp) h
  | case4 line c rest _ _ ih =>
    rcases List.mem_cons.1 h with rfl | h
    · simpa using hline
    · exact ih (by simp) h
  | case5 line c rest _ _ ih => exact ih (by simp_all) h

/-- **A line holds no boundary.** -/
theorem not_lineEnd_of_mem_lines {text l : List Char} (h : l ∈ lines text) :
    ∀ c ∈ l, isLineEnd c = false :=
  mem_linesFrom (by simp) h

/-! ## Universal line feeds -/

/-- The text with every carriage return, alone or before a line feed, read as a line feed. -/
def unifyLineFeeds : List Char → List Char
  | [] => []
  | '\r' :: '\n' :: rest => '\n' :: unifyLineFeeds rest
  | c :: rest => (if c = '\r' then '\n' else c) :: unifyLineFeeds rest

end WasmCoverage.Text
