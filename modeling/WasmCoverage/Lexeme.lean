/-!
# Lexemes

The values of overrides and the arguments of references are cut into lexemes: numbers, words,
punctuation, escapes, blanks.  A rule gives a kind of lexeme and the length of the longest one at
the start of a text, zero if there is none.  At every place the longest lexeme is taken, and of
two equally long ones that of the rule that stands first.  Some punctuation takes the blanks
beside it along.

Main statement: `length_longest?_pos`, a lexeme that is taken is not empty, which is why cutting
ends.
-/

namespace WasmCoverage.Lexeme

/-! ## Lengths of lexemes -/

/-- A blank. -/
def isBlank (c : Char) : Bool :=
  c = ' ' || c = '\t'

/-- The blanks at the start. -/
def blankLength (chars : List Char) : Nat :=
  (chars.takeWhile isBlank).length

/-- A punctuation mark that takes the blanks before or after it along. -/
def markLength (mark : Char) (before after : Bool) (chars : List Char) : Nat :=
  let skipped := if before then blankLength chars else 0
  match chars.drop skipped with
  | c :: rest => if c = mark then skipped + 1 + (if after then blankLength rest else 0) else 0
  | [] => 0

/-- Digits, with at most one low line between two of them.  `afterDigit` tells whether the
character before is a digit. -/
def groupedDigits (afterDigit : Bool) : List Char → Nat
  | [] => 0
  | '_' :: c :: rest =>
    if afterDigit && c.isDigit then 2 + groupedDigits true rest else 0
  | c :: rest => if c.isDigit then 1 + groupedDigits true rest else 0

/-- A whole number without a sign: zero, or digits that do not begin with zero. -/
def naturalLength (chars : List Char) : Nat :=
  match chars with
  | '0' :: _ => 1
  | chars => groupedDigits false chars

/-- A sign. -/
def signLength (chars : List Char) : Nat :=
  match chars with
  | '+' :: _ => 1
  | '-' :: _ => 1
  | _ => 0

/-- An exponent. -/
def exponentLength (chars : List Char) : Nat :=
  match chars with
  | e :: rest =>
    if e = 'e' || e = 'E' then
      let sign := signLength rest
      let digits := groupedDigits false (rest.drop sign)
      if digits = 0 then 0 else 1 + sign + digits
    else 0
  | [] => 0

/-- One of some words in any case; the words are in lower case. -/
def wordsLength (words : List String) (chars : List Char) : Nat :=
  let lengths := words.map fun word =>
    if (chars.take word.length).map Char.toLower = word.toList then word.length else 0
  lengths.foldl max 0

/-- A number with a fraction or an exponent and no sign. -/
def fractionLength (chars : List Char) : Nat :=
  let whole := naturalLength chars
  let point := match chars.drop whole with
    | '.' :: rest =>
      let places := groupedDigits false rest
      if whole = 0 && places = 0 then 0 else whole + 1 + places
    | _ => 0
  let mantissa := if point = 0 then whole else point
  let exponent := if mantissa = 0 then 0 else exponentLength (chars.drop mantissa)
  if exponent = 0 then point else mantissa + exponent

/-- A length behind a sign. -/
def signed (length : List Char → Nat) (chars : List Char) : Nat :=
  let sign := signLength chars
  let rest := length (chars.drop sign)
  if rest = 0 then 0 else sign + rest

/-- The characters that may stand in a text without quotes, beside letters and digits. -/
def symbols : List Char :=
  ['/', '-', '\\', '+', '.', '$', '%', '*', '@', '?', '|']

/-- Does the character begin a name? -/
def beginsName (c : Char) : Bool :=
  c.isAlpha || c = '_'

/-- May the character stand in a name? -/
def isNameChar (c : Char) : Bool :=
  c.isAlphanum || c = '_'

/-- A name. -/
def nameLength (chars : List Char) : Nat :=
  match chars with
  | c :: rest => if beginsName c then 1 + (rest.takeWhile isNameChar).length else 0
  | [] => 0

/-- The characters that a backslash makes plain. -/
def escapable : List Char :=
  ['\\', '(', ')', '[', ']', '\x7b', '\x7d', ':', '=', ',', ' ', '\t']

/-- Pairs of a backslash and a character that it makes plain. -/
def escapeLength : List Char → Nat
  | '\\' :: c :: rest => if escapable.contains c then 2 + escapeLength rest else 0
  | _ => 0

/-- Pairs of a backslash and a character turned into the character. -/
def unescape : List Char → List Char
  | '\\' :: c :: rest => c :: unescape rest
  | rest => rest

/-! ## The longest lexeme -/

variable {κ : Type}

/-- The kinds of lexemes in the order in which they are preferred, with their lengths. -/
abbrev Rules (κ : Type) := List (κ × (List Char → Nat))

/-- The longer of two candidates, the first one if they are equally long. -/
def longer (best : Option (κ × Nat)) (next : κ × Nat) : Option (κ × Nat) :=
  if (best.map (·.2)).getD 0 < next.2 then some next else best

/-- The kind and the length of the lexeme at the start of a text. -/
def longest? (rules : Rules κ) (chars : List Char) : Option (κ × Nat) :=
  (rules.map fun rule => (rule.1, min (rule.2 chars) chars.length)).foldl longer none

/-- Candidates that are taken are not empty. -/
theorem length_foldl_longer_pos {candidates : List (κ × Nat)} {start : Option (κ × Nat)}
    (hs : ∀ e ∈ start, 0 < e.2) : ∀ e ∈ candidates.foldl longer start, 0 < e.2 := by
  induction candidates generalizing start with
  | nil => exact hs
  | cons next rest ih =>
    refine ih fun e he => ?_
    simp only [longer] at he
    split at he
    · cases he
      omega
    · exact hs e he

/-- **A lexeme that is taken is not empty.** -/
theorem length_longest?_pos {rules : Rules κ} {chars : List Char} {kind : κ} {length : Nat}
    (h : longest? rules chars = some (kind, length)) : 0 < length :=
  length_foldl_longer_pos (by simp) (kind, length) h

end WasmCoverage.Lexeme
