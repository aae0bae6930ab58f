import WasmCoverage.Lexeme

/-!
# Lexemes of override values

The value of an override is cut into lexemes.  Punctuation takes the blanks beside it along, so
blanks matter only between words.  A text in quotes is one lexeme, and so is a reference up to the
first closing brace; whether it is well formed is not asked here.

Main statement: `flatten_lexemes?`, nothing is lost or changed by cutting.
-/

namespace WasmCoverage.Override

open WasmCoverage.Lexeme

/-- The kinds of lexemes. -/
inductive Kind where
  | parenthesisOpen
  | parenthesisClose
  | bracketOpen
  | bracketClose
  | braceOpen
  | braceClose
  | comma
  | colon
  | equals
  /-- A number with a fraction or an exponent, or a word for one. -/
  | real
  | integer
  | truth
  | nothing
  /-- A character that may stand in a text without quotes. -/
  | symbol
  | word
  /-- Characters that stand for themselves because of backslashes before them. -/
  | escape
  | blank
  | quoted
  | reference
  deriving DecidableEq, Repr

/-- A lexeme. -/
structure Lexeme where
  kind : Kind
  text : List Char
  deriving DecidableEq, Repr

/-! ## Rules -/

/-- The characters up to a quote and the quote, if one follows.  A quote after an odd number of
backslashes does not count; `odd` tells whether there is such a number before. -/
def closingLength? (quote : Char) (odd : Bool) : List Char → Option Nat
  | [] => none
  | c :: rest =>
    if c = quote && !odd then some 1
    else (closingLength? quote (c = '\\' && !odd) rest).map (1 + ·)

/-- A text in quotes. -/
def quotedLength (chars : List Char) : Nat :=
  match chars with
  | c :: rest =>
    if c = '\'' || c = '"' then ((closingLength? c false rest).map (1 + ·)).getD 0 else 0
  | [] => 0

/-- A reference to another setting, up to the first closing brace. -/
def referenceLength (chars : List Char) : Nat :=
  match chars with
  | '$' :: '\x7b' :: rest =>
    let body := rest.takeWhile (· ≠ '\x7d')
    if body.length < rest.length then 3 + body.length else 0
  | _ => 0

/-- The lexemes of override values. -/
def rules : Rules Kind :=
  [(.parenthesisOpen, markLength '(' true true),
   (.comma, markLength ',' true true),
   (.parenthesisClose, markLength ')' true false),
   (.bracketOpen, markLength '[' false true),
   (.bracketClose, markLength ']' true false),
   (.braceOpen, markLength '\x7b' false true),
   (.braceClose, markLength '\x7d' true false),
   (.colon, markLength ':' true true),
   (.equals, markLength '=' true true),
   (.real, signed fun chars => max (fractionLength chars) (wordsLength ["inf", "nan"] chars)),
   (.integer, signed naturalLength),
   (.truth, wordsLength ["true", "false"]),
   (.nothing, wordsLength ["null"]),
   (.symbol, fun chars => if chars.head?.any symbols.contains then 1 else 0),
   (.word, nameLength),
   (.escape, escapeLength),
   (.blank, blankLength),
   (.quoted, quotedLength),
   (.reference, referenceLength)]

/-! ## Cutting -/

/-- The lexemes of a text, if it consists of lexemes. -/
def lexemes? (chars : List Char) : Option (List Lexeme) :=
  match chars with
  | [] => some []
  | c :: rest =>
    match _h : longest? rules (c :: rest) with
    | none => none
    | some (kind, length) =>
      (lexemes? ((c :: rest).drop length)).map
        (⟨kind, (c :: rest).take length⟩ :: ·)
termination_by chars.length
decreasing_by
  have := length_longest?_pos ‹_›
  simp only [List.length_drop, List.length_cons]
  omega

/-- **Nothing is lost or changed by cutting.** -/
theorem flatten_lexemes? {chars : List Char} {found : List Lexeme}
    (h : lexemes? chars = some found) : (found.map Lexeme.text).flatten = chars := by
  fun_induction lexemes? chars generalizing found with
  | case1 => simp_all
  | case2 => simp at h
  | case3 c rest kind length _ ih =>
    obtain ⟨more, hm, rfl⟩ := Option.map_eq_some_iff.1 h
    simp [ih hm]

end WasmCoverage.Override
