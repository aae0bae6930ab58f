import WasmCoverage.Number.Numeral
import WasmCoverage.Text.Hex
import WasmCoverage.Yaml.Resolution

/-!
# YAML scalars

A text is written without quotes if it may stand so, else in single quotes, and in double quotes
with escapes if nothing else will do.  A text that looks like a number or a truth value is always
quoted.  A line longer than `lineWidth` is broken at the next single blank.

Two classes of characters matter.  Breaks end a line; in quotes a line feed is doubled, since a
single one would be read as a blank.  Special characters, such as controls and the byte order
mark, can only be written as escapes.
-/

namespace WasmCoverage.Yaml

open WasmCoverage.Text

/-! ## Characters -/

/-- Does the character end a line? -/
def isBreak (c : Char) : Bool :=
  c = '\n' || c = '\x85' || c = '\u2028' || c = '\u2029'

/-- Does the character separate tokens? -/
def isSeparator (c : Char) : Bool :=
  c = '\x00' || c = ' ' || c = '\t' || c = '\r' || isBreak c

/-- Can the character only be written as an escape? -/
def isSpecial (c : Char) : Bool :=
  let n := c.toNat
  !(c = '\n' || (0x20 ≤ n && n ≤ 0x7E) ||
    ((n = 0x85 || (0xA0 ≤ n && n ≤ 0xD7FF) || (0xE000 ≤ n && n ≤ 0xFFFD) ||
      (0x10000 ≤ n && n < 0x10FFFF)) && n ≠ 0xFEFF))

/-- The characters that may not begin an unquoted text. -/
def openingIndicators : List Char := "#,[]\x7b\x7d&*!|>'\"%@`".toList

/-- The characters that may not begin an unquoted text if a separator follows. -/
def loneIndicators : List Char := ['?', ':', '-']

/-- Is there something in the text, from its second character on, that ends or cuts an unquoted
text: a colon before a separator or a comment sign after one? -/
def hasInnerIndicator : List Char → Bool
  | a :: c :: rest =>
    (c = ':' && (rest.head?.map isSeparator).getD true) || (c = '#' && isSeparator a) ||
      hasInnerIndicator (c :: rest)
  | _ => false

/-- Does the text have two neighbours of which the first and the second are of given kinds? -/
def hasNeighbours (first second : Char → Bool) : List Char → Bool
  | a :: b :: rest => (first a && second b) || hasNeighbours first second (b :: rest)
  | _ => false

/-- Does the text begin with an indicator? -/
def beginsWithIndicator (text : List Char) : Bool :=
  match text with
  | [] => false
  | c :: rest =>
    openingIndicators.contains c ||
      (loneIndicators.contains c && (rest.head?.map isSeparator).getD true) ||
      "---".toList.isPrefixOf text || "...".toList.isPrefixOf text

/-! ## Styles -/

/-- How a scalar is written. -/
inductive Style where
  | plain
  | single
  | double
  deriving DecidableEq, Repr

/-- Is the character a blank? -/
def isBlankSpace (c : Char) : Bool :=
  c = ' '

/-- May the text stand in single quotes?  Not if a blank is next to a line break, or if there is a
special character. -/
def allowsSingle (text : List Char) : Bool :=
  !(hasNeighbours isBreak isBlankSpace text || hasNeighbours isBlankSpace isBreak text ||
    text.any isSpecial)

/-- May the text stand without quotes? -/
def allowsPlain (text : List Char) : Bool :=
  allowsSingle text && !(text.any isBreak) && !(beginsWithIndicator text) &&
    !(hasInnerIndicator text) && text.head? ≠ some ' ' && text.getLast? ≠ some ' '

/-- The words that are quoted because older readers take them for truth values. -/
def oldTruthWords : List String := ["y", "Y", "n", "N"]

/-- Is the text quoted although it might stand without quotes? -/
def isQuoted (text : String) : Bool :=
  isOther text || oldTruthWords.contains text || Numeral.isWhole text || Numeral.isReal text

/-- How a text is written. -/
def styleOf (text : String) : Style :=
  if !(isQuoted text) && allowsPlain text.toList then .plain
  else if allowsSingle text.toList then .single
  else .double

/-! ## Writing -/

/-- The width after which a line is broken. -/
def lineWidth : Nat := 80

/-- A line break and the indentation of the next line. -/
def newLine (indent : Nat) : List Char :=
  '\n' :: List.replicate indent ' '

/-- A stretch of a text between line breaks and blanks. -/
inductive Run where
  | blanks (count : Nat)
  | breaks (chars : List Char)
  | word (chars : List Char)

/-- The text with a character put in front, in stretches. -/
def Run.push (c : Char) : List Run → List Run
  | .blanks n :: rest =>
    if c = ' ' then .blanks (n + 1) :: rest
    else if isBreak c then .breaks [c] :: .blanks n :: rest
    else .word [c] :: .blanks n :: rest
  | .breaks cs :: rest =>
    if isBreak c then .breaks (c :: cs) :: rest
    else if c = ' ' then .blanks 1 :: .breaks cs :: rest
    else .word [c] :: .breaks cs :: rest
  | .word cs :: rest =>
    if c = ' ' then .blanks 1 :: .word cs :: rest
    else if isBreak c then .breaks [c] :: .word cs :: rest
    else .word (c :: cs) :: rest
  | [] => [if c = ' ' then .blanks 1 else if isBreak c then .breaks [c] else .word [c]]

/-- The stretches of a text. -/
def runsOf (text : List Char) : List Run :=
  text.foldr Run.push []

/-- The columns that a word takes; in quotes each single quote takes two. -/
def wordForm (quoted : Bool) (word : List Char) : List Char :=
  if quoted then word.flatMap fun c => if c = '\'' then ['\'', '\''] else [c] else word

/-- Line breaks as they are written between quotes: one more if a line feed comes first. -/
def breakForm (chars : List Char) : List Char :=
  if chars.head? = some '\n' then '\n' :: chars else chars

/-- The stretches of a text from a column on.  A single blank beyond the width becomes a line
break, unless it begins or ends the text. -/
def writeRuns (quoted : Bool) (indent : Nat) (first : Bool) (column : Nat) : List Run → List Char
  | [] => []
  | .word chars :: rest =>
    let form := wordForm quoted chars
    form ++ writeRuns quoted indent false (column + form.length) rest
  | .breaks chars :: rest =>
    breakForm chars ++ List.replicate indent ' ' ++ writeRuns quoted indent false indent rest
  | .blanks count :: rest =>
    if count = 1 && column > lineWidth && !first && !rest.isEmpty then
      newLine indent ++ writeRuns quoted indent false indent rest
    else List.replicate count ' ' ++ writeRuns quoted indent false (column + count) rest

/-- The letter of the escape of a character that has one. -/
def escapeLetter? (c : Char) : Option Char :=
  ([('\x00', '0'), ('\x07', 'a'), ('\x08', 'b'), ('\t', 't'), ('\n', 'n'), ('\x0b', 'v'),
    ('\x0c', 'f'), ('\r', 'r'), ('\x1b', 'e'), ('"', '"'), ('\\', '\\'), ('\x85', 'N'),
    ('\xa0', '_'), ('\u2028', 'L'), ('\u2029', 'P')].find? fun entry => entry.1 = c).map (·.2)

/-- The escape of a character. -/
def escape (c : Char) : List Char :=
  let code (width : Nat) := (hexDigits width c.toNat).map Char.toUpper
  match escapeLetter? c with
  | some letter => ['\\', letter]
  | none =>
    if c.toNat ≤ 0xFF then '\\' :: 'x' :: code 2
    else if c.toNat ≤ 0xFFFF then '\\' :: 'u' :: code 4
    else '\\' :: 'U' :: code 8

/-- Is the character written as an escape between double quotes? -/
def isEscaped (c : Char) : Bool :=
  let n := c.toNat
  c = '"' || c = '\\' || isBreak c || n = 0xFEFF ||
    !((0x20 ≤ n && n ≤ 0x7E) || (0xA0 ≤ n && n ≤ 0xD7FF) || (0xE000 ≤ n && n ≤ 0xFFFD))

/-- A text between double quotes: `pending` are the characters read and not yet written, which
stand before the column reached.  A line that is broken ends in a backslash, and so begins a line
that goes on with a blank. -/
def writeDouble (indent : Nat) (first : Bool) (column : Nat) (pending : List Char) :
    List Char → List Char
  | [] => pending
  | c :: rest =>
    let inside := !first && !rest.isEmpty
    if isEscaped c then
      let written := pending ++ escape c
      let column := column + written.length
      if inside && column > lineWidth + 1 then
        let mark := if rest.head? = some ' ' then ['\\'] else []
        written ++ '\\' :: newLine indent ++ mark ++
          writeDouble indent false (indent + mark.length) [] rest
      else written ++ writeDouble indent false column [] rest
    else if inside && (c = ' ' || pending.isEmpty) && column + pending.length > lineWidth then
      let mark := if c = ' ' then ['\\'] else []
      pending ++ '\\' :: newLine indent ++ mark ++
        writeDouble indent false (indent + mark.length) [c] rest
    else writeDouble indent false column (pending ++ [c]) rest

/-- A text as a scalar, after `column` columns and with an indentation for the lines after the
first. -/
def writeText (indent column : Nat) (text : String) : List Char :=
  let chars := text.toList
  match styleOf text with
  | .plain => writeRuns false indent true column (runsOf chars)
  | .single => '\'' :: writeRuns true indent true (column + 1) (runsOf chars) ++ ['\'']
  | .double => '"' :: writeDouble indent true (column + 1) [] chars ++ ['"']

end WasmCoverage.Yaml
