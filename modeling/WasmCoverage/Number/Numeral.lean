import WasmCoverage.Number.Double
import WasmCoverage.Text.Blank
import WasmCoverage.Text.DecimalDigit
import WasmCoverage.Text.Loose
import WasmCoverage.Text.Trim

/-!
# Numbers written in decimal

A count in a payload may be a text.  It is read as a whole number if it consists of an optional
sign and decimal digits of any script, with blanks around it and single underscores between the
digits.  A numeral has at most `digitLimit` digits, in payloads and in JSON alike.  A real number
may also have a fraction and an exponent, or be a word for an infinity or for no number.

Main statement: `value_append`, what a digit adds at the end of a row.
-/

namespace WasmCoverage

open WasmCoverage.Text

/-- The largest number of digits that a numeral may have. -/
def digitLimit : Nat := 4300

/-- Why a text is not a whole number. -/
inductive NumeralFault where
  /-- It is not a sign and digits. -/
  | malformed (text : LooseText)
  /-- It has more than `digitLimit` digits. -/
  | tooLong (digits : Nat)
  deriving DecidableEq, Repr

/-- How much of a malformed numeral a message shows. -/
def shownNumeral : Nat := 200

/-- The wording of a fault. -/
def NumeralFault.message : NumeralFault → String
  | malformed text =>
    "invalid literal for int() with base 10: " ++
      String.ofList (text.quoted.toList.take shownNumeral)
  | tooLong digits =>
    "Exceeds the limit (" ++ toString digitLimit ++
      " digits) for integer string conversion: value has " ++ toString digits ++
      " digits; use sys.set_int_max_str_digits() to increase the limit"

namespace Numeral

/-- The value of a row of digits, the first one being the most significant. -/
def value (digits : List Nat) : Nat :=
  digits.foldl (10 * · + ·) 0

/-- **A digit at the end of a row counts once, and those before it tenfold.** -/
theorem value_append (digits : List Nat) (digit : Nat) :
    value (digits ++ [digit]) = 10 * value digits + digit := by
  simp [value]

/-- The digits at the start of a text, single underscores between them dropped, and what follows
them.  `afterDigit` tells whether the character before was a digit. -/
def digitsFrom (afterDigit : Bool) : List Char → List Nat × List Char
  | [] => ([], [])
  | '_' :: c :: rest =>
    match afterDigit, digitValue? c with
    | true, some d =>
      let (digits, tail) := digitsFrom true rest
      (d :: digits, tail)
    | _, _ => ([], '_' :: c :: rest)
  | c :: rest =>
    match digitValue? c with
    | some d =>
      let (digits, tail) := digitsFrom true rest
      (d :: digits, tail)
    | none => ([], c :: rest)

/-- What may stand around a numeral: blanks, but of the separators below U+0080 only the space
and the controls from tab to carriage return. -/
def isMargin (ascii : Bool) (c : Char) : Bool :=
  if c.toNat < 0x7F ∨ ascii then (9 ≤ c.toNat ∧ c.toNat ≤ 13) ∨ c = ' ' else isBlank c

/-- The whole number that a text spells. -/
def read (text : String) : Except NumeralFault Int := do
  let chars := text.toList
  let margin := isMargin (chars.all fun c => c.toNat < 0x80)
  let body := chars.dropWhile margin
  let (negative, unsigned) := match body with
    | '-' :: rest => (true, rest)
    | '+' :: rest => (false, rest)
    | rest => (false, rest)
  let (digits, tail) := digitsFrom false unsigned
  if tail.head? = some '_' ∨ digits = [] then throw (.malformed text)
  if digits.length > digitLimit then throw (.tooLong digits.length)
  if !(tail.all margin) then throw (.malformed text)
  let size := value digits
  return if negative then Int.negOfNat size else size

/-- The whole number that a loose text spells; half of a surrogate pair is no digit. -/
def readLoose (text : LooseText) : Except NumeralFault Int :=
  if text.isProper then read text.lossy else .error (.malformed text)

/-! ## Texts that look like numbers -/

/-- Is the text a whole number? -/
def isWhole (text : String) : Bool :=
  (read text).toOption.isSome

/-- A text with the digits of all scripts written in ASCII. -/
def withPlainDigits (text : List Char) : List Char :=
  text.map fun c => match digitValue? c with
    | some d => Char.ofNat (48 + d)
    | none => c

/-- The text without its underscores, if each of them stands between two digits. -/
def dropUnderscores? (afterDigit : Bool) : List Char → Option (List Char)
  | [] => some []
  | '_' :: c :: rest =>
    if afterDigit && c.isDigit then (dropUnderscores? true rest).map (c :: ·) else none
  | c :: rest => if c = '_' then none else (dropUnderscores? c.isDigit rest).map (c :: ·)

/-- The text without a sign at its start. -/
def dropSign : List Char → List Char
  | '-' :: rest => rest
  | '+' :: rest => rest
  | rest => rest

/-- The exponent that a text spells; nothing is the exponent zero. -/
def exponent? : List Char → Option Int
  | [] => some 0
  | e :: rest =>
    let digits := dropSign rest
    if (e = 'e' || e = 'E') && !digits.isEmpty && digits.all Char.isDigit then
      let size := value (digits.map fun c => c.toNat - 48)
      some (if rest.head? = some '-' then Int.negOfNat size else size)
    else none

/-- The decimal `digits · 10 ^ power` that a text spells: digits with at most one point among
them, and perhaps an exponent. -/
def decimal? (text : List Char) : Option (Nat × Int) :=
  let digitsOf (chars : List Char) : List Nat := chars.map fun c => c.toNat - 48
  let whole := text.takeWhile Char.isDigit
  match text.dropWhile Char.isDigit with
  | '.' :: rest =>
    let places := rest.takeWhile Char.isDigit
    if whole.isEmpty && places.isEmpty then none
    else (exponent? (rest.dropWhile Char.isDigit)).map fun power =>
      (value (digitsOf (whole ++ places)), power - places.length)
  | rest =>
    if whole.isEmpty then none
    else (exponent? rest).map fun power => (value (digitsOf whole), power)

/-- The numbers that have no digits, by their words in lower case. -/
def word? (negative : Bool) (word : List Char) : Option Double :=
  if word = "inf".toList ∨ word = "infinity".toList then some (.infinite negative)
  else if word = "nan".toList then some .nan
  else none

/-- The number that a text spells, perhaps with a fraction or an exponent, or by a word. -/
def real? (text : String) : Option Double :=
  let chars := text.toList
  let margin := isMargin (chars.all fun c => c.toNat < 0x80)
  let body := trimWhile margin chars
  match dropUnderscores? false (withPlainDigits body) with
  | none => none
  | some plain =>
    let negative := plain.head? = some '-'
    let unsigned := dropSign plain
    match decimal? unsigned with
    | some (digits, power) => some (.ofDecimal negative digits power)
    | none => word? negative (unsigned.map Char.toLower)

/-- Is the text a number, perhaps with a fraction or an exponent, or a word for one? -/
def isReal (text : String) : Bool :=
  (real? text).isSome

end Numeral

end WasmCoverage
