import WasmCoverage.Text.Hex

/-!
# Numbers in scripts

Scripts write whole numbers in decimal notation, and where a number begins with a zero, in octal
or hexadecimal notation.  Numbers fit into 64 bits.

Main statement: `valueOf_append`, what a digit adds at the end of a row.
-/

namespace WasmCoverage.Shell.Number

open WasmCoverage.Text

/-- The value of a digit in a base. -/
def digit? (base : Nat) (c : Char) : Option Nat :=
  (hexValue? c).filter (· < base)

/-- The value of digits in a base. -/
def valueOf (base : Nat) (digits : List Char) : Nat :=
  digits.foldl (fun total c => base * total + (digit? base c).getD 0) 0

/-- **A digit at the end of a row counts once, and those before it as often as the base says.** -/
theorem valueOf_append (base : Nat) (digits : List Char) (c : Char) :
    valueOf base (digits ++ [c]) = base * valueOf base digits + (digit? base c).getD 0 := by
  simp [valueOf]

/-- The digits of a base at the start of a text as a number, and what follows them. -/
def digitsIn? (base : Nat) (chars : List Char) : Option (Nat × List Char) :=
  let digits := chars.takeWhile fun c => (digit? base c).isSome
  if digits.isEmpty then none else some (valueOf base digits, chars.drop digits.length)

/-- The number at the start of a text without a sign, and what follows it.  A number that begins
with a zero is octal, or hexadecimal if an `x` follows. -/
def natural? (chars : List Char) : Option (Nat × List Char) :=
  match chars with
  | '0' :: x :: rest =>
    if x = 'x' || x = 'X' then (digitsIn? 16 rest) <|> some (0, x :: rest)
    else digitsIn? 8 chars
  | chars => digitsIn? 10 chars

/-- What may stand around a number. -/
def isMargin (c : Char) : Bool :=
  c = ' ' || (9 ≤ c.toNat && c.toNat ≤ 13)

/-- A number at the start of a text with blanks and a sign before it, and what follows it. -/
def signed? (read : List Char → Option (Nat × List Char)) (chars : List Char) :
    Option (Int × List Char) :=
  match chars.dropWhile isMargin with
  | '-' :: rest => (read rest).map fun (n, rest) => (-n, rest)
  | '+' :: rest => (read rest).map fun (n, rest) => (n, rest)
  | rest => (read rest).map fun (n, rest) => (n, rest)

/-- The largest number. -/
def largest : Nat := 0x7FFFFFFFFFFFFFFF

/-- Is there room for a number in 64 bits? -/
def fits (n : Int) : Bool :=
  -largest - 1 ≤ n && n ≤ largest

/-- The number that a whole text is. -/
def whole? (read : List Char → Option (Nat × List Char)) (text : String) : Option Int :=
  match signed? read text.toList with
  | some (n, rest) => if rest.all isMargin && fits n then some n else none
  | none => none

end WasmCoverage.Shell.Number
