import WasmCoverage.Text.Trim

/-!
# Binary floating point numbers

A payload may hold numbers with a fraction or an exponent.  They are doubles: a sign and
`significand · 2 ^ exponent`, or an infinity, or no number at all.  Everything here is exact
arithmetic on natural numbers.

* `ofDecimal` takes the double nearest to a decimal, ties to the even significand.
* `shortest?` finds the fewest decimal digits that are read back as the same double, and among
  those the nearest; seventeen always suffice.
* `text` writes these digits: positional while the decimal point is no more than sixteen places
  to the right and no more than three zeros to the left of the first digit, else with an exponent
  of at least two digits.

Main statements: `reads_of_shortest?`, the digits found are read back as the double they were
found for, and `shortest?_minimal`, no smaller number of digits was passed over.
-/

namespace WasmCoverage

/-- A binary floating point number. -/
inductive Double where
  | finite (negative : Bool) (significand : Nat) (exponent : Int)
  | infinite (negative : Bool)
  | nan
  deriving DecidableEq, Repr

namespace Double

/-- `numerator / denominator` as a quotient of natural numbers scaled by a power of `base`. -/
def scaled (base numerator denominator : Nat) (power : Int) : Nat × Nat :=
  if power ≥ 0 then (numerator * base.pow power.toNat, denominator)
  else (numerator, denominator * base.pow (-power).toNat)

/-- The natural number nearest to a quotient; of two, the even one. -/
def nearest (numerator denominator : Nat) : Nat :=
  let floor := numerator / denominator
  let rest := 2 * (numerator % denominator)
  if rest > denominator ∨ (rest = denominator ∧ floor % 2 = 1) then floor + 1 else floor

/-- The least significand of 53 bits. -/
def leastSignificand : Nat := Nat.pow 2 52

/-- The exponent at which a quotient has a significand of 53 bits, but never below that of the
smallest double. -/
def exponentFor (numerator denominator : Nat) : Int :=
  let guess : Int := numerator.log2 - denominator.log2 - 52
  let (n, d) := scaled 2 numerator denominator (-guess)
  max (if n < d * leastSignificand then guess - 1 else guess) (-1074)

/-- The double nearest to a quotient. -/
def ofQuotient (negative : Bool) (numerator denominator : Nat) : Double :=
  if numerator = 0 then finite negative 0 (-1074)
  else
    let exponent := exponentFor numerator denominator
    let (n, d) := scaled 2 numerator denominator (-exponent)
    let significand := nearest n d
    let (significand, exponent) :=
      if significand = 2 * leastSignificand then (leastSignificand, exponent + 1)
      else (significand, exponent)
    if exponent > 971 then infinite negative else finite negative significand exponent

/-- How many decimal digits a number has. -/
def digitCount (n : Nat) : Nat :=
  (Nat.toDigits 10 n).length

/-- The double nearest to `digits · 10 ^ power`.  Decimals far outside the range of doubles are
recognised by their size. -/
def ofDecimal (negative : Bool) (digits : Nat) (power : Int) : Double :=
  if digits = 0 then finite negative 0 (-1074)
  else if power + digitCount digits > 310 then infinite negative
  else if power + digitCount digits < -330 then finite negative 0 (-1074)
  else
    let (n, d) := scaled 10 digits 1 power
    ofQuotient negative n d

/-! ## Shortest digits -/

/-- The size of a finite double as a quotient. -/
def quotient (significand : Nat) (exponent : Int) : Nat × Nat :=
  scaled 2 significand 1 exponent

/-- Where the decimal point of a positive quotient stands: the number of digits before it. -/
def pointOf (numerator denominator : Nat) : Int :=
  if denominator ≤ numerator then digitCount (numerator / denominator)
  else
    -- the least power of ten that lifts the quotient to one or more
    let zeros := (List.range 400).find? fun k => denominator ≤ numerator * Nat.pow 10 (k + 1)
    Int.negOfNat (zeros.getD 0)

/-- The neighbours of a quotient on the grid of decimals with `count` digits, the nearer first;
of two equally near, the even one. -/
def neighbours (numerator denominator : Nat) (point : Int) (count : Nat) : List Nat :=
  let (n, d) := scaled 10 numerator denominator (count - point)
  let floor := n / d
  if nearest n d = floor then [floor, floor + 1] else [floor + 1, floor]

/-- Is the double read from `digits · 10 ^ power`? -/
def Reads (x : Double) (negative : Bool) (digits : Nat) (power : Int) : Prop :=
  ofDecimal negative digits power = x

instance (x : Double) (negative : Bool) (digits : Nat) (power : Int) :
    Decidable (x.Reads negative digits power) :=
  inferInstanceAs (Decidable (_ = _))

/-- The decimal with `count` digits that is read back as the double, if there is one. -/
def withDigits? (x : Double) (negative : Bool) (numerator denominator : Nat) (point : Int)
    (count : Nat) : Option (Nat × Int) :=
  ((neighbours numerator denominator point count).map fun digits => (digits, point - count)).find?
    fun decimal => x.Reads negative decimal.1 decimal.2

/-- The decimal with the fewest digits that is read back as the double. -/
def shortest? (x : Double) (negative : Bool) (numerator denominator : Nat) :
    Option (Nat × Int) :=
  (List.range' 1 17).findSome? fun count =>
    x.withDigits? negative numerator denominator (pointOf numerator denominator) count

/-- **The digits found are read back as the double.** -/
theorem reads_of_shortest? {x : Double} {negative : Bool} {numerator denominator digits : Nat}
    {power : Int} (h : x.shortest? negative numerator denominator = some (digits, power)) :
    x.Reads negative digits power := by
  obtain ⟨count, _, found⟩ := List.exists_of_findSome?_eq_some h
  simpa using List.find?_some found

/-- **No smaller number of digits was passed over.** -/
theorem shortest?_minimal {x : Double} {negative : Bool} {numerator denominator : Nat}
    {decimal : Nat × Int} (h : x.shortest? negative numerator denominator = some decimal) :
    ∃ before count after, List.range' 1 17 = before ++ count :: after ∧
      x.withDigits? negative numerator denominator (pointOf numerator denominator) count =
        some decimal ∧
      ∀ fewer ∈ before,
        x.withDigits? negative numerator denominator (pointOf numerator denominator) fewer =
          none := by
  obtain ⟨before, count, after, split, found, none⟩ := List.findSome?_eq_some_iff.1 h
  exact ⟨before, count, after, split, found, none⟩

/-! ## Text -/

/-- The digits without the zeros at their end; at least one stays. -/
def significantDigits (digits : Nat) : List Char :=
  let cs := Nat.toDigits 10 digits
  match Text.dropEndWhile (· = '0') cs with
  | [] => ['0']
  | kept => kept

/-- An exponent with its sign and at least two digits. -/
def exponentText (exponent : Int) : List Char :=
  let sign := if exponent < 0 then '-' else '+'
  let digits := Nat.toDigits 10 exponent.natAbs
  sign :: (if digits.length < 2 then '0' :: digits else digits)

/-- Significant digits with the decimal point after `point` of them. -/
def layOut (digits : List Char) (point : Int) : List Char :=
  if -4 < point ∧ point ≤ 16 then
    if point ≤ 0 then '0' :: '.' :: List.replicate (-point).toNat '0' ++ digits
    else
      let places := point.toNat
      if digits.length ≤ places then
        digits ++ List.replicate (places - digits.length) '0' ++ ['.', '0']
      else digits.take places ++ '.' :: digits.drop places
  else
    let mantissa := match digits with
      | first :: second :: more => first :: '.' :: second :: more
      | few => few
    mantissa ++ 'e' :: exponentText (point - 1)

/-- The text of a double. -/
def text : Double → String
  | nan => "nan"
  | infinite negative => if negative then "-inf" else "inf"
  | finite negative significand exponent =>
    let sign := if negative then ['-'] else []
    if significand = 0 then String.ofList (sign ++ ['0', '.', '0'])
    else
      let (n, d) := quotient significand exponent
      let (digits, power) :=
        ((finite negative significand exponent).shortest? negative n d).getD (0, 0)
      let point := power + digitCount digits
      String.ofList (sign ++ layOut (significantDigits digits) point)

/-! ## Whole part and truth -/

/-- The whole part of a finite double, cut toward zero. -/
def truncate (negative : Bool) (significand : Nat) (exponent : Int) : Int :=
  let (n, d) := quotient significand exponent
  if negative then -((n / d : Nat) : Int) else ((n / d : Nat) : Int)

/-- Is the double zero, of either sign? -/
def isZero : Double → Bool
  | finite _ significand _ => significand = 0
  | _ => false

end Double

end WasmCoverage
