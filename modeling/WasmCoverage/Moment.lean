import WasmCoverage.Text.Hex

/-!
# Moments and sample identifiers

A raw sample is named after the moment it was stored at, to the second, and a number that no
other sample has: `YYYYMMDD-HHMMSS-` and 32 hexadecimal digits.  Summaries carry the moment they
were generated at, in the international standard form.

Main statements: `length_uniquePart`, the number takes 32 places whatever it is, and
`toNat_of_inRange`, a part of a moment that is in range is kept.
-/

namespace WasmCoverage

open WasmCoverage.Text

/-- A date and a time of day. -/
structure Moment where
  year : Nat
  month : Nat
  day : Nat
  hour : Nat := 0
  minute : Nat := 0
  second : Nat := 0
  microsecond : Nat := 0
  deriving DecidableEq, Repr

namespace Moment

/-- A number with zeros in front of it up to a width. -/
def padded (width n : Nat) : String :=
  let digits := Nat.toDigits 10 n
  String.ofList (List.replicate (width - digits.length) '0' ++ digits)

/-- The moment to the second, as names carry it. -/
def stamp (m : Moment) : String :=
  toString m.year ++ padded 2 m.month ++ padded 2 m.day ++ "-" ++
    padded 2 m.hour ++ padded 2 m.minute ++ padded 2 m.second

/-- The moment in the standard form, at no distance from universal time.  A whole second is
written without a fraction. -/
def standard (m : Moment) : String :=
  padded 4 m.year ++ "-" ++ padded 2 m.month ++ "-" ++ padded 2 m.day ++ "T" ++
    padded 2 m.hour ++ ":" ++ padded 2 m.minute ++ ":" ++ padded 2 m.second ++
    (if m.microsecond = 0 then "" else "." ++ padded 6 m.microsecond) ++ "+00:00"

/-- A part of a moment by the letter that asks for it. -/
def part? (m : Moment) : Char → Option String
  | 'Y' => some (toString m.year)
  | 'm' => some (padded 2 m.month)
  | 'd' => some (padded 2 m.day)
  | 'H' => some (padded 2 m.hour)
  | 'M' => some (padded 2 m.minute)
  | 'S' => some (padded 2 m.second)
  | 'f' => some (padded 6 m.microsecond)
  | 'y' => some (padded 2 (m.year % 100))
  | '%' => some "%"
  | _ => none

/-- The parts of a moment that a pattern asks for; everything else in it is kept. -/
def format (m : Moment) : List Char → List Char
  | '%' :: c :: rest =>
    match m.part? c with
    | some part => part.toList ++ format m rest
    | none => '%' :: c :: format m rest
  | c :: rest => c :: format m rest
  | [] => []

/-! ## Moments out of numbers -/

/-- Why numbers are no moment: which of them is out of range. -/
inductive RangeFault where
  | year (n : Int)
  | month
  | day
  | hour
  | minute
  | second
  | microsecond
  deriving DecidableEq, Repr

/-- The wording of a fault. -/
def RangeFault.message : RangeFault → String
  | year n => "year " ++ toString n ++ " is out of range"
  | month => "month must be in 1..12"
  | day => "day is out of range for month"
  | hour => "hour must be in 0..23"
  | minute => "minute must be in 0..59"
  | second => "second must be in 0..59"
  | microsecond => "microsecond must be in 0..999999"

/-- Is the year one with a leap day? -/
def isLeapYear (year : Nat) : Bool :=
  year % 4 = 0 && (year % 100 ≠ 0 || year % 400 = 0)

/-- The number of days of a month. -/
def daysOfMonth (year month : Nat) : Nat :=
  if month = 2 then (if isLeapYear year then 29 else 28)
  else if [4, 6, 9, 11].contains month then 30 else 31

/-- A number from `low` up to `high`. -/
def inRange (fault : RangeFault) (low high : Nat) (n : Int) : Except RangeFault Nat :=
  if (low : Int) ≤ n ∧ n ≤ (high : Int) then .ok n.toNat else .error fault

/-- The moment that numbers name, from the year to the microsecond; those that are left out are
zero.  The first that is out of range is told. -/
def ofNumbers (numbers : List Int) : Except RangeFault Moment := do
  let at_ (i : Nat) : Int := (numbers[i]?).getD 0
  let year ← inRange (.year (at_ 0)) 1 9999 (at_ 0)
  let month ← inRange .month 1 12 (at_ 1)
  let day ← inRange .day 1 (daysOfMonth year month) (at_ 2)
  let hour ← inRange .hour 0 23 (at_ 3)
  let minute ← inRange .minute 0 59 (at_ 4)
  let second ← inRange .second 0 59 (at_ 5)
  let microsecond ← inRange .microsecond 0 999999 (at_ 6)
  return { year, month, day, hour, minute, second, microsecond }

/-- **A number that is in range is kept.** -/
theorem toNat_of_inRange {fault : RangeFault} {low high m : Nat} {n : Int}
    (h : inRange fault low high n = .ok m) : (m : Int) = n ∧ low ≤ m ∧ m ≤ high := by
  simp only [inRange] at h
  split at h
  · cases h
    omega
  · cases h

/-! ## Sample identifiers -/

/-- The part of an identifier that no other sample has. -/
def uniquePart (number : Nat) : List Char :=
  hexDigits 32 number

/-- **The number takes 32 places whatever it is.** -/
theorem length_uniquePart (number : Nat) : (uniquePart number).length = 32 :=
  length_hexDigits 32 number

/-- The identifier of the sample with a number, stored at a moment. -/
def sampleId (m : Moment) (number : Nat) : String :=
  m.stamp ++ "-" ++ String.ofList (uniquePart number)

end Moment

end WasmCoverage
