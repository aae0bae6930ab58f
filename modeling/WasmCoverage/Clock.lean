import WasmCoverage.Moment

/-!
# Reading a clock

A clock counts the seconds since the start of 1970.  The calendar repeats after 400 years, an era;
eras, and the years in them, are counted from the first of March here, so that the day that is
added in a leap year is the last one of its year.

Main statements: `hour_ofSeconds_lt`, `minute_ofSeconds_lt` and `second_ofSeconds_lt`, the parts of
the time of day are in range.
-/

namespace WasmCoverage.Moment

/-- The days from the first of March of the year 0 to the start of 1970. -/
def daysBefore1970 : Nat := 719468

/-- The days of an era. -/
def daysOfEra : Nat := 146097

/-- The year in its era of a day in its era. -/
def yearInEra (day : Nat) : Nat :=
  (day - day / 1460 + day / 36524 - day / 146096) / 365

/-- The day in its year of a day in its era. -/
def dayInYear (day : Nat) : Nat :=
  let year := yearInEra day
  day - (365 * year + year / 4 - year / 100)

/-- The year, month and day of a day that is counted from the start of 1970. -/
def dateOfDay (day : Nat) : Nat × Nat × Nat :=
  let sinceMarch := day + daysBefore1970
  let inEra := sinceMarch % daysOfEra
  let inYear := dayInYear inEra
  let month := (5 * inYear + 2) / 153
  let year := yearInEra inEra + sinceMarch / daysOfEra * 400
  let dayOfMonth := inYear - (153 * month + 2) / 5 + 1
  if month < 10 then (year, month + 3, dayOfMonth) else (year + 1, month - 9, dayOfMonth)

/-- The moment some seconds after the start of 1970, in universal time. -/
def ofSeconds (seconds microsecond : Nat) : Moment :=
  let date := dateOfDay (seconds / 86400)
  { year := date.1
    month := date.2.1
    day := date.2.2
    hour := seconds / 3600 % 24
    minute := seconds / 60 % 60
    second := seconds % 60
    microsecond }

/-- **An hour is below 24.** -/
theorem hour_ofSeconds_lt (seconds microsecond : Nat) :
    (ofSeconds seconds microsecond).hour < 24 :=
  Nat.mod_lt _ (by decide)

/-- **A minute is below 60.** -/
theorem minute_ofSeconds_lt (seconds microsecond : Nat) :
    (ofSeconds seconds microsecond).minute < 60 :=
  Nat.mod_lt _ (by decide)

/-- **A second is below 60.** -/
theorem second_ofSeconds_lt (seconds microsecond : Nat) :
    (ofSeconds seconds microsecond).second < 60 :=
  Nat.mod_lt _ (by decide)

/-- The last day of February of a leap year. -/
example : ofSeconds 1709209845 0 = ⟨2024, 2, 29, 12, 30, 45, 0⟩ := by decide

/-- The moment to the millisecond, as lines of a journal begin with it. -/
def journalStamp (m : Moment) : String :=
  padded 4 m.year ++ "-" ++ padded 2 m.month ++ "-" ++ padded 2 m.day ++ " " ++
    padded 2 m.hour ++ ":" ++ padded 2 m.minute ++ ":" ++ padded 2 m.second ++ "," ++
    padded 3 (m.microsecond / 1000)

end WasmCoverage.Moment
