import SieveRun.Text.Decimal

/-!
# Moments as text

A moment is a count of nanoseconds since the start of 1970, universal time. Its text gives
the date and the time of day to the last nanosecond that is not zero. Years are counted from
March on, so that the day that leap years add is the last one.
-/

namespace SieveRun.Clock

open Text

/-- The days of four hundred years, after which the calendar repeats. -/
def cycleDays : Nat := 146097

/-- The days from the first of March of year zero to the start of 1970. -/
def daysBeforeEpoch : Nat := 719468

/-- Year, month and day of a day counted from the start of 1970. -/
def date (day : Nat) : Nat × Nat × Nat :=
  let days := day + daysBeforeEpoch
  let inCycle := days % cycleDays
  let yearOfCycle := (inCycle - inCycle / 1460 + inCycle / 36524 - inCycle / 146096) / 365
  let inYear := inCycle - (365 * yearOfCycle + yearOfCycle / 4 - yearOfCycle / 100)
  let fromMarch := (5 * inYear + 2) / 153
  let inMonth := inYear - (153 * fromMarch + 2) / 5 + 1
  let year := 400 * (days / cycleDays) + yearOfCycle
  if fromMarch < 10 then (year, fromMarch + 3, inMonth) else (year + 1, fromMarch - 9, inMonth)

/-- A numeral with zeros before it, up to a width. -/
def padded (width n : Nat) : String :=
  let digits := numeral n
  String.ofList (List.replicate (width - digits.length) '0') ++ digits

/-- The fraction of a second with its point, or nothing when it is zero. -/
def fraction (nanoseconds : Nat) : String :=
  if nanoseconds = 0 then ""
  else
    let digits := (padded 9 nanoseconds).toList.reverse.dropWhile (· == '0')
    "." ++ String.ofList digits.reverse

/-- The text of a moment. -/
def text (nanoseconds : Nat) : String :=
  let seconds := nanoseconds / 1000000000
  let (year, month, day) := date (seconds / 86400)
  padded 4 year ++ "-" ++ padded 2 month ++ "-" ++ padded 2 day ++ "T" ++
    padded 2 (seconds / 3600 % 24) ++ ":" ++ padded 2 (seconds / 60 % 60) ++ ":" ++
    padded 2 (seconds % 60) ++ fraction (nanoseconds % 1000000000) ++ "Z"

example : text 0 = "1970-01-01T00:00:00Z" := by decide +kernel

example : text 951782400500000000 = "2000-02-29T00:00:00.5Z" := by decide +kernel

end SieveRun.Clock
