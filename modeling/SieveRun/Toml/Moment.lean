import SieveRun.Text.Decimal

/-!
# Dates and times

A moment is a date, a time of day, or a date and a time with or without an offset from
universal time. The seconds of a time may be left out, and a minute may have a leap second.
-/

namespace SieveRun.Toml

open Text

/-- The days of a month. -/
def daysOf (year month : Nat) : Nat :=
  let leap := year % 4 == 0 && (year % 100 != 0 || year % 400 == 0)
  if month = 2 then if leap then 29 else 28
  else if month ∈ [4, 6, 9, 11] then 30
  else 31

/-- A date, and what follows it. -/
def afterDate? : List Char → Option (List Char)
  | y1 :: y2 :: y3 :: y4 :: '-' :: m1 :: m2 :: '-' :: d1 :: d2 :: cs =>
    match numeral? [y1, y2, y3, y4], numeral? [m1, m2], numeral? [d1, d2] with
    | some year, some month, some day =>
      if 1 ≤ month ∧ month ≤ 12 ∧ 1 ≤ day ∧ day ≤ daysOf year month then some cs else none
    | _, _, _ => none
  | _ => none

/-- Hours and minutes, and what follows them. -/
def afterMinutes? : List Char → Option (List Char)
  | h1 :: h2 :: ':' :: m1 :: m2 :: cs =>
    match numeral? [h1, h2], numeral? [m1, m2] with
    | some hour, some minute => if hour ≤ 23 ∧ minute ≤ 59 then some cs else none
    | _, _ => none
  | _ => none

/-- A fraction of a second if there is one, and what follows it. -/
def afterFraction? : List Char → Option (List Char)
  | '.' :: c :: cs => if isDigit c then some (cs.dropWhile isDigit) else none
  | '.' :: _ => none
  | cs => some cs

/-- Seconds if there are any, and what follows them. -/
def afterSeconds? : List Char → Option (List Char)
  | ':' :: s1 :: s2 :: cs =>
    match numeral? [s1, s2] with
    | some second => if second ≤ 60 then afterFraction? cs else none
    | none => none
  | ':' :: _ => none
  | cs => some cs

/-- A time of day, and what follows it. -/
def afterTime? (cs : List Char) : Option (List Char) := (afterMinutes? cs).bind afterSeconds?

/-- An offset from universal time, or none. -/
def isOffset : List Char → Bool
  | [] => true
  | ['Z'] => true
  | ['z'] => true
  | '+' :: cs => afterMinutes? cs == some []
  | '-' :: cs => afterMinutes? cs == some []
  | _ => false

/-- A date, a time, or both. -/
def isMoment (cs : List Char) : Bool :=
  match afterDate? cs with
  | some [] => true
  | some (mark :: time) =>
    (mark == 'T' || mark == 't' || mark == ' ') && (afterTime? time).any isOffset
  | none => afterTime? cs == some []

end SieveRun.Toml
