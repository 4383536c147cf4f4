import DepartureRules.Text.DecimalDigit

/-!
# Dates

A date of flight is written as six digits: year, month and day, two digits each. Years below 70 are in this
century and the others in the last one.

* `Date.IsReal`, the dates of the Gregorian calendar;
* `Date.dayNumber`, the days from the first of January of the year 1, which was a Monday and has number 1;
* `Date.weekday`, counted from Sunday as 0;
* `Date.ofSixDigits?` reads a date.
-/

namespace DepartureRules
open Text
set_option autoImplicit false

/-- A year, a month and a day of the month. -/
structure Date where
  year : Nat
  month : Nat
  day : Nat
  deriving DecidableEq, Repr, Inhabited

namespace Date

/-- The year has a 29th of February. -/
def isLeapYear (year : Nat) : Bool :=
  year % 4 == 0 && (year % 100 != 0 || year % 400 == 0)

/-- The days of a month; none for a number that is no month. -/
def daysInMonth (year month : Nat) : Nat :=
  match month with
  | 1 | 3 | 5 | 7 | 8 | 10 | 12 => 31
  | 4 | 6 | 9 | 11 => 30
  | 2 => if isLeapYear year then 29 else 28
  | _ => 0

/-- The date is in the calendar. -/
def IsReal (d : Date) : Prop :=
  1 ≤ d.day ∧ d.day ≤ daysInMonth d.year d.month

instance (d : Date) : Decidable d.IsReal :=
  inferInstanceAs (Decidable (_ ∧ _))

/-- The days of a year before a month. -/
def daysBeforeMonth (year month : Nat) : Nat :=
  (List.range (month - 1)).foldl (fun days m => days + daysInMonth year (m + 1)) 0

/-- The days of all years before a year. -/
def daysBeforeYear (year : Nat) : Nat :=
  let past := year - 1
  365 * past + past / 4 - past / 100 + past / 400

/-- The number of a date, counted from the first day of the year 1. -/
def dayNumber (d : Date) : Nat :=
  daysBeforeYear d.year + daysBeforeMonth d.year d.month + d.day

/-- The weekday, counted from Sunday as 0. -/
def weekday (d : Date) : Nat :=
  d.dayNumber % 7

-- The 19th of October 2026 is a Monday, and the first of January 1970 was a Thursday.
example : (Date.mk 2026 10 19).weekday = 1 ∧ (Date.mk 1970 1 1).weekday = 4 := by decide

/-- The year that two digits stand for. -/
def yearOfTwoDigits (n : Nat) : Nat :=
  if n < 70 then 2000 + n else 1900 + n

/-- Reads a date from six ASCII digits. -/
def ofSixDigits? (s : List Char) : Option Date :=
  match s with
  | [a, b, c, d, e, f] =>
    if s.all isAsciiDigit then
      let date : Date := ⟨yearOfTwoDigits (numeral [a, b]), numeral [c, d], numeral [e, f]⟩
      if date.IsReal then some date else none
    else none
  | _ => none

end Date

end DepartureRules
