import DepartureRules.Text.DecimalDigit

/-!
# Numbers in settings

How a setting writes a number: a row of ASCII digits, possibly with a plus sign before it, whose value is
below `numberLimit`. Anything else is no number.
-/

namespace DepartureRules.Text
set_option autoImplicit false

/-- A text without the plus sign at its head, if there is one. -/
def dropPlus : List Char → List Char
  | '+' :: digits => digits
  | other => other

/-- The least number that is too large for a setting, `2 ^ 64`. -/
def numberLimit : Nat :=
  18446744073709551616

/-- Reads the number of a setting. -/
def settingNumber? (s : String) : Option Nat :=
  let digits := dropPlus s.toList
  if !digits.isEmpty && digits.all isAsciiDigit && numeral digits < numberLimit then some (numeral digits)
  else none

end DepartureRules.Text
