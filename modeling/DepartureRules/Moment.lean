import DepartureRules.TimeOfDay

/-!
# Moments of the week

A moment is a weekday and a time of day, either of which may be absent. Rules use moments as the two ends
of a window, and a source of rules gives the present moment that windows are looked at from.
-/

namespace DepartureRules
set_option autoImplicit false

/-- A weekday, counted from Sunday as 0 to Saturday as 6, and a time of day. -/
structure Moment where
  day : Option Nat
  time : Option TimeOfDay
  deriving DecidableEq, Repr, Inhabited

/-- The moment of which nothing is known. -/
def Moment.unknown : Moment :=
  ⟨none, none⟩

end DepartureRules
