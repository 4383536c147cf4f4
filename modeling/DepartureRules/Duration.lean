/-!
# Spans of time

Spans of time and points in time are natural numbers, counted in nanoseconds. A point in time is counted
from some start that all points of one run share.
-/

namespace DepartureRules
set_option autoImplicit false

namespace Duration

/-- One millisecond. -/
def millisecond : Nat := 1000000

/-- A number of milliseconds. -/
def ofMillis (n : Nat) : Nat := n * millisecond

/-- A number of seconds. -/
def ofSeconds (n : Nat) : Nat := ofMillis (1000 * n)

/-- The whole milliseconds of a span. -/
def toMillis (d : Nat) : Nat := d / millisecond

theorem millisecond_pos : 0 < millisecond := by decide

end Duration

end DepartureRules
