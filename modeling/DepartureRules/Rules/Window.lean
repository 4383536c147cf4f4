import DepartureRules.Moment

/-!
# Windows of a restriction

A window lies between two moments and wraps when its start comes after its finish.

* Both ends have a weekday: the weekday alone decides on the days between them; on the first and the last
  day the times of the ends are looked at too, when both ends have one.
* Otherwise both ends have a time: the window lies between the two minutes of any day.
* Otherwise it is always open.

A window is open as well while the present time is not known. `Window.coversMinute_swap` says how the
two directions between the same minutes are related.
-/

namespace DepartureRules
set_option autoImplicit false

namespace Window

/-- Strictly between two numbers, whichever of them is the smaller. -/
def between (a b x : Nat) : Bool :=
  min a b < x && x < max a b

/-- The weekdays from `first` to `last`, both included, past Saturday when `last` comes before `first`. -/
def coversDay (first last day : Nat) : Bool :=
  day == first || day == last || (decide (last < first) != between first last day)

/-- The minutes from `first` to `last`, past midnight when `last` comes before `first`. The two ends are
inside exactly when the window wraps. -/
def coversMinute (first last minute : Nat) : Bool :=
  decide (last < first) != between first last minute

/-- The minutes of the ends do not exclude the minute of a day that the window covers. They count on the
first and on the last day, when both are given. -/
def timesAdmit (start finish : Moment) (first last day minute : Nat) : Bool :=
  match start.time, finish.time with
  | some opening, some closing =>
    !(day == first && minute < opening.minutes) && !(day == last && closing.minutes < minute)
  | _, _ => true

/-- The present moment is inside the window. -/
def contains (start finish now : Moment) : Bool :=
  match now.time with
  | none => true
  | some time =>
    match start.day, finish.day with
    | some first, some last =>
      match now.day with
      | none => false
      | some day =>
        coversDay first last day && timesAdmit start finish first last day time.minutes
    | _, _ =>
      match start.time, finish.time with
      | some opening, some closing => coversMinute opening.minutes closing.minutes time.minutes
      | _, _ => true

theorem between_comm (a b x : Nat) : between a b x = between b a x := by
  simp [between, Nat.min_comm a b, Nat.max_comm a b]

/-- Two windows between the same minutes, in either direction, share no minute and leave none out. -/
theorem coversMinute_swap {first last : Nat} (h : first ≠ last) (minute : Nat) :
    coversMinute last first minute = !coversMinute first last minute := by
  simp only [coversMinute, between_comm last first]
  rcases Nat.lt_or_gt_of_ne h with hlt | hlt
  · simp [hlt, Nat.lt_asymm hlt]
  · simp [hlt, Nat.lt_asymm hlt]

end Window

end DepartureRules
