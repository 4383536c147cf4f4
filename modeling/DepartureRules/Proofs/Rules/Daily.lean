import Mathlib.Logic.Basic
import DepartureRules.Proofs.Rules.Weekdays

/-!
# Windows of every day

A window whose ends are times without a weekday lies between two minutes of any day.

* `TimeOfDay.daily` is the end of such a window. When the window does not wrap its end minutes are outside, and when
  it wraps both are inside.
* `contains_onDay`: between the same times of one weekday the end minutes are inside, and `daily_within_dated` says
  that this is all in which the two windows differ on that day.
* `one_way_open_iff`: of the windows from one time to another one and back exactly one is open.
-/

namespace DepartureRules
set_option autoImplicit false

/-- A time of every day, as an end of a window. -/
def TimeOfDay.daily (t : TimeOfDay) : Moment :=
  ⟨none, some t⟩

namespace Window

theorem contains_daily (opening closing time : TimeOfDay) (day : Option Nat) :
    contains opening.daily closing.daily ⟨day, some time⟩ =
      coversMinute opening.minutes closing.minutes time.minutes := rfl

/-! ## Beside a window of one weekday -/

theorem contains_onDay (day : Fin 7) (opening closing time : TimeOfDay) :
    contains (opening.onDay day) (closing.onDay day) (time.onDay day) = true ↔
      opening.minutes ≤ time.minutes ∧ time.minutes ≤ closing.minutes := by
  have hle : (⟨day, opening⟩ : WeekTime).day ≤ (⟨day, closing⟩ : WeekTime).day := le_rfl
  simpa only [WeekTime.moment, WeekTime.lt_iff, lt_self_iff_false, false_or, true_and, Nat.not_lt] using
    contains_of_le hle ⟨day, time⟩

/-- A window between two times of every day lies within the one between the same times of a weekday. On that day the
two differ exactly in their end minutes, which the window of every day leaves out. -/
theorem daily_within_dated {opening closing : TimeOfDay} (ordered : opening.minutes ≤ closing.minutes)
    (day : Fin 7) (time : TimeOfDay) :
    (contains opening.daily closing.daily (time.onDay day) = true →
        contains (opening.onDay day) (closing.onDay day) (time.onDay day) = true) ∧
      (contains opening.daily closing.daily (time.onDay day) =
          contains (opening.onDay day) (closing.onDay day) (time.onDay day) ↔
        time.minutes ≠ opening.minutes ∧ time.minutes ≠ closing.minutes) := by
  have hdaily : contains opening.daily closing.daily (time.onDay day) = true ↔
      opening.minutes < time.minutes ∧ time.minutes < closing.minutes := by
    rw [TimeOfDay.onDay, contains_daily, coversMinute_of_le ordered]
  constructor
  · rw [hdaily, contains_onDay]
    exact fun h => ⟨h.1.le, h.2.le⟩
  · rw [Bool.eq_iff_iff, hdaily, contains_onDay]
    omega

/-- From 06:00 to 22:00 every day and on Wednesday: the two agree at noon and differ at 06:00. -/
theorem daily_within_wednesday :
    (⟨6, 0⟩ : TimeOfDay).minutes ≤ (⟨22, 0⟩ : TimeOfDay).minutes ∧
      contains (TimeOfDay.daily ⟨6, 0⟩) (TimeOfDay.daily ⟨22, 0⟩) (TimeOfDay.onDay ⟨12, 0⟩ 3) =
        contains (TimeOfDay.onDay ⟨6, 0⟩ 3) (TimeOfDay.onDay ⟨22, 0⟩ 3) (TimeOfDay.onDay ⟨12, 0⟩ 3) ∧
      contains (TimeOfDay.daily ⟨6, 0⟩) (TimeOfDay.daily ⟨22, 0⟩) (TimeOfDay.onDay ⟨6, 0⟩ 3) ≠
        contains (TimeOfDay.onDay ⟨6, 0⟩ 3) (TimeOfDay.onDay ⟨22, 0⟩ 3) (TimeOfDay.onDay ⟨6, 0⟩ 3) :=
  ⟨by decide, (daily_within_dated (by decide) _ _).2.2 (by decide), fun h =>
    absurd ((daily_within_dated (by decide) _ _).2.1 h) (by decide)⟩

/-- A window of every day is closed at the minute at which it starts, where the same window of a weekday is open. -/
theorem opening_minute_left_out :
    ¬∀ (day : Fin 7) (opening closing : TimeOfDay), opening.OnClock → closing.OnClock →
      opening.minutes ≤ closing.minutes → ∀ time : TimeOfDay,
        (contains opening.daily closing.daily (time.onDay day) = true ↔
          contains (opening.onDay day) (closing.onDay day) (time.onDay day) = true) := by
  intro h
  have halike := h 3 ⟨6, 0⟩ ⟨22, 0⟩ (by decide) (by decide) (by decide) ⟨6, 0⟩
  exact absurd (halike.2 (by decide)) (by decide)

/-! ## Both ways between two times -/

theorem coversMinute_self (first minute : Nat) : coversMinute first first minute = false := by
  rw [← Bool.not_eq_true, coversMinute_of_le le_rfl]
  omega

/-- At every minute of every day exactly one of the windows from one time to another one and back is open, the end
minutes included, unless the two times are the same minute. -/
theorem one_way_open_iff (opening closing time : TimeOfDay) (day : Option Nat) :
    Xor (contains opening.daily closing.daily ⟨day, some time⟩ = true)
        (contains closing.daily opening.daily ⟨day, some time⟩ = true) ↔
      opening.minutes ≠ closing.minutes := by
  rw [contains_daily, contains_daily]
  by_cases hsame : opening.minutes = closing.minutes
  · rw [hsame, coversMinute_self]
    simp
  · rw [coversMinute_swap hsame, Bool.not_eq_true', ← Bool.not_eq_true, xor_not_right]
    exact iff_of_true Iff.rfl hsame

/-- At 22:00 the window of the night is open and the one of the day closed. -/
example :
    contains (TimeOfDay.daily ⟨22, 0⟩) (TimeOfDay.daily ⟨6, 0⟩) ⟨none, some ⟨22, 0⟩⟩ = true ∧
      contains (TimeOfDay.daily ⟨6, 0⟩) (TimeOfDay.daily ⟨22, 0⟩) ⟨none, some ⟨22, 0⟩⟩ = false := by
  decide

end Window

end DepartureRules
