import Mathlib.Algebra.Group.Fin.Basic
import Mathlib.Order.Fin.Basic
import DepartureRules.Rules.Window

/-!
# Windows between weekdays

A window with a weekday at both ends, looked at from a moment with a weekday and a time.

* `Met first last` is the way through the week from one day to another one, past Saturday to Sunday if need be, and
  `met_iff_sub_le` measures it by the days that lie ahead of the first one.
* `coversDay_iff_met`: the days of a window are those met on the way from its first to its last day.
* `contains_iff_met`: the times of its ends cut off the head of the first and the tail of the last day.
* `WeekTime` is a weekday with a time, in the order of the week. `contains_of_le` and `contains_of_gt` give the window
  between two of them by that order. The weekdays alone decide whether it wraps, and `closed_iff_of_lt` says what
  follows for a start that comes after the finish.
-/

namespace DepartureRules
set_option autoImplicit false

/-! ## Points of the week -/

/-- The moment at a time of a weekday. -/
def TimeOfDay.onDay (t : TimeOfDay) (day : Fin 7) : Moment :=
  ⟨some day, some t⟩

/-- A weekday with a time of day. -/
structure WeekTime where
  day : Fin 7
  time : TimeOfDay
  deriving DecidableEq, Repr

namespace WeekTime

def moment (p : WeekTime) : Moment :=
  p.time.onDay p.day

/-- Earlier in the week: on an earlier weekday, or at an earlier minute of the same one. -/
instance : LT WeekTime :=
  ⟨fun p q => p.day < q.day ∨ p.day = q.day ∧ p.time.minutes < q.time.minutes⟩

instance (p q : WeekTime) : Decidable (p < q) :=
  inferInstanceAs (Decidable (_ ∨ _))

theorem lt_iff (p q : WeekTime) :
    p < q ↔ p.day < q.day ∨ p.day = q.day ∧ p.time.minutes < q.time.minutes := Iff.rfl

end WeekTime

namespace Window

/-! ## The way through the week -/

/-- The weekdays met on the way from `first` forward to `last`. The day after Saturday is Sunday. -/
inductive Met (first last : Fin 7) : Fin 7 → Prop
  | first : Met first last first
  | next {day : Fin 7} (met : Met first last day) (before : day ≠ last) : Met first last (day + 1)

theorem Met.sub_le {first last day : Fin 7} (h : Met first last day) : day - first ≤ last - first := by
  induction h with
  | first =>
    rw [sub_self]
    exact Fin.zero_le _
  | @next day _ before ih =>
    have hne : day - first ≠ last - first := fun heq => before (sub_left_injective heq)
    rw [add_sub_right_comm]
    exact Fin.add_one_le_of_lt (lt_of_le_of_ne ih hne)

theorem met_add {first last : Fin 7} (steps : Fin 7) : steps ≤ last - first → Met first last (first + steps) := by
  induction steps using Fin.induction with
  | zero =>
    intro _
    rw [add_zero]
    exact .first
  | succ i ih =>
    intro hle
    -- the last day lies farther ahead than the day before, so the way has not ended there
    have hlt : i.castSucc < last - first := lt_of_lt_of_le Fin.castSucc_lt_succ hle
    have hne : first + i.castSucc ≠ last := fun heq => hlt.ne (eq_sub_of_add_eq' heq)
    rw [← Fin.coeSucc_eq_succ, ← add_assoc]
    exact (ih hlt.le).next hne

/-- A day is met when it lies no farther ahead of the first day than the last one does. -/
theorem met_iff_sub_le {first last day : Fin 7} : Met first last day ↔ day - first ≤ last - first := by
  refine ⟨Met.sub_le, fun hle => ?_⟩
  rw [← add_sub_cancel first day]
  exact met_add _ hle

instance (first last day : Fin 7) : Decidable (Met first last day) :=
  decidable_of_iff _ met_iff_sub_le.symm

/-- The way from Friday to Monday meets Sunday, the way from Monday to Friday does not. -/
example : Met 5 1 0 ∧ ¬Met 1 5 0 := by
  decide

/-! ## The days of a window -/

theorem coversMinute_of_le {first last : Nat} (h : first ≤ last) (minute : Nat) :
    coversMinute first last minute = true ↔ first < minute ∧ minute < last := by
  have hnowrap : decide (last < first) = false := decide_eq_false (Nat.not_lt.2 h)
  simp only [coversMinute, between, hnowrap, Nat.min_eq_left h, Nat.max_eq_right h, Bool.false_bne, Bool.and_eq_true,
    decide_eq_true_eq]

theorem coversMinute_of_gt {first last : Nat} (h : last < first) (minute : Nat) :
    coversMinute first last minute = true ↔ first ≤ minute ∨ minute ≤ last := by
  have hwrap : decide (last < first) = true := decide_eq_true h
  simp only [coversMinute, between, hwrap, Nat.min_eq_right h.le, Nat.max_eq_left h.le, Bool.true_bne,
    Bool.not_eq_true', Bool.and_eq_false_iff, decide_eq_false_iff_not]
  omega

/-- Days are covered as minutes are, and the two ends in any case. -/
theorem coversDay_eq (first last day : Nat) :
    coversDay first last day = (day == first || day == last || coversMinute first last day) := rfl

theorem coversDay_of_le {first last : Nat} (h : first ≤ last) (day : Nat) :
    coversDay first last day = true ↔ first ≤ day ∧ day ≤ last := by
  simp only [coversDay_eq, Bool.or_eq_true, beq_iff_eq, coversMinute_of_le h]
  omega

theorem coversDay_of_gt {first last : Nat} (h : last < first) (day : Nat) :
    coversDay first last day = true ↔ first ≤ day ∨ day ≤ last := by
  simp only [coversDay_eq, Bool.or_eq_true, beq_iff_eq, coversMinute_of_gt h]
  omega

/-- Whether a window wraps or not, its days are those met on the way from the first to the last one. -/
theorem coversDay_iff_met (first last day : Fin 7) : coversDay first last day = true ↔ Met first last day := by
  have hahead : day - first ≤ last - first ↔ (7 - first + day : Nat) % 7 ≤ (7 - first + last) % 7 := Iff.rfl
  rw [met_iff_sub_le, hahead]
  rcases Nat.lt_or_ge last first with hgt | hle
  · rw [coversDay_of_gt hgt]
    omega
  · rw [coversDay_of_le hle]
    omega

/-- The times of the ends count on the first and on the last day, when both are given. -/
theorem timesAdmit_iff (start finish : Moment) (first last day minute : Nat) :
    timesAdmit start finish first last day minute = true ↔
      ∀ opening ∈ start.time, ∀ closing ∈ finish.time,
        ¬(day = first ∧ minute < opening.minutes) ∧ ¬(day = last ∧ closing.minutes < minute) := by
  unfold timesAdmit
  cases start.time with
  | none => simp
  | some opening =>
    cases finish.time with
    | none => simp
    | some closing =>
      simp only [Option.mem_some_iff, forall_eq', Bool.and_eq_true, Bool.not_eq_true', ← Bool.not_eq_true, beq_iff_eq,
        decide_eq_true_eq]

/-- A window between two weekdays is open on the days met on the way from the one to the other, past Saturday to
Sunday if need be. When both its ends have a time, it opens at the one on the first day and closes after the other
one on the last day. -/
theorem contains_iff_met (first last day : Fin 7) (opening closing : Option TimeOfDay) (time : TimeOfDay) :
    contains ⟨some first, opening⟩ ⟨some last, closing⟩ ⟨some day, some time⟩ = true ↔
      Met first last day ∧
        ∀ opens ∈ opening, ∀ closes ∈ closing,
          ¬(day = first ∧ time.minutes < opens.minutes) ∧ ¬(day = last ∧ closes.minutes < time.minutes) := by
  simp only [contains, Bool.and_eq_true, coversDay_iff_met, timesAdmit_iff, Fin.val_inj]

/-- From Friday 18:00 to Monday 06:00: inside on Sunday, outside on Monday at 07:00. -/
example :
    contains ⟨some 5, some ⟨18, 0⟩⟩ ⟨some 1, some ⟨6, 0⟩⟩ ⟨some 0, some ⟨3, 0⟩⟩ = true ∧
      contains ⟨some 5, some ⟨18, 0⟩⟩ ⟨some 1, some ⟨6, 0⟩⟩ ⟨some 1, some ⟨7, 0⟩⟩ = false := by
  decide

/-! ## Windows between two points of the week -/

theorem contains_moment (start finish now : WeekTime) :
    contains start.moment finish.moment now.moment = true ↔
      coversDay start.day finish.day now.day = true ∧
        ¬(now.day = start.day ∧ now.time.minutes < start.time.minutes) ∧
        ¬(now.day = finish.day ∧ finish.time.minutes < now.time.minutes) := by
  simp only [contains, WeekTime.moment, TimeOfDay.onDay, Bool.and_eq_true, timesAdmit_iff, Option.mem_some_iff,
    forall_eq', Fin.val_inj]

/-- A window whose first day does not come after its last one lies between its ends. -/
theorem contains_of_le {start finish : WeekTime} (h : start.day ≤ finish.day) (now : WeekTime) :
    contains start.moment finish.moment now.moment = true ↔ ¬now < start ∧ ¬finish < now := by
  rw [contains_moment, coversDay_of_le h, WeekTime.lt_iff, WeekTime.lt_iff]
  omega

/-- A window whose first day comes after its last one leaves out what lies between its ends. -/
theorem contains_of_gt {start finish : WeekTime} (h : finish.day < start.day) (now : WeekTime) :
    contains start.moment finish.moment now.moment = true ↔ ¬(finish < now ∧ now < start) := by
  rw [contains_moment, coversDay_of_gt h, WeekTime.lt_iff, WeekTime.lt_iff]
  omega

/-- A window whose start comes after its finish in the week is closed between the two, when they lie on different days.
On one day it does not wrap, and so it is never open. -/
theorem closed_iff_of_lt {start finish : WeekTime} (turned : finish < start) (now : WeekTime) :
    contains start.moment finish.moment now.moment = false ↔
      start.day = finish.day ∨ finish < now ∧ now < start := by
  rw [← Bool.not_eq_true]
  rcases turned with hday | ⟨hday, hminute⟩
  · rw [contains_of_gt hday, not_not]
    exact (or_iff_right hday.ne').symm
  · -- on the one day of both ends the two times exclude each other
    rw [contains_of_le hday.ge, WeekTime.lt_iff, WeekTime.lt_iff]
    refine iff_of_true ?_ (.inl hday.symm)
    omega

/-- From Friday 18:00 to Monday 06:00: closed on Wednesday, open on Saturday. -/
theorem closed_midweek :
    (⟨1, ⟨6, 0⟩⟩ : WeekTime) < ⟨5, ⟨18, 0⟩⟩ ∧
      contains (WeekTime.moment ⟨5, ⟨18, 0⟩⟩) (WeekTime.moment ⟨1, ⟨6, 0⟩⟩) (WeekTime.moment ⟨3, ⟨12, 0⟩⟩) = false ∧
      contains (WeekTime.moment ⟨5, ⟨18, 0⟩⟩) (WeekTime.moment ⟨1, ⟨6, 0⟩⟩) (WeekTime.moment ⟨6, ⟨12, 0⟩⟩) ≠ false :=
  ⟨by decide, (closed_iff_of_lt (by decide) _).2 (by decide), fun h =>
    absurd ((closed_iff_of_lt (by decide) _).1 h) (by decide)⟩

/-- A window that starts and ends on one weekday does not wrap. The one from Wednesday 18:00 to Wednesday 06:00 is
closed on Wednesday at 20:00. -/
theorem closed_on_one_day :
    ¬∀ start finish : WeekTime, start.time.OnClock → finish.time.OnClock → finish < start → ∀ now : WeekTime,
      (contains start.moment finish.moment now.moment = false ↔ finish < now ∧ now < start) := by
  intro h
  have hlaw := h ⟨3, ⟨18, 0⟩⟩ ⟨3, ⟨6, 0⟩⟩ (by decide) (by decide) (by decide) ⟨3, ⟨20, 0⟩⟩
  exact absurd (hlaw.1 (by decide)) (by decide)

end Window

end DepartureRules
