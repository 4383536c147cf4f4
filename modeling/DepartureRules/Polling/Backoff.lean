import DepartureRules.Duration

/-!
# Delays between polls

A `Backoff` says how long to wait before polling again. Its delays double from a base up to a limit, and a
delay that goes past the deadline is cut there; at the deadline there is none any more. A schedule is made only if
the clock can show its deadline: clocks count up to some horizon.

* `Backoff.start` gives a base of at least a millisecond and a limit of at least the base, and `Backoff.start?` makes
  the schedule if its deadline lies before the horizon;
* `Backoff.next` gives the next delay, and `delay_pos_of_next` says that it is not zero.
-/

namespace DepartureRules
set_option autoImplicit false

/-- A schedule of delays. -/
structure Backoff where
  limit : Nat
  /-- The delay to come, unless the deadline cuts it. -/
  current : Nat
  deadline : Nat
  current_pos : 0 < current
  limit_pos : 0 < limit

namespace Backoff

/-- The schedule that begins at `now` and may wait for `budget` in all, whether or not a clock can show its deadline. -/
def start (base limit budget : Nat) (now : Nat) : Backoff :=
  let first := max base Duration.millisecond
  have first_pos : 0 < first := Nat.lt_of_lt_of_le Duration.millisecond_pos (Nat.le_max_right _ _)
  { limit := max limit first
    current := first
    deadline := now + budget
    current_pos := first_pos
    limit_pos := Nat.lt_of_lt_of_le first_pos (Nat.le_max_right _ _) }

/-- The schedule that begins at `now` and may wait for `budget` in all; none if the clock ends before. -/
def start? (base limit budget now horizon : Nat) : Option Backoff :=
  if now + budget < horizon then some (start base limit budget now) else none

/-- The schedule after one delay. -/
def advance (b : Backoff) : Backoff :=
  { b with
    current := min (2 * b.current) b.limit
    current_pos := by
      have := b.current_pos
      have := b.limit_pos
      omega }

/-- The delay before the next poll, and the schedule after it. -/
def next (b : Backoff) (now : Nat) : Option (Nat × Backoff) :=
  if now < b.deadline then some (min b.current (b.deadline - now), b.advance) else none

@[simp] theorem deadline_advance (b : Backoff) : b.advance.deadline = b.deadline := rfl

theorem next_eq_none_iff (b : Backoff) (now : Nat) : b.next now = none ↔ b.deadline ≤ now := by
  simp only [next]
  split
  · rename_i h
    simp [h]
  · rename_i h
    simp only [true_iff]
    omega

theorem delay_pos_of_next {b later : Backoff} {now : Nat} {delay : Nat}
    (h : b.next now = some (delay, later)) : 0 < delay := by
  simp only [next] at h
  split at h
  · obtain ⟨rfl, -⟩ := Prod.mk.inj (Option.some.inj h)
    have := b.current_pos
    omega
  · simp at h

/-- A delay does not reach past the deadline. -/
theorem delay_le_of_next {b later : Backoff} {now : Nat} {delay : Nat}
    (h : b.next now = some (delay, later)) : now + delay ≤ b.deadline := by
  simp only [next] at h
  split at h
  · obtain ⟨rfl, -⟩ := Prod.mk.inj (Option.some.inj h)
    omega
  · simp at h

theorem deadline_of_next {b later : Backoff} {now : Nat} {delay : Nat}
    (h : b.next now = some (delay, later)) : later.deadline = b.deadline := by
  simp only [next] at h
  split at h
  · obtain ⟨-, rfl⟩ := Prod.mk.inj (Option.some.inj h)
    rfl
  · simp at h

/-- The first `count` delays of a schedule, where time passes only in the delays. -/
def delays (b : Backoff) (now : Nat) : Nat → List (Option Nat)
  | 0 => []
  | count + 1 =>
    match b.next now with
    | none => none :: delays b now count
    | some (delay, later) => some delay :: delays later (now + delay) count

end Backoff

end DepartureRules
