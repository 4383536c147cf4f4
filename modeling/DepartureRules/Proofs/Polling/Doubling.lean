import Mathlib.Order.Monotone.Basic
import DepartureRules.Proofs.Polling.Budget

/-!
# Delays that double

The delays of a schedule double from its base up to its limit, until the deadline cuts one.

* `Backoff.uncut` is the delay of number `n` in closed form, as it is before the deadline cuts it;
* `uncut_succ`: stopping at the limit after each doubling is the same as stopping there once, after all of them;
* `Backoff.Stands`: the schedule has come to the delay of number `n`, and `Stands.advance` is the step to the next one;
* `Stands.answers` says what a row of calls answers, and `Stands.dropLast_delays` what the delays of a polling are;
* `doubles_to_limit` puts this together for a schedule from its start.
-/

namespace DepartureRules
set_option autoImplicit false

namespace Backoff
variable {b : Backoff} {base limit n : Nat}

/-! ## The closed form -/

/-- The first delay: the base, or a millisecond if the base is shorter. -/
def shortest (base : Nat) : Nat :=
  max base Duration.millisecond

/-- The delay that the others do not go past: the limit, or the first delay if the limit is shorter. -/
def longest (base limit : Nat) : Nat :=
  max limit (shortest base)

/-- The delay of a number, counted from zero, if the deadline does not cut it. -/
def uncut (base limit n : Nat) : Nat :=
  min (longest base limit) (shortest base * 2 ^ n)

theorem uncut_zero (base limit : Nat) : uncut base limit 0 = shortest base := by
  rw [uncut, Nat.pow_zero, Nat.mul_one]
  exact Nat.min_eq_right (Nat.le_max_right limit _)

theorem uncut_succ (base limit n : Nat) :
    uncut base limit (n + 1) = min (2 * uncut base limit n) (longest base limit) := by
  have hdouble : shortest base * 2 ^ (n + 1) = 2 * (shortest base * 2 ^ n) := by
    rw [Nat.pow_succ]
    ac_rfl
  unfold uncut
  omega

theorem uncut_le (base limit n : Nat) : uncut base limit n ≤ longest base limit :=
  Nat.min_le_left _ _

theorem uncut_mono (base limit : Nat) : Monotone (uncut base limit) := by
  refine monotone_nat_of_le_succ fun n => ?_
  have hlongest := uncut_le base limit n
  rw [uncut_succ]
  omega

/-! ## Calls -/

/-- What calls at some times answer, one after the other. A call without a delay leaves the schedule as it is. -/
def answers (b : Backoff) : List Nat → List (Option Nat)
  | [] => []
  | now :: times =>
    match b.next now with
    | none => none :: b.answers times
    | some (delay, later) => some delay :: later.answers times

/-- The schedule has come to the delay of this number. -/
structure Stands (base limit n : Nat) (b : Backoff) : Prop where
  current : b.current = uncut base limit n
  limit : b.limit = longest base limit

theorem stands_start (base limit budget started : Nat) : Stands base limit 0 (start base limit budget started) where
  current := (uncut_zero base limit).symm
  limit := rfl

namespace Stands

theorem advance (h : Stands base limit n b) : Stands base limit (n + 1) b.advance where
  current := by
    rw [uncut_succ, ← h.current, ← h.limit]
    rfl
  limit := h.limit

theorem next (h : Stands base limit n b) {now : Nat} (early : now < b.deadline) :
    b.next now = some (min (uncut base limit n) (b.deadline - now), b.advance) :=
  next_eq_some_iff.2 ⟨early, by rw [h.current], rfl⟩

theorem answers (h : Stands base limit n b) {times : List Nat} (early : ∀ now ∈ times, now < b.deadline) :
    b.answers times = times.mapIdx fun i now => some (min (uncut base limit (n + i)) (b.deadline - now)) := by
  induction times generalizing b n with
  | nil => rfl
  | cons now times ih =>
    obtain ⟨hnow, hrest⟩ := List.forall_mem_cons.1 early
    rw [Backoff.answers, h.next hnow, List.mapIdx_cons]
    simp only [ih h.advance hrest, deadline_advance, Nat.add_zero, Nat.add_assoc, Nat.add_comm 1]

/-- All delays between polls but the last one end before the deadline, so it does not cut them. -/
theorem dropLast_delays {σ α : Type} {clock : Clock σ} (poll : Poll clock α) (settled : α → Bool) (s : σ)
    (h : Stands base limit n b) :
    (pollUntil poll settled b s).delays.dropLast =
      (List.range ((pollUntil poll settled b s).delays.length - 1)).map fun i => uncut base limit (n + i) := by
  fun_induction pollUntil poll settled b s generalizing n with
  | case1 => rfl
  | case2 => rfl
  | case3 b s answered hnot delay later hnext rest =>
    rename_i ih
    obtain ⟨-, hdelay, rfl⟩ := next_eq_some_iff.1 hnext
    by_cases hlast : rest.delays = []
    · rw [hlast]
      rfl
    · have hearly := now_lt_deadline_of_delays_ne_nil poll settled _ _ hlast
      have hsleep := clock.now_sleep delay answered.2
      have hcurrent := h.current
      have huncut : delay = uncut base limit n := by
        rw [deadline_advance] at hearly
        omega
      have hcount : rest.delays.length = rest.delays.length - 1 + 1 :=
        (Nat.sub_add_cancel (List.length_pos_iff.2 hlast)).symm
      show (delay :: rest.delays).dropLast = (List.range (rest.delays.length + 1 - 1)).map _
      rw [List.dropLast_cons_of_ne_nil hlast, ih h.advance, Nat.add_sub_cancel, hcount, List.range_succ_eq_map,
        List.map_cons, List.map_map, huncut]
      refine congrArg (List.cons _) (List.map_congr_left fun i _ => ?_)
      rw [Function.comp_apply, Nat.succ_eq_add_one, Nat.add_assoc, Nat.add_comm 1]

end Stands

/-! ## Schedules from their start -/

/-- The call of number `n`, counted from zero, gives the first delay times `2 ^ n`, but no more than the longest delay,
as long as the deadline does not cut it. So the delays begin with the first one, never decrease, and stay at the longest
once they have come to it, whichever of base and limit is greater. Each is the double of the one before, stopped at the
longest; it makes no difference whether doubling stops at a greatest span of time before. The delays between polls are
these, the last one excepted. -/
theorem doubles_to_limit (base limit budget started : Nat) :
    (∀ times, (∀ now ∈ times, now < started + budget) →
      (start base limit budget started).answers times =
          times.mapIdx (fun n now => some (min (uncut base limit n) (started + budget - now))) ∧
        ∀ n now, times[n]? = some now → now + uncut base limit n ≤ started + budget →
          ((start base limit budget started).answers times)[n]? = some (some (uncut base limit n))) ∧
      uncut base limit 0 = shortest base ∧ Monotone (uncut base limit) ∧
      (∀ n m, n ≤ m → uncut base limit n = longest base limit → uncut base limit m = longest base limit) ∧
      (∀ greatest, longest base limit ≤ greatest → ∀ n,
        uncut base limit (n + 1) = min (min (2 * uncut base limit n) greatest) (longest base limit)) ∧
      ∀ (σ α : Type) (clock : Clock σ) (poll : Poll clock α) (settled : α → Bool) (s : σ),
        (pollUntil poll settled (start base limit budget started) s).delays.dropLast =
          (List.range ((pollUntil poll settled (start base limit budget started) s).delays.length - 1)).map
            (uncut base limit) := by
  have hstart := stands_start base limit budget started
  refine ⟨fun times early => ?_, uncut_zero base limit, uncut_mono base limit, fun n m hle hn => ?_,
    fun greatest hgreatest n => ?_, fun σ α clock poll settled s => ?_⟩
  · have hanswers := hstart.answers early
    simp only [Nat.zero_add] at hanswers
    refine ⟨hanswers, fun n now hnow hroom => ?_⟩
    have hcall : uncut base limit n ≤ started + budget - now := by omega
    rw [hanswers, List.getElem?_mapIdx, hnow, Option.map_some]
    exact congrArg (fun delay => some (some delay)) (Nat.min_eq_left hcall)
  · exact (uncut_le base limit m).antisymm (hn.ge.trans (uncut_mono base limit hle))
  · rw [uncut_succ]
    omega
  · have hdelays := hstart.dropLast_delays poll settled s
    simp only [Nat.zero_add] at hdelays
    exact hdelays

/-- A limit that is no power of two times the base, and one below the base, which is below a millisecond. The last call
of the first schedule is cut. -/
theorem doubles_to_odd_limit :
    (∀ now ∈ [7, 40, 41, 7000000, 79999993], now < 7 + 80000000) ∧
      (start 3000000 20000000 80000000 7).answers [7, 40, 41, 7000000, 79999993] =
        [some 3000000, some 6000000, some 12000000, some 20000000, some 14] ∧
      ((start 999 5 80000000 7).answers [7, 40, 41, 7000000, 79999993])[3]? = some (some 1000000) := by
  have early : ∀ now ∈ [7, 40, 41, 7000000, 79999993], now < 7 + 80000000 := by decide
  obtain ⟨hcalls, -⟩ := doubles_to_limit 3000000 20000000 80000000 7
  obtain ⟨hcalls', -⟩ := doubles_to_limit 999 5 80000000 7
  refine ⟨early, ?_, (hcalls' _ early).2 3 7000000 rfl (by decide)⟩
  rw [(hcalls _ early).1]
  decide

end Backoff

end DepartureRules
