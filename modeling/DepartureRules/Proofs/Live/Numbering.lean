import Mathlib.Data.List.Nodup
import DepartureRules.Proofs.Live.Moves

/-!
# The numbers of requests

No two requests in flight have the same number, so an answer reaches the request that it was given to and
no other one.

* `State.Numbered` is the invariant, `Visited.numbered` says that it holds wherever a source comes through;
* `Numbered.perm_inFlight`: the requests in flight are one of them and those without its number;
* `exists_moves_step`: a step is a row of moves, as what is dropped at rest is dropped one by one, and so
  every reachable state is visited.
-/

namespace DepartureRules.Live
open State
set_option autoImplicit false

namespace State

/-- The numbers of the requests in flight are different, and none of them will be given again. -/
structure Numbered (s : State) : Prop where
  nodup : (s.inFlight.map Request.id).Nodup
  asked_lt : ∀ r ∈ s.inFlight, ∀ n, r.id = .asked n → n < s.asked
  loop_lt : ∀ r ∈ s.inFlight, ∀ n, r.id = .loop n → ∃ l, s.loop = some l ∧ n < l.launches.length

theorem mem_inFlightWithout {s : State} {id : RequestId} {r : Request} :
    r ∈ s.inFlightWithout id ↔ r ∈ s.inFlight ∧ r.id ≠ id := by
  simp [inFlightWithout, List.mem_filter]

theorem forall_mem_concat {P : Request → Prop} {requests : List Request} {r : Request}
    (h : ∀ r' ∈ requests, P r') (hr : P r) : ∀ r' ∈ requests ++ [r], P r' := by
  intro r' hr'
  rcases List.mem_append.1 hr' with hr' | hr'
  · exact h r' hr'
  · rw [List.mem_singleton.1 hr']
    exact hr

theorem nodup_concat {requests : List Request} {r : Request} (h : (requests.map Request.id).Nodup)
    (hnew : ∀ r' ∈ requests, r'.id ≠ r.id) : ((requests ++ [r]).map Request.id).Nodup := by
  rw [List.map_append, List.nodup_append]
  refine ⟨h, List.nodup_singleton _, ?_⟩
  rintro id hid id' hid' rfl
  obtain ⟨r', hr', hid⟩ := List.mem_map.1 hid
  rw [List.mem_singleton.1 hid'] at hid
  exact hnew r' hr' hid

namespace Numbered
variable {s : State}

/-! ## One request for each number -/

theorem eq_of_id_eq (h : s.Numbered) {r r' : Request} (hr : r ∈ s.inFlight) (hr' : r' ∈ s.inFlight)
    (hid : r.id = r'.id) : r = r' :=
  List.inj_on_of_nodup_map h.nodup hr hr' hid

theorem request?_eq (h : s.Numbered) {r : Request} (hr : r ∈ s.inFlight) : s.request? r.id = some r := by
  cases hfind : s.request? r.id with
  | none =>
    have hne := List.find?_eq_none.1 hfind r hr
    simp at hne
  | some r' =>
    obtain ⟨hr', hid⟩ := mem_of_request? hfind
    rw [h.eq_of_id_eq hr' hr hid]

theorem perm_filter {requests : List Request} (hnodup : (requests.map Request.id).Nodup) {r : Request}
    (hr : r ∈ requests) : requests.Perm (r :: requests.filter fun r' => r'.id != r.id) := by
  induction requests with
  | nil => cases hr
  | cons first requests ih =>
    rw [List.map_cons, List.nodup_cons] at hnodup
    rcases List.mem_cons.1 hr with rfl | hr
    · have hkeep : (requests.filter fun r' => r'.id != r.id) = requests := by
        rw [List.filter_eq_self]
        intro r' hr'
        rw [bne_iff_ne]
        exact fun e => hnodup.1 (e ▸ List.mem_map_of_mem hr')
      rw [List.filter_cons_of_neg (by simp), hkeep]
    · have hne : first.id ≠ r.id := fun e => hnodup.1 (e ▸ List.mem_map_of_mem hr)
      rw [List.filter_cons_of_pos (by simpa using hne)]
      exact ((ih hnodup.2 hr).cons first).trans (List.Perm.swap r first _)

theorem perm_inFlight (h : s.Numbered) {r : Request} (hr : r ∈ s.inFlight) :
    s.inFlight.Perm (r :: s.inFlightWithout r.id) :=
  perm_filter h.nodup hr

/-! ## The numbers stay different -/

theorem nodup_without (h : s.Numbered) (id : RequestId) :
    ((s.inFlightWithout id).map Request.id).Nodup :=
  h.nodup.sublist ((List.filter_sublist).map Request.id)

theorem finish (h : s.Numbered) (r : Request) (reply : Reply) : (s.finish r reply).Numbered where
  nodup := h.nodup_without r.id
  asked_lt := fun r' hr' => h.asked_lt r' (mem_inFlightWithout.1 hr').1
  loop_lt := fun r' hr' => h.loop_lt r' (mem_inFlightWithout.1 hr').1

theorem launch (h : s.Numbered) (purpose : Purpose) : (s.launch purpose).Numbered where
  nodup := nodup_concat h.nodup fun r hr hid => Nat.lt_irrefl _ (h.asked_lt r hr s.asked hid)
  asked_lt := by
    refine forall_mem_concat (fun r hr n hid => Nat.lt_succ_of_lt (h.asked_lt r hr n hid)) ?_
    intro n hid
    cases hid
    exact Nat.lt_succ_self _
  loop_lt := forall_mem_concat h.loop_lt nofun

theorem lt_launches (h : s.Numbered) {l : RefreshLoop} (hl : s.loop = some l) (r : Request)
    (hr : r ∈ s.inFlight) (n : Nat) (hid : r.id = .loop n) : n < l.launches.length := by
  obtain ⟨l', hl', hlt⟩ := h.loop_lt r hr n hid
  rw [hl] at hl'
  cases hl'
  exact hlt

theorem fire (h : s.Numbered) {l : RefreshLoop} (hl : s.loop = some l) : (s.fire l).Numbered where
  nodup := nodup_concat h.nodup fun r hr hid => Nat.lt_irrefl _ (h.lt_launches hl r hr _ hid)
  asked_lt := forall_mem_concat h.asked_lt nofun
  loop_lt := by
    refine forall_mem_concat (fun r hr n hid => ?_) fun n hid => ?_
    · exact ⟨l.fired s.clock, rfl, Nat.lt_succ_of_lt (h.lt_launches hl r hr n hid)⟩
    · cases hid
      exact ⟨l.fired s.clock, rfl, Nat.lt_succ_self _⟩

theorem redirect (h : s.Numbered) {r : Request} (hr : r ∈ s.inFlight) (location : String) :
    (s.redirect r location).Numbered where
  nodup := nodup_concat (h.nodup_without r.id) fun _ hr' => (mem_inFlightWithout.1 hr').2
  asked_lt :=
    forall_mem_concat (fun r' hr' => h.asked_lt r' (mem_inFlightWithout.1 hr').1) (h.asked_lt r hr)
  loop_lt :=
    forall_mem_concat (fun r' hr' => h.loop_lt r' (mem_inFlightWithout.1 hr').1) (h.loop_lt r hr)

theorem effect {s' : State} (h : s.Numbered) (he : Effect s s') : s'.Numbered := by
  cases he with
  | quiet base span loopBase unread => exact ⟨h.nodup, h.asked_lt, h.loop_lt⟩
  | fetch icao unknown =>
    have hawait : Numbered { s with cache := s.cache.await icao } := ⟨h.nodup, h.asked_lt, h.loop_lt⟩
    exact hawait.launch _
  | update => exact h.launch _
  | fire l hl due idle => exact h.fire hl
  | finish r hr reply => exact h.finish r reply
  | redirect r hr location first => exact h.redirect hr location
  | replace airports =>
    have hreplace : Numbered { s with generation := s.generation + 1, cache := .ofAirports airports } :=
      ⟨h.nodup, h.asked_lt, h.loop_lt⟩
    exact hreplace.launch _

end Numbered

theorem Visited.numbered {s : State} (h : Visited s) : s.Numbered :=
  h.induct (fun _ _ _ _ => ⟨List.nodup_nil, nofun, nofun⟩)
    fun _ _ hs he => hs.effect he

/-! ## Reachable states are visited -/

/-- The moves that drop requests. -/
def expiries (requests : List Request) : List Move :=
  requests.map fun r => .expire r.id

/-- Requests that are dead and have different numbers are dropped one by one. -/
theorem failAll_eq_moves {s : State} (h : s.Numbered) {requests : List Request}
    (hnodup : (requests.map Request.id).Nodup) (hall : ∀ r ∈ requests, r ∈ s.inFlight ∧ s.isDead r = true) :
    s.failAll requests = s.moves (expiries requests) := by
  induction requests generalizing s with
  | nil => rfl
  | cons r requests ih =>
    rw [List.map_cons, List.nodup_cons] at hnodup
    obtain ⟨hr, hdead⟩ := hall r List.mem_cons_self
    have hmove : s.move (.expire r.id) = s.finish r .failed := by
      simp only [move, h.request?_eq hr, hdead, if_true]
    have hrest : ∀ r' ∈ requests,
        r' ∈ (s.finish r .failed).inFlight ∧ (s.finish r .failed).isDead r' = true := by
      intro r' hr'
      obtain ⟨hmem, hdead'⟩ := hall r' (List.mem_cons_of_mem r hr')
      have hne : r'.id ≠ r.id := fun e => hnodup.1 (e ▸ List.mem_map_of_mem hr')
      exact ⟨mem_inFlightWithout.2 ⟨hmem, hne⟩, hdead'⟩
    show (s.finish r .failed).failAll requests = s.moves (.expire r.id :: expiries requests)
    rw [ih (h.finish r .failed) hnodup.2 hrest, moves_cons, hmove]

theorem dropDead_eq_moves {s : State} (h : s.Numbered) :
    s.dropDead = s.moves (expiries (s.inFlight.filter s.isDead)) :=
  failAll_eq_moves h (h.nodup.sublist ((List.filter_sublist).map Request.id))
    fun _ hr => List.mem_filter.1 hr

theorem exists_quiet_moves_dropDead {s : State} (h : s.Numbered) :
    ∃ ms, s.dropDead = s.moves ms ∧ ∀ e, Move.event e ∉ ms := by
  refine ⟨_, dropDead_eq_moves h, fun e he => ?_⟩
  obtain ⟨r, -, hexpire⟩ := List.mem_map.1 he
  cases hexpire

/-- No event stands among the moves that bring a source to rest. -/
theorem exists_quiet_moves_settled {s : State} (h : Visited s) :
    ∃ ms, s.settled = s.moves ms ∧ ∀ e, Move.event e ∉ ms := by
  fun_induction State.settled s with
  | case1 s _ => exact exists_quiet_moves_dropDead h.numbered
  | case2 s l hl hdue ih =>
    obtain ⟨ms, hms, hquiet⟩ := exists_quiet_moves_dropDead h.numbered
    have hfire : s.dropDead.move .fire = s.dropDead.fire l := by
      simp only [State.move, hl, hdue, and_self, if_true]
    have hvisited : Visited (s.dropDead.fire l) := by
      rw [← hfire, hms]
      exact (h.moves ms).move .fire
    obtain ⟨ms', hms', hquiet'⟩ := ih hvisited
    refine ⟨ms ++ .fire :: ms', ?_, fun e => ?_⟩
    · rw [moves_append, ← hms, moves_cons, hfire]
      exact hms'
    · rw [List.mem_append, List.mem_cons, not_or, not_or]
      exact ⟨hquiet e, Move.noConfusion, hquiet' e⟩
  | case3 s l _ _ => exact exists_quiet_moves_dropDead h.numbered

theorem exists_moves_settled {s : State} (h : Visited s) : ∃ ms, s.settled = s.moves ms := by
  obtain ⟨ms, hms, -⟩ := exists_quiet_moves_settled h
  exact ⟨ms, hms⟩

/-- A step is its event and then moves that bring the source to rest. -/
theorem exists_moves_step {s : State} (h : Visited s) (e : Event) :
    ∃ ms, s.step e = s.moves (.event e :: ms) :=
  exists_moves_settled (h.move (.event e))

theorem Reachable.visited {s : State} (h : Reachable s) : Visited s := by
  induction h with
  | start network server timeout period =>
    have hupdate := (Visited.opening network server timeout period).move (.event .update)
    obtain ⟨ms, hms⟩ := exists_moves_settled hupdate
    show Visited ((opening network server timeout period).move (.event .update)).settled
    rw [hms]
    exact hupdate.moves ms
  | @step s _ e ih =>
    obtain ⟨ms, hms⟩ := exists_moves_step ih e
    rw [hms]
    exact ih.moves _

end State

end DepartureRules.Live
