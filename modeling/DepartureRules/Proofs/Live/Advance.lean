import Mathlib.Logic.Relation
import DepartureRules.Proofs.Live.Isolation
import DepartureRules.Proofs.Live.Online

/-!
# What a generation does to a status

Between two renewals a source only learns: what it knows of an airport changes in one direction, and an airport that is
resolved stays so.

* `Advance` lists the changes of a status, `advance_move` says that a move makes one of them or none;
* `generation_move`: a renewal begins the next generation, and nothing else does;
* `status_advances`: so it is along every run within a generation.
-/

namespace DepartureRules
open Relation
set_option autoImplicit false

/-- The changes of what is known of an airport. -/
inductive Advance : Option AirportStatus → Option AirportStatus → Prop
  | asked : Advance none (some .pending)
  | listed : Advance none (some .resolved)
  | received : Advance (some .pending) (some .resolved)
  | missed : Advance (some .pending) (some .missing)
  | broken : Advance (some .pending) (some .failed)
  | found : Advance (some .missing) (some .resolved)
  | recovered : Advance (some .failed) (some .resolved)

theorem eq_resolved_of_advances {status : Option AirportStatus} (h : ReflTransGen Advance (some .resolved) status) :
    status = some .resolved := by
  induction h with
  | refl => rfl
  | tail _ hlast ih =>
    subst ih
    cases hlast

theorem eq_none_of_advance {status : Option AirportStatus} (h : ReflGen Advance status none) : status = none := by
  cases h with
  | refl => rfl
  | single hlast => cases hlast

/-! ## The cache -/

namespace Cache
open RuleIndex
variable {c : Cache} {count : String → Nat} {icao : String}

/-- Whatever was known of an airport, it can be resolved. -/
theorem advance_resolved (status : Option AirportStatus) : ReflGen Advance status (some .resolved) := by
  rcases status with - | (- | - | - | -)
  · exact .single .listed
  · exact .refl
  · exact .single .received
  · exact .single .found
  · exact .single .recovered

theorem status?_await_of_ne (c : Cache) {x : String} (hne : x ≠ icao) : (c.await icao).status? x = c.status? x := by
  refine status?_congr ?_ Iff.rfl Iff.rfl Iff.rfl
  show x ∈ c.pending.insert icao ↔ x ∈ c.pending
  rw [List.mem_insert_iff, or_iff_right hne]

theorem advance_await (unknown : c.status? icao = none) (x : String) :
    ReflGen Advance (c.status? x) ((c.await icao).status? x) := by
  by_cases hx : x = icao
  · subst hx
    rw [unknown, status?_await unknown]
    exact .single .asked
  · rw [status?_await_of_ne c hx]

/-- The answer to the only request for an airport moves no status backwards. -/
theorem Tracks.advance_settle (h : c.Tracks count) (one : count icao = 1) (answer : Answer (List AirportRecord))
    (x : String) : ReflGen Advance (c.status? x) ((c.settle icao answer).status? x) := by
  by_cases hresolved : c.status? x = some .resolved ∨ x ∈ listed answer.airports
  · rw [(h.status?_settle_eq_resolved_iff one answer x).2 hresolved]
    exact advance_resolved _
  · rw [not_or] at hresolved
    obtain ⟨hunresolved, hnot⟩ := hresolved
    by_cases hx : x = icao
    · -- Neither resolved before nor listed now: the airport was waiting for this answer.
      subst hx
      rw [(h.exclusive x).status?_eq_resolved_iff, Bool.not_eq_true] at hunresolved
      have hpending : c.status? x = some .pending := by
        have hmem := (h.pending_iff x).2 ⟨hunresolved, one⟩
        simp [status?, hmem, h.not_missing x one, h.not_failed x one]
      rw [hpending, h.status?_settle_self one answer ((contains_load_eq_false_iff _ _ _).2 ⟨hnot, hunresolved⟩)]
      split
      · exact .single .broken
      · exact .single .missed
    · rw [status?_settle_of_not_listed c hx hnot]

end Cache

/-! ## Renewals -/

namespace Live

/-- The move begins a new generation. -/
def Move.Renews : Move → Prop
  | .event e => e.Renews
  | _ => False

instance : DecidablePred Event.Renews
  | .invalidate => .isTrue .invalidate
  | .load (some text) =>
    match read : readAirports text with
    | .ok _ => .isTrue (.load read)
    | .error _ => .isFalse fun h => by
      cases h with
      | load read' =>
        rw [read] at read'
        cases read'
  | .load none | .lookup _ | .useServer _ | .update | .answer _ _ | .pass _ => .isFalse nofun

instance : DecidablePred Move.Renews
  | .event e => inferInstanceAs (Decidable e.Renews)
  | .expire _ | .readBase | .fire => inferInstanceAs (Decidable False)

namespace State
variable {s : State}

theorem generation_of_renews {e : Event} (h : e.Renews) : (s.apply e).generation = s.generation + 1 := by
  obtain ⟨airports, hreplace⟩ := exists_replace_of_renews s h
  rw [hreplace]
  rfl

theorem generation_move_of_not_renews {m : Move} (h : ¬m.Renews) : (s.move m).generation = s.generation := by
  have hchange := change_move s m
  generalize s.move m = s' at hchange ⊢
  cases hchange with
  | load read => exact absurd (.load read) h
  | invalidate => exact absurd .invalidate h
  | _ => rfl

/-- The generation changes with a renewal and with nothing else. -/
theorem generation_move (s : State) (m : Move) :
    (m.Renews ∧ (s.move m).generation = s.generation + 1) ∨ (¬m.Renews ∧ (s.move m).generation = s.generation) := by
  by_cases hm : m.Renews
  · cases m with
    | event e => exact .inl ⟨hm, generation_of_renews hm⟩
    | _ => exact hm.elim
  · exact .inr ⟨hm, generation_move_of_not_renews hm⟩

theorem generation_le_moves (s : State) (ms : List Move) : s.generation ≤ (s.moves ms).generation := by
  induction ms generalizing s with
  | nil => exact Nat.le_refl _
  | cons m ms ih =>
    have hstep : s.generation ≤ (s.move m).generation := by
      rcases generation_move s m with ⟨-, hm⟩ | ⟨-, hm⟩ <;> omega
    exact Nat.le_trans hstep (ih _)

theorem generation_moves_eq_iff (s : State) (ms : List Move) :
    (s.moves ms).generation = s.generation ↔ ∀ m ∈ ms, ¬m.Renews := by
  induction ms generalizing s with
  | nil => simp [moves]
  | cons m ms ih =>
    rw [moves_cons, List.forall_mem_cons, ← ih (s.move m)]
    have hle := generation_le_moves (s.move m) ms
    rcases generation_move s m with ⟨hm, hnext⟩ | ⟨hm, hsame⟩
    · exact iff_of_false (by omega) fun hnot => hnot.1 hm
    · rw [hsame, and_iff_right hm]

theorem generation_dropDead (s : State) : s.dropDead.generation = s.generation := by
  unfold dropDead
  generalize s.inFlight.filter s.isDead = requests
  induction requests generalizing s with
  | nil => rfl
  | cons r requests ih => exact ih (s.finish r .failed)

theorem generation_settled (s : State) : s.settled.generation = s.generation := by
  fun_induction settled s with
  | case1 s _ => exact generation_dropDead s
  | case2 s l _ _ ih => exact ih.trans (generation_dropDead s)
  | case3 s l _ _ => exact generation_dropDead s

theorem generation_run {es : List Event} (h : ∀ e ∈ es, ¬e.Renews) : (s.run es).generation = s.generation := by
  induction es generalizing s with
  | nil => rfl
  | cons e es ih =>
    rw [List.forall_mem_cons] at h
    show ((s.step e).run es).generation = _
    have hmove : (s.apply e).generation = s.generation := generation_move_of_not_renews (m := .event e) h.1
    rw [ih h.2, step, generation_settled, hmove]

/-! ## Runs within a generation -/

/-- A move within a generation changes a status in one of the listed ways, if at all. -/
theorem advance_move (h : Visited s) {m : Move} (hm : ¬m.Renews) (icao : String) :
    ReflGen Advance (s.cache.status? icao) ((s.move m).cache.status? icao) := by
  have hsame := generation_move_of_not_renews (s := s) hm
  have heffect := effect_move s m
  generalize s.move m = s' at hsame heffect ⊢
  cases heffect with
  | quiet base span loopBase unread => exact .refl
  | fetch asked unknown => exact Cache.advance_await unknown icao
  | update => exact .refl
  | fire l hl due idle => exact .refl
  | redirect r hr location first => exact .refl
  | replace airports => exact absurd hsame (Nat.succ_ne_self s.generation)
  | finish r hr reply =>
    rcases isFetch_cases s r with ⟨asked, hfetch⟩ | hnot
    · have hself := (hfetch asked).2 rfl
      rw [cache_finish_of_isFetch hself]
      exact h.tracked.tracks.advance_settle (h.tracked.fetchCount_eq_one hr hself) _ icao
    · rw [cache_finish_of_not_isFetch hnot]

theorem advance_moves (h : Visited s) {ms : List Move} (hms : ∀ m ∈ ms, ¬m.Renews) (icao : String) :
    ReflTransGen Advance (s.cache.status? icao) ((s.moves ms).cache.status? icao) := by
  induction ms generalizing s with
  | nil => exact .refl
  | cons m ms ih =>
    rw [List.forall_mem_cons] at hms
    exact (advance_move h hms.1 icao).to_reflTransGen.trans (ih (h.move m) hms.2)

theorem advance_run (h : Visited s) {es : List Event} (hes : ∀ e ∈ es, ¬e.Renews) (icao : String) :
    ReflTransGen Advance (s.cache.status? icao) ((s.run es).cache.status? icao) := by
  obtain ⟨ms, hms⟩ := exists_moves_run h es
  have hsame := generation_run (s := s) hes
  rw [hms] at hsame ⊢
  exact advance_moves h ((generation_moves_eq_iff s ms).1 hsame) icao

/-- The status of an airport has only advanced from one state to the other, and it stays resolved if it was. -/
structure OnlyAdvances (s t : State) (icao : String) : Prop where
  advances : ReflTransGen Advance (s.cache.status? icao) (t.cache.status? icao)
  resolved : s.cache.status? icao = some .resolved → t.cache.status? icao = some .resolved

theorem onlyAdvances_of_advances {s t : State} {icao : String}
    (h : ReflTransGen Advance (s.cache.status? icao) (t.cache.status? icao)) : s.OnlyAdvances t icao where
  advances := h
  resolved hresolved := by
    rw [hresolved] at h
    exact eq_resolved_of_advances h

/-- A renewal begins the next generation and nothing else does. Between two of them the status of an airport only
advances, whatever happens and whichever answers come, and an airport that is resolved stays so. -/
theorem status_advances (h : Visited s) (icao : String) :
    (∀ m, (m.Renews ∧ (s.move m).generation = s.generation + 1) ∨
        (¬m.Renews ∧ (s.move m).generation = s.generation)) ∧
      (∀ m, ¬m.Renews → ReflGen Advance (s.cache.status? icao) ((s.move m).cache.status? icao)) ∧
      (∀ ms, (∀ m ∈ ms, ¬m.Renews) → s.OnlyAdvances (s.moves ms) icao) ∧
      ∀ es, (∀ e ∈ es, ¬e.Renews) → s.OnlyAdvances (s.run es) icao := by
  refine ⟨generation_move s, fun m hm => advance_move h hm icao, fun ms hms => ?_, fun es hes => ?_⟩
  · exact onlyAdvances_of_advances (advance_moves h hms icao)
  · exact onlyAdvances_of_advances (advance_run h hes icao)

/-- The answer to a pending airport lists others in its place: a missing one, a failed one and one that was never asked
for. Another server, a question and an answer to a request that has ended follow. -/
def relisting : List Event := [
  .answer (.asked 4) (.document ("[\x7b\"icao\":\"EGKK\",\"sids\":[]\x7d,\x7b\"icao\":\"EGSS\",\"sids\":[]\x7d," ++
    "\x7b\"icao\":\"EGPH\",\"sids\":[]\x7d]")),
  .useServer (some "http://other"),
  .lookup "EGKK",
  .answer (.asked 2) .notFound,
  .pass 30000]

theorem advances_of_mixed :
    Visited mixed ∧ (∀ e ∈ relisting, ¬e.Renews) ∧
      (["EGLL", "EGKK", "EGSS", "EGCC", "EGPH"].map fun icao => mixed.cache.status? icao) =
        [some .resolved, some .missing, some .failed, some .pending, none] ∧
      (["EGLL", "EGKK", "EGSS", "EGCC", "EGPH"].map fun icao => (mixed.run relisting).cache.status? icao) =
        [some .resolved, some .resolved, some .resolved, some .missing, some .resolved] ∧
      ∀ icao, mixed.OnlyAdvances (mixed.run relisting) icao := by
  have hvisited : Visited mixed := (Visited.opening .up "http://h/" 20000 0).moves _
  have hkept : ∀ e ∈ relisting, ¬e.Renews := by decide
  refine ⟨hvisited, hkept, by decide +kernel, by decide +kernel, fun icao => ?_⟩
  obtain ⟨-, -, -, hrun⟩ := status_advances hvisited icao
  exact hrun relisting hkept

end State

end Live

end DepartureRules
