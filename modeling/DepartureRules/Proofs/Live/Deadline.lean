import DepartureRules.Proofs.Live.Loaded

/-!
# How long an airport is pending

A request ends when its time has run out, if it has not ended before, and a pending airport waits for a request. So no
airport is pending longer than a request may take.

* `AskedBy`: the requests for airports were launched by a certain time. Only a question for an airport launches another
  one, and a redirection does not begin a request anew;
* `Visited.askedBy`: no request was launched after the present;
* `AskedBy.pending_eq_nil`: when their time has run out, and none of them is left in flight, no airport is pending;
* `pending_in_time`: so it is after every run without questions that takes as long as a request may take, and what was
  pending is resolved, missing or failed then.
-/

namespace DepartureRules
open Relation
set_option autoImplicit false

/-- A pending airport has been settled, or is pending still. -/
theorem eq_pending_or_settled_of_advances {status : Option AirportStatus}
    (h : ReflTransGen Advance (some .pending) status) :
    status = some .pending ∨ status ∈ [some .resolved, some .missing, some .failed] := by
  induction h with
  | refl => exact .inl rfl
  | tail _ hlast ih =>
    refine .inr ?_
    rcases ih with rfl | hsettled
    · cases hlast <;> decide
    · cases hlast <;> simp at hsettled ⊢

namespace Live.State
variable {s t : State} {time : Nat} {m : Move} {ms : List Move}

/-! ## Requests launched by a certain time -/

/-- The requests for airports were launched by a certain time. -/
def AskedBy (s : State) (time : Nat) : Prop :=
  ∀ r ∈ s.inFlight, r.purpose ≠ .referenceTime → r.began ≤ time

namespace AskedBy

theorem finish (h : s.AskedBy time) (r : Request) (reply : Reply) : (s.finish r reply).AskedBy time :=
  fun r' hr' => h r' (mem_inFlightWithout.1 hr').1

/-- A request that is sent on to another place has begun when it was launched. -/
theorem redirect (h : s.AskedBy time) {r : Request} (hr : r ∈ s.inFlight) (location : String) :
    (s.redirect r location).AskedBy time :=
  forall_mem_concat (fun r' hr' => h r' (mem_inFlightWithout.1 hr').1) (h r hr)

theorem update (h : s.AskedBy time) : s.update.AskedBy time :=
  forall_mem_concat h fun hne => absurd rfl hne

theorem fire (h : s.AskedBy time) (l : RefreshLoop) : (s.fire l).AskedBy time :=
  forall_mem_concat h fun hne => absurd rfl hne

/-- Nothing but a question launches a request for an airport. -/
theorem move (h : s.AskedBy time) (hm : ∀ icao, m ≠ .event (.lookup icao)) : (s.move m).AskedBy time := by
  have hchange := change_move s m
  generalize s.move m = s' at hchange ⊢
  cases hchange with
  | fetch icao unknown => exact absurd rfl (hm icao)
  | load read => exact update h
  | invalidate => exact update h
  | update => exact h.update
  | answer hr ended => exact h.finish _ _
  | redirect hr location first => exact h.redirect (mem_of_request? hr).1 location
  | expire hr dead => exact h.finish _ _
  | fire l hl due idle => exact h.fire l
  | _ => exact h

theorem moves (h : s.AskedBy time) (hms : ∀ icao, Move.event (.lookup icao) ∉ ms) : (s.moves ms).AskedBy time := by
  induction ms generalizing s with
  | nil => exact h
  | cons m ms ih =>
    refine ih (h.move fun icao hm => hms icao (hm ▸ List.mem_cons_self)) fun icao hmem => ?_
    exact hms icao (List.mem_cons_of_mem m hmem)

end AskedBy

/-- No request was launched after the present. -/
theorem Visited.askedBy (h : Visited s) : s.AskedBy s.clock := by
  suffices hbegan : ∀ r ∈ s.inFlight, r.began ≤ s.clock from fun r hr _ => hbegan r hr
  refine Visited.induct (P := fun s => ∀ r ∈ s.inFlight, r.began ≤ s.clock) (fun _ _ _ _ => nofun)
    (fun s s' hs he => ?_) h
  cases he with
  | quiet base span loopBase unread => exact fun r hr => Nat.le_add_right_of_le (hs r hr)
  | fetch icao unknown => exact forall_mem_concat hs (Nat.le_refl _)
  | update => exact forall_mem_concat hs (Nat.le_refl _)
  | fire l hl due idle => exact forall_mem_concat hs (Nat.le_refl _)
  | finish r hr reply => exact fun r' hr' => hs r' (mem_inFlightWithout.1 hr').1
  | redirect r hr location first =>
    exact forall_mem_concat (fun r' hr' => hs r' (mem_inFlightWithout.1 hr').1) (hs r hr)
  | replace airports => exact forall_mem_concat hs (Nat.le_refl _)

/-! ## The time of a request -/

theorem timeout_move (s : State) (m : Move) : (s.move m).timeout = s.timeout := by
  have heffect := effect_move s m
  generalize s.move m = s' at heffect ⊢
  cases heffect <;> rfl

theorem timeout_moves (s : State) (ms : List Move) : (s.moves ms).timeout = s.timeout := by
  induction ms generalizing s with
  | nil => rfl
  | cons m ms ih => exact (ih (s.move m)).trans (timeout_move s m)

/-- A pending airport waits for a request that has time left. -/
theorem AskedBy.pending_eq_nil (h : s.AskedBy time) (tracked : s.Tracked) (inTime : s.InTime)
    (elapsed : time + s.timeout ≤ s.clock) : s.cache.pending = [] := by
  rw [List.eq_nil_iff_forall_not_mem]
  intro icao hpending
  obtain ⟨-, hone⟩ := (tracked.tracks.pending_iff icao).1 hpending
  have hpos : 0 < s.inFlight.countP (s.isFetch icao) := by
    rw [fetchCount] at hone
    omega
  obtain ⟨r, hr, hfetch⟩ := List.countP_pos_iff.1 hpos
  obtain ⟨hpurpose, -⟩ := isFetch_iff.1 hfetch
  have hbegan : r.began ≤ time := h r hr (by simp [hpurpose])
  have hleft := isOverdue_eq_false_iff.1 (inTime r hr)
  omega

/-! ## Runs without questions -/

theorem exists_moves_run_events (h : Visited s) (es : List Event) :
    ∃ ms, s.run es = s.moves ms ∧ ∀ e, Move.event e ∈ ms → e ∈ es := by
  cases es with
  | nil => exact ⟨[], rfl, nofun⟩
  | cons e es =>
    obtain ⟨ms, hms, hevents, -⟩ := exists_moves_settled_run (h.move (.event e)) es
    refine ⟨.event e :: ms, hms, fun e' he' => ?_⟩
    rcases List.mem_cons.1 he' with heq | hmem
    · cases heq
      exact List.mem_cons_self
    · exact List.mem_cons_of_mem e (hevents e' hmem)

theorem Reachable.alive (h : Reachable s) : s.Alive := by
  cases h with
  | start => exact alive_settled _
  | step => exact alive_settled _

/-- What was pending is settled within a generation, if nothing is pending any more. -/
theorem settled_of_pending_eq_nil (h : Visited s) (hms : ∀ m ∈ ms, ¬m.Renews)
    (hnone : (s.moves ms).cache.pending = []) {icao : String} (hpending : s.cache.status? icao = some .pending) :
    (s.moves ms).cache.status? icao ∈ [some .resolved, some .missing, some .failed] := by
  have hadvances := advance_moves h hms icao
  rw [hpending] at hadvances
  refine (eq_pending_or_settled_of_advances hadvances).resolve_left fun hstill => ?_
  have hmem := Cache.mem_pending_of_status? hstill
  rw [hnone] at hmem
  cases hmem

/-- No airport is pending when as much time has passed as a request may take and no question was asked, whatever the
servers did. If the source has not forgotten anything in that time, every airport that was pending is resolved, missing
or failed. In moves this holds once the requests have ended that have run out of time, whether or not the others have
been sent. At rest they have ended. -/
theorem pending_in_time (h : Visited s) :
    (∀ ms, (∀ icao, Move.event (.lookup icao) ∉ ms) → s.clock + s.timeout ≤ (s.moves ms).clock →
      (s.moves ms).InTime →
        (s.moves ms).cache.pending = [] ∧ ((∀ m ∈ ms, ¬m.Renews) → ∀ icao, s.cache.status? icao = some .pending →
          (s.moves ms).cache.status? icao ∈ [some .resolved, some .missing, some .failed])) ∧
      (Reachable s → ∀ es, (∀ icao, Event.lookup icao ∉ es) → s.clock + s.timeout ≤ (s.run es).clock →
        (s.run es).cache.pending = [] ∧ ((∀ e ∈ es, ¬e.Renews) → ∀ icao, s.cache.status? icao = some .pending →
          (s.run es).cache.status? icao ∈ [some .resolved, some .missing, some .failed])) := by
  have hmoves (ms : List Move) (hms : ∀ icao, Move.event (.lookup icao) ∉ ms)
      (helapsed : s.clock + s.timeout ≤ (s.moves ms).clock) (hinTime : (s.moves ms).InTime) :
      (s.moves ms).cache.pending = [] :=
    (h.askedBy.moves hms).pending_eq_nil (h.moves ms).tracked hinTime (timeout_moves s ms ▸ helapsed)
  refine ⟨fun ms hms helapsed hinTime => ?_, fun hreachable es hes helapsed => ?_⟩
  · have hnone := hmoves ms hms helapsed hinTime
    exact ⟨hnone, fun hkept icao => settled_of_pending_eq_nil h hkept hnone⟩
  · obtain ⟨ms, hrun, hevents⟩ := exists_moves_run_events h es
    have hinTime := (hreachable.run es).alive.inTime
    have hsame (hkept : ∀ e ∈ es, ¬e.Renews) := generation_run (s := s) hkept
    rw [hrun] at helapsed hinTime hsame ⊢
    have hnone := hmoves ms (fun icao hmem => hes icao (hevents _ hmem)) helapsed hinTime
    refine ⟨hnone, fun hkept icao => settled_of_pending_eq_nil h ?_ hnone⟩
    exact (generation_moves_eq_iff s ms).1 (hsame hkept)

/-- A source with a refresh loop that has been given another server and its own again, with four pending airports. -/
def stalled : State :=
  (start .up "http://h/" 20000 8000).run [
    .useServer (some "http://other"),
    .lookup "EGLL",
    .pass 3000,
    .useServer none,
    .lookup "EGKK",
    .lookup "EGSS",
    .lookup "EGCC"]

/-- One request is redirected and not answered any more, one is answered with a list without its airport and one with a
failure, and one is never answered. The refresh loop launches a request of its own meanwhile. -/
def sluggish : List Event := [
  .answer (.asked 1) (.redirect "http://h/moved"),
  .pass 12000,
  .answer (.asked 2) (.document "[\x7b\"icao\":\"EGBB\"\x7d]"),
  .update,
  .useServer (some "http://third"),
  .answer (.asked 3) .failed,
  .pass 8000]

theorem settled_of_stalled :
    Reachable stalled ∧ (∀ icao, Event.lookup icao ∉ sluggish) ∧ (∀ e ∈ sluggish, ¬e.Renews) ∧
      stalled.clock + stalled.timeout = (stalled.run sluggish).clock ∧
      stalled.cache.pending.length = 4 ∧ (stalled.run sluggish).cache.pending = [] ∧
      (["EGLL", "EGKK", "EGSS", "EGCC"].map fun icao => (stalled.run sluggish).cache.status? icao) =
        [some .failed, some .missing, some .failed, some .failed] ∧
      (stalled.run sluggish).cache.status? "EGCC" ∈ [some .resolved, some .missing, some .failed] := by
  have hreachable : Reachable stalled := (Reachable.start .up "http://h/" 20000 8000).run _
  have hunasked : ∀ icao, Event.lookup icao ∉ sluggish := by simp [sluggish]
  have hkept : ∀ e ∈ sluggish, ¬e.Renews := by decide
  have helapsed : stalled.clock + stalled.timeout = (stalled.run sluggish).clock := by decide +kernel
  obtain ⟨-, hruns⟩ := pending_in_time hreachable.visited
  obtain ⟨hnone, hsettled⟩ := hruns hreachable sluggish hunasked (Nat.le_of_eq helapsed)
  exact ⟨hreachable, hunasked, hkept, helapsed, by decide +kernel, hnone, by decide +kernel,
    hsettled hkept "EGCC" (by decide +kernel)⟩

end Live.State

end DepartureRules
