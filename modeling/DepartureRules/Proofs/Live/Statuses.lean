import DepartureRules.Proofs.Live.Outcome

/-!
# The status of an airport

What can be said of an airport wherever a source comes through.

* `one_state_per_airport`: it is in one part of the cache at most, so it is reported as resolved exactly when
  it is in the index, and only then rules are found for it;
* `pending_iff_fetching`: it is pending exactly while it waits for the one request that will settle it.
-/

namespace DepartureRules.Live.State
set_option autoImplicit false

theorem status_lookup (s : State) (icao : String) :
    (s.lookup icao).1 = (s.cache.status? icao).getD .pending := by
  unfold lookup
  cases s.cache.status? icao <;> rfl

theorem lookup_eq_resolved_iff {s : State} {icao : String} (h : s.cache.Exclusive icao) :
    (s.lookup icao).1 = .resolved ↔ s.cache.index.contains icao = true := by
  rw [status_lookup, ← h.status?_eq_resolved_iff]
  cases s.cache.status? icao <;> simp

theorem contains_of_rules? {s : State} {icao point : String} {rules : RuleSet}
    (h : s.rules? icao point = some rules) : s.cache.index.contains icao = true := by
  obtain ⟨departures, hget, -⟩ := Option.bind_eq_some_iff.1 h
  rw [Register.contains, hget]
  rfl

/-- An airport is in one of the four parts of the cache at most. It is reported as resolved exactly when it is
in the index, and rules are found only then. -/
theorem one_state_per_airport {s : State} (h : Visited s) (icao : String) :
    s.cache.Exclusive icao ∧ ((s.lookup icao).1 = .resolved ↔ s.cache.index.contains icao = true) ∧
      ∀ point rules, s.rules? icao point = some rules → (s.lookup icao).1 = .resolved := by
  have hexclusive := h.tracked.tracks.exclusive icao
  have hiff := lookup_eq_resolved_iff hexclusive
  refine ⟨hexclusive, hiff, fun point rules hrules => ?_⟩
  exact hiff.2 (contains_of_rules? hrules)

/-- A source with a resolved, a missing, a failed and a pending airport. -/
def mixed : State :=
  (opening .up "http://h/" 20000 0).moves [
    .event .update,
    .event (.lookup "EGLL"),
    .event (.lookup "EGKK"),
    .event (.lookup "EGSS"),
    .event (.lookup "EGCC"),
    .event (.answer (.asked 1) (.document "[\x7b\"icao\":\"EGLL\",\"sids\":[\x7b\"point\":\"CPT\"\x7d]\x7d]")),
    .event (.answer (.asked 2) .notFound),
    .event (.answer (.asked 3) .failed)]

theorem resolved_of_mixed :
    Visited mixed ∧ mixed.cache.index.contains "EGLL" = true ∧ mixed.rules? "EGLL" "CPT" = some {} ∧
      (mixed.lookup "EGLL").1 = .resolved ∧ (mixed.lookup "EGKK").1 = .missing ∧
      (mixed.lookup "EGSS").1 = .failed ∧ (mixed.lookup "EGCC").1 = .pending := by
  have hvisited : Visited mixed := (Visited.opening .up "http://h/" 20000 0).moves _
  have hrules : mixed.rules? "EGLL" "CPT" = some {} := by decide +kernel
  obtain ⟨-, hiff, hresolved⟩ := one_state_per_airport hvisited "EGLL"
  have hstatus := hresolved "CPT" {} hrules
  exact ⟨hvisited, hiff.1 hstatus, hrules, hstatus, by decide +kernel, by decide +kernel, by decide +kernel⟩

/-! ## Pending airports -/

/-- A request that counts leaves its airport resolved, missing or failed, whatever it ends with. -/
theorem settled_of_finish {s : State} (h : s.Tracked) {r : Request} (hr : r ∈ s.inFlight) {icao : String}
    (hfetch : s.isFetch icao r = true) (reply : Reply) :
    (s.finish r reply).cache.status? icao ∈ [some .resolved, some .missing, some .failed] := by
  have hone := h.fetchCount_eq_one hr hfetch
  rw [cache_finish_of_isFetch hfetch]
  cases hindex : (s.cache.index.load (airportAnswer reply).airports).contains icao with
  | true =>
    have hexclusive := (h.tracks.settle hone (airportAnswer reply)).exclusive icao
    have hresolved := hexclusive.status?_eq_resolved_iff.2 ((s.cache.index_settle icao _).symm ▸ hindex)
    rw [hresolved]
    exact List.mem_cons_self
  | false =>
    rw [h.tracks.status?_settle_self hone _ hindex]
    split <;> simp

/-- An airport is pending exactly while it is not resolved and one request for it is unfinished that was
launched in the present generation. No such request is left unrecorded, and each of them settles its airport
when it ends. -/
theorem pending_iff_fetching {s : State} (h : Visited s) (icao : String) :
    (icao ∈ s.cache.pending ↔ s.cache.index.contains icao = false ∧ s.fetchCount icao = 1) ∧
      (s.cache.index.contains icao = false → 0 < s.fetchCount icao → icao ∈ s.cache.pending) ∧
      ∀ r ∈ s.inFlight, s.isFetch icao r = true → ∀ reply,
        (s.finish r reply).cache.status? icao ∈ [some .resolved, some .missing, some .failed] := by
  have hiff := h.tracked.tracks.pending_iff icao
  refine ⟨hiff, fun hunresolved hfetched => ?_, fun r hr hfetch => settled_of_finish h.tracked hr hfetch⟩
  have hle := h.tracked.tracks.count_le icao
  exact hiff.2 ⟨hunresolved, by omega⟩

/-- A source that was asked for an airport, forgot it and was asked again, with both requests unfinished, and
for another airport that a foreign answer has resolved while its own request is still unfinished. -/
def reopened : State :=
  (opening .up "http://h/" 20000 0).moves [
    .event (.lookup "EGLL"),
    .event .invalidate,
    .event (.lookup "EGLL"),
    .event (.lookup "EGKK"),
    .event (.lookup "EGSS"),
    .event (.answer (.asked 4) (.document "[\x7b\"icao\":\"EGKK\",\"sids\":[]\x7d]"))]

theorem pending_of_reopened :
    Visited reopened ∧ "EGLL" ∈ reopened.cache.pending ∧ reopened.inFlight.length = 4 ∧
      reopened.fetchCount "EGLL" = 1 ∧ reopened.fetchCount "EGKK" = 1 ∧
      "EGKK" ∉ reopened.cache.pending := by
  have hvisited : Visited reopened := (Visited.opening .up "http://h/" 20000 0).moves _
  have hunresolved : reopened.cache.index.contains "EGLL" = false := by decide +kernel
  have hone : reopened.fetchCount "EGLL" = 1 := by decide +kernel
  have hresolved : reopened.cache.index.contains "EGKK" = true := by decide +kernel
  obtain ⟨hiff, -, -⟩ := pending_iff_fetching hvisited "EGLL"
  obtain ⟨hiff', -, -⟩ := pending_iff_fetching hvisited "EGKK"
  refine ⟨hvisited, hiff.2 ⟨hunresolved, hone⟩, by decide +kernel, hone, by decide +kernel, fun hpending => ?_⟩
  rw [(hiff'.1 hpending).1] at hresolved
  cases hresolved

end DepartureRules.Live.State
