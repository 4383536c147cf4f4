import DepartureRules.Proofs.Live.Numbering
import DepartureRules.Proofs.Live.Settling

/-!
# Pending airports and their requests

An airport is pending exactly while it is not resolved and a request for it is in flight that was launched in
the present generation. There is never more than one such request, and the airport of one is neither missing
nor failed.

* `Cache.Tracks` is this invariant, with the numbers of such requests as a function of the airport;
* `Tracks.await`, `Tracks.settle` and `tracks_ofAirports` are what keeps it in the cache;
* `State.Tracked` is the invariant of a source, and `Visited.tracked` says that it holds wherever a source
  comes through, whichever answers come in whichever order.
-/

namespace DepartureRules
set_option autoImplicit false

/-! ## The cache -/

namespace Cache
open RuleIndex

/-- The cache fits with a number of present requests for each airport. -/
structure Tracks (c : Cache) (count : String → Nat) : Prop where
  count_le : ∀ icao, count icao ≤ 1
  pending_iff : ∀ icao, icao ∈ c.pending ↔ c.index.contains icao = false ∧ count icao = 1
  not_missing : ∀ icao, count icao = 1 → icao ∉ c.missing
  not_failed : ∀ icao, count icao = 1 → icao ∉ c.failed
  missing_failed : ∀ icao, icao ∈ c.missing → icao ∉ c.failed
  resolved_missing : ∀ icao, c.index.contains icao = true → icao ∉ c.missing
  resolved_failed : ∀ icao, c.index.contains icao = true → icao ∉ c.failed

namespace Tracks
variable {c : Cache} {count : String → Nat}

theorem exclusive (h : c.Tracks count) (icao : String) : c.Exclusive icao where
  pending_missing := fun hp => h.not_missing icao ((h.pending_iff icao).1 hp).2
  pending_failed := fun hp => h.not_failed icao ((h.pending_iff icao).1 hp).2
  missing_failed := h.missing_failed icao
  resolved_pending := by
    intro hr hp
    rw [((h.pending_iff icao).1 hp).1] at hr
    cases hr
  resolved_missing := h.resolved_missing icao
  resolved_failed := h.resolved_failed icao

/-- No request is in flight for an airport of which nothing is known. -/
theorem count_eq_zero (h : c.Tracks count) {icao : String} (unknown : c.status? icao = none) :
    count icao = 0 := by
  obtain ⟨-, -, hp, hr⟩ := (status?_eq_none_iff c icao).1 unknown
  have hne : count icao ≠ 1 := fun e => hp ((h.pending_iff icao).2 ⟨hr, e⟩)
  have hle := h.count_le icao
  omega

theorem await (h : c.Tracks count) {icao : String} (unknown : c.status? icao = none) :
    (c.await icao).Tracks fun x => count x + if x = icao then 1 else 0 := by
  have hzero := h.count_eq_zero unknown
  obtain ⟨hf, hm, -, hr⟩ := (status?_eq_none_iff c icao).1 unknown
  refine ⟨fun x => ?_, fun x => ?_, fun x hx => ?_, fun x hx => ?_, h.missing_failed, h.resolved_missing,
    h.resolved_failed⟩
  · have hle := h.count_le x
    by_cases hxi : x = icao
    · subst hxi
      simp [hzero]
    · simpa [hxi] using hle
  · show x ∈ c.pending.insert icao ↔ c.index.contains x = false ∧ _
    rw [List.mem_insert_iff, h.pending_iff]
    by_cases hxi : x = icao
    · subst hxi
      simp [hzero, hr]
    · simp [hxi]
  · by_cases hxi : x = icao
    · rw [hxi]
      exact hm
    · simp only [hxi, if_false, Nat.add_zero] at hx
      exact h.not_missing x hx
  · by_cases hxi : x = icao
    · rw [hxi]
      exact hf
    · simp only [hxi, if_false, Nat.add_zero] at hx
      exact h.not_failed x hx

/-- When the request for an airport ends, every set loses the listed airports, and the airport itself is in
one of the sets afterwards or resolved. -/
theorem settle (h : c.Tracks count) {icao : String} (one : count icao = 1)
    (answer : Answer (List AirportRecord)) :
    (c.settle icao answer).Tracks fun x => count x - if x = icao then 1 else 0 := by
  have hnm := h.not_missing icao one
  have hnf := h.not_failed icao one
  have hold : ∀ x, count x - (if x = icao then 1 else 0) = 1 → count x = 1 ∧ x ≠ icao := by
    intro x hx
    by_cases hxi : x = icao
    · subst hxi
      simp [one] at hx
    · simpa [hxi] using hx
  refine ⟨fun x => ?_, fun x => ?_, fun x hx => ?_, fun x hx => ?_, fun x hx => ?_, fun x hx => ?_,
    fun x hx => ?_⟩
  · have hle := h.count_le x
    omega
  · rw [mem_pending_settle, index_settle, h.pending_iff, contains_load_eq_false_iff]
    by_cases hxi : x = icao
    · subst hxi
      simp [one]
    · simp only [hxi, if_false, Nat.sub_zero, ne_eq, not_false_eq_true, true_and]
      exact ⟨fun e => ⟨⟨e.2, e.1.1⟩, e.1.2⟩, fun e => ⟨⟨e.1.2, e.2⟩, e.1.1⟩⟩
  · obtain ⟨hone, hne⟩ := hold x hx
    rw [mem_missing_settle]
    exact fun e => e.elim (fun e => h.not_missing x hone e.1) fun e => hne e.1
  · obtain ⟨hone, hne⟩ := hold x hx
    rw [mem_failed_settle]
    exact fun e => e.elim (fun e => h.not_failed x hone e.1) fun e => hne e.1
  · rw [mem_missing_settle] at hx
    rw [mem_failed_settle]
    rcases hx with ⟨hx, -⟩ | ⟨rfl, hne, -⟩
    · rintro (⟨hf, -⟩ | ⟨rfl, -, -⟩)
      · exact h.missing_failed x hx hf
      · exact hnm hx
    · rintro (⟨hf, -⟩ | ⟨-, heq, -⟩)
      · exact hnf hf
      · exact hne heq
  · rw [index_settle] at hx
    rw [mem_missing_settle]
    rintro (⟨hm, hnot⟩ | ⟨rfl, -, hfalse⟩)
    · rcases (contains_load _ _ x).1 hx with hlisted | hr
      · exact hnot hlisted
      · exact h.resolved_missing x hr hm
    · rw [hx] at hfalse
      cases hfalse
  · rw [index_settle] at hx
    rw [mem_failed_settle]
    rintro (⟨hf, hnot⟩ | ⟨rfl, -, hfalse⟩)
    · rcases (contains_load _ _ x).1 hx with hlisted | hr
      · exact hnot hlisted
      · exact h.resolved_failed x hr hf
    · rw [hx] at hfalse
      cases hfalse

end Tracks

theorem tracks_ofAirports (airports : List AirportRecord) : (ofAirports airports).Tracks fun _ => 0 := by
  have hp : ∀ x, x ∉ (ofAirports airports).pending := fun x hx =>
    absurd ((mem_pending_load _ _ x).1 hx).1 List.not_mem_nil
  have hm : ∀ x, x ∉ (ofAirports airports).missing := fun x hx =>
    absurd ((mem_missing_load _ _ x).1 hx).1 List.not_mem_nil
  have hf : ∀ x, x ∉ (ofAirports airports).failed := fun x hx =>
    absurd ((mem_failed_load _ _ x).1 hx).1 List.not_mem_nil
  exact ⟨fun _ => Nat.zero_le 1, fun x => iff_of_false (hp x) nofun, fun x _ => hm x, fun x _ => hf x,
    fun x _ => hf x, fun x _ => hm x, fun x _ => hf x⟩

end Cache

/-! ## The source -/

namespace Live.State

/-- The request asks for an airport, and its answer still counts. -/
def isFetch (s : State) (icao : String) (r : Request) : Bool :=
  r.purpose == .airport icao && r.generation == s.generation

/-- The number of requests in flight for an airport whose answers still count. -/
def fetchCount (s : State) (icao : String) : Nat :=
  s.inFlight.countP (s.isFetch icao)

theorem isFetch_iff {s : State} {icao : String} {r : Request} :
    s.isFetch icao r = true ↔ r.purpose = .airport icao ∧ r.generation = s.generation := by
  simp [isFetch]

/-- A request in flight is the fetch of one airport, or of none. -/
theorem isFetch_cases (s : State) (r : Request) :
    (∃ icao, ∀ x, s.isFetch x r = true ↔ x = icao) ∨ ∀ x, s.isFetch x r = false := by
  by_cases hfetch : ∃ icao, s.isFetch icao r = true
  · obtain ⟨icao, hicao⟩ := hfetch
    obtain ⟨hpurpose, hgeneration⟩ := isFetch_iff.1 hicao
    refine .inl ⟨icao, fun x => ?_⟩
    rw [isFetch_iff, hpurpose, Purpose.airport.injEq, and_iff_left hgeneration, eq_comm]
  · exact .inr fun x => Bool.eq_false_iff.2 fun e => hfetch ⟨x, e⟩

theorem fetchCount_launch (s : State) (c : Cache) (purpose : Purpose) (x : String) :
    ({ s with cache := c }.launch purpose).fetchCount x =
      s.fetchCount x + if purpose = .airport x then 1 else 0 := by
  have hnew : (s.isFetch x ({ s with cache := c }.newRequest s.base (.asked s.asked) purpose) = true) =
      (purpose = .airport x) := by
    rw [isFetch_iff]
    simp [newRequest]
  show (s.inFlight ++ [_]).countP (s.isFetch x) = _
  rw [List.countP_append, List.countP_singleton]
  simp only [hnew]
  rfl

theorem fetchCount_fire (s : State) (l : RefreshLoop) (x : String) :
    (s.fire l).fetchCount x = s.fetchCount x := by
  show (s.inFlight ++ [_]).countP (s.isFetch x) = _
  rw [List.countP_append, List.countP_singleton, if_neg (by simp [isFetch_iff, loopRequest, newRequest])]
  rfl

theorem fetchCount_finish {s : State} (h : s.Numbered) {r : Request} (hr : r ∈ s.inFlight) (reply : Reply)
    (x : String) :
    s.fetchCount x = (s.finish r reply).fetchCount x + if s.isFetch x r then 1 else 0 := by
  show s.inFlight.countP (s.isFetch x) = (s.inFlightWithout r.id).countP (s.isFetch x) + _
  rw [(h.perm_inFlight hr).countP_eq, List.countP_cons]

theorem fetchCount_redirect {s : State} (h : s.Numbered) {r : Request} (hr : r ∈ s.inFlight)
    (location : String) (x : String) : (s.redirect r location).fetchCount x = s.fetchCount x := by
  show (s.inFlightWithout r.id ++ [_]).countP (s.isFetch x) = s.inFlight.countP (s.isFetch x)
  rw [(h.perm_inFlight hr).countP_eq, List.countP_append, List.countP_singleton, List.countP_cons]
  rfl

/-- In a new generation no answer counts that was asked for before. -/
theorem fetchCount_replace {s : State} (h : ∀ r ∈ s.inFlight, r.generation ≤ s.generation)
    (airports : List AirportRecord) (x : String) : (s.replace airports).fetchCount x = 0 := by
  show (s.inFlight ++ [_]).countP ((s.replace airports).isFetch x) = 0
  rw [List.countP_eq_zero]
  intro r hr
  rw [isFetch_iff]
  rintro ⟨hpurpose, hgeneration⟩
  rcases List.mem_append.1 hr with hr | hr
  · exact absurd (hgeneration ▸ h r hr) (Nat.not_succ_le_self _)
  · rw [List.mem_singleton.1 hr] at hpurpose
    cases hpurpose

theorem generation_le_concat {s : State} (h : ∀ r ∈ s.inFlight, r.generation ≤ s.generation) (base : String)
    (id : RequestId) (purpose : Purpose) :
    ∀ r ∈ s.inFlight ++ [s.newRequest base id purpose], r.generation ≤ s.generation :=
  forall_mem_concat h (Nat.le_refl _)

/-- A request whose answer counts settles its airport. -/
theorem cache_finish_of_isFetch {s : State} {icao : String} {r : Request} (h : s.isFetch icao r = true)
    (reply : Reply) : (s.finish r reply).cache = s.cache.settle icao (airportAnswer reply) := by
  obtain ⟨hpurpose, hgeneration⟩ := isFetch_iff.1 h
  show s.cacheAfter r reply = _
  simp only [cacheAfter, hpurpose, hgeneration, if_true]

theorem cache_finish_of_not_isFetch {s : State} {r : Request} (h : ∀ icao, s.isFetch icao r = false)
    (reply : Reply) : (s.finish r reply).cache = s.cache := by
  show s.cacheAfter r reply = s.cache
  cases hpurpose : r.purpose with
  | referenceTime => simp only [cacheAfter, hpurpose]
  | airport icao =>
    have hgeneration : r.generation ≠ s.generation := by
      intro e
      have hfalse := h icao
      rw [isFetch_iff.2 ⟨hpurpose, e⟩] at hfalse
      cases hfalse
    simp only [cacheAfter, hpurpose, hgeneration, if_false]

/-- What holds of the requests and of the cache of a source. -/
structure Tracked (s : State) : Prop where
  numbered : s.Numbered
  generation_le : ∀ r ∈ s.inFlight, r.generation ≤ s.generation
  tracks : s.cache.Tracks s.fetchCount

namespace Tracked
variable {s : State}

theorem fetchCount_eq_one (h : s.Tracked) {r : Request} (hr : r ∈ s.inFlight) {icao : String}
    (hfetch : s.isFetch icao r = true) : s.fetchCount icao = 1 := by
  have hpos : 0 < s.fetchCount icao := List.countP_pos_iff.2 ⟨r, hr, hfetch⟩
  have hle := h.tracks.count_le icao
  omega

theorem finish (h : s.Tracked) {r : Request} (hr : r ∈ s.inFlight) (reply : Reply) :
    (s.finish r reply).Tracked := by
  refine ⟨h.numbered.finish r reply, fun r' hr' => h.generation_le r' (mem_inFlightWithout.1 hr').1, ?_⟩
  rcases isFetch_cases s r with ⟨icao, hfetch⟩ | hnot
  · have hcount : (s.finish r reply).fetchCount = fun x => s.fetchCount x - if x = icao then 1 else 0 := by
      funext x
      have hsplit := fetchCount_finish h.numbered hr reply x
      simp only [hfetch] at hsplit
      omega
    rw [cache_finish_of_isFetch ((hfetch icao).2 rfl), hcount]
    exact h.tracks.settle (h.fetchCount_eq_one hr ((hfetch icao).2 rfl)) _
  · have hcount : (s.finish r reply).fetchCount = s.fetchCount := by
      funext x
      have hsplit := fetchCount_finish h.numbered hr reply x
      rw [hnot x] at hsplit
      simpa using hsplit.symm
    rw [cache_finish_of_not_isFetch hnot, hcount]
    exact h.tracks

theorem redirect (h : s.Tracked) {r : Request} (hr : r ∈ s.inFlight) (location : String) :
    (s.redirect r location).Tracked := by
  refine ⟨h.numbered.redirect hr location, ?_, ?_⟩
  · exact forall_mem_concat (fun r' hr' => h.generation_le r' (mem_inFlightWithout.1 hr').1)
      (h.generation_le r hr)
  · have hcount : (s.redirect r location).fetchCount = s.fetchCount :=
      funext (fetchCount_redirect h.numbered hr location)
    rw [hcount]
    exact h.tracks

theorem effect {s' : State} (h : s.Tracked) (he : Effect s s') : s'.Tracked := by
  have hnumbered := h.numbered.effect he
  cases he with
  | quiet base span loopBase unread => exact ⟨hnumbered, h.generation_le, h.tracks⟩
  | fetch icao unknown =>
    refine ⟨hnumbered, generation_le_concat h.generation_le _ _ _, ?_⟩
    have hcount : ({ s with cache := s.cache.await icao }.launch (.airport icao)).fetchCount =
        fun x => s.fetchCount x + if x = icao then 1 else 0 := by
      funext x
      have hsame : (Purpose.airport icao = .airport x) = (x = icao) := by
        rw [Purpose.airport.injEq, eq_comm (a := icao)]
      rw [fetchCount_launch]
      simp only [hsame]
    rw [hcount]
    exact h.tracks.await unknown
  | update =>
    refine ⟨hnumbered, generation_le_concat h.generation_le _ _ _, ?_⟩
    have hcount : s.update.fetchCount = s.fetchCount := funext fun x => fetchCount_launch s s.cache _ x
    rw [hcount]
    exact h.tracks
  | fire l hl due idle =>
    refine ⟨hnumbered, generation_le_concat h.generation_le _ _ _, ?_⟩
    have hcount : (s.fire l).fetchCount = s.fetchCount := funext (fetchCount_fire s l)
    rw [hcount]
    exact h.tracks
  | finish r hr reply => exact h.finish hr reply
  | redirect r hr location first => exact h.redirect hr location
  | replace airports =>
    have hlater : ∀ r ∈ s.inFlight, r.generation ≤ s.generation + 1 := fun r hr =>
      Nat.le_succ_of_le (h.generation_le r hr)
    have hcount : (s.replace airports).fetchCount = fun _ => 0 :=
      funext (fetchCount_replace h.generation_le airports)
    refine ⟨hnumbered, generation_le_concat (s := { s with generation := s.generation + 1 }) hlater _ _ _, ?_⟩
    rw [hcount]
    exact Cache.tracks_ofAirports airports

end Tracked

theorem Visited.tracked {s : State} (h : Visited s) : s.Tracked :=
  h.induct (fun _ _ _ _ => ⟨(Visited.opening _ _ _ _).numbered, nofun, Cache.tracks_ofAirports []⟩)
    fun _ _ hs he => hs.effect he

end Live.State

end DepartureRules
