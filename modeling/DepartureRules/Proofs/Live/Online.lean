import DepartureRules.Proofs.Live.Outcome
import DepartureRules.Proofs.Live.Serving
import DepartureRules.Source.Snapshot

/-!
# A source with one airport to fetch

A live source that is asked for one airport, and whose server has both this airport and the reference time, comes to
know what a snapshot of the same document knows.

* `Supplied` says what the server has;
* `State.Holds`: the source says of the airport what a snapshot says;
* `State.Online` holds throughout, `State.Unasked` up to the first question for the airport and `State.Fetching` from
  then on, whichever answers come when;
* `Fetching.request_of_pending`: a pending airport is asked for by a request in flight.
-/

namespace DepartureRules
set_option autoImplicit false

namespace Cache
open RuleIndex
variable {c : Cache} {count : String → Nat} {icao : String}

theorem mem_pending_of_status? (h : c.status? icao = some .pending) : icao ∈ c.pending := by
  unfold status? at h
  split at h
  · cases h
  · split at h
    · cases h
    · split at h
      · rename_i hp
        simpa using hp
      · split at h <;> cases h

theorem status?_await (unknown : c.status? icao = none) : (c.await icao).status? icao = some .pending := by
  obtain ⟨hf, hm, -, -⟩ := (status?_eq_none_iff c icao).1 unknown
  simp [status?, await, hf, hm]

/-- A snapshot says of an airport what the cache says when the document has come that was asked for. -/
theorem Tracks.settle_snapshot (h : c.Tracks count) (pending : icao ∈ c.pending) (airports : List AirportRecord)
    (now : Moment) :
    (c.settle icao (.received airports)).status? icao = some ((Snapshot.ofAirports airports now).status icao) ∧
      ∀ point, (c.settle icao (.received airports)).index.rules? icao point =
        (Snapshot.ofAirports airports now).rules? icao point := by
  obtain ⟨hnew, hone⟩ := (h.pending_iff icao).1 pending
  have hindex : (c.settle icao (.received airports)).index = c.index.load airports := index_settle c icao _
  have hget : (c.index.load airports).get? icao = (Snapshot.ofAirports airports now).index.get? icao := by
    rw [Register.contains, Option.isSome_eq_false_iff, Option.isNone_iff_eq_none] at hnew
    rw [get?_load, hnew, Snapshot.ofAirports, get?_load]
    rfl
  have hcontains : (c.index.load airports).contains icao = (Snapshot.ofAirports airports now).index.contains icao := by
    rw [Register.contains, Register.contains, hget]
  constructor
  · rw [Snapshot.status, ← hcontains]
    cases hlisted : (c.index.load airports).contains icao with
    | true =>
      rw [if_pos rfl, ((h.settle hone _).exclusive icao).status?_eq_resolved_iff, hindex]
      exact hlisted
    | false =>
      rw [if_neg Bool.false_ne_true, h.status?_settle_self hone (.received airports) hlisted]
      rfl
  · intro point
    rw [hindex, rules?, hget]
    rfl

end Cache

namespace Live

/-- Requests for an airport and for the reference time get to the server, which answers the one with a document and the
other with a moment. -/
structure Supplied (network : Network) (server : Server) (base origin document : String) (moment : Moment) : Prop where
  airport : ∃ target, network.target? (Address.airportAddress base origin) = some target ∧
    server.reply target = .document document
  version : ∃ target, network.target? (Address.versionAddress base) = some target ∧
    ∃ body version, server.reply target = .document body ∧ readVersion body = .ok version ∧ version.moment = moment

/-- The request asks for the reference time or for the airport, and its answer counts in the generation. -/
structure Request.Asks (r : Request) (network : Network) (base origin : String) (generation : Nat) : Prop where
  generation_eq : r.generation = generation
  purpose : r.purpose = .airport origin ∨ r.purpose = .referenceTime
  target_eq : r.target = network.target? (r.purpose.address base)

namespace State

/-- The source says of the airport what the snapshot says. -/
structure Holds (s : State) (snapshot : Snapshot) (icao : String) : Prop where
  status_eq : s.cache.status? icao = some (snapshot.status icao)
  rules_eq : ∀ point, s.rules? icao point = snapshot.rules? icao point

/-- The source has asked for nothing but the reference time and one airport, and what it has received is in the
snapshot. -/
structure Online (network : Network) (base origin : String) (snapshot : Snapshot) (s : State) : Prop where
  tracked : s.Tracked
  alive : s.Alive
  network_eq : s.network = network
  base_eq : s.base = base
  unread : s.loopBase = none
  timeout_pos : 0 < s.timeout
  asks : ∀ r ∈ s.inFlight, r.Asks network base origin s.generation
  timed : s.now = snapshot.now ∨
    s.now = .unknown ∧ ∃ r ∈ s.inFlight, r.purpose = .referenceTime ∧ r.began = 0
  known : s.cache.status? origin = none ∨ s.cache.status? origin = some .pending ∨
    s.Holds snapshot origin ∧ s.fetchCount origin = 0

/-- The source has not asked for the airport yet. -/
structure Unasked (network : Network) (base origin : String) (snapshot : Snapshot) (s : State) : Prop extends
    Online network base origin snapshot s where
  unknown : s.cache.status? origin = none

/-- The source knows the reference time, and has asked for the airport at a certain time at the latest. -/
structure Fetching (network : Network) (base origin : String) (snapshot : Snapshot) (since : Nat) (s : State) : Prop
    extends Online network base origin snapshot s where
  now_eq : s.now = snapshot.now
  asked : s.cache.status? origin ≠ none
  began_le : ∀ r ∈ s.inFlight, r.purpose = .airport origin → r.began ≤ since

section
variable {network : Network} {server : Server} {base origin document : String} {airports : List AirportRecord}
  {snapshot : Snapshot} {moment : Moment} {since : Nat} {s : State} {r : Request}

/-- What may be asked for can be sent. -/
theorem newRequest_of_supplied (supplied : Supplied network server base origin document moment)
    (network_eq : s.network = network) (timeout_pos : 0 < s.timeout) (id : RequestId) {purpose : Purpose}
    (hpurpose : purpose = .airport origin ∨ purpose = .referenceTime) :
    s.isDead (s.newRequest base id purpose) = false ∧
      (s.newRequest base id purpose).Asks network base origin s.generation := by
  have htarget : (s.newRequest base id purpose).target = network.target? (purpose.address base) := by
    rw [newRequest, network_eq]
  have hsent : ∃ target, network.target? (purpose.address base) = some target := by
    rcases hpurpose with rfl | rfl
    · exact supplied.airport.imp fun _ h => h.1
    · exact supplied.version.imp fun _ h => h.1
  have hlater : s.clock < s.clock + s.timeout := Nat.lt_add_of_pos_right timeout_pos
  exact ⟨isDead_eq_false_iff.2 ⟨htarget ▸ hsent, hlater⟩, rfl, hpurpose, htarget⟩

/-! ## Answers -/

namespace Online

theorem finish (h : Online network base origin snapshot s) (hr : r ∈ s.inFlight) {reply : Reply}
    (timed : (s.finish r reply).now = snapshot.now ∨ (s.finish r reply).now = .unknown ∧
      ∃ r' ∈ (s.finish r reply).inFlight, r'.purpose = .referenceTime ∧ r'.began = 0)
    (known : (s.finish r reply).cache.status? origin = none ∨
      (s.finish r reply).cache.status? origin = some .pending ∨
      (s.finish r reply).Holds snapshot origin ∧ (s.finish r reply).fetchCount origin = 0) :
    Online network base origin snapshot (s.finish r reply) where
  tracked := h.tracked.finish hr reply
  alive := fun r' hr' => h.alive r' (mem_inFlightWithout.1 hr').1
  network_eq := h.network_eq
  base_eq := h.base_eq
  unread := h.unread
  timeout_pos := h.timeout_pos
  asks := fun r' hr' => h.asks r' (mem_inFlightWithout.1 hr').1
  timed := timed
  known := known

/-- Whoever asks for the airport waits for it. -/
theorem pending_of_mem (h : Online network base origin snapshot s) (hr : r ∈ s.inFlight)
    (hpurpose : r.purpose = .airport origin) : s.isFetch origin r = true ∧ origin ∈ s.cache.pending := by
  have hfetch : s.isFetch origin r = true := isFetch_iff.2 ⟨hpurpose, (h.asks r hr).generation_eq⟩
  have hone := h.tracked.fetchCount_eq_one hr hfetch
  rcases h.known with hnone | hpending | ⟨-, hzero⟩
  · rw [h.tracked.tracks.count_eq_zero hnone] at hone
    cases hone
  · exact ⟨hfetch, Cache.mem_pending_of_status? hpending⟩
  · rw [hzero] at hone
    cases hone

theorem finish_airport (h : Online network base origin snapshot s) (hr : r ∈ s.inFlight)
    (hpurpose : r.purpose = .airport origin) (reply : Reply) (hreply : airportAnswer reply = .received airports)
    (hsnapshot : snapshot = .ofAirports airports snapshot.now) :
    Online network base origin snapshot (s.finish r reply) ∧ (s.finish r reply).now = s.now ∧
      (s.finish r reply).Holds snapshot origin := by
  obtain ⟨hfetch, hpending⟩ := h.pending_of_mem hr hpurpose
  have hnow : (s.finish r reply).now = s.now := by
    show s.nowAfter r reply = s.now
    simp only [nowAfter, hpurpose]
  have hcache := cache_finish_of_isFetch hfetch reply
  have hcount := fetchCount_finish h.tracked.numbered hr reply origin
  rw [h.tracked.fetchCount_eq_one hr hfetch, if_pos hfetch] at hcount
  obtain ⟨hstatus, hrules⟩ := h.tracked.tracks.settle_snapshot hpending airports snapshot.now
  rw [hreply] at hcache
  rw [← hcache, ← hsnapshot] at hstatus hrules
  refine ⟨h.finish hr ?_ (.inr (.inr ⟨⟨hstatus, hrules⟩, by omega⟩)), hnow, hstatus, hrules⟩
  rw [hnow]
  refine h.timed.imp_right fun ⟨hunknown, r', hr', hpurpose', hbegan⟩ => ⟨hunknown, r', ?_, hpurpose', hbegan⟩
  refine mem_inFlightWithout.2 ⟨hr', fun hid => ?_⟩
  rw [h.tracked.numbered.eq_of_id_eq hr' hr hid, hpurpose] at hpurpose'
  cases hpurpose'

theorem finish_version (h : Online network base origin snapshot s) (hr : r ∈ s.inFlight)
    (hpurpose : r.purpose = .referenceTime) (reply : Reply) {version : VersionRecord}
    (hreply : versionAnswer reply = .received version) (hmoment : version.moment = snapshot.now) :
    Online network base origin snapshot (s.finish r reply) ∧ (s.finish r reply).now = snapshot.now ∧
      (s.finish r reply).cache = s.cache := by
  have hnow : (s.finish r reply).now = snapshot.now := by
    show s.nowAfter r reply = _
    simp only [nowAfter, hpurpose, hreply, (h.asks r hr).generation_eq, if_true, hmoment]
  have hnot (icao : String) : s.isFetch icao r = false := by
    rw [isFetch, hpurpose]
    rfl
  have hcache := cache_finish_of_not_isFetch hnot reply
  have hcount := fetchCount_finish h.tracked.numbered hr reply origin
  rw [hnot, if_neg Bool.false_ne_true, Nat.add_zero] at hcount
  refine ⟨h.finish hr (.inl hnow) ?_, hnow, hcache⟩
  rw [hcache, ← hcount]
  rcases h.known with hnone | hpending | ⟨hholds, hzero⟩
  · exact .inl hnone
  · exact .inr (.inl hpending)
  · refine .inr (.inr ⟨⟨?_, fun point => ?_⟩, hzero⟩)
    · rw [hcache, hholds.status_eq]
    · rw [rules?, hcache]
      exact hholds.rules_eq point

/-- The server answers with the document that was asked for. -/
theorem answer_cases (h : Online network base origin snapshot s) {document : String}
    (supplied : Supplied network server base origin document snapshot.now) (hr : r ∈ s.inFlight) {target : String}
    (sent : r.target = some target) :
    (r.purpose = .airport origin ∧ s.answer r (server.reply target) = s.finish r (.document document)) ∨
      (r.purpose = .referenceTime ∧ ∃ body version, readVersion body = .ok version ∧
        version.moment = snapshot.now ∧ s.answer r (server.reply target) = s.finish r (.document body)) := by
  obtain ⟨-, hpurpose, htarget⟩ := h.asks r hr
  rw [sent] at htarget
  rcases hpurpose with hpurpose | hpurpose
  · obtain ⟨target', htarget', hreply⟩ := supplied.airport
    rw [hpurpose, Purpose.address, htarget'] at htarget
    cases htarget
    exact .inl ⟨hpurpose, by rw [hreply]; rfl⟩
  · obtain ⟨target', htarget', body, version, hreply, hread, hmoment⟩ := supplied.version
    rw [hpurpose, Purpose.address, htarget'] at htarget
    cases htarget
    exact .inr ⟨hpurpose, body, version, hread, hmoment, by rw [hreply]; rfl⟩

/-! ## New requests -/

theorem forall_mem_launch (h : Online network base origin snapshot s) {document : String}
    (supplied : Supplied network server base origin document snapshot.now) {base' : String} (base_eq : base' = base)
    (id : RequestId) {purpose : Purpose} (hpurpose : purpose = .airport origin ∨ purpose = .referenceTime) :
    ∀ r ∈ s.inFlight ++ [s.newRequest base' id purpose],
      s.isDead r = false ∧ r.Asks network base origin s.generation := by
  subst base_eq
  exact forall_mem_concat (fun r hr => ⟨h.alive r hr, h.asks r hr⟩)
    (newRequest_of_supplied supplied h.network_eq h.timeout_pos id hpurpose)

theorem fire (h : Online network base origin snapshot s) {document : String}
    (supplied : Supplied network server base origin document snapshot.now) {l : RefreshLoop} (hl : s.loop = some l) :
    Online network base origin snapshot (s.fire l) := by
  have hbase : s.loopBase.getD s.base = base := by rw [h.unread, Option.getD_none, h.base_eq]
  have hall := h.forall_mem_launch supplied hbase (.loop l.launches.length) (.inr rfl)
  refine ⟨?_, fun r hr => (hall r hr).1, h.network_eq, h.base_eq, rfl, h.timeout_pos, fun r hr => (hall r hr).2, ?_, ?_⟩
  · have hcount : (s.fire l).fetchCount = s.fetchCount := funext (fetchCount_fire s l)
    refine ⟨h.tracked.numbered.fire hl, generation_le_concat h.tracked.generation_le _ _ _, ?_⟩
    rw [hcount]
    exact h.tracked.tracks
  · exact h.timed.imp_right (And.imp_right fun ⟨r, hr, hother⟩ => ⟨r, List.mem_append_left _ hr, hother⟩)
  · rw [fetchCount_fire]
    exact h.known.imp_right (Or.imp_right (And.imp_left fun hholds => ⟨hholds.status_eq, hholds.rules_eq⟩))

theorem lookup (h : Online network base origin snapshot s) {document : String}
    (supplied : Supplied network server base origin document snapshot.now) :
    Online network base origin snapshot (s.lookup origin).2 := by
  unfold State.lookup
  split
  · exact h
  · rename_i unknown
    have hall := h.forall_mem_launch supplied h.base_eq (.asked s.asked) (.inl rfl)
    refine ⟨h.tracked.effect (.fetch origin unknown), fun r hr => (hall r hr).1, h.network_eq, h.base_eq, h.unread,
      h.timeout_pos, fun r hr => (hall r hr).2, ?_, .inr (.inl (Cache.status?_await unknown))⟩
    exact h.timed.imp_right (And.imp_right fun ⟨r, hr, hother⟩ => ⟨r, List.mem_append_left _ hr, hother⟩)

/-! ## Time -/

theorem pass (h : Online network base origin snapshot s) {span : Nat}
    (left : ∀ r ∈ s.inFlight, s.clock + span < r.began + s.timeout) :
    Online network base origin snapshot (s.apply (.pass span)) where
  tracked := h.tracked.effect (effect_move s (.event (.pass span)))
  alive := fun r hr => isDead_eq_false_iff.2 ⟨(isDead_eq_false_iff.1 (h.alive r hr)).1, left r hr⟩
  network_eq := h.network_eq
  base_eq := h.base_eq
  unread := rfl
  timeout_pos := h.timeout_pos
  asks := h.asks
  timed := h.timed
  known := h.known.imp_right (Or.imp_right (And.imp_left fun hholds => ⟨hholds.status_eq, hholds.rules_eq⟩))

end Online

/-! ## Before the first question -/

namespace Unasked

theorem purpose_eq (h : Unasked network base origin snapshot s) (hr : r ∈ s.inFlight) : r.purpose = .referenceTime := by
  rcases (h.asks r hr).purpose with hpurpose | hpurpose
  · have hpending := (h.pending_of_mem hr hpurpose).2
    exact absurd hpending ((Cache.status?_eq_none_iff _ _).1 h.unknown).2.2.1
  · exact hpurpose

theorem answer (h : Unasked network base origin snapshot s)
    (supplied : Supplied network server base origin document snapshot.now) (hr : r ∈ s.inFlight) {target : String}
    (sent : r.target = some target) :
    Unasked network base origin snapshot (s.answer r (server.reply target)) := by
  rcases h.answer_cases supplied hr sent with ⟨hpurpose, -⟩ | ⟨hpurpose, body, version, hread, hmoment, hanswer⟩
  · rw [h.purpose_eq hr] at hpurpose
    cases hpurpose
  · rw [hanswer]
    obtain ⟨honline, -, hcache⟩ := h.finish_version hr hpurpose (.document body)
      (by rw [versionAnswer, readAnswer, hread]) hmoment
    exact ⟨honline, hcache ▸ h.unknown⟩

theorem kept (supplied : Supplied network server base origin document snapshot.now) :
    Kept server (Unasked network base origin snapshot) where
  alive := fun h => h.alive
  numbered := fun h => h.tracked.numbered
  fire := fun h hl => ⟨h.toOnline.fire supplied hl, h.unknown⟩
  answer := fun h hr sent => h.answer supplied hr sent
  pass := fun h left => ⟨h.toOnline.pass left, h.unknown⟩

theorem start (supplied : Supplied network server (Address.normalize base) origin document snapshot.now) {timeout : Nat}
    (timeout_pos : 0 < timeout) (period : Nat) :
    Unasked network (Address.normalize base) origin snapshot (.start network base timeout period) := by
  have hvisited := (Visited.opening network base timeout period).move (.event .update)
  have hnew := newRequest_of_supplied (s := opening network base timeout period) supplied rfl timeout_pos (.asked 0)
    (.inr rfl)
  have hall (r : Request) (hr : r ∈ (opening network base timeout period).update.inFlight) :
      (opening network base timeout period).isDead r = false ∧ r.Asks network (Address.normalize base) origin 0 := by
    rw [List.mem_singleton.1 hr]
    exact hnew
  have honline : Online network (Address.normalize base) origin snapshot (opening network base timeout period).update :=
    ⟨hvisited.tracked, fun r hr => (hall r hr).1, rfl, rfl, rfl, timeout_pos, fun r hr => (hall r hr).2,
      .inr ⟨rfl, _, List.mem_cons_self, rfl, rfl⟩, .inl rfl⟩
  exact (kept supplied).settled ⟨honline, rfl⟩

/-- The first question for the airport. -/
theorem fetching (h : Unasked network base origin snapshot s)
    (supplied : Supplied network server base origin document snapshot.now) (now_eq : s.now = snapshot.now) :
    Fetching network base origin snapshot s.clock (s.lookup origin).2 := by
  refine ⟨h.toOnline.lookup supplied, ?_, ?_, ?_⟩
  · rw [State.lookup, h.unknown]
    exact now_eq
  · rw [State.lookup, h.unknown]
    show (s.cache.await origin).status? origin ≠ none
    rw [Cache.status?_await h.unknown]
    exact Option.some_ne_none _
  · rw [State.lookup, h.unknown]
    refine forall_mem_concat (fun r hr hpurpose => ?_) fun _ => Nat.le_refl _
    rw [h.purpose_eq hr] at hpurpose
    cases hpurpose

end Unasked

/-! ## From the first question on -/

namespace Fetching

theorem lookup_eq (h : Fetching network base origin snapshot since s) : (s.lookup origin).2 = s := by
  unfold State.lookup
  split
  · rfl
  · rename_i unknown
    exact absurd unknown h.asked

theorem answer (h : Fetching network base origin (.ofAirports airports moment) since s)
    (supplied : Supplied network server base origin document moment) (read : readAirports document = .ok airports)
    (hr : r ∈ s.inFlight) {target : String} (sent : r.target = some target) :
    Fetching network base origin (.ofAirports airports moment) since (s.answer r (server.reply target)) := by
  have hbegan (reply : Reply) : ∀ r' ∈ (s.finish r reply).inFlight, r'.purpose = .airport origin → r'.began ≤ since :=
    fun r' hr' => h.began_le r' (mem_inFlightWithout.1 hr').1
  rcases h.answer_cases supplied hr sent with ⟨hpurpose, hanswer⟩ | ⟨hpurpose, body, version, hread, hmoment, hanswer⟩
  · rw [hanswer]
    obtain ⟨honline, hnow, hholds⟩ := h.finish_airport hr hpurpose (.document document)
      (by rw [airportAnswer, readAnswer, read]) rfl
    refine ⟨honline, hnow.trans h.now_eq, ?_, hbegan _⟩
    rw [hholds.status_eq]
    exact Option.some_ne_none _
  · rw [hanswer]
    obtain ⟨honline, hnow, hcache⟩ := h.finish_version hr hpurpose (.document body)
      (by rw [versionAnswer, readAnswer, hread]) hmoment
    refine ⟨honline, hnow, ?_, hbegan _⟩
    rw [hcache]
    exact h.asked

theorem fire (h : Fetching network base origin snapshot since s)
    (supplied : Supplied network server base origin document snapshot.now) {l : RefreshLoop} (hl : s.loop = some l) :
    Fetching network base origin snapshot since (s.fire l) :=
  ⟨h.toOnline.fire supplied hl, h.now_eq, h.asked, forall_mem_concat h.began_le nofun⟩

theorem kept (supplied : Supplied network server base origin document moment)
    (read : readAirports document = .ok airports) (since : Nat) :
    Kept server (Fetching network base origin (.ofAirports airports moment) since) where
  alive := fun h => h.alive
  numbered := fun h => h.tracked.numbered
  fire := fun h hl => h.fire supplied hl
  answer := fun h hr sent => h.answer supplied read hr sent
  pass := fun h left => ⟨h.toOnline.pass left, h.now_eq, h.asked, h.began_le⟩

/-- An airport that is pending is asked for by a request in flight, which is as old as the first question. -/
theorem request_of_pending (h : Fetching network base origin snapshot since s)
    (pending : s.cache.status? origin = some .pending) : ∃ r ∈ s.inFlight, r.began ≤ since := by
  have hmem := Cache.mem_pending_of_status? pending
  have hone := ((h.tracked.tracks.pending_iff origin).1 hmem).2
  have hpos : 0 < s.fetchCount origin := by omega
  obtain ⟨r, hr, hfetch⟩ := List.countP_pos_iff.1 hpos
  exact ⟨r, hr, h.began_le r hr (isFetch_iff.1 hfetch).1⟩

end Fetching

end

end State

end Live

end DepartureRules
