import DepartureRules.Proofs.Live.Outcome

/-!
# Answers in any order

Requests for airports are in flight and each of them is given an answer. Whichever answer comes first, and
whatever is asked in between of airports that are known already, the source comes to know the same.

* `State.coming` pairs the airports that are being fetched with the answers that they are given;
* `keeps_of_not_ending?`: a move that ends no request keeps the answers that are coming, and `progress` says what one
  does that ends a request;
* `Drains` relates a state to those in which all answers have come, in any order;
* `drains_moves`: every order of the requests leads to such a state;
* `Drains.status?_eq` and `Drains.rules?_eq` say what is known in it.
-/

namespace DepartureRules.Live
set_option autoImplicit false

namespace State
variable {s t : State} {answers : RequestId → Answer (List AirportRecord)}

/-! ## The answers that are coming -/

/-- The airport that a request asks for, if its answer still counts. -/
def fetched? (s : State) (r : Request) : Option String :=
  match r.purpose with
  | .airport icao => if r.generation = s.generation then some icao else none
  | .referenceTime => none

/-- The airport that a request asks for with the answer that it is given, if the answer still counts. -/
def brings? (s : State) (answers : RequestId → Answer (List AirportRecord)) (r : Request) :
    Option (String × Answer (List AirportRecord)) :=
  (s.fetched? r).map fun icao => (icao, answers r.id)

/-- The airports that are being fetched, with the answers given to their requests. -/
def coming (s : State) (answers : RequestId → Answer (List AirportRecord)) : Coming :=
  s.inFlight.filterMap (s.brings? answers)

theorem fetched?_eq_some_iff {r : Request} {icao : String} :
    s.fetched? r = some icao ↔ s.isFetch icao r = true := by
  rw [isFetch_iff, fetched?]
  cases r.purpose <;> simp [and_comm]

theorem countP_coming (s : State) (answers : RequestId → Answer (List AirportRecord)) (icao : String) :
    (s.coming answers).countP (fun p => p.1 == icao) = s.fetchCount icao := by
  rw [coming, List.countP_filterMap, fetchCount]
  apply List.countP_congr
  intro r _
  rw [← fetched?_eq_some_iff, brings?]
  cases s.fetched? r <;> simp

theorem asks_coming_iff (s : State) (answers : RequestId → Answer (List AirportRecord)) (icao : String) :
    (s.coming answers).Asks icao ↔ 0 < s.fetchCount icao := by
  rw [← countP_coming s answers, List.countP_pos_iff]
  simp [Coming.Asks]

/-- A new request for the reference time is no fetch. -/
theorem filterMap_concat_referenceTime (s : State) (answers : RequestId → Answer (List AirportRecord))
    (base : String) (id : RequestId) :
    (s.inFlight ++ [s.newRequest base id .referenceTime]).filterMap (s.brings? answers) = s.coming answers := by
  rw [List.filterMap_append, coming]
  exact List.append_nil _

theorem coming_update (s : State) (answers : RequestId → Answer (List AirportRecord)) :
    s.update.coming answers = s.coming answers :=
  filterMap_concat_referenceTime s answers _ _

theorem coming_fire (s : State) (l : RefreshLoop) (answers : RequestId → Answer (List AirportRecord)) :
    (s.fire l).coming answers = s.coming answers :=
  filterMap_concat_referenceTime s answers _ _

theorem perm_coming (h : s.Numbered) {r : Request} (hr : r ∈ s.inFlight)
    (answers : RequestId → Answer (List AirportRecord)) :
    (s.coming answers).Perm ((r :: s.inFlightWithout r.id).filterMap (s.brings? answers)) :=
  (h.perm_inFlight hr).filterMap _

/-- A request that is sent on keeps its number, its airport and its generation. -/
theorem coming_redirect (h : s.Numbered) {r : Request} (hr : r ∈ s.inFlight) (location : String)
    (answers : RequestId → Answer (List AirportRecord)) :
    ((s.redirect r location).coming answers).Perm (s.coming answers) := by
  refine List.Perm.trans ?_ (perm_coming h hr answers).symm
  have hlast : ((s.redirect r location).inFlight).Perm (_ :: s.inFlightWithout r.id) :=
    List.perm_append_singleton _ _
  exact hlast.filterMap _

theorem coming_finish_of_isFetch (h : s.Numbered) {r : Request} (hr : r ∈ s.inFlight) {icao : String}
    (hfetch : s.isFetch icao r = true) (reply : Reply) (answers : RequestId → Answer (List AirportRecord)) :
    (s.coming answers).Perm ((icao, answers r.id) :: (s.finish r reply).coming answers) := by
  have hsplit := perm_coming h hr answers
  rw [List.filterMap_cons, brings?, fetched?_eq_some_iff.2 hfetch] at hsplit
  exact hsplit

theorem coming_finish_of_not_isFetch (h : s.Numbered) {r : Request} (hr : r ∈ s.inFlight)
    (hnot : ∀ icao, s.isFetch icao r = false) (reply : Reply)
    (answers : RequestId → Answer (List AirportRecord)) :
    ((s.finish r reply).coming answers).Perm (s.coming answers) := by
  have hsplit := perm_coming h hr answers
  have hnone : s.fetched? r = none := by
    rw [Option.eq_none_iff_forall_ne_some]
    intro icao hicao
    have hfalse := hnot icao
    rw [fetched?_eq_some_iff.1 hicao] at hfalse
    cases hfalse
  rw [List.filterMap_cons, brings?, hnone] at hsplit
  exact hsplit.symm

/-! ## Moves that fetch nothing -/

/-- The move asks for no airport of which nothing is known, and forgets nothing. -/
def Permits (s : State) : Move → Prop
  | .event (.lookup icao) => s.cache.status? icao ≠ none
  | .event (.load _) => False
  | .event .invalidate => False
  | _ => True

/-- A move that ends no request keeps the cache and the answers that are coming. -/
theorem keeps_of_not_ending? (hnumbered : s.Numbered) {m : Move} (permitted : s.Permits m)
    (h : s.ending? m = none) (answers : RequestId → Answer (List AirportRecord)) :
    (s.move m).cache = s.cache ∧ ((s.move m).coming answers).Perm (s.coming answers) := by
  have hchange := change_move s m
  generalize s.move m = s' at hchange ⊢
  cases hchange with
  | fetch icao unknown => exact absurd unknown permitted
  | load read => exact permitted.elim
  | invalidate => exact permitted.elim
  | update => exact ⟨rfl, .of_eq (coming_update s answers)⟩
  | redirect hr location first => exact ⟨rfl, coming_redirect hnumbered (mem_of_request? hr).1 location answers⟩
  | fire l hl due idle => exact ⟨rfl, .of_eq (coming_fire s l answers)⟩
  | answer hr ended =>
    rw [ending?_answer hr ended] at h
    cases h
  | expire hr dead =>
    rw [ending?_expire hr dead] at h
    cases h
  | _ => exact ⟨rfl, .refl _⟩

/-! ## Draining -/

/-- The second state is reached from the first in moves that start no fetch and end each one that counts with
the answer that it is given, until there is none left. -/
inductive Drains (answers : RequestId → Answer (List AirportRecord)) : State → State → Prop
  | rest {s : State} (idle : s.coming answers = []) : Drains answers s s
  | move {s t : State} (m : Move) (permitted : s.Permits m)
      (given : ∀ r reply icao, s.ending? m = some (r, reply) → s.isFetch icao r = true →
        airportAnswer reply = answers r.id)
      (rest : Drains answers (s.move m) t) : Drains answers s t

/-- Such a move changes nothing of the cache, or settles one of the answers that are coming. -/
theorem progress (h : s.Tracked) {m : Move} (permitted : s.Permits m)
    (given : ∀ r reply icao, s.ending? m = some (r, reply) → s.isFetch icao r = true →
      airportAnswer reply = answers r.id) :
    ((s.move m).cache = s.cache ∧ ((s.move m).coming answers).Perm (s.coming answers)) ∨
      ∃ icao answer, s.fetchCount icao = 1 ∧ ¬((s.move m).coming answers).Asks icao ∧
        (s.coming answers).Perm ((icao, answer) :: (s.move m).coming answers) ∧
        (s.move m).cache = s.cache.settle icao answer := by
  cases hending : s.ending? m with
  | none => exact .inl (keeps_of_not_ending? h.numbered permitted hending answers)
  | some ended =>
    obtain ⟨r, reply⟩ := ended
    obtain ⟨hr, hmove⟩ := move_of_ending? hending
    rw [hmove]
    rcases isFetch_cases s r with ⟨icao, hfetch⟩ | hnot
    · have hicao : s.isFetch icao r = true := (hfetch icao).2 rfl
      have hone := h.fetchCount_eq_one hr hicao
      have hsplit := fetchCount_finish h.numbered hr reply icao
      rw [if_pos hicao] at hsplit
      refine .inr ⟨icao, answers r.id, hone, ?_, coming_finish_of_isFetch h.numbered hr hicao reply answers, ?_⟩
      · rw [asks_coming_iff]
        omega
      · rw [← given r reply icao hending hicao]
        exact cache_finish_of_isFetch hicao reply
    · exact .inl ⟨cache_finish_of_not_isFetch hnot reply,
        coming_finish_of_not_isFetch h.numbered hr hnot reply answers⟩

theorem coming_eq_nil_iff (s : State) (answers : RequestId → Answer (List AirportRecord)) :
    s.coming answers = [] ↔ ∀ r ∈ s.inFlight, s.fetched? r = none := by
  rw [coming, List.filterMap_eq_nil_iff]
  simp only [brings?, Option.map_eq_none_iff]

/-- Whatever the order of the requests whose answers count, it leads to a state without any. -/
theorem drains_moves (h : s.Numbered) {order : List Request} (hnodup : order.Nodup)
    (horder : ∀ r, r ∈ order ↔ r ∈ s.inFlight ∧ (s.fetched? r).isSome = true) {replies : RequestId → Reply}
    (hends : ∀ id location, replies id ≠ .redirect location) :
    Drains (fun id => airportAnswer (replies id)) s
      (s.moves (order.map fun r => .event (.answer r.id (replies r.id)))) := by
  induction order generalizing s with
  | nil =>
    refine .rest ((coming_eq_nil_iff s _).2 fun r hr => ?_)
    rw [← Option.not_isSome_iff_eq_none]
    intro hsome
    exact List.not_mem_nil ((horder r).2 ⟨hr, hsome⟩)
  | cons r order ih =>
    rw [List.nodup_cons] at hnodup
    obtain ⟨hr, -⟩ := (horder r).1 List.mem_cons_self
    have hreply : r.ending? (replies r.id) = some (replies r.id) := by
      cases hcase : replies r.id with
      | redirect location => exact absurd hcase (hends r.id location)
      | _ => rfl
    have hending : s.ending? (.event (.answer r.id (replies r.id))) = some (r, replies r.id) := by
      simp only [ending?, h.request?_eq hr, Option.bind_some, hreply, Option.map_some]
    obtain ⟨-, hmove⟩ := move_of_ending? hending
    rw [List.map_cons, moves_cons]
    refine .move (.event (.answer r.id (replies r.id))) trivial (fun r' reply icao hending' hfetch' => ?_) ?_
    · rw [hending] at hending'
      cases hending'
      rfl
    · rw [hmove]
      refine ih (h.finish r _) hnodup.2 fun r' => ?_
      have hiff := horder r'
      rw [List.mem_cons] at hiff
      show _ ↔ r' ∈ s.inFlightWithout r.id ∧ (s.fetched? r').isSome = true
      rw [mem_inFlightWithout]
      constructor
      · intro hr'
        obtain ⟨hmem, hfetch'⟩ := hiff.1 (.inr hr')
        refine ⟨⟨hmem, fun hid => hnodup.1 ?_⟩, hfetch'⟩
        rw [← h.eq_of_id_eq hmem hr hid]
        exact hr'
      · rintro ⟨⟨hmem, hid⟩, hfetch'⟩
        rcases hiff.2 ⟨hmem, hfetch'⟩ with rfl | hr'
        · exact absurd rfl hid
        · exact hr'

theorem Drains.status?_eq (hdrains : Drains answers s t) (h : Visited s) (icao : String) :
    t.cache.status? icao = s.cache.outcome? (s.coming answers) icao := by
  induction hdrains with
  | rest idle => rw [idle, Cache.outcome?_nil]
  | @move s t m permitted given rest ih =>
    rw [ih (h.move m)]
    rcases progress h.tracked permitted given with ⟨hcache, hperm⟩ | ⟨asked, answer, hone, honly, hperm, hcache⟩
    · rw [hcache, Cache.outcome?_congr _ hperm]
    · rw [hcache, h.tracked.tracks.outcome?_settle hone answer honly, Cache.outcome?_congr _ hperm]

theorem Drains.rules?_eq (hdrains : Drains answers s t) (h : Visited s) {icao point : String}
    {found : Option RuleSet} (hfinds : s.cache.Finds (s.coming answers) icao point found) :
    t.rules? icao point = found := by
  induction hdrains with
  | rest idle =>
    rw [idle] at hfinds
    exact hfinds.nil
  | @move s t m permitted given rest ih =>
    apply ih (h.move m)
    rcases progress h.tracked permitted given with ⟨hcache, hperm⟩ | ⟨asked, answer, -, -, hperm, hcache⟩
    · rw [hcache]
      exact hfinds.congr hperm.symm
    · rw [hcache]
      exact (hfinds.congr hperm).settle

/-- In whichever order the answers come, the statuses are the same afterwards, and so are the rules if the
answers agree on the airports that they list. -/
theorem answers_confluent (h : Visited s) (answers : RequestId → Answer (List AirportRecord)) :
    (∀ t, Drains answers s t → ∀ icao,
        t.cache.status? icao = s.cache.outcome? (s.coming answers) icao) ∧
      ((s.coming answers).Agree → ∀ t t', Drains answers s t → Drains answers s t' → ∀ icao point,
        t.rules? icao point = t'.rules? icao point) := by
  refine ⟨fun t ht icao => ht.status?_eq h icao, fun agree t t' ht ht' icao point => ?_⟩
  obtain ⟨found, hfinds⟩ := s.cache.exists_finds agree icao point
  rw [ht.rules?_eq h hfinds, ht'.rules?_eq h hfinds]

/-- A source that fetches two airports. -/
def racing : State :=
  (opening .up "http://h/" 20000 0).moves [.event (.lookup "EGLL"), .event (.lookup "EGKK")]

/-- The server has nothing for the first airport, but lists it in its answer for the second one. -/
def racingReply : RequestId → Reply
  | .asked 0 => .notFound
  | _ => .document "[\x7b\"icao\":\"EGLL\",\"sids\":[\x7b\"point\":\"CPT\"\x7d]\x7d]"

theorem coming_racing : racing.coming (fun id => airportAnswer (racingReply id)) =
    [("EGLL", .notFound), ("EGKK", .received [⟨"EGLL", [⟨"CPT", [], [], []⟩]⟩])] := by
  decide +kernel

theorem agree_racing : (racing.coming fun id => airportAnswer (racingReply id)).Agree := by
  rw [coming_racing]
  intro p hp q hq icao hicao hicao' point
  simp only [List.mem_cons, List.not_mem_nil, or_false] at hp hq
  rcases hp with rfl | rfl
  · cases hicao
  · rcases hq with rfl | rfl
    · cases hicao'
    · rfl

theorem drains_racing {order : List Request} (h : order.Perm racing.inFlight) :
    Drains (fun id => airportAnswer (racingReply id)) racing
      (racing.moves (order.map fun r => .event (.answer r.id (racingReply r.id)))) := by
  have hvisited : Visited racing := (Visited.opening .up "http://h/" 20000 0).moves _
  have hfetches : ∀ r ∈ racing.inFlight, (racing.fetched? r).isSome = true := by decide +kernel
  have hnodup : racing.inFlight.Nodup := by decide +kernel
  refine drains_moves hvisited.numbered (h.nodup_iff.2 hnodup) (fun r => ?_) fun id location => ?_
  · rw [h.mem_iff]
    exact ⟨fun hr => ⟨hr, hfetches r hr⟩, fun hr => hr.1⟩
  · unfold racingReply
    split <;> nofun

theorem confluent_of_racing : ∃ t t',
    Drains (fun id => airportAnswer (racingReply id)) racing t ∧
      Drains (fun id => airportAnswer (racingReply id)) racing t' ∧
      t.cache.status? "EGLL" = some .resolved ∧ t'.cache.status? "EGLL" = some .resolved ∧
      t.cache.status? "EGKK" = some .missing ∧ t'.cache.status? "EGKK" = some .missing ∧
      t.rules? "EGLL" "CPT" = t'.rules? "EGLL" "CPT" := by
  have hvisited : Visited racing := (Visited.opening .up "http://h/" 20000 0).moves _
  have hfirst := drains_racing (.refl _)
  have hlast := drains_racing racing.inFlight.reverse_perm
  obtain ⟨hstatus, hrules⟩ := answers_confluent hvisited fun id => airportAnswer (racingReply id)
  have hresolved : racing.cache.outcome? (racing.coming fun id => airportAnswer (racingReply id)) "EGLL" =
      some .resolved := by decide +kernel
  have hmissing : racing.cache.outcome? (racing.coming fun id => airportAnswer (racingReply id)) "EGKK" =
      some .missing := by decide +kernel
  exact ⟨_, _, hfirst, hlast, (hstatus _ hfirst _).trans hresolved, (hstatus _ hlast _).trans hresolved,
    (hstatus _ hfirst _).trans hmissing, (hstatus _ hlast _).trans hmissing,
    hrules agree_racing _ _ hfirst hlast _ _⟩

end State
end DepartureRules.Live
