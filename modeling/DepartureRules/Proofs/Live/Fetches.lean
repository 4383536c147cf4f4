import DepartureRules.Proofs.Live.Advance
import DepartureRules.Proofs.Live.Routing
import DepartureRules.Proofs.Source.Consulted

/-!
# One fetch in a generation

A source asks its server for an airport once in a generation, however often it is asked for the airport itself.

* `Use` is a move or the check of a plan, and `use_eq_move` says that a check is a move as well;
* `State.fetches` are the requests for an airport that are launched along a row of uses;
* `State.credit` is the number of fetches that an airport has left: one while nothing is known of it. A launch takes it,
  and as no status goes back to unknown it is not given again;
* `fetched_once`: so there is one fetch at most between two renewals, and none of an airport that is known.
-/

namespace DepartureRules
set_option autoImplicit false

namespace Cache
open RuleIndex

/-- The cache of a document knows the airports that the document lists. -/
theorem status?_ofAirports (airports : List AirportRecord) (icao : String) :
    (ofAirports airports).status? icao = if icao ∈ listed airports then some .resolved else none := by
  by_cases hlisted : icao ∈ listed airports
  · rw [if_pos hlisted, ((tracks_ofAirports airports).exclusive icao).status?_eq_resolved_iff, ofAirports, index_load,
      contains_load]
    exact .inl hlisted
  · rw [if_neg hlisted, status?_eq_none_iff, ofAirports, mem_failed_load, mem_missing_load, mem_pending_load,
      index_load, contains_load_eq_false_iff]
    exact ⟨fun h => List.not_mem_nil h.1, fun h => List.not_mem_nil h.1, fun h => List.not_mem_nil h.1, hlisted, rfl⟩

end Cache

namespace Live

/-- What is done with a source. -/
inductive Use
  | move (m : Move)
  /-- A plan is checked with the rules of the source. -/
  | check (plan : FlightPlan)

/-- The use begins a new generation. -/
def Use.Renews : Use → Prop
  | .move m => m.Renews
  | .check _ => False

instance : DecidablePred Use.Renews
  | .move m => inferInstanceAs (Decidable m.Renews)
  | .check _ => inferInstanceAs (Decidable False)

namespace State
variable {s : State} {icao : String}

def use (s : State) : Use → State
  | .move m => s.move m
  | .check plan => (Checker.check source plan s).2

def uses (s : State) (us : List Use) : State :=
  us.foldl use s

/-- The requests for an airport that are in flight in the second state and had not been launched in the first. -/
def launchedFor (s t : State) (icao : String) : List Request :=
  t.inFlight.filter fun r => !s.given r.id && r.purpose == .airport icao

/-- The requests for an airport that are launched along a row of uses. -/
def fetches (s : State) (icao : String) : List Use → List Request
  | [] => []
  | u :: us => s.launchedFor (s.use u) icao ++ (s.use u).fetches icao us

/-- The fetches that an airport has left. -/
def credit (s : State) (icao : String) : Nat :=
  if s.cache.status? icao = none then 1 else 0

/-! ## Checks -/

/-- A check asks for one airport at most. -/
theorem exists_move_check (s : State) (plan : FlightPlan) :
    ∃ m, ¬m.Renews ∧ (Checker.check source plan s).2 = s.move m := by
  rcases Checker.check_cases plan with ⟨report, -, hreport⟩ | ⟨hifr, origin, destination, hendpoints⟩
  · rw [hreport]
    exact ⟨.event (.load none), nofun, rfl⟩
  · rw [Checker.check_of_says hifr hendpoints (Live.source_says s origin)]
    exact ⟨.event (.lookup origin), nofun, rfl⟩

theorem use_eq_move (s : State) {u : Use} (hu : ¬u.Renews) : ∃ m, ¬m.Renews ∧ s.use u = s.move m := by
  cases u with
  | move m => exact ⟨m, hu, rfl⟩
  | check plan => exact exists_move_check s plan

/-! ## Launches -/

/-- The numbers of the requests in flight have all been given. -/
theorem Numbered.given (h : s.Numbered) {r : Request} (hr : r ∈ s.inFlight) : s.given r.id = true := by
  cases hid : r.id with
  | asked number => exact decide_eq_true (h.asked_lt r hr number hid)
  | loop number =>
    obtain ⟨l, hl, hlt⟩ := h.loop_lt r hr number hid
    rw [State.given, hl]
    exact decide_eq_true hlt

/-- Nothing is launched when the requests in flight are older ones, or not of the kind that is looked for. -/
theorem filter_launched_eq_nil (h : s.Numbered) {t : State} {kind : Request → Bool}
    (hold : ∀ r ∈ t.inFlight, (∃ r' ∈ s.inFlight, r.id = r'.id) ∨ kind r = false) :
    (t.inFlight.filter fun r => !s.given r.id && kind r) = [] := by
  rw [List.filter_eq_nil_iff]
  intro r hr
  rcases hold r hr with ⟨r', hr', hid⟩ | hkind
  · simp [hid, h.given hr']
  · simp [hkind]

theorem filter_launched_concat (h : s.Numbered) {t : State} {r : Request} (ht : t.inFlight = s.inFlight ++ [r])
    (kind : Request → Bool) :
    (t.inFlight.filter fun r => !s.given r.id && kind r) =
      if s.given r.id = false ∧ kind r = true then [r] else [] := by
  have hold : (s.inFlight.filter fun r => !s.given r.id && kind r) = [] :=
    filter_launched_eq_nil h fun r hr => .inl ⟨r, hr, rfl⟩
  rw [ht, List.filter_append, hold, List.nil_append, List.filter_singleton]
  simp

theorem launchedFor_eq_nil {t : State} (h : s.Numbered)
    (hold : ∀ r ∈ t.inFlight, (∃ r' ∈ s.inFlight, r.id = r'.id) ∨ r.purpose = .referenceTime) :
    s.launchedFor t icao = [] := by
  refine filter_launched_eq_nil h fun r hr => (hold r hr).imp_right fun hpurpose => ?_
  rw [hpurpose]
  rfl

theorem launchedFor_concat (h : s.Numbered) {t : State} {r : Request} (ht : t.inFlight = s.inFlight ++ [r]) :
    s.launchedFor t icao = if s.given r.id = false ∧ r.purpose = .airport icao then [r] else [] := by
  rw [launchedFor, filter_launched_concat h ht]
  simp only [beq_iff_eq]

/-- A question for an airport launches a fetch when nothing is known of the airport, and only then. -/
theorem launchedFor_lookup (h : s.Numbered) (icao : String) :
    (s.launchedFor (s.lookup icao).2 icao).length = s.credit icao := by
  unfold lookup credit
  cases hstatus : s.cache.status? icao with
  | some status =>
    have hnil : s.launchedFor s icao = [] := launchedFor_eq_nil h fun r hr => .inl ⟨r, hr, rfl⟩
    simp only [hnil]
    rfl
  | none =>
    have hnew : s.given (.asked s.asked) = false := Routed.given_asked s
    rw [launchedFor_concat h rfl, if_pos ⟨hnew, rfl⟩]
    rfl

/-- Within a generation a move launches no fetch, or the one of an airport that nothing was known of. -/
theorem launchedFor_move (h : Visited s) {m : Move} (hm : ¬m.Renews) (icao : String) :
    s.launchedFor (s.move m) icao = [] ∨
      (s.launchedFor (s.move m) icao).length = 1 ∧ s.cache.status? icao = none ∧
        (s.move m).cache.status? icao = some .pending := by
  have hsame := generation_move_of_not_renews (s := s) hm
  have heffect := effect_move s m
  have hkeeps : ∀ r ∈ s.inFlight, (∃ r' ∈ s.inFlight, r.id = r'.id) ∨ r.purpose = .referenceTime :=
    fun r hr => .inl ⟨r, hr, rfl⟩
  generalize s.move m = s' at hsame heffect ⊢
  cases heffect with
  | quiet base span loopBase unread => exact .inl (launchedFor_eq_nil h.numbered hkeeps)
  | update => exact .inl (launchedFor_eq_nil h.numbered (forall_mem_concat hkeeps (.inr rfl)))
  | fire l hl due idle => exact .inl (launchedFor_eq_nil h.numbered (forall_mem_concat hkeeps (.inr rfl)))
  | finish r hr reply =>
    exact .inl (launchedFor_eq_nil h.numbered fun r' hr' => hkeeps r' (mem_inFlightWithout.1 hr').1)
  | redirect r hr location first =>
    have hothers := fun r' (hr' : r' ∈ s.inFlightWithout r.id) => hkeeps r' (mem_inFlightWithout.1 hr').1
    exact .inl (launchedFor_eq_nil h.numbered (forall_mem_concat hothers (.inl ⟨r, hr, rfl⟩)))
  | replace airports => exact absurd hsame (Nat.succ_ne_self s.generation)
  | fetch asked unknown =>
    have hlaunched : s.launchedFor ({ s with cache := s.cache.await asked }.launch (.airport asked)) icao = _ :=
      launchedFor_concat h.numbered rfl
    rw [hlaunched]
    split
    · rename_i hnew
      obtain ⟨-, hpurpose⟩ := hnew
      cases hpurpose
      exact .inr ⟨rfl, unknown, Cache.status?_await unknown⟩
    · exact .inl rfl

/-! ## Rows of uses -/

theorem credit_le_one (s : State) (icao : String) : s.credit icao ≤ 1 := by
  unfold credit
  split <;> omega

theorem credit_eq_zero (h : s.cache.status? icao ≠ none) : s.credit icao = 0 :=
  if_neg h

/-- No status goes back to unknown, so what a launch takes is not given again. -/
theorem credit_use (h : Visited s) {u : Use} (hu : ¬u.Renews) (icao : String) :
    (s.launchedFor (s.use u) icao).length + (s.use u).credit icao ≤ s.credit icao := by
  obtain ⟨m, hm, hmove⟩ := use_eq_move s hu
  rw [hmove]
  have hadvance := advance_move h hm icao
  rcases launchedFor_move h hm icao with hnil | ⟨hone, hunknown, hpending⟩
  · rw [hnil, List.length_nil, Nat.zero_add]
    by_cases hstatus : s.cache.status? icao = none
    · rw [show s.credit icao = 1 from if_pos hstatus]
      exact credit_le_one _ icao
    · have hknown : (s.move m).cache.status? icao ≠ none := fun hnone => hstatus (eq_none_of_advance (hnone ▸ hadvance))
      rw [credit_eq_zero hknown]
      exact Nat.zero_le _
  · rw [hone, credit_eq_zero (hpending ▸ Option.some_ne_none _), show s.credit icao = 1 from if_pos hunknown]

theorem credit_uses (h : Visited s) {us : List Use} (hus : ∀ u ∈ us, ¬u.Renews) (icao : String) :
    (s.fetches icao us).length + (s.uses us).credit icao ≤ s.credit icao := by
  induction us generalizing s with
  | nil => exact Nat.le_of_eq (Nat.zero_add _)
  | cons u us ih =>
    rw [List.forall_mem_cons] at hus
    have hvisited : Visited (s.use u) := by
      obtain ⟨m, -, hmove⟩ := use_eq_move s hus.1
      exact hmove ▸ h.move m
    have hfirst := credit_use h hus.1 icao
    have hrest := ih hvisited hus.2
    show (s.launchedFor (s.use u) icao ++ (s.use u).fetches icao us).length + ((s.use u).uses us).credit icao ≤ _
    rw [List.length_append]
    omega

theorem fetches_eq_nil (h : Visited s) (known : s.cache.status? icao ≠ none) {us : List Use}
    (hus : ∀ u ∈ us, ¬u.Renews) : s.fetches icao us = [] := by
  have hcredit := credit_uses h hus icao
  rw [credit_eq_zero known] at hcredit
  exact List.eq_nil_of_length_eq_zero (by omega)

theorem load_of_read {text : String} {airports : List AirportRecord} (read : readAirports text = .ok airports) :
    s.load (some text) = (.ok (), s.replace airports) := by
  simp only [load, read]

/-- Between two renewals a source asks for an airport once at most, whatever is done with it and whichever answers
come, and not at all for an airport that is known. So it does not ask for the airports of a file that it has loaded. A
question for an airport of which nothing is known launches a fetch. -/
theorem fetched_once (h : Visited s) (icao : String) :
    (∀ us, (∀ u ∈ us, ¬u.Renews) → (s.fetches icao us).length ≤ 1 ∧
        (s.cache.status? icao ≠ none → s.fetches icao us = [])) ∧
      (∀ text airports, readAirports text = .ok airports → icao ∈ RuleIndex.listed airports →
        ∀ us, (∀ u ∈ us, ¬u.Renews) → (s.move (.event (.load (some text)))).fetches icao us = []) ∧
      (s.launchedFor (s.lookup icao).2 icao).length = if s.cache.status? icao = none then 1 else 0 := by
  refine ⟨fun us hus => ⟨?_, fun known => fetches_eq_nil h known hus⟩, fun text airports read listed us hus => ?_,
    launchedFor_lookup h.numbered icao⟩
  · have hcredit := credit_uses h hus icao
    have hle := credit_le_one s icao
    omega
  · refine fetches_eq_nil (h.move _) ?_ hus
    have hcache : (s.move (.event (.load (some text)))).cache = .ofAirports airports := by
      rw [move, apply, load_of_read read]
      rfl
    rw [hcache, Cache.status?_ofAirports, if_pos listed]
    exact Option.some_ne_none _

/-- Questions, a check and answers. A server fails at one airport and lists another one that is being fetched. -/
def insisting : List Use := [
  .move (.event (.lookup "EGLL")),
  .check { departure := some "egll", destination := some "EGCC", route := some "CPT" },
  .move (.event (.lookup "EGKK")),
  .move (.event (.answer (.asked 0) .failed)),
  .move (.event (.lookup "EGLL")),
  .move (.event (.useServer (some "http://other"))),
  .check { departure := some "EGLL", destination := some "EGCC", route := some "CPT" },
  .move (.event (.answer (.asked 1) (.document "[\x7b\"icao\":\"EGSS\",\"sids\":[]\x7d]"))),
  .move (.event (.lookup "EGSS")),
  .move (.event (.lookup "EGKK"))]

theorem fetches_insisting :
    Visited (opening .up "http://h/" 20000 0) ∧ (∀ u ∈ insisting, ¬u.Renews) ∧
      ((opening .up "http://h/" 20000 0).fetches "EGLL" insisting).length = 1 ∧
      ((opening .up "http://h/" 20000 0).fetches "EGLL" insisting).length ≤ 1 ∧
      (mixed.cache.status? "EGSS" = some .failed ∧ mixed.fetches "EGSS" insisting = []) := by
  have hopening : Visited (opening .up "http://h/" 20000 0) := .opening _ _ _ _
  have hmixed : Visited mixed := hopening.moves _
  have hkept : ∀ u ∈ insisting, ¬u.Renews := by decide
  have hfailed : mixed.cache.status? "EGSS" = some .failed := by decide +kernel
  obtain ⟨honce, -, -⟩ := fetched_once hopening "EGLL"
  obtain ⟨hnone, -, -⟩ := fetched_once hmixed "EGSS"
  exact ⟨hopening, hkept, by decide +kernel, (honce insisting hkept).1, hfailed,
    (hnone insisting hkept).2 (hfailed ▸ Option.some_ne_none _)⟩

end State

end Live

end DepartureRules
