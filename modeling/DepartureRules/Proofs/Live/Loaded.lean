import DepartureRules.Proofs.Live.Advance
import DepartureRules.Proofs.Live.Fetches
import DepartureRules.Proofs.Live.Provenance

/-!
# A loaded file

A source that has loaded a file checks plans from the airports of the file as the snapshot of the file does, and has
forgotten all others.

* `cache_move`: within a generation the cache changes with the first question for an airport and with the end of a
  fetch of that generation, so answers to older requests have no part in it;
* `State.FetchesEnd` and `State.FetchesAnswered` say how the fetches of a generation end along moves and along a run;
* `get?_moves` keeps the rules of an airport that no answer lists, `status?_moves` the status of one that is unknown;
* `ChecksAs`: plans from an airport are checked as with the snapshot of a document;
* `loaded_as_snapshot`: so it is after a file was loaded, until an answer to a newer request lists the airport.
-/

namespace DepartureRules.Live
set_option autoImplicit false

/-- The reply brings no rules of the airport. -/
def Reply.Spares (reply : Reply) (icao : String) : Prop :=
  icao ∉ RuleIndex.listed (airportAnswer reply).airports

namespace State
variable {s t : State} {icao : String} {m : Move} {ms : List Move} {P : String → Reply → Prop}

/-! ## What a move does to the cache -/

theorem cache_move_of_not_ending? (hm : ¬m.Renews) (hending : s.ending? m = none) :
    (s.move m).cache = s.cache ∨
      ∃ icao, m = .event (.lookup icao) ∧ s.cache.status? icao = none ∧ (s.move m).cache = s.cache.await icao := by
  have hchange := change_move s m
  generalize s.move m = s' at hchange ⊢
  cases hchange with
  | fetch icao unknown => exact .inr ⟨icao, rfl, unknown, rfl⟩
  | load read => exact absurd (.load read) hm
  | invalidate => exact absurd .invalidate hm
  | answer hr ended =>
    rw [ending?_answer hr ended] at hending
    cases hending
  | expire hr dead =>
    rw [ending?_expire hr dead] at hending
    cases hending
  | _ => exact .inl rfl

/-- Within a generation the cache changes with the first question for an airport and with the end of a fetch. -/
theorem cache_move (s : State) (hm : ¬m.Renews) :
    (s.move m).cache = s.cache ∨
      (∃ icao, m = .event (.lookup icao) ∧ s.cache.status? icao = none ∧ (s.move m).cache = s.cache.await icao) ∨
      ∃ r reply icao, s.ending? m = some (r, reply) ∧ s.isFetch icao r = true ∧
        (s.move m).cache = s.cache.settle icao (airportAnswer reply) := by
  cases hending : s.ending? m with
  | none => exact (cache_move_of_not_ending? hm hending).imp_right .inl
  | some ending =>
    obtain ⟨r, reply⟩ := ending
    obtain ⟨-, hfinish⟩ := move_of_ending? hending
    rw [hfinish]
    rcases isFetch_cases s r with ⟨icao, hfetch⟩ | hnot
    · have hself := (hfetch icao).2 rfl
      exact .inr (.inr ⟨r, reply, icao, rfl, hself, cache_finish_of_isFetch hself reply⟩)
    · exact .inl (cache_finish_of_not_isFetch hnot reply)

/-! ## How fetches end -/

/-- The fetches of the present generation that end along the moves end with such replies. -/
def FetchesEnd (s : State) (ms : List Move) (P : String → Reply → Prop) : Prop :=
  ∀ r reply asked, (r, reply) ∈ s.ended ms → s.isFetch asked r = true → P asked reply

theorem isFetch_move (hm : ¬m.Renews) (icao : String) (r : Request) :
    (s.move m).isFetch icao r = s.isFetch icao r := by
  rw [isFetch, isFetch, generation_move_of_not_renews hm]

theorem fetchesEnd_cons (hm : ¬m.Renews) :
    s.FetchesEnd (m :: ms) P ↔
      (∀ r reply asked, s.ending? m = some (r, reply) → s.isFetch asked r = true → P asked reply) ∧
        (s.move m).FetchesEnd ms P := by
  simp only [FetchesEnd, ended, List.mem_append, Option.mem_toList, isFetch_move hm, or_imp,
    forall_and]

/-- The rules of an airport change only with an answer that lists it. -/
theorem get?_moves (hms : ∀ m ∈ ms, ¬m.Renews) (hspared : s.FetchesEnd ms fun _ reply => reply.Spares icao) :
    (s.moves ms).cache.index.get? icao = s.cache.index.get? icao := by
  induction ms generalizing s with
  | nil => rfl
  | cons m ms ih =>
    rw [List.forall_mem_cons] at hms
    obtain ⟨hfirst, hrest⟩ := (fetchesEnd_cons hms.1).1 hspared
    rw [moves_cons, ih hms.2 hrest]
    rcases cache_move s hms.1 with hsame | ⟨asked, -, -, hawait⟩ | ⟨r, reply, asked, hending, hfetch, hsettle⟩
    · rw [hsame]
    · rw [hawait]
      rfl
    · have hnot := hfirst r reply asked hending hfetch
      rw [hsettle, Cache.index_settle, RuleIndex.get?_load, RuleIndex.get?_ofAirports_of_not_listed hnot,
        Option.none_or]

/-- What is known of an airport changes only with a question for it, with the end of its own fetch and with an answer
that lists it. -/
theorem status?_move (hm : ¬m.Renews)
    (hspared : ∀ r reply asked, s.ending? m = some (r, reply) → s.isFetch asked r = true →
      asked ≠ icao ∧ reply.Spares icao) :
    (s.move m).cache.status? icao = s.cache.status? icao ∨
      m = .event (.lookup icao) ∧ (s.move m).cache.status? icao = some .pending := by
  rcases cache_move s hm with hsame | ⟨asked, hlookup, hunknown, hawait⟩ | ⟨r, reply, asked, hending, hfetch, hsettle⟩
  · exact .inl (by rw [hsame])
  · rw [hawait]
    by_cases hasked : icao = asked
    · subst hasked
      exact .inr ⟨hlookup, Cache.status?_await hunknown⟩
    · exact .inl (Cache.status?_await_of_ne _ hasked)
  · obtain ⟨hne, hnot⟩ := hspared r reply asked hending hfetch
    rw [hsettle]
    exact .inl (Cache.status?_settle_of_not_listed _ hne.symm hnot)

/-- An airport that nothing is known of remains so until it is asked for or listed by an answer. -/
theorem status?_moves_of_not_asked (h : Visited s) (hunknown : s.cache.status? icao = none)
    (hms : ∀ m ∈ ms, ¬m.Renews) (hspared : s.FetchesEnd ms fun _ reply => reply.Spares icao)
    (hasked : Move.event (.lookup icao) ∉ ms) : (s.moves ms).cache.status? icao = none := by
  induction ms generalizing s with
  | nil => exact hunknown
  | cons m ms ih =>
    rw [List.forall_mem_cons] at hms
    rw [List.mem_cons, not_or] at hasked
    obtain ⟨hfirst, hrest⟩ := (fetchesEnd_cons hms.1).1 hspared
    refine ih (h.move m) ?_ hms.2 hrest hasked.2
    have hstep : (s.move m).cache.status? icao = s.cache.status? icao ∨ _ :=
      status?_move hms.1 fun r reply asked hending hfetch => by
        refine ⟨fun heq => ?_, hfirst r reply asked hending hfetch⟩
        -- Nothing is fetched for an airport that nothing is known of.
        subst heq
        have hone := h.tracked.fetchCount_eq_one (move_of_ending? hending).1 hfetch
        rw [h.tracked.tracks.count_eq_zero hunknown] at hone
        cases hone
    rcases hstep with hsame | ⟨hlookup, -⟩
    · rw [hsame, hunknown]
    · exact absurd hlookup.symm hasked.1

/-- While its own fetch has not ended, an airport that nothing was known of is reported as pending. -/
theorem lookup_moves_of_not_ended (hunknown : s.cache.status? icao = none) (hms : ∀ m ∈ ms, ¬m.Renews)
    (hspared : s.FetchesEnd ms fun asked reply => asked ≠ icao ∧ reply.Spares icao) :
    ((s.moves ms).lookup icao).1 = .pending := by
  rw [status_lookup]
  replace hunknown : (s.cache.status? icao).getD .pending = .pending := by
    rw [hunknown]
    rfl
  induction ms generalizing s with
  | nil => exact hunknown
  | cons m ms ih =>
    rw [List.forall_mem_cons] at hms
    obtain ⟨hfirst, hrest⟩ := (fetchesEnd_cons hms.1).1 hspared
    refine ih hms.2 hrest ?_
    rcases status?_move hms.1 hfirst with hsame | ⟨-, hpending⟩
    · rw [hsame, hunknown]
    · rw [hpending]
      rfl

/-! ## Runs -/

/-- The requests that are ended by answers along a run, each with the reply that it ends with. -/
def replied (s : State) : List Event → List (Request × Reply)
  | [] => []
  | e :: es => (s.ending? (.event e)).toList ++ (s.step e).replied es

/-- The fetches of the present generation that are answered along a run end with such replies. -/
def FetchesAnswered (s : State) (es : List Event) (P : String → Reply → Prop) : Prop :=
  ∀ r reply asked, (r, reply) ∈ s.replied es → s.isFetch asked r = true → P asked reply

/-- A request that ends without an answer has failed. -/
theorem ended_of_quiet (hquiet : ∀ e, Move.event e ∉ ms) {r : Request} {reply : Reply} (h : (r, reply) ∈ s.ended ms) :
    reply = .failed := by
  induction ms generalizing s with
  | nil => cases h
  | cons m ms ih =>
    rw [ended, List.mem_append, Option.mem_toList] at h
    rcases h with hfirst | hrest
    · cases m with
      | event e => exact absurd List.mem_cons_self (hquiet e)
      | readBase => cases hfirst
      | fire => cases hfirst
      | expire id =>
        obtain ⟨r', -, hdead⟩ := Option.bind_eq_some_iff.1 hfirst
        split at hdead
        · cases hdead
          rfl
        · cases hdead
    · exact ih (fun e he => hquiet e (List.mem_cons_of_mem m he)) hrest

/-- A source that comes to rest and then runs makes moves with the events of the run among them, and the requests that
end without being answered fail. -/
theorem exists_moves_settled_run (h : Visited s) (es : List Event) :
    ∃ ms, s.settled.run es = s.moves ms ∧ (∀ e, Move.event e ∈ ms → e ∈ es) ∧
      ∀ r reply, (r, reply) ∈ s.ended ms → (r, reply) ∈ s.settled.replied es ∨ reply = .failed := by
  obtain ⟨ms, hms, hquiet⟩ := exists_quiet_moves_settled h
  induction es generalizing s ms with
  | nil => exact ⟨ms, hms, fun e he => absurd he (hquiet e), fun r reply hended => .inr (ended_of_quiet hquiet hended)⟩
  | cons e es ih =>
    have hnext : Visited (s.settled.apply e) := (hms ▸ h.moves ms).move (.event e)
    obtain ⟨next, hrest, hrestQuiet⟩ := exists_quiet_moves_settled hnext
    obtain ⟨ms', hms', hevents, hended⟩ := ih hnext next hrest hrestQuiet
    refine ⟨ms ++ .event e :: ms', ?_, fun e' he' => ?_, fun r reply hmem => ?_⟩
    · rw [moves_append, ← hms]
      exact hms'
    · rcases List.mem_append.1 he' with hhead | htail
      · exact absurd hhead (hquiet e')
      · rcases List.mem_cons.1 htail with heq | hmem
        · cases heq
          exact List.mem_cons_self
        · exact List.mem_cons_of_mem e (hevents e' hmem)
    · rw [ended_append, ← hms, ended, List.mem_append, List.mem_append] at hmem
      rw [replied, List.mem_append]
      rcases hmem with hhead | hanswer | htail
      · exact .inr (ended_of_quiet hquiet hhead)
      · exact .inl (.inl hanswer)
      · exact (hended r reply htail).imp_left .inr

theorem FetchesAnswered.exists_moves (h : Visited s) {es : List Event} (hes : ∀ e ∈ es, ¬e.Renews)
    (hanswered : s.settled.FetchesAnswered es P) (hfailed : ∀ asked, P asked .failed) :
    ∃ ms, s.settled.run es = s.moves ms ∧ (∀ m ∈ ms, ¬m.Renews) ∧ (∀ e, Move.event e ∈ ms → e ∈ es) ∧
      s.FetchesEnd ms P := by
  obtain ⟨ms, hms, hevents, hended⟩ := exists_moves_settled_run h es
  refine ⟨ms, hms, fun m hm => ?_, hevents, fun r reply asked hmem hfetch => ?_⟩
  · cases m with
    | event e => exact hes e (hevents e hm)
    | expire id => exact nofun
    | readBase => exact nofun
    | fire => exact nofun
  · rcases hended r reply hmem with hreplied | rfl
    · refine hanswered r reply asked hreplied ?_
      rwa [isFetch, generation_settled]
    · exact hfailed asked

theorem spares_failed (icao : String) : Reply.failed.Spares icao :=
  List.not_mem_nil

/-! ## Checks -/

/-- Plans from the airport are checked as with the snapshot of the document at the present moment, and the source is
left as it is. -/
def ChecksAs (t : State) (airports : List AirportRecord) (icao : String) : Prop :=
  ∀ (plan : FlightPlan) (code : String), plan.departure = some code → Text.uppercased code = icao →
    Checker.check source plan t = ((Checker.check Snapshot.source plan (.ofAirports airports t.now)).1, t)

/-- An airport that is indexed as in a document is resolved, and has the rules of the document. -/
theorem checksAs_of_get? {airports : List AirportRecord} (h : t.cache.Exclusive icao)
    (listed : icao ∈ RuleIndex.listed airports)
    (hindex : t.cache.index.get? icao = (Cache.ofAirports airports).index.get? icao) : t.ChecksAs airports icao := by
  have hsnapshot (now : Moment) : t.cache.index.get? icao = (Snapshot.ofAirports airports now).index.get? icao := by
    rw [hindex, Cache.ofAirports, Cache.index_load]
    rfl
  have hcontains : (RuleIndex.load .empty airports).contains icao = true :=
    (RuleIndex.contains_load _ _ _).2 (.inl listed)
  have hresolved : t.cache.status? icao = some .resolved := by
    rw [h.status?_eq_resolved_iff, Register.contains, hsnapshot .unknown]
    exact hcontains
  have hlookup : t.lookup icao = (.resolved, t) := by
    rw [lookup, hresolved]
  have hrules (point : String) : t.rules? icao point = (Snapshot.ofAirports airports t.now).rules? icao point := by
    rw [rules?, Snapshot.rules?, RuleIndex.rules?, RuleIndex.rules?, hsnapshot t.now]
  intro plan code hcode hupper
  rcases Checker.check_cases plan with ⟨report, -, hreport⟩ | ⟨hifr, origin, destination, hendpoints⟩
  · rw [hreport, hreport]
  · obtain rfl := hupper.symm.trans (origin_of_endpoints hendpoints hcode)
    have hstatus : (Snapshot.ofAirports airports t.now).status icao = .resolved := if_pos hcontains
    rw [Checker.check_of_says hifr hendpoints (Live.source_says t icao),
      Checker.check_of_says hifr hendpoints (Snapshot.source_says _ icao), hlookup, hstatus, funext hrules]
    rfl

/-! ## Loading -/

theorem Visited.replace (h : Visited s) {text : String} {airports : List AirportRecord}
    (read : readAirports text = .ok airports) : Visited (s.replace airports) := by
  have hload := h.move (.event (.load (some text)))
  rwa [State.move, State.apply, load_of_read read] at hload

theorem status?_replace_of_not_listed {airports : List AirportRecord} (unlisted : icao ∉ RuleIndex.listed airports) :
    (s.replace airports).cache.status? icao = none := by
  show (Cache.ofAirports airports).status? icao = none
  rw [Cache.status?_ofAirports, if_neg unlisted]

/-- A loaded file behaves as its snapshot, whatever the source knew, had in flight or is told on older requests: along
the moves of one generation a plan from an airport of the file is checked as with the snapshot as long as no answer to
a fetch launched after the loading lists the airport. The other airports are forgotten: such an airport is unknown
until it is asked for, and pending until the fetch that is launched then ends. -/
theorem loaded_as_snapshot (h : Visited s) {text : String} {airports : List AirportRecord}
    (read : readAirports text = .ok airports) :
    (s.load (some text)).1 = .ok () ∧
      (∀ ms, (∀ m ∈ ms, ¬m.Renews) → ∀ icao,
        ((s.load (some text)).2.FetchesEnd ms fun _ reply => reply.Spares icao) →
          (icao ∈ RuleIndex.listed airports → ((s.load (some text)).2.moves ms).ChecksAs airports icao) ∧
          (icao ∉ RuleIndex.listed airports → Move.event (.lookup icao) ∉ ms →
            ((s.load (some text)).2.moves ms).cache.status? icao = none) ∧
          (icao ∉ RuleIndex.listed airports → ((s.load (some text)).2.FetchesEnd ms fun asked _ => asked ≠ icao) →
            (((s.load (some text)).2.moves ms).lookup icao).1 = .pending)) ∧
      ∀ es, (∀ e ∈ es, ¬e.Renews) → ∀ icao,
        ((s.step (.load (some text))).FetchesAnswered es fun _ reply => reply.Spares icao) →
          (icao ∈ RuleIndex.listed airports → ((s.step (.load (some text))).run es).ChecksAs airports icao) ∧
          (icao ∉ RuleIndex.listed airports → Event.lookup icao ∉ es →
            ((s.step (.load (some text))).run es).cache.status? icao = none) := by
  have hstep : s.step (.load (some text)) = (s.replace airports).settled := by
    rw [step, apply, load_of_read read]
  rw [load_of_read read, hstep]
  have hreplaced := h.replace read
  have hchecks (ms : List Move) (icao : String) (hms : ∀ m ∈ ms, ¬m.Renews)
      (hspared : (s.replace airports).FetchesEnd ms fun _ reply => reply.Spares icao)
      (hlisted : icao ∈ RuleIndex.listed airports) : ((s.replace airports).moves ms).ChecksAs airports icao :=
    checksAs_of_get? ((hreplaced.moves ms).tracked.tracks.exclusive icao) hlisted (get?_moves hms hspared)
  refine ⟨rfl, fun ms hms icao hspared => ⟨hchecks ms icao hms hspared, fun hunlisted hasked => ?_,
    fun hunlisted hwaits => ?_⟩, fun es hes icao hanswered => ?_⟩
  · exact status?_moves_of_not_asked hreplaced (status?_replace_of_not_listed hunlisted) hms hspared hasked
  · refine lookup_moves_of_not_ended (status?_replace_of_not_listed hunlisted) hms ?_
    exact fun r reply asked hended hfetch =>
      ⟨hwaits r reply asked hended hfetch, hspared r reply asked hended hfetch⟩
  · obtain ⟨ms, hrun, hms, hevents, hspared⟩ := hanswered.exists_moves hreplaced hes fun _ => spares_failed icao
    rw [hrun]
    refine ⟨hchecks ms icao hms hspared, fun hunlisted hasked => ?_⟩
    exact status?_moves_of_not_asked hreplaced (status?_replace_of_not_listed hunlisted) hms hspared
      fun hmem => hasked (hevents _ hmem)

/-- A file with an airport that was missing and one that is being fetched. -/
def midlands : List AirportRecord := [
  { icao := "EGKK", sids := [{ point := "CPT", constraints := [{ highest := some 190 }] }] },
  { icao := "EGCC" }]

def midlandsText : String :=
  "[\x7b\"icao\":\"EGKK\",\"sids\":[\x7b\"point\":\"CPT\",\"constraints\":[\x7b\"max\":190\x7d]\x7d]\x7d," ++
    "\x7b\"icao\":\"EGCC\"\x7d]"

/-- An older request brings other rules for these airports. An airport that is not in the file is fetched anew. -/
def belated : List Event := [
  .answer (.asked 4) (.document ("[\x7b\"icao\":\"EGCC\"\x7d," ++
    "\x7b\"icao\":\"EGKK\",\"sids\":[\x7b\"point\":\"CPT\"\x7d]\x7d]")),
  .answer (.asked 5) (.document "\x7b\"time\":\"1200\",\"day\":3\x7d"),
  .useServer (some "http://other"),
  .lookup "EGSS",
  .pass 30000]

/-- A plan that fits the file and not the belated rules. -/
def northbound : FlightPlan where
  departure := some "egkk"
  destination := some "EGCC"
  route := some "CPT L620 GOW"
  sidName := "CPT1A"
  cruiseLevel := 18000

theorem loaded_midlands :
    Visited mixed ∧ readAirports midlandsText = .ok midlands ∧ (∀ e ∈ belated, ¬e.Renews) ∧
      (mixed.load (some midlandsText)).1 = .ok () ∧
      ((mixed.step (.load (some midlandsText))).run belated).ChecksAs midlands "EGKK" ∧
      (Checker.check source northbound ((mixed.step (.load (some midlandsText))).run belated)).1.outcome = .success ∧
      (mixed.cache.status? "EGLL" = some .resolved ∧
        ((mixed.step (.load (some midlandsText))).run belated).cache.status? "EGLL" = none) ∧
      (mixed.cache.status? "EGSS" = some .failed ∧
        (((mixed.load (some midlandsText)).2.moves ((belated.take 4).map .event)).lookup "EGSS").1 = .pending) := by
  have hvisited : Visited mixed := (Visited.opening .up "http://h/" 20000 0).moves _
  have hread : readAirports midlandsText = .ok midlands := by decide +kernel
  have hkept : ∀ e ∈ belated, ¬e.Renews := by decide
  have hkept' : ∀ m ∈ (belated.take 4).map Move.event, ¬m.Renews := by decide
  -- The answers that come are to older requests, and to the one for the reference time.
  have hanswered : ∀ ending ∈ (mixed.step (.load (some midlandsText))).replied belated,
      ending.1.purpose = .referenceTime ∨
        ending.1.generation ≠ (mixed.step (.load (some midlandsText))).generation := by
    decide +kernel
  have hended : ∀ ending ∈ (mixed.load (some midlandsText)).2.ended ((belated.take 4).map .event),
      ending.1.purpose = .referenceTime ∨ ending.1.generation ≠ (mixed.load (some midlandsText)).2.generation := by
    decide +kernel
  have hnoFetch {s : State} {r : Request} {asked : String} (hfetch : s.isFetch asked r = true)
      (h : r.purpose = .referenceTime ∨ r.generation ≠ s.generation) : False := by
    obtain ⟨hpurpose, hgeneration⟩ := isFetch_iff.1 hfetch
    rcases h with h | h
    · rw [hpurpose] at h
      cases h
    · exact h hgeneration
  have hnoAnswer {P : String → Reply → Prop} : (mixed.step (.load (some midlandsText))).FetchesAnswered belated P :=
    fun r reply asked hmem hfetch => (hnoFetch hfetch (hanswered (r, reply) hmem)).elim
  have hnoEnd {P : String → Reply → Prop} :
      (mixed.load (some midlandsText)).2.FetchesEnd ((belated.take 4).map .event) P :=
    fun r reply asked hmem hfetch => (hnoFetch hfetch (hended (r, reply) hmem)).elim
  obtain ⟨hload, hmoves, hrun⟩ := loaded_as_snapshot hvisited hread
  refine ⟨hvisited, hread, hkept, hload, ?_, by decide +kernel, ⟨by decide +kernel, ?_⟩, by decide +kernel, ?_⟩
  · exact (hrun belated hkept "EGKK" hnoAnswer).1 (by decide +kernel)
  · exact (hrun belated hkept "EGLL" hnoAnswer).2 (by decide +kernel) (by simp [belated])
  · exact (hmoves _ hkept' "EGSS" hnoEnd).2.2 (by decide +kernel) hnoEnd

end State

end DepartureRules.Live
