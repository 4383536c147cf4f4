import DepartureRules.Proofs.Source.Consulted

/-!
# The decisions of a check

What a check asks its source, and what it reports for each way in which the source and the plan can turn out.

* `Source.noting` is a source that notes its questions, and `check_noting` says that a check goes the same way with it;
* `FlightPlan.Flies`, `Opened` and `Reaches` say how far a check comes; `Breaks` says that its source broke down;
* `Decided` has one case for each way to a report, and `check_noting_eq_iff` says that a check follows it;
* `Row` says when an outcome is reported, and `outcome_eq_iff` that it is reported then and only then.
-/

namespace DepartureRules
open Text
set_option autoImplicit false

/-! ## Questions -/

/-- What a source can be asked. -/
inductive Question
  | airport (icao : String)
  | rules (icao point : String)
  | now
  deriving DecidableEq, Repr, Inhabited

def Question.isAirport : Question → Bool
  | .airport _ => true
  | _ => false

variable {σ α β : Type}

namespace Ask

/-- The question with a note of it. -/
def noting (question : Question) (ask : Ask σ α) : Ask (σ × List Question) α :=
  fun s => ((ask s.1).1, (ask s.1).2, s.2 ++ [question])

/-- The second goes the same way as the first, and notes what it asks. -/
def NotedBy (ask : Ask σ α) (noted : Ask (σ × List Question) α) : Prop :=
  ∀ s asked, ∃ more, noted (s, asked) = ((ask s).1, (ask s).2, asked ++ more)

theorem noting_apply {ask : Ask σ α} {s t : σ} {answer : Except Breakdown α} (h : ask s = (answer, t))
    (question : Question) (asked : List Question) :
    ask.noting question (s, asked) = (answer, t, asked ++ [question]) := by
  simp only [noting, h]

theorem notedBy_noting (question : Question) (ask : Ask σ α) : ask.NotedBy (ask.noting question) :=
  fun _ _ => ⟨[question], rfl⟩

theorem NotedBy.pure (a : α) : NotedBy (Pure.pure a : Ask σ α) (Pure.pure a) :=
  fun s asked => ⟨[], by rw [List.append_nil]; rfl⟩

theorem NotedBy.bind {ask : Ask σ α} {noted : Ask (σ × List Question) α} {next : α → Ask σ β}
    {notedNext : α → Ask (σ × List Question) β} (h : ask.NotedBy noted) (hnext : ∀ a, (next a).NotedBy (notedNext a)) :
    (ask >>= next).NotedBy (noted >>= notedNext) := by
  intro s asked
  obtain ⟨more, hmore⟩ := h s asked
  rcases hask : ask s with ⟨answer, t⟩
  rw [hask] at hmore
  cases answer with
  | error e => exact ⟨more, by rw [bind_error hmore, bind_error hask]⟩
  | ok a =>
    obtain ⟨rest, hrest⟩ := hnext a t (asked ++ more)
    exact ⟨more ++ rest, by rw [bind_ok hmore, bind_ok hask, hrest, List.append_assoc]⟩

theorem orElse_ok {ask : Ask σ α} {s t : σ} {a : α} (h : ask s = (.ok a, t)) (instead : α) :
    ask.orElse instead s = (a, t) := by
  simp only [orElse, h]

theorem orElse_error {ask : Ask σ α} {s t : σ} {e : Breakdown} (h : ask s = (.error e, t)) (instead : α) :
    ask.orElse instead s = (instead, t) := by
  simp only [orElse, h]

end Ask

/-- The source, noting what it is asked. -/
def Source.noting (source : Source σ) : Source (σ × List Question) where
  now := source.now.noting .now
  airport icao := (source.airport icao).noting (.airport icao)
  rules icao point := (source.rules icao point).noting (.rules icao point)

namespace Source
variable {source : Source σ} {s t : σ}

theorem noting_airport {icao : String} {answer : Except Breakdown AirportStatus}
    (h : source.airport icao s = (answer, t)) (asked : List Question) :
    source.noting.airport icao (s, asked) = (answer, t, asked ++ [.airport icao]) :=
  Ask.noting_apply h _ asked

theorem noting_rules {icao point : String} {answer : Except Breakdown (Option RuleSet)}
    (h : source.rules icao point s = (answer, t)) (asked : List Question) :
    source.noting.rules icao point (s, asked) = (answer, t, asked ++ [.rules icao point]) :=
  Ask.noting_apply h _ asked

theorem noting_now {answer : Except Breakdown Moment} (h : source.now s = (answer, t)) (asked : List Question) :
    source.noting.now (s, asked) = (answer, t, asked ++ [.now]) :=
  Ask.noting_apply h _ asked

end Source

/-! ## How far a check comes -/

/-- The plan is filed under instrument rules and names two airports, which have these codes in uppercase. -/
structure FlightPlan.Flies (plan : FlightPlan) (origin destination : String) : Prop where
  ifr : plan.ifr = true
  departure : ∃ code, plan.departure = some code ∧ code ≠ "" ∧ uppercased code = origin
  destination : ∃ code, plan.destination = some code ∧ code ≠ "" ∧ uppercased code = destination

theorem flies_iff {plan : FlightPlan} {origin destination : String} :
    plan.Flies origin destination ↔ plan.ifr = true ∧ plan.endpoints? = some (origin, destination) := by
  rw [endpoints?_eq_some_iff, airportCode?_eq_some_iff, airportCode?_eq_some_iff]
  exact ⟨fun h => ⟨h.ifr, h.departure, h.destination⟩, fun h => ⟨h.1, h.2.1, h.2.2⟩⟩

theorem FlightPlan.Flies.unique {plan : FlightPlan} {origin destination origin' destination' : String}
    (h : plan.Flies origin destination) (h' : plan.Flies origin' destination') :
    origin = origin' ∧ destination = destination' := by
  have hends := (flies_iff.1 h).2.symm.trans (flies_iff.1 h').2
  cases hends
  exact ⟨rfl, rfl⟩

namespace Checker
variable {source : Source σ} {plan : FlightPlan} {s t u v : σ} {origin destination : String} {e : Breakdown}

/-- The rules of the departure airport are at hand, and the route is well formed. -/
structure Opened (source : Source σ) (plan : FlightPlan) (s : σ) (origin destination : String) (route : Route)
    (t : σ) : Prop where
  flies : plan.Flies origin destination
  airport : source.airport origin s = (.ok .resolved, t)
  route : Route.parse (plan.route.getD "") origin destination = .ok route

/-- The fix that the rules of a plan are under. -/
def fix (plan : FlightPlan) (origin : String) : String :=
  (SidDesignator.parse plan.sidName origin).point

/-- The check comes to select from the rules of a departure. -/
inductive Reaches (source : Source σ) (plan : FlightPlan) (s : σ) : String → Departure → σ → Prop
  | intro {origin destination : String} {route : Route} {t u v : σ} {rules : RuleSet} {now : Moment}
      (opened : Opened source plan s origin destination route t)
      (found : source.rules origin (fix plan origin) t = (.ok (some rules), u))
      (moment : source.now u = (.ok now, v)) :
      Reaches source plan s origin
        (plan.toDeparture destination route (SidDesignator.parse plan.sidName origin) rules now) v

theorem Reaches.unique {origin' : String} {d d' : Departure} {v' : σ} (h : Reaches source plan s origin d v)
    (h' : Reaches source plan s origin' d' v') : d = d' := by
  cases h with
  | intro opened found moment =>
    cases h' with
    | intro opened' found' moment' =>
      obtain ⟨rfl, rfl⟩ := opened.flies.unique opened'.flies
      cases opened.airport.symm.trans opened'.airport
      cases opened.route.symm.trans opened'.route
      cases found.symm.trans found'
      cases moment.symm.trans moment'
      rfl

/-- The source breaks down at a question of the check. -/
inductive Breaks (source : Source σ) (plan : FlightPlan) (s : σ) : σ → List Question → Prop
  | airport {origin destination : String} {t : σ} {e : Breakdown} (flies : plan.Flies origin destination)
      (airport : source.airport origin s = (.error e, t)) : Breaks source plan s t [.airport origin]
  | rules {origin destination : String} {route : Route} {t u : σ} {e : Breakdown}
      (opened : Opened source plan s origin destination route t)
      (rules : source.rules origin (fix plan origin) t = (.error e, u)) :
      Breaks source plan s u [.airport origin, .rules origin (fix plan origin)]
  | now {origin destination : String} {route : Route} {t u v : σ} {rules : RuleSet} {e : Breakdown}
      (opened : Opened source plan s origin destination route t)
      (found : source.rules origin (fix plan origin) t = (.ok (some rules), u))
      (now : source.now u = (.error e, v)) :
      Breaks source plan s v [.airport origin, .rules origin (fix plan origin), .now]

/-! ## The table -/

/-- The report on a plan, the state that the source is left in and the questions that it was asked. -/
inductive Decided (source : Source σ) (plan : FlightPlan) (s : σ) : Report → σ → List Question → Prop
  | nonIfr (ifr : plan.ifr = false) : Decided source plan s (.of .nonIfr "plan type is not IFR") s []
  | nowhere (ifr : plan.ifr = true) (none : ∀ origin destination, ¬plan.Flies origin destination) :
      Decided source plan s (.of .badRoute "origin/destination is missing") s []
  | pending {origin destination : String} {t : σ} (flies : plan.Flies origin destination)
      (airport : source.airport origin s = (.ok .pending, t)) :
      Decided source plan s (.of .pending "loading data for origin") t [.airport origin]
  | missing {origin destination : String} {t : σ} (flies : plan.Flies origin destination)
      (airport : source.airport origin s = (.ok .missing, t)) :
      Decided source plan s (.of .unknown "server has no data for origin") t [.airport origin]
  | failed {origin destination : String} {t : σ} (flies : plan.Flies origin destination)
      (airport : source.airport origin s = (.ok .failed, t)) :
      Decided source plan s (.of .sourceError "an error occurred when fetching data for origin") t [.airport origin]
  | badRoute {origin destination : String} {t : σ} {e : RouteError} (flies : plan.Flies origin destination)
      (airport : source.airport origin s = (.ok .resolved, t))
      (route : Route.parse (plan.route.getD "") origin destination = .error e) :
      Decided source plan s (.of .badRoute e.message) t [.airport origin]
  | noRules {origin destination : String} {route : Route} {t u : σ}
      (opened : Opened source plan s origin destination route t)
      (rules : source.rules origin (fix plan origin) t = (.ok none, u)) :
      Decided source plan s (.of .sidUnknown "departure not in database") u
        [.airport origin, .rules origin (fix plan origin)]
  | selected {origin : String} {d : Departure} {v : σ} (reaches : Reaches source plan s origin d v) :
      Decided source plan s (select d) v [.airport origin, .rules origin (fix plan origin), .now]
  | broken {t : σ} {asked : List Question} (breaks : Breaks source plan s t asked) :
      Decided source plan s breakdownReport t asked

/-- When an outcome is reported. -/
def Row (source : Source σ) (plan : FlightPlan) (s : σ) : Outcome → Prop
  | .nonIfr => plan.ifr = false
  | .badRoute =>
    (plan.ifr = true ∧ ∀ origin destination, ¬plan.Flies origin destination) ∨
      ∃ origin destination t e, plan.Flies origin destination ∧ source.airport origin s = (.ok .resolved, t) ∧
        Route.parse (plan.route.getD "") origin destination = .error e
  | .pending => ∃ origin destination t, plan.Flies origin destination ∧ source.airport origin s = (.ok .pending, t)
  | .unknown => ∃ origin destination t, plan.Flies origin destination ∧ source.airport origin s = (.ok .missing, t)
  | .sourceError =>
    (∃ origin destination t, plan.Flies origin destination ∧ source.airport origin s = (.ok .failed, t)) ∨
      ∃ t asked, Breaks source plan s t asked
  | .sidUnknown =>
    (∃ origin destination route t u, Opened source plan s origin destination route t ∧
      source.rules origin (fix plan origin) t = (.ok none, u)) ∨
      ∃ origin d v, Reaches source plan s origin d v ∧ d.rules.constraints = []
  | outcome => ∃ origin d v, Reaches source plan s origin d v ∧ d.rules.constraints ≠ [] ∧ (select d).outcome = outcome

/-! ## Steps of a check -/

theorem evaluate_of_flies (h : plan.Flies origin destination) :
    evaluate source plan = checkAirport source plan origin destination := by
  obtain ⟨hifr, hends⟩ := flies_iff.1 h
  simp only [evaluate, hifr, hends, if_true]

theorem endpoints?_of_not_flies (hifr : plan.ifr = true) (h : ∀ origin destination, ¬plan.Flies origin destination) :
    plan.endpoints? = none := by
  cases hends : plan.endpoints? with
  | none => rfl
  | some ends => exact absurd (flies_iff.2 ⟨hifr, hends⟩) (h ends.1 ends.2)

theorem evaluate_of_opened {route : Route} (h : Opened source plan s origin destination route t) :
    evaluate source plan s = (source.rules origin (fix plan origin) >>= fun
      | none => return .of .sidUnknown "departure not in database"
      | some rules => do
        let now ← source.now
        return select (plan.toDeparture destination route (SidDesignator.parse plan.sidName origin) rules now)) t := by
  rw [evaluate_of_flies h.flies, checkAirport, Ask.bind_ok h.airport]
  simp only [checkRules, h.route]
  rfl

/-- A check goes the same way with a source that notes its questions. -/
theorem check_noting (source : Source σ) (plan : FlightPlan) (s : σ) (asked : List Question) :
    ∃ more,
      check source.noting plan (s, asked) = ((check source plan s).1, (check source plan s).2, asked ++ more) := by
  have hrules (origin destination : String) :
      (checkRules source plan origin destination).NotedBy (checkRules source.noting plan origin destination) := by
    unfold checkRules
    cases Route.parse (plan.route.getD "") origin destination with
    | error e => exact .pure _
    | ok route =>
      refine .bind (Ask.notedBy_noting _ _) fun found => ?_
      cases found with
      | none => exact .pure _
      | some rules => exact .bind (Ask.notedBy_noting _ _) fun now => .pure _
  have hevaluate : (evaluate source plan).NotedBy (evaluate source.noting plan) := by
    unfold evaluate
    cases plan.ifr with
    | false => exact .pure _
    | true =>
      simp only [if_true]
      cases plan.endpoints? with
      | none => exact .pure _
      | some ends =>
        refine .bind (Ask.notedBy_noting _ _) fun status => ?_
        cases status with
        | resolved => exact hrules _ _
        | pending => exact .pure _
        | missing => exact .pure _
        | failed => exact .pure _
  obtain ⟨more, hmore⟩ := hevaluate s asked
  refine ⟨more, ?_⟩
  rcases hrun : evaluate source plan s with ⟨answer, t⟩
  rw [hrun] at hmore
  cases answer with
  | error e => rw [check, check, Ask.orElse_error hmore, Ask.orElse_error hrun]
  | ok report => rw [check, check, Ask.orElse_ok hmore, Ask.orElse_ok hrun]

theorem Opened.noting {route : Route} (h : Opened source plan s origin destination route t) (asked : List Question) :
    Opened source.noting plan (s, asked) origin destination route (t, asked ++ [.airport origin]) where
  flies := h.flies
  airport := Source.noting_airport h.airport asked
  route := h.route

/-- The table is followed. -/
theorem check_of_decided {report : Report} {asked : List Question} (h : Decided source plan s report t asked) :
    check source.noting plan (s, []) = (report, t, asked) := by
  cases h with
  | nonIfr ifr => exact check_of_not_ifr _ ifr _
  | nowhere ifr none => exact check_of_no_endpoints _ ifr (endpoints?_of_not_flies ifr none) _
  | pending flies airport =>
    refine Ask.orElse_ok ?_ _
    rw [evaluate_of_flies flies, checkAirport, Ask.bind_ok (Source.noting_airport airport _)]
    rfl
  | missing flies airport =>
    refine Ask.orElse_ok ?_ _
    rw [evaluate_of_flies flies, checkAirport, Ask.bind_ok (Source.noting_airport airport _)]
    rfl
  | failed flies airport =>
    refine Ask.orElse_ok ?_ _
    rw [evaluate_of_flies flies, checkAirport, Ask.bind_ok (Source.noting_airport airport _)]
    rfl
  | badRoute flies airport route =>
    refine Ask.orElse_ok ?_ _
    rw [evaluate_of_flies flies, checkAirport, Ask.bind_ok (Source.noting_airport airport _)]
    simp only [checkRules, route]
    rfl
  | noRules opened rules =>
    refine Ask.orElse_ok ?_ _
    rw [evaluate_of_opened (opened.noting _), Ask.bind_ok (Source.noting_rules rules _)]
    rfl
  | selected reaches =>
    cases reaches with
    | intro opened found moment =>
      refine Ask.orElse_ok ?_ _
      rw [evaluate_of_opened (opened.noting _), Ask.bind_ok (Source.noting_rules found _)]
      exact Ask.bind_ok (Source.noting_now moment _)
  | broken breaks =>
    cases breaks with
    | @airport origin _ _ e flies airport =>
      have hrun : evaluate source.noting plan (s, []) = (.error e, t, [.airport origin]) := by
        rw [evaluate_of_flies flies]
        exact Ask.bind_error (Source.noting_airport airport _)
      exact Ask.orElse_error hrun _
    | @rules origin _ _ _ _ e opened rules =>
      have hrun : evaluate source.noting plan (s, []) =
          (.error e, t, [.airport origin, .rules origin (fix plan origin)]) := by
        rw [evaluate_of_opened (opened.noting _)]
        exact Ask.bind_error (Source.noting_rules rules _)
      exact Ask.orElse_error hrun _
    | @now origin _ _ _ _ _ _ e opened found now =>
      have hrun : evaluate source.noting plan (s, []) =
          (.error e, t, [.airport origin, .rules origin (fix plan origin), .now]) := by
        rw [evaluate_of_opened (opened.noting _), Ask.bind_ok (Source.noting_rules found _)]
        exact Ask.bind_error (Source.noting_now now _)
      exact Ask.orElse_error hrun _

/-- The table leaves no case out. -/
theorem exists_decided (source : Source σ) (plan : FlightPlan) (s : σ) :
    ∃ report t asked, Decided source plan s report t asked := by
  cases hifr : plan.ifr with
  | false => exact ⟨_, _, _, .nonIfr hifr⟩
  | true =>
    by_cases hflies : ∃ origin destination, plan.Flies origin destination
    · obtain ⟨origin, destination, flies⟩ := hflies
      rcases hairport : source.airport origin s with ⟨status, t⟩
      rcases status with e | (- | - | - | -)
      · exact ⟨_, _, _, .broken (.airport flies hairport)⟩
      · cases hroute : Route.parse (plan.route.getD "") origin destination with
        | error e => exact ⟨_, _, _, .badRoute flies hairport hroute⟩
        | ok route =>
          have opened : Opened source plan s origin destination route t := ⟨flies, hairport, hroute⟩
          rcases hrules : source.rules origin (fix plan origin) t with ⟨found, u⟩
          rcases found with e | (- | rules)
          · exact ⟨_, _, _, .broken (.rules opened hrules)⟩
          · exact ⟨_, _, _, .noRules opened hrules⟩
          · rcases hnow : source.now u with ⟨now, v⟩
            cases now with
            | error e => exact ⟨_, _, _, .broken (.now opened hrules hnow)⟩
            | ok now => exact ⟨_, _, _, .selected (.intro opened hrules hnow)⟩
      · exact ⟨_, _, _, .pending flies hairport⟩
      · exact ⟨_, _, _, .missing flies hairport⟩
      · exact ⟨_, _, _, .failed flies hairport⟩
    · simp only [not_exists] at hflies
      exact ⟨_, _, _, .nowhere hifr hflies⟩

theorem check_noting_eq_iff {report : Report} {asked : List Question} :
    check source.noting plan (s, []) = (report, t, asked) ↔ Decided source plan s report t asked := by
  refine ⟨fun h => ?_, check_of_decided⟩
  obtain ⟨report', t', asked', hdecided⟩ := exists_decided source plan s
  have heq := (check_of_decided hdecided).symm.trans h
  cases heq
  exact hdecided

/-- What is reported without a note of the questions. -/
theorem check_eq_of_decided {report : Report} {asked : List Question} (h : Decided source plan s report t asked) :
    check source plan s = (report, t) := by
  obtain ⟨more, hmore⟩ := check_noting source plan s []
  rw [check_of_decided h] at hmore
  cases hmore
  rfl

theorem Decided.airports {report : Report} {asked : List Question} (h : Decided source plan s report t asked) :
    (∀ origin destination, plan.Flies origin destination → asked.filter Question.isAirport = [.airport origin]) ∧
      ((∀ origin destination, ¬plan.Flies origin destination) → asked = [] ∧ t = s) := by
  have hone {a b : String} {asked : List Question} (flies : plan.Flies a b)
      (hasked : asked.filter Question.isAirport = [.airport a]) :
      (∀ origin destination, plan.Flies origin destination → asked.filter Question.isAirport = [.airport origin]) ∧
        ((∀ origin destination, ¬plan.Flies origin destination) → asked = [] ∧ t = s) :=
    ⟨fun origin destination h => by rw [hasked, (flies.unique h).1], fun hnot => absurd flies (hnot a b)⟩
  cases h with
  | nonIfr ifr =>
    refine ⟨fun origin destination flies => ?_, fun _ => ⟨rfl, rfl⟩⟩
    rw [flies.ifr] at ifr
    cases ifr
  | nowhere ifr none =>
    exact ⟨fun origin destination flies => absurd flies (none origin destination), fun _ => ⟨rfl, rfl⟩⟩
  | pending flies airport => exact hone flies rfl
  | missing flies airport => exact hone flies rfl
  | failed flies airport => exact hone flies rfl
  | badRoute flies airport route => exact hone flies rfl
  | noRules opened rules => exact hone opened.flies rfl
  | selected reaches =>
    cases reaches with
    | intro opened found moment => exact hone opened.flies rfl
  | broken breaks =>
    cases breaks with
    | airport flies airport => exact hone flies rfl
    | rules opened rules => exact hone opened.flies rfl
    | now opened found now => exact hone opened.flies rfl

/-! ## Outcomes -/

theorem row_of_ofRules {outcome : Outcome} (h : outcome.ofRules = true) :
    Row source plan s outcome ↔
      ∃ origin d v, Reaches source plan s origin d v ∧ d.rules.constraints ≠ [] ∧ (select d).outcome = outcome := by
  cases outcome <;> first | exact Iff.rfl | cases h

theorem Decided.row {report : Report} {asked : List Question} (h : Decided source plan s report t asked) :
    Row source plan s report.outcome := by
  cases h with
  | nonIfr ifr => exact ifr
  | nowhere ifr none => exact .inl ⟨ifr, none⟩
  | pending flies airport => exact ⟨_, _, _, flies, airport⟩
  | missing flies airport => exact ⟨_, _, _, flies, airport⟩
  | failed flies airport => exact .inl ⟨_, _, _, flies, airport⟩
  | badRoute flies airport route => exact .inr ⟨_, _, _, _, flies, airport, route⟩
  | noRules opened rules => exact .inl ⟨_, _, _, _, _, opened, rules⟩
  | broken breaks => exact .inr ⟨_, _, breaks⟩
  | @selected origin d v reaches =>
    by_cases hnone : d.rules.constraints = []
    · rw [select_of_unconstrained hnone]
      exact .inr ⟨origin, d, t, reaches, hnone⟩
    · exact (row_of_ofRules (select_ofRules hnone)).2 ⟨origin, d, t, reaches, hnone, rfl⟩

/-- Every row of the table is met by a report. -/
theorem exists_decided_of_row {outcome : Outcome} (h : Row source plan s outcome) :
    ∃ report t asked, Decided source plan s report t asked ∧ report.outcome = outcome := by
  cases hrules : outcome.ofRules with
  | true =>
    obtain ⟨origin, d, v, reaches, -, hselect⟩ := (row_of_ofRules hrules).1 h
    exact ⟨_, _, _, .selected reaches, hselect⟩
  | false =>
    cases outcome with
    | nonIfr => exact ⟨_, _, _, .nonIfr h, rfl⟩
    | pending =>
      obtain ⟨origin, destination, t, flies, airport⟩ := h
      exact ⟨_, _, _, .pending flies airport, rfl⟩
    | unknown =>
      obtain ⟨origin, destination, t, flies, airport⟩ := h
      exact ⟨_, _, _, .missing flies airport, rfl⟩
    | sourceError =>
      rcases h with ⟨origin, destination, t, flies, airport⟩ | ⟨t, asked, breaks⟩
      · exact ⟨_, _, _, .failed flies airport, rfl⟩
      · exact ⟨_, _, _, .broken breaks, rfl⟩
    | badRoute =>
      rcases h with ⟨ifr, none⟩ | ⟨origin, destination, t, e, flies, airport, route⟩
      · exact ⟨_, _, _, .nowhere ifr none, rfl⟩
      · exact ⟨_, _, _, .badRoute flies airport route, rfl⟩
    | sidUnknown =>
      rcases h with ⟨origin, destination, route, t, u, opened, rules⟩ | ⟨origin, d, v, reaches, none⟩
      · exact ⟨_, _, _, .noRules opened rules, rfl⟩
      · refine ⟨_, _, _, .selected reaches, ?_⟩
        rw [select_of_unconstrained none]
    | _ => cases hrules

theorem outcome_eq_iff (outcome : Outcome) :
    (check source plan s).1.outcome = outcome ↔ Row source plan s outcome := by
  constructor
  · rintro rfl
    obtain ⟨report, t, asked, hdecided⟩ := exists_decided source plan s
    rw [check_eq_of_decided hdecided]
    exact hdecided.row
  · intro hrow
    obtain ⟨report, t, asked, hdecided, houtcome⟩ := exists_decided_of_row hrow
    rw [check_eq_of_decided hdecided, houtcome]

/-- Nothing but a breakdown of the source is reported as one. -/
theorem report_eq_breakdownReport_iff :
    (check source plan s).1 = breakdownReport ↔ ∃ t asked, Breaks source plan s t asked := by
  constructor
  · intro hreport
    obtain ⟨report, t, asked, hdecided⟩ := exists_decided source plan s
    rw [check_eq_of_decided hdecided] at hreport
    subst hreport
    generalize hbreak : breakdownReport = report at hdecided
    cases hdecided with
    | broken breaks => exact ⟨_, _, breaks⟩
    | @selected origin d v reaches =>
      have houtcome : (select d).outcome = .sourceError := congrArg Report.outcome hbreak.symm
      by_cases hnone : d.rules.constraints = []
      · rw [select_of_unconstrained hnone] at houtcome
        cases houtcome
      · have hrules := select_ofRules hnone
        rw [houtcome] at hrules
        cases hrules
    | failed => exact absurd hbreak (by decide)
    | _ => cases hbreak
  · rintro ⟨t, asked, breaks⟩
    rw [check_eq_of_decided (.broken breaks)]

end Checker

end DepartureRules
