import DepartureRules.Live.Event
import DepartureRules.Proofs.Selection.Choice
import DepartureRules.Source.Snapshot

/-!
# What a check takes from its source

The report on a plan depends on three things that a source says, and on nothing else of it.

* `endpoints?_eq_some_iff`: the airports of a plan;
* `Source.Says`: what a source says of an airport when it is asked for it in a certain state;
* `FlightPlan.reportOn` is the report on what was said, and `check_of_says` that a check gives it;
* `check_cases`: any other check leaves the source alone;
* `select_ofRules`: rules that hold a constraint give a verdict of rules;
* `reportOn_ne_pending`: the report is pending only if the airport is.
-/

namespace DepartureRules
open Text
set_option autoImplicit false

/-! ## Airports of a plan -/

theorem airportCode?_eq_some_iff {code : Option String} {icao : String} :
    airportCode? code = some icao ↔ ∃ text, code = some text ∧ text ≠ "" ∧ uppercased text = icao := by
  cases code with
  | none => simp [airportCode?]
  | some text => simp [airportCode?]

theorem endpoints?_eq_some_iff {plan : FlightPlan} {origin destination : String} :
    plan.endpoints? = some (origin, destination) ↔
      airportCode? plan.departure = some origin ∧ airportCode? plan.destination = some destination := by
  unfold FlightPlan.endpoints?
  cases airportCode? plan.departure <;> cases airportCode? plan.destination <;> simp

theorem origin_of_endpoints {plan : FlightPlan} {origin destination code : String}
    (h : plan.endpoints? = some (origin, destination)) (hcode : plan.departure = some code) :
    uppercased code = origin := by
  obtain ⟨text, htext, -, horigin⟩ := airportCode?_eq_some_iff.1 (endpoints?_eq_some_iff.1 h).1
  cases hcode.symm.trans htext
  exact horigin

/-! ## Reports on what is said -/

/-- Asked for an airport in the state `s`, the source gives its status and goes on to the state `t`, where it has these
rules for the airport, and this moment. -/
structure Source.Says {σ : Type} (source : Source σ) (icao : String) (s t : σ) (status : AirportStatus)
    (rules : String → Option RuleSet) (now : Moment) : Prop where
  airport : source.airport icao s = (.ok status, t)
  rules : ∀ point, source.rules icao point t = (.ok (rules point), t)
  now : source.now t = (.ok now, t)

/-- The report on a plan when this is said of its departure airport. -/
def FlightPlan.reportOn (plan : FlightPlan) (origin destination : String) (status : AirportStatus)
    (rules : String → Option RuleSet) (now : Moment) : Report :=
  match status with
  | .pending => .of .pending "loading data for origin"
  | .missing => .of .unknown "server has no data for origin"
  | .failed => .of .sourceError "an error occurred when fetching data for origin"
  | .resolved =>
    match Route.parse (plan.route.getD "") origin destination with
    | .error e => .of .badRoute e.message
    | .ok route =>
      let designator := SidDesignator.parse plan.sidName origin
      match rules designator.point with
      | none => .of .sidUnknown "departure not in database"
      | some rules => select (plan.toDeparture destination route designator rules now)

theorem Snapshot.source_says (s : Snapshot) (icao : String) :
    Snapshot.source.Says icao s s (s.status icao) (s.rules? icao) s.now :=
  ⟨rfl, fun _ => rfl, rfl⟩

theorem Live.source_says (s : Live.State) (icao : String) :
    Live.source.Says icao s (s.lookup icao).2 (s.lookup icao).1 ((s.lookup icao).2.rules? icao)
      (s.lookup icao).2.now :=
  ⟨rfl, fun _ => rfl, rfl⟩

namespace Checker
variable {σ : Type} {source : Source σ} {plan : FlightPlan} {origin destination : String} {s t : σ}
  {status : AirportStatus} {rules : String → Option RuleSet} {now : Moment}

theorem checkAirport_of_says (h : source.Says origin s t status rules now) :
    checkAirport source plan origin destination s = (.ok (plan.reportOn origin destination status rules now), t) := by
  rw [checkAirport, Ask.bind_ok h.airport]
  cases status with
  | pending => rfl
  | missing => rfl
  | failed => rfl
  | resolved =>
    show checkRules source plan origin destination t = _
    simp only [checkRules, FlightPlan.reportOn]
    cases Route.parse (plan.route.getD "") origin destination with
    | error e => rfl
    | ok route =>
      simp only
      rw [Ask.bind_ok (h.rules _)]
      cases rules (SidDesignator.parse plan.sidName origin).point with
      | none => rfl
      | some found =>
        simp only
        rw [Ask.bind_ok h.now]
        rfl

theorem check_of_says (ifr : plan.ifr = true) (endpoints : plan.endpoints? = some (origin, destination))
    (h : source.Says origin s t status rules now) :
    check source plan s = (plan.reportOn origin destination status rules now, t) := by
  simp only [check, evaluate, ifr, endpoints, if_true, Ask.orElse, checkAirport_of_says h]

theorem check_of_not_ifr (source : Source σ) (h : plan.ifr = false) (s : σ) :
    check source plan s = (.of .nonIfr "plan type is not IFR", s) := by
  simp only [check, evaluate, h, Bool.false_eq_true, if_false]
  rfl

theorem check_of_no_endpoints (source : Source σ) (ifr : plan.ifr = true) (h : plan.endpoints? = none) (s : σ) :
    check source plan s = (.of .badRoute "origin/destination is missing", s) := by
  simp only [check, evaluate, ifr, h, if_true]
  rfl

/-- A plan has two airports, or has its report without a question to a source. -/
theorem check_cases (plan : FlightPlan) :
    (∃ report : Report, report.outcome ≠ .pending ∧
        ∀ {σ : Type} (source : Source σ) (s : σ), check source plan s = (report, s)) ∨
      plan.ifr = true ∧ ∃ origin destination, plan.endpoints? = some (origin, destination) := by
  cases ifr : plan.ifr with
  | false =>
    refine .inl ⟨_, ?_, fun source s => check_of_not_ifr source ifr s⟩
    exact nofun
  | true =>
    cases endpoints : plan.endpoints? with
    | none =>
      refine .inl ⟨_, ?_, fun source s => check_of_no_endpoints source ifr endpoints s⟩
      exact nofun
    | some pair => exact .inr ⟨rfl, pair.1, pair.2, rfl⟩

end Checker

/-! ## Outcomes of rules -/

/-- The outcome is a verdict of rules, and does not tell that there is nothing to apply them to. -/
def Outcome.ofRules : Outcome → Bool
  | .nonIfr | .pending | .sourceError | .unknown | .badRoute | .sidUnknown => false
  | _ => true

theorem refusal_ofRules (restrictions : List Restriction) (c : Circumstances) :
    (refusal restrictions c).outcome.ofRules = true := by
  rcases refusal_outcome restrictions c with h | h <;> rw [h] <;> rfl

theorem objection_ofRules (q : Requirement) (c : Constraint) (d : Departure) :
    (q.objection c d).outcome.ofRules = true := by
  cases q with
  | destination => rfl
  | exitPoint => rfl
  | restrictions =>
    rw [Requirement.objection]
    split
    · exact refusal_ofRules _ _
    · exact refusal_ofRules _ _
  | levelBlock => rfl
  | levelParity =>
    rw [Requirement.objection]
    split <;> rfl
  | route => rfl
  | alerts =>
    rw [Requirement.objection]
    split <;> rfl

theorem select_ofRules {d : Departure} (h : d.rules.constraints ≠ []) : (select d).outcome.ofRules = true := by
  have hchosen := chosen_select d
  generalize select d = report at hchosen
  cases hchosen with
  | admitted => rfl
  | rejected => exact objection_ofRules _ _ d
  | unconstrained none => exact absurd none h

/-- No rules lead to a pending report. -/
theorem select_ne_pending (d : Departure) : (select d).outcome ≠ .pending := by
  by_cases h : d.rules.constraints = []
  · rw [select_of_unconstrained h]
    exact nofun
  · intro hpending
    have hrules := select_ofRules h
    rw [hpending] at hrules
    cases hrules

/-- The report is pending only if the airport is. -/
theorem reportOn_ne_pending (plan : FlightPlan) (origin destination : String) {status : AirportStatus}
    (h : status ≠ .pending) (rules : String → Option RuleSet) (now : Moment) :
    (plan.reportOn origin destination status rules now).outcome ≠ .pending := by
  cases status with
  | pending => exact absurd rfl h
  | missing =>
    show Outcome.unknown ≠ .pending
    decide
  | failed =>
    show Outcome.sourceError ≠ .pending
    decide
  | resolved =>
    simp only [FlightPlan.reportOn]
    split
    · show Outcome.badRoute ≠ .pending
      decide
    · split
      · show Outcome.sidUnknown ≠ .pending
        decide
      · exact select_ne_pending _

end DepartureRules
