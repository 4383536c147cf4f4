import DepartureRules.Proofs.Checker.Decisions
import DepartureRules.Proofs.Guarded.Route
import DepartureRules.Proofs.Guarded.Selection
import DepartureRules.Proofs.Rules.Index
import DepartureRules.Proofs.Rules.RoundTrip

/-!
# Checking without faults

A check whose route is read and whose rules are applied with guarded operations. A fault would break the check down,
as a breakdown of its source does. The name of a departure is read without operations of this kind.

* `Guarded.check_eq`: there is no fault, and the check is the same as without guards;
* `Guarded.fits_of_read`: its condition is met by every document that can be read;
* `Checker.check_decided`: so the table says all that can become of a check.
-/

namespace DepartureRules
set_option autoImplicit false
variable {σ : Type} {source : Source σ} {plan : FlightPlan} {s t : σ} {origin destination : String}

namespace Guarded
open Checker

/-- A result that breaks the check down if it is a fault. -/
def ask {α : Type} : Guarded α → Ask σ α
  | .ok a => pure a
  | .error _ => .broken

def checkRules (source : Source σ) (plan : FlightPlan) (origin destination : String) : Ask σ Report := do
  match ← ask (parse (plan.route.getD "") origin destination) with
  | .error e => return .of .badRoute e.message
  | .ok route =>
    let designator := SidDesignator.parse plan.sidName origin
    match ← source.rules origin designator.point with
    | none => return .of .sidUnknown "departure not in database"
    | some rules =>
      let now ← source.now
      ask (select (plan.toDeparture destination route designator rules now))

def checkAirport (source : Source σ) (plan : FlightPlan) (origin destination : String) : Ask σ Report := do
  match ← source.airport origin with
  | .pending => return .of .pending "loading data for origin"
  | .missing => return .of .unknown "server has no data for origin"
  | .failed => return .of .sourceError "an error occurred when fetching data for origin"
  | .resolved => checkRules source plan origin destination

def evaluate (source : Source σ) (plan : FlightPlan) : Ask σ Report :=
  if plan.ifr then
    match plan.endpoints? with
    | none => return .of .badRoute "origin/destination is missing"
    | some (origin, destination) => checkAirport source plan origin destination
  else return .of .nonIfr "plan type is not IFR"

def check (source : Source σ) (plan : FlightPlan) (s : σ) : Report × σ :=
  (evaluate source plan).orElse breakdownReport s

/-- The numbers that a check is given fit their widths: the level of the plan, and the times of the rules and of the
moment that its source gives it. -/
structure Fits (source : Source σ) (plan : FlightPlan) (s : σ) : Prop where
  cruiseLevel : Fits32 plan.cruiseLevel
  rules : ∀ origin d v, Reaches source plan s origin d v → d.rules.Narrow
  now : ∀ origin d v, Reaches source plan s origin d v → d.circumstances.now.Narrow

theorem checkRules_eq (h : Fits source plan s) (flies : plan.Flies origin destination)
    (airport : source.airport origin s = (.ok .resolved, t)) :
    checkRules source plan origin destination t = Checker.checkRules source plan origin destination t := by
  unfold checkRules Checker.checkRules
  rw [parse_eq]
  cases hroute : Route.parse (plan.route.getD "") origin destination with
  | error e => rfl
  | ok route =>
    have opened : Opened source plan s origin destination route t := ⟨flies, airport, hroute⟩
    show (source.rules _ _ >>= _) t = (source.rules _ _ >>= _) t
    rcases hrules : source.rules origin (fix plan origin) t with ⟨found, u⟩
    cases found with
    | error e => exact (Ask.bind_error hrules).trans (Ask.bind_error hrules).symm
    | ok found =>
      refine (Ask.bind_ok hrules).trans ((Ask.bind_ok hrules).trans ?_).symm
      cases found with
      | none => rfl
      | some rules =>
        rcases hnow : source.now u with ⟨now, v⟩
        cases now with
        | error e => exact (Ask.bind_error hnow).trans (Ask.bind_error hnow).symm
        | ok now =>
          have reaches := Reaches.intro opened hrules hnow
          refine (Ask.bind_ok hnow).trans ((Ask.bind_ok hnow).trans ?_).symm
          rw [select_eq ⟨h.rules _ _ _ reaches, h.cruiseLevel, h.now _ _ _ reaches⟩]
          rfl

/-- A check has no fault of its own, whatever stands in the plan and in the rules. -/
theorem check_eq (h : Fits source plan s) : check source plan s = Checker.check source plan s := by
  have hevaluate : evaluate source plan s = Checker.evaluate source plan s := by
    unfold evaluate Checker.evaluate
    cases hifr : plan.ifr with
    | false => rfl
    | true =>
      cases hends : plan.endpoints? with
      | none => rfl
      | some ends =>
        obtain ⟨origin, destination⟩ := ends
        show (source.airport origin >>= _) s = (source.airport origin >>= _) s
        rcases hairport : source.airport origin s with ⟨status, t⟩
        cases status with
        | error e => exact (Ask.bind_error hairport).trans (Ask.bind_error hairport).symm
        | ok status =>
          refine (Ask.bind_ok hairport).trans ((Ask.bind_ok hairport).trans ?_).symm
          cases status with
          | resolved => exact (checkRules_eq h (flies_iff.2 ⟨hifr, hends⟩) hairport).symm
          | _ => rfl
  simp only [check, Checker.check, Ask.orElse, hevaluate]

/-! ## Documents -/

theorem narrow_of_onClock {t : TimeOfDay} (h : t.OnClock) : t.Narrow := by
  unfold TimeOfDay.OnClock at h
  unfold TimeOfDay.Narrow
  omega

theorem narrow_of_inRange {r : Restriction} (h : r.InRange) : r.Narrow where
  start := fun start hstart time htime => narrow_of_onClock ((h.start start hstart).time time htime)
  finish := fun finish hfinish time htime => narrow_of_onClock ((h.finish finish hfinish).time time htime)

theorem narrow_rules {sid : SidRecord} (h : sid.InRange) : sid.rules.Narrow where
  restrictions := fun r hr => narrow_of_inRange (h.restrictions r hr)
  constraints := fun c hc r hr => narrow_of_inRange ((h.constraints c hc).restrictions r hr)

/-- Whatever text a document has, the numbers of its rules fit. -/
theorem fits_of_read {text : String} {now : Moment} {snapshot : Snapshot} (h : Snapshot.read text now = .ok snapshot)
    (hlevel : Fits32 plan.cruiseLevel) (hnow : now.Narrow) : Fits Snapshot.source plan snapshot := by
  unfold Snapshot.read at h
  cases hread : readAirports text with
  | error e =>
    rw [hread] at h
    cases h
  | ok airports =>
    rw [hread] at h
    cases h
    have hrange : ∀ airport ∈ airports, airport.InRange := Json.yields_document yields_airportRecord.list hread
    have hall : RuleIndex.All RuleSet.Narrow (RuleIndex.load .empty airports) :=
      .load (fun airport hairport sid hsid => narrow_rules ((hrange airport hairport).sids sid hsid)) nofun
    refine ⟨hlevel, ?_, ?_⟩
    · rintro origin d v ⟨opened, found, moment⟩
      obtain rfl := congrArg Prod.snd opened.airport
      exact hall.of_rules? (Except.ok.inj (congrArg Prod.fst found))
    · rintro origin d v ⟨opened, found, moment⟩
      obtain rfl := congrArg Prod.snd opened.airport
      obtain rfl := congrArg Prod.snd found
      cases moment
      exact hnow

end Guarded

namespace Checker

/-- A check follows its table, with its outcome, its report, the questions that it asks and the state that its source
is left in. A plan that flies leads to one question for an airport, the origin, and any other plan to no question. Rules
that hold a constraint give a verdict of rules. No route and no rules lead to a fault, so a breakdown is reported only
when the source breaks down. -/
theorem check_decided (source : Source σ) (plan : FlightPlan) (s : σ) :
    (∀ report t asked,
        check source.noting plan (s, []) = (report, t, asked) ↔ Decided source plan s report t asked) ∧
      (∃ asked, check source.noting plan (s, []) = ((check source plan s).1, (check source plan s).2, asked) ∧
        (∀ origin destination, plan.Flies origin destination →
          asked.filter Question.isAirport = [.airport origin]) ∧
        ((∀ origin destination, ¬plan.Flies origin destination) → asked = [] ∧ (check source plan s).2 = s)) ∧
      (∀ outcome, (check source plan s).1.outcome = outcome ↔ Row source plan s outcome) ∧
      ((check source plan s).1 = breakdownReport ↔ ∃ t asked, Breaks source plan s t asked) ∧
      (∀ d : Departure, d.rules.constraints ≠ [] → (select d).outcome.ofRules = true) ∧
      (∀ text origin destination,
        Guarded.parse text origin destination = .ok (Route.parse text origin destination)) ∧
      (∀ d : Departure, d.Narrow → Guarded.select d = .ok (select d)) ∧
      (Guarded.Fits source plan s → Guarded.check source plan s = check source plan s) := by
  refine ⟨fun _ _ _ => check_noting_eq_iff, ?_, outcome_eq_iff, report_eq_breakdownReport_iff,
    fun _ => select_ofRules, Guarded.parse_eq, fun _ => Guarded.select_eq, Guarded.check_eq⟩
  obtain ⟨report, t, asked, hdecided⟩ := exists_decided source plan s
  rw [check_eq_of_decided hdecided]
  exact ⟨asked, check_of_decided hdecided, hdecided.airports⟩

/-- Rules of a window whose times are as great as bytes can be. -/
def lateRules : RuleSet where
  constraints := [{
    direction := some .even
    routes := ["CPT٠١٢٣٤٥ * WAL"]
    restrictions := [{ start := some ⟨some 5, some ⟨255, 255⟩⟩, finish := some ⟨some 1, some ⟨0, 255⟩⟩ }] }]

def lateSnapshot : Snapshot :=
  .ofAirports [{ icao := "EGLL", sids := [{ point := "CPT", constraints := lateRules.constraints }] }]
    ⟨some 5, some ⟨255, 255⟩⟩

/-- A plan for the greatest level in whole thousands. Its route has digits of several bytes before a change of level. -/
def highPlan : FlightPlan where
  departure := some "egll"
  destination := some "egcc"
  cruiseLevel := 2147483000
  route := some "CPT٠١٢٣٤٥/N٠٤٥٠F٣٥٠ L9 WAL"
  sidName := "CPT3F"

def highRoute : Route :=
  ⟨[.waypoint "CPT٠١٢٣٤٥" (some "N٠٤٥٠F٣٥٠") false, .airway "L9", .waypoint "WAL" none false]⟩

def highDeparture : Departure :=
  highPlan.toDeparture "EGCC" highRoute ⟨"CPT", "F"⟩ lateRules lateSnapshot.now

theorem reaches_highPlan : Reaches Snapshot.source highPlan lateSnapshot "EGLL" highDeparture lateSnapshot :=
  have opened : Opened Snapshot.source highPlan lateSnapshot "EGLL" "EGCC" highRoute lateSnapshot :=
    ⟨flies_iff.2 (by decide +kernel), rfl, by decide +kernel⟩
  .intro opened (u := lateSnapshot) rfl rfl

theorem narrow_highDeparture : highDeparture.Narrow where
  rules :=
    { restrictions := nofun
      constraints := by
        simp only [highDeparture, FlightPlan.toDeparture, lateRules, List.mem_singleton, forall_eq]
        exact ⟨by rintro _ ⟨⟩ _ ⟨⟩; simp [TimeOfDay.Narrow], by rintro _ ⟨⟩ _ ⟨⟩; simp [TimeOfDay.Narrow]⟩ }
  cruiseLevel := by decide
  now := by rintro _ ⟨⟩; simp [TimeOfDay.Narrow]

theorem decided_highPlan :
    Guarded.Fits Snapshot.source highPlan lateSnapshot ∧
      Guarded.check Snapshot.source highPlan lateSnapshot = check Snapshot.source highPlan lateSnapshot ∧
      highDeparture.Narrow ∧ Guarded.select highDeparture = .ok (select highDeparture) ∧
      highDeparture.rules.constraints ≠ [] ∧ (select highDeparture).outcome.ofRules = true ∧
      (check Snapshot.source highPlan lateSnapshot).1.outcome = .success := by
  obtain ⟨-, -, houtcome, -, hrules, -, hselect, hcheck⟩ := check_decided Snapshot.source highPlan lateSnapshot
  have hconstraints : highDeparture.rules.constraints ≠ [] := by decide
  have hfits : Guarded.Fits Snapshot.source highPlan lateSnapshot :=
    { cruiseLevel := narrow_highDeparture.cruiseLevel
      rules := fun _ _ _ h => h.unique reaches_highPlan ▸ narrow_highDeparture.rules
      now := fun _ _ _ h => h.unique reaches_highPlan ▸ narrow_highDeparture.now }
  exact ⟨hfits, hcheck hfits, narrow_highDeparture, hselect _ narrow_highDeparture, hconstraints,
    hrules _ hconstraints, (houtcome _).2 ⟨_, _, _, reaches_highPlan, hconstraints, by decide +kernel⟩⟩

end Checker

end DepartureRules
