import DepartureRules.FlightPlan.Basic
import DepartureRules.Route.Designator
import DepartureRules.Route.Parser
import DepartureRules.Selection.Ranking
import DepartureRules.Source.Basic

/-!
# Checking a flight plan

The check of a plan against the rules that a source supplies. The questions are asked one after another,
and the first that settles the matter ends the check:

* Is the plan filed under instrument rules, with a departure and a destination?
* Are the rules of the departure airport at hand?
* Is the route well formed, and are there rules for the departure that it begins with?
* `select`: which of these rules admits the departure?

`check` always gives a report: a source that breaks down makes it an error.
-/

namespace DepartureRules
open Text
set_option autoImplicit false

/-- The code of an airport in uppercase, if there is one. -/
def airportCode? (code : Option String) : Option String :=
  match code with
  | none => none
  | some code => if code.isEmpty then none else some (uppercased code)

/-- The departure and destination of a plan in uppercase, if it has both. -/
def FlightPlan.endpoints? (plan : FlightPlan) : Option (String × String) :=
  match airportCode? plan.departure, airportCode? plan.destination with
  | some origin, some destination => some (origin, destination)
  | _, _ => none

/-- The departure that is compared with the rules of its fix. -/
def FlightPlan.toDeparture (plan : FlightPlan) (destination : String) (route : Route)
    (designator : SidDesignator) (rules : RuleSet) (now : Moment) : Departure where
  rules := rules
  fix := designator.point
  destination := destination
  points := plan.points
  route := route.bare
  cruiseLevel := plan.cruiseLevel
  circumstances := ⟨now, designator.suffix, plan.engineType, plan.aircraftType⟩

namespace Checker
variable {σ : Type}

/-- The report on a plan whose departure airport has its rules at hand. -/
def checkRules (source : Source σ) (plan : FlightPlan) (origin destination : String) :
    Ask σ Report :=
  match Route.parse (plan.route.getD "") origin destination with
  | .error e => return .of .badRoute e.message
  | .ok route => do
    let designator := SidDesignator.parse plan.sidName origin
    match ← source.rules origin designator.point with
    | none => return .of .sidUnknown "departure not in database"
    | some rules =>
      let now ← source.now
      return select (plan.toDeparture destination route designator rules now)

/-- The report on a plan with two airports. -/
def checkAirport (source : Source σ) (plan : FlightPlan) (origin destination : String) :
    Ask σ Report := do
  match ← source.airport origin with
  | .pending => return .of .pending "loading data for origin"
  | .missing => return .of .unknown "server has no data for origin"
  | .failed => return .of .sourceError "an error occurred when fetching data for origin"
  | .resolved => checkRules source plan origin destination

/-- The report on a plan, unless the source breaks down. -/
def evaluate (source : Source σ) (plan : FlightPlan) : Ask σ Report :=
  if plan.ifr then
    match plan.endpoints? with
    | none => return .of .badRoute "origin/destination is missing"
    | some (origin, destination) => checkAirport source plan origin destination
  else return .of .nonIfr "plan type is not IFR"

/-- The report on a plan where the source broke down. -/
def breakdownReport : Report :=
  .of .sourceError "internal error during validation"

/-- Checks a plan against the rules of a source. -/
def check (source : Source σ) (plan : FlightPlan) (s : σ) : Report × σ :=
  (evaluate source plan).orElse breakdownReport s

/-- A check changes no part of the state that the questions of its source leave as it is. -/
theorem check_keeps {β : Type} {part : σ → β} {source : Source σ} (hnow : source.now.Keeps part)
    (hairport : ∀ icao, (source.airport icao).Keeps part)
    (hrules : ∀ icao point, (source.rules icao point).Keeps part) (plan : FlightPlan) (s : σ) :
    part (check source plan s).2 = part s := by
  have hcheck : ∀ origin destination, (checkRules source plan origin destination).Keeps part := by
    intro origin destination
    unfold checkRules
    split
    · exact .pure part _
    · refine .bind (hrules _ _) fun found => ?_
      cases found with
      | none => exact .pure part _
      | some rules => exact .bind hnow fun now => .pure part _
  have hevaluate : (evaluate source plan).Keeps part := by
    unfold evaluate
    split
    · split
      · exact .pure part _
      · refine .bind (hairport _) fun status => ?_
        cases status with
        | resolved => exact hcheck _ _
        | pending => exact .pure part _
        | missing => exact .pure part _
        | failed => exact .pure part _
    · exact .pure part _
  have h := hevaluate s
  unfold check Ask.orElse
  split
  · rename_i a t hrun
    simpa [hrun] using h
  · rename_i e t hrun
    simpa [hrun] using h

end Checker

/-- The line that tells the result of a check. -/
def FiledPlan.resultLine (filed : FiledPlan) (report : Report) : String :=
  "Result for " ++ filed.callsign ++ ": " ++ report.text

end DepartureRules
