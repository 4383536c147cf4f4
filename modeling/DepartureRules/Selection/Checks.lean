import DepartureRules.Rules.Verdict
import DepartureRules.Selection.Pattern

/-!
# The checks of a constraint

A constraint admits a departure when seven checks pass, in this order: destination, exit point,
restrictions, level block, level parity, route, alerts. A check that passes may leave notes; a check that
does not pass rejects the constraint with an outcome and notes.

* `checks` lists the seven answers;
* `runChecks` stops at the first rejection and counts the checks passed before it, and `candidate` does so
  for a constraint.
-/

namespace DepartureRules
set_option autoImplicit false

/-- A departure that is compared with the rules of its fix. -/
structure Departure where
  rules : RuleSet
  fix : String
  destination : String
  /-- The filed points, in which exit points are looked for. -/
  points : List String
  /-- The airways and waypoints of the route, which route patterns are compared with. -/
  route : List String
  /-- The requested level in feet. -/
  cruiseLevel : Int
  circumstances : Circumstances

/-- Why a constraint does not admit a departure. -/
structure Rejection where
  outcome : Outcome
  notes : List String
  deriving DecidableEq, Repr

/-- The answer of a check: notes where it passes. -/
abbrev CheckAnswer : Type :=
  Except Rejection (List String)

/-- A check that does not pass, with a single note. -/
def reject (outcome : Outcome) (note : String) : CheckAnswer :=
  .error ⟨outcome, [note]⟩

/-- A check that passes without notes. -/
def pass : CheckAnswer :=
  .ok []

/-! ## Destination and exit point -/

/-- The destination begins with no excluded text and with one of the admitted texts, if there are any. -/
def checkDestination (c : Constraint) (destination : String) : CheckAnswer :=
  let begun (beginning : String) : Bool := beginsWith destination beginning
  if c.excludedDestinations.any begun then reject .destination "destination matches blacklist"
  else if !c.destinations.isEmpty && !c.destinations.any begun then
    reject .destination "destination not in whitelist"
  else pass

/-- No excluded point is filed, and one of the admitted points is, if there are any. -/
def checkExitPoint (c : Constraint) (points : List String) : CheckAnswer :=
  let filed (point : String) : Bool := points.contains point
  if c.excludedExitPoints.any filed then reject .exitPoint "exit point matches blacklist"
  else if !c.exitPoints.isEmpty && !c.exitPoints.any filed then
    reject .exitPoint "exit point not in whitelist"
  else pass

/-! ## Restrictions -/

/-- The restrictions of the constraint pass, and so does the verdict on the whole departure, unless the
deciding clause of the constraint clears it. -/
def checkRestrictions (c : Constraint) (d : Departure) (whole : Verdict) : CheckAnswer :=
  let own := verdict c.restrictions d.circumstances
  if !own.passed then
    .error ⟨own.outcome, own.note.toList ++ (suggestions c.restrictions).toList⟩
  else if whole.passed then pass
  else if own.clearsSid then .ok ["overridden by matching constrained condition"]
  else .error ⟨whole.outcome, (suggestions d.rules.restrictions).toList⟩

/-! ## Levels -/

/-- The highest level, in thousands of feet, where neighbouring levels are a thousand feet apart. -/
def lastThousand : Int := 41

/-- The requested level is neither beneath the lowest nor above the highest level. -/
def checkLevelBlock (c : Constraint) (cruiseLevel : Int) : CheckAnswer :=
  let level := cruiseLevel.tdiv 100
  if c.lowest.any fun (lowest : Nat) => decide (level < (lowest : Int)) then
    reject .levelBlock "requested level beneath minimum"
  else if c.highest.any fun (highest : Nat) => decide ((highest : Int) < level) then
    reject .levelBlock "requested level above maximum"
  else pass

/-- The requested level is a multiple of a thousand feet and has the parity of the direction. Above the
last thousand every other level is left out, and the rest alternate in direction. -/
def checkLevelParity (c : Constraint) (cruiseLevel : Int) : CheckAnswer :=
  if cruiseLevel.tmod 1000 ≠ 0 then reject .levelSeries "requested level not IFR"
  else
    match c.direction with
    | none => pass
    | some direction =>
      let level := cruiseLevel.tdiv 1000
      if level ≤ lastThousand then
        if level.tmod 2 = direction.parity then pass
        else reject .levelParity "requested level has incorrect parity"
      else if (2 + level - lastThousand).tmod 4 = direction.parity * 2 then pass
      else reject .levelParity "requested RVSM level has incorrect parity"

/-! ## Route and alerts -/

/-- No excluded pattern matches the route, and one of the admitted patterns does, if there are any. The
patterns are anchored when the departure has a fix. -/
def checkRoute (c : Constraint) (route : List String) (fix : String) : CheckAnswer :=
  let matching (pattern : String) : Bool := Pattern.matchesRoute pattern route (!fix.isEmpty)
  if c.excludedRoutes.any matching then reject .route "route matches blacklist"
  else if !c.routes.isEmpty && !c.routes.any matching then reject .route "route not in whitelist"
  else pass

/-- A message with the note of an alert, if it has one. -/
def withNote (message : String) (note : Option String) : String :=
  match note with
  | some note => message ++ ": " ++ note
  | none => message

/-- The notes on the warnings before the first ban. -/
def warningNotes (alerts : List Alert) : List String :=
  ((alerts.takeWhile fun alert => !alert.ban).filter fun alert => alert.warn).map fun alert =>
    withNote "candidate contains warning" alert.note

/-- No alert bans the constraint or warns of it. -/
def checkAlerts (c : Constraint) : CheckAnswer :=
  let warnings := warningNotes c.alerts
  match c.alerts.find? fun alert => alert.ban with
  | some alert => .error ⟨.constraintBan, warnings ++ [withNote "candidate is banned" alert.note]⟩
  | none => if warnings.isEmpty then pass else .error ⟨.warning, warnings⟩

/-! ## All checks -/

/-- The answers of the seven checks in their order. -/
def checks (c : Constraint) (d : Departure) (whole : Verdict) : List CheckAnswer := [
  checkDestination c d.destination,
  checkExitPoint c d.points,
  checkRestrictions c d whole,
  checkLevelBlock c d.cruiseLevel,
  checkLevelParity c d.cruiseLevel,
  checkRoute c d.route d.fix,
  checkAlerts c]

/-- How far a constraint got. -/
structure Candidate where
  /-- The number of checks passed before the first rejection. -/
  passes : Nat
  outcome : Outcome
  trail : List String
  deriving DecidableEq, Repr

/-- The checks are run up to the first rejection. -/
def runChecks : List CheckAnswer → Candidate
  | [] => ⟨0, .success, []⟩
  | .error rejection :: _ => ⟨0, rejection.outcome, rejection.notes⟩
  | .ok notes :: answers =>
    let rest := runChecks answers
    ⟨rest.passes + 1, rest.outcome, notes ++ rest.trail⟩

/-- How far a constraint gets with a departure. -/
def candidate (c : Constraint) (d : Departure) (whole : Verdict) : Candidate :=
  runChecks (checks c d whole)

end DepartureRules
