import DepartureRules.Json.Reader

/-!
# Outcomes and reports

An `Outcome` is the verdict on a flight plan. Outcomes are ordered by severity: the order is that of their
`code`s, which are also the exit statuses of the command line. A `Report` is an outcome with the notes
that led to it.

* `Outcome.name` is the name shown to readers, `Outcome.wireName` the one in documents;
* `Outcome.classification` sorts outcomes into open, good and bad ones;
* `Report.text` writes the notes and the class.
-/

namespace DepartureRules
set_option autoImplicit false

/-- The verdict on a flight plan. -/
inductive Outcome
  | success
  | warning
  /-- The plan is not filed under instrument rules and was not looked at. -/
  | nonIfr
  /-- The rules of the departure airport are being fetched. -/
  | pending
  /-- The rules of the departure airport could not be fetched. -/
  | sourceError
  /-- There are no rules for the departure airport. -/
  | unknown
  /-- The plan names no airports, or its route is not well formed. -/
  | badRoute
  | sidUnknown
  | conditionBan
  | conditionFail
  | destination
  | exitPoint
  | levelBlock
  | levelParity
  | levelSeries
  | route
  | constraintBan
  deriving DecidableEq, Repr, Inhabited

/-- The coarse sort of an outcome. -/
inductive Classification
  | pending
  | pass
  | fail
  deriving DecidableEq, Repr, Inhabited

/-- The word for a class. -/
def Classification.name : Classification → String
  | .pending => "pending"
  | .pass => "pass"
  | .fail => "fail"

namespace Outcome

/-- All outcomes by rising severity. -/
def all : List Outcome :=
  [.success, .warning, .nonIfr, .pending, .sourceError, .unknown, .badRoute, .sidUnknown,
    .conditionBan, .conditionFail, .destination, .exitPoint, .levelBlock, .levelParity, .levelSeries,
    .route, .constraintBan]

/-- The place of an outcome in the order of severity. -/
def code : Outcome → Nat
  | .success => 0
  | .warning => 1
  | .nonIfr => 2
  | .pending => 3
  | .sourceError => 4
  | .unknown => 5
  | .badRoute => 6
  | .sidUnknown => 7
  | .conditionBan => 8
  | .conditionFail => 9
  | .destination => 10
  | .exitPoint => 11
  | .levelBlock => 12
  | .levelParity => 13
  | .levelSeries => 14
  | .route => 15
  | .constraintBan => 16

/-- The name of an outcome for readers. -/
def name : Outcome → String
  | .success => "Success"
  | .warning => "Warning"
  | .nonIfr => "NonIfr"
  | .pending => "Pending"
  | .sourceError => "Error"
  | .unknown => "Unknown"
  | .badRoute => "Syntax"
  | .sidUnknown => "SidUnknown"
  | .conditionBan => "CondBan"
  | .conditionFail => "CondFail"
  | .destination => "Destination"
  | .exitPoint => "ExitPoint"
  | .levelBlock => "LevelBlock"
  | .levelParity => "LevelParity"
  | .levelSeries => "LevelSeries"
  | .route => "Route"
  | .constraintBan => "CstrBan"

/-- The name of an outcome in documents. -/
def wireName : Outcome → String
  | .success => "success"
  | .warning => "warning"
  | .nonIfr => "non_ifr"
  | .pending => "pending"
  | .sourceError => "error"
  | .unknown => "unknown"
  | .badRoute => "syntax"
  | .sidUnknown => "sid_unknown"
  | .conditionBan => "cond_ban"
  | .conditionFail => "cond_fail"
  | .destination => "destination"
  | .exitPoint => "exit_point"
  | .levelBlock => "level_block"
  | .levelParity => "level_parity"
  | .levelSeries => "level_series"
  | .route => "route"
  | .constraintBan => "cstr_ban"

/-- Whether the matter is open, or the plan may go, or it may not. -/
def classification : Outcome → Classification
  | .pending | .sourceError => .pending
  | .success | .warning | .nonIfr | .unknown => .pass
  | _ => .fail

/-- The order of severity. -/
def compare (a b : Outcome) : Ordering :=
  Ord.compare a.code b.code

/-- The outcome of a wire name. -/
def ofWireName? (name : String) : Option Outcome :=
  all.find? fun outcome => outcome.wireName == name

/-- Reads an outcome of a document. -/
def reader : Json.Reader Outcome :=
  Json.Reader.choice (all.map fun outcome => (outcome.wireName, outcome))

end Outcome

/-- An outcome and the notes that led to it. -/
structure Report where
  outcome : Outcome
  trail : List String
  deriving DecidableEq, Repr, Inhabited

/-- A report with a single note. -/
def Report.of (outcome : Outcome) (note : String) : Report :=
  ⟨outcome, [note]⟩

/-- The notes of a report, each with a semicolon after it, and its class. -/
def Report.text (report : Report) : String :=
  report.trail.foldr (fun note text => note ++ "; " ++ text) report.outcome.classification.name

end DepartureRules
