import DepartureRules.Moment

/-!
# Departure rules

The rules of a standard instrument departure (SID), and the records that rule documents are made of:

* `Alert`, `Restriction` and `Constraint`, the parts of a rule;
* `RuleSet`, the rules of one departure fix;
* `SidRecord` and `AirportRecord`, a rule set and an airport as a document lists them;
* `VersionRecord`, which carries the reference time of a rule server.

An optional part that a document leaves out is absent, empty or `false`.
-/

namespace DepartureRules
set_option autoImplicit false

/-! ## Parts of a rule -/

/-- The parity of the levels that a constraint admits. -/
inductive Direction
  | odd
  | even
  deriving DecidableEq, Repr, Inhabited

/-- The remainder by two of a level of the direction. -/
def Direction.parity : Direction → Int
  | .odd => 1
  | .even => 0

/-- The name of a direction in a document. -/
def Direction.name : Direction → String
  | .odd => "ODD"
  | .even => "EVEN"

/-- A ban or a warning that a constraint carries. -/
structure Alert where
  ban : Bool := false
  warn : Bool := false
  note : Option String := none
  /-- The entry of the standard route document that the alert points at. -/
  reference : Option Nat := none
  deriving DecidableEq, Repr, Inhabited

/-- A clause that decides whether a constraint or a whole departure is open. -/
structure Restriction where
  /-- The clause clears a failing verdict on the whole departure. -/
  clearsSid : Bool := false
  banned : Bool := false
  /-- Departures to suggest where the clause blocks a plan. -/
  alternatives : List String := []
  suffixes : List String := []
  types : List String := []
  start : Option Moment := none
  finish : Option Moment := none
  deriving DecidableEq, Repr, Inhabited

/-- One candidate rule of a departure. Levels are flight levels, in hundreds of feet. -/
structure Constraint where
  lowest : Option Nat := none
  highest : Option Nat := none
  direction : Option Direction := none
  destinations : List String := []
  excludedDestinations : List String := []
  exitPoints : List String := []
  excludedExitPoints : List String := []
  routes : List String := []
  excludedRoutes : List String := []
  alerts : List Alert := []
  restrictions : List Restriction := []
  deriving DecidableEq, Repr, Inhabited

/-- The rules of one departure fix. -/
structure RuleSet where
  constraints : List Constraint := []
  restrictions : List Restriction := []
  deriving DecidableEq, Repr, Inhabited

/-! ## Records of a document -/

/-- A departure as a document lists it, under its fix and its aliases. -/
structure SidRecord where
  point : String := ""
  aliases : List String := []
  constraints : List Constraint := []
  restrictions : List Restriction := []
  deriving DecidableEq, Repr, Inhabited

/-- The names that a departure is found under, the fix first. -/
def SidRecord.keys (record : SidRecord) : List String :=
  record.point :: record.aliases

/-- The rules of a listed departure. -/
def SidRecord.rules (record : SidRecord) : RuleSet :=
  ⟨record.constraints, record.restrictions⟩

/-- An airport and its departures. -/
structure AirportRecord where
  icao : String
  sids : List SidRecord := []
  deriving DecidableEq, Repr, Inhabited

/-- The version record of a rule server. -/
structure VersionRecord where
  apiVersion : String := ""
  time : TimeOfDay
  day : Nat
  deriving DecidableEq, Repr, Inhabited

/-- The reference time that a version record carries. -/
def VersionRecord.moment (version : VersionRecord) : Moment :=
  ⟨some version.day, some version.time⟩

end DepartureRules
