import DepartureRules.Rules.Basic
import DepartureRules.Rules.Register

/-!
# The index of rules

Rule sets by airport, and within an airport by fix or alias. A document is first indexed by itself, where
a later record wins over an earlier one under the same name and two records of one airport are merged;
the outcome then replaces the listed airports of the index as a whole.
-/

namespace DepartureRules
set_option autoImplicit false

/-- Rule sets by fix or alias. -/
abbrev Departures : Type :=
  Register RuleSet

/-- Departures by airport. -/
abbrev RuleIndex : Type :=
  Register Departures

/-- The departures with a rule set entered under each of the names. -/
def Departures.enter (departures : Departures) (names : List String) (rules : RuleSet) : Departures :=
  names.foldl (fun departures name => departures.set name rules) departures

/-- The departures with those of the records entered in order. -/
def Departures.enterAll (departures : Departures) (records : List SidRecord) : Departures :=
  records.foldl (fun departures record => departures.enter record.keys record.rules) departures

namespace RuleIndex

/-- The index with the departures of an airport merged into those it has. -/
def merge (index : RuleIndex) (airport : AirportRecord) : RuleIndex :=
  index.set airport.icao (((index.get? airport.icao).getD .empty).enterAll airport.sids)

/-- The index of one document. -/
def ofAirports (airports : List AirportRecord) : RuleIndex :=
  airports.foldl merge .empty

/-- The index after a document: the airports listed in it are replaced, the others kept. -/
def load (index : RuleIndex) (airports : List AirportRecord) : RuleIndex :=
  index.overlay (ofAirports airports)

/-- The codes of the airports listed in a document, each of them once. -/
def listed (airports : List AirportRecord) : List String :=
  (ofAirports airports).names

/-- The rule set under a fix or alias of an airport. -/
def rules? (index : RuleIndex) (icao point : String) : Option RuleSet :=
  (index.get? icao).bind fun departures => departures.get? point

end RuleIndex

end DepartureRules
