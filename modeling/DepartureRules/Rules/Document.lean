import DepartureRules.Json.Reader
import DepartureRules.Rules.Basic

/-!
# Rule documents

The layout of the records in a document: the name of each field, its order, the values it admits and
whether it may be left out. An airport has to give its code, and a version record its time and its day;
every other field may be left out. Times are strings that `TimeOfDay.parse` reads.
-/

namespace DepartureRules
open Json
set_option autoImplicit false

/-! ## Readers -/

/-- The greatest value of a weekday field. -/
def dayLimit : Nat := 255

/-- The greatest value of a level field. -/
def levelLimit : Nat := 65535

/-- The greatest value of a reference field. -/
def referenceLimit : Nat := 4294967295

/-- Reads a time of day. -/
def TimeOfDay.reader : Reader TimeOfDay :=
  Reader.text.refine fun s => (TimeOfDay.parse s).toOption

/-- The fields of a moment. -/
def Moment.fields : List (RecordField Moment) := [
  .of "date" false (Reader.natural dayLimit).optional fun m day => { m with day },
  .of "time" false TimeOfDay.reader.optional fun m time => { m with time }]

/-- Reads a moment. -/
def Moment.reader : Reader Moment :=
  Reader.record Moment.fields Moment.unknown

/-- Reads a direction. -/
def Direction.reader : Reader Direction :=
  Reader.choice [("ODD", .odd), ("EVEN", .even)]

/-- The fields of an alert. -/
def Alert.fields : List (RecordField Alert) := [
  .of "ban" false Reader.flag fun a ban => { a with ban },
  .of "warn" false Reader.flag fun a warn => { a with warn },
  .of "note" false Reader.text.optional fun a note => { a with note },
  .of "srd" false (Reader.natural referenceLimit).optional fun a reference => { a with reference }]

/-- Reads an alert. -/
def Alert.reader : Reader Alert :=
  Reader.record Alert.fields {}

/-- The fields of a restriction. -/
def Restriction.fields : List (RecordField Restriction) := [
  .of "sidlevel" false Reader.flag fun r clearsSid => { r with clearsSid },
  .of "banned" false Reader.flag fun r banned => { r with banned },
  .of "alt" false Reader.text.list fun r alternatives => { r with alternatives },
  .of "suffix" false Reader.text.list fun r suffixes => { r with suffixes },
  .of "types" false Reader.text.list fun r types => { r with types },
  .of "start" false Moment.reader.optional fun r start => { r with start },
  .of "end" false Moment.reader.optional fun r finish => { r with finish }]

/-- Reads a restriction. -/
def Restriction.reader : Reader Restriction :=
  Reader.record Restriction.fields {}

/-- The fields of a constraint. -/
def Constraint.fields : List (RecordField Constraint) := [
  .of "min" false (Reader.natural levelLimit).optional fun c lowest => { c with lowest },
  .of "max" false (Reader.natural levelLimit).optional fun c highest => { c with highest },
  .of "dir" false Direction.reader.optional fun c direction => { c with direction },
  .of "dests" false Reader.text.list fun c destinations => { c with destinations },
  .of "nodests" false Reader.text.list fun c excludedDestinations => { c with excludedDestinations },
  .of "points" false Reader.text.list fun c exitPoints => { c with exitPoints },
  .of "nopoints" false Reader.text.list fun c excludedExitPoints => { c with excludedExitPoints },
  .of "route" false Reader.text.list fun c routes => { c with routes },
  .of "noroute" false Reader.text.list fun c excludedRoutes => { c with excludedRoutes },
  .of "alerts" false Alert.reader.list fun c alerts => { c with alerts },
  .of "restrictions" false Restriction.reader.list fun c restrictions => { c with restrictions }]

/-- Reads a constraint. -/
def Constraint.reader : Reader Constraint :=
  Reader.record Constraint.fields {}

/-- The fields of a rule set. -/
def RuleSet.fields : List (RecordField RuleSet) := [
  .of "constraints" false Constraint.reader.list fun s constraints => { s with constraints },
  .of "restrictions" false Restriction.reader.list fun s restrictions => { s with restrictions }]

/-- Reads a rule set. -/
def RuleSet.reader : Reader RuleSet :=
  Reader.record RuleSet.fields {}

/-- The fields of a listed departure. -/
def SidRecord.fields : List (RecordField SidRecord) := [
  .of "point" false Reader.text fun r point => { r with point },
  .of "aliases" false Reader.text.list fun r aliases => { r with aliases },
  .of "constraints" false Constraint.reader.list fun r constraints => { r with constraints },
  .of "restrictions" false Restriction.reader.list fun r restrictions => { r with restrictions }]

/-- Reads a listed departure. -/
def SidRecord.reader : Reader SidRecord :=
  Reader.record SidRecord.fields {}

/-- The fields of an airport. -/
def AirportRecord.fields : List (RecordField AirportRecord) := [
  .of "icao" true Reader.text fun r icao => { r with icao },
  .of "sids" false SidRecord.reader.list fun r sids => { r with sids }]

/-- Reads an airport. -/
def AirportRecord.reader : Reader AirportRecord :=
  Reader.record AirportRecord.fields ⟨"", []⟩

/-- The fields of a version record. -/
def VersionRecord.fields : List (RecordField VersionRecord) := [
  .of "api_version" false Reader.text fun v apiVersion => { v with apiVersion },
  .of "time" true TimeOfDay.reader fun v time => { v with time },
  .of "day" true (Reader.natural dayLimit) fun v day => { v with day }]

/-- Reads a version record. -/
def VersionRecord.reader : Reader VersionRecord :=
  Reader.record VersionRecord.fields ⟨"", ⟨0, 0⟩, 0⟩

/-! ## Documents -/

/-- Reads an airport document: a list of airports. -/
def readAirports (text : String) : Except Fault (List AirportRecord) :=
  Reader.document AirportRecord.reader.list text

/-- Reads the version document of a rule server. -/
def readVersion (text : String) : Except Fault VersionRecord :=
  Reader.document VersionRecord.reader text

end DepartureRules
