import DepartureRules.Json.Value
import DepartureRules.Rules.Basic

/-!
# Writing rule documents

The document form of each record, with every field written out in its own order. A reader gives the
record back from it, as long as its numbers are within their limits and its times are on the clock.
-/

namespace DepartureRules
open Json
set_option autoImplicit false

/-- A time of day in a document. -/
def TimeOfDay.toValue (t : TimeOfDay) : Value :=
  .text t.toString

/-- A moment in a document. -/
def Moment.toValue (m : Moment) : Value :=
  .object [("date", .ofOption .number m.day), ("time", .ofOption TimeOfDay.toValue m.time)]

/-- A direction in a document. -/
def Direction.toValue (d : Direction) : Value :=
  .text d.name

/-- An alert in a document. -/
def Alert.toValue (a : Alert) : Value :=
  .object [
    ("ban", .flag a.ban),
    ("warn", .flag a.warn),
    ("note", .ofOption .text a.note),
    ("srd", .ofOption .number a.reference)]

/-- A restriction in a document. -/
def Restriction.toValue (r : Restriction) : Value :=
  .object [
    ("sidlevel", .flag r.clearsSid),
    ("banned", .flag r.banned),
    ("alt", .texts r.alternatives),
    ("suffix", .texts r.suffixes),
    ("types", .texts r.types),
    ("start", .ofOption Moment.toValue r.start),
    ("end", .ofOption Moment.toValue r.finish)]

/-- A constraint in a document. -/
def Constraint.toValue (c : Constraint) : Value :=
  .object [
    ("min", .ofOption .number c.lowest),
    ("max", .ofOption .number c.highest),
    ("dir", .ofOption Direction.toValue c.direction),
    ("dests", .texts c.destinations),
    ("nodests", .texts c.excludedDestinations),
    ("points", .texts c.exitPoints),
    ("nopoints", .texts c.excludedExitPoints),
    ("route", .texts c.routes),
    ("noroute", .texts c.excludedRoutes),
    ("alerts", .ofList Alert.toValue c.alerts),
    ("restrictions", .ofList Restriction.toValue c.restrictions)]

/-- A rule set in a document. -/
def RuleSet.toValue (s : RuleSet) : Value :=
  .object [
    ("constraints", .ofList Constraint.toValue s.constraints),
    ("restrictions", .ofList Restriction.toValue s.restrictions)]

/-- A listed departure in a document. -/
def SidRecord.toValue (r : SidRecord) : Value :=
  .object [
    ("point", .text r.point),
    ("aliases", .texts r.aliases),
    ("constraints", .ofList Constraint.toValue r.constraints),
    ("restrictions", .ofList Restriction.toValue r.restrictions)]

/-- An airport in a document. -/
def AirportRecord.toValue (r : AirportRecord) : Value :=
  .object [("icao", .text r.icao), ("sids", .ofList SidRecord.toValue r.sids)]

/-- An airport document. -/
def airportsValue (airports : List AirportRecord) : Value :=
  .ofList AirportRecord.toValue airports

/-- A version document. -/
def VersionRecord.toValue (v : VersionRecord) : Value :=
  .object [
    ("api_version", .text v.apiVersion),
    ("time", v.time.toValue),
    ("day", .number v.day)]

end DepartureRules
