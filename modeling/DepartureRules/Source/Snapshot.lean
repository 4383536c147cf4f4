import DepartureRules.Rules.Document
import DepartureRules.Rules.Index
import DepartureRules.Source.Basic

/-!
# Sources that do not fetch

* `Snapshot`, the rules of a document that was loaded up front, with a fixed moment;
* `Scripted`, a snapshot whose answers about airports follow a script;
* `MomentScript`, moments that follow a script.

An airport of a snapshot is resolved when its document lists it and missing otherwise.
-/

namespace DepartureRules
set_option autoImplicit false

/-- Rules that were loaded up front. -/
structure Snapshot where
  index : RuleIndex
  now : Moment

namespace Snapshot

/-- The snapshot of a document. -/
def ofAirports (airports : List AirportRecord) (now : Moment) : Snapshot :=
  ⟨RuleIndex.load .empty airports, now⟩

/-- The snapshot of the text of a document. -/
def read (text : String) (now : Moment) : Except Json.Fault Snapshot :=
  (readAirports text).map fun airports => ofAirports airports now

/-- What is known of an airport. -/
def status (s : Snapshot) (icao : String) : AirportStatus :=
  if s.index.contains icao then .resolved else .missing

/-- The rules under a fix or alias of an airport. -/
def rules? (s : Snapshot) (icao point : String) : Option RuleSet :=
  s.index.rules? icao point

/-- A snapshot as a source. No answer changes it. -/
def source : Source Snapshot where
  now := .reading Snapshot.now
  airport icao := .reading fun s => s.status icao
  rules icao point := .reading fun s => s.rules? icao point

end Snapshot

/-- A snapshot whose answers about airports are given in advance. -/
structure Scripted where
  snapshot : Snapshot
  /-- The coming answers; the last one is given again and again. A missing answer is a breakdown. -/
  answers : List (Option AirportStatus)
  /-- How often an airport was asked for. -/
  calls : Nat

namespace Scripted

/-- Gives the next answer about an airport. -/
def answer (s : Scripted) : Option AirportStatus × Scripted :=
  match s.answers with
  | [] => (some .missing, { s with calls := s.calls + 1 })
  | [last] => (last, { s with calls := s.calls + 1 })
  | next :: later => (next, { s with answers := later, calls := s.calls + 1 })

/-- A scripted snapshot as a source. -/
def source : Source Scripted where
  now := .reading fun s => s.snapshot.now
  airport _ := fun s =>
    match s.answer with
    | (some status, s) => (.ok status, s)
    | (none, s) => (.error .internal, s)
  rules icao point := .reading fun s => s.snapshot.rules? icao point

end Scripted

/-- Moments that are given in advance; the last one is given again and again. -/
structure MomentScript where
  moments : List Moment

/-- Gives the next moment. -/
def MomentScript.next (s : MomentScript) : Moment × MomentScript :=
  match s.moments with
  | [] => (.unknown, s)
  | [last] => (last, s)
  | first :: later => (first, ⟨later⟩)

end DepartureRules
