import DepartureRules.Rules.Index
import DepartureRules.Source.Basic

/-!
# The cache of fetched rules

What is known of the airports that were asked for: three sets of codes and an index. An answer from the
rule server settles the airport that it was asked for, and resolves every airport that it lists.

* `Answer` is what became of a request;
* `Cache.settle` takes the answer to a request for an airport into the cache.

An airport that is resolved stays resolved, whatever becomes of its own request.
-/

namespace DepartureRules
set_option autoImplicit false

/-- What became of a request for a document. -/
inductive Answer (α : Type)
  | received (document : α)
  /-- The server has no such document. -/
  | notFound
  | failed
  deriving DecidableEq, Repr, Inhabited

/-- The airports asked for, by what is known of them. -/
structure Cache where
  pending : List String
  missing : List String
  failed : List String
  index : RuleIndex

namespace Cache

/-- The cache before any airport was asked for. -/
def empty : Cache :=
  ⟨[], [], [], .empty⟩

/-- What is known of an airport; nothing if it was never asked for nor listed. -/
def status? (c : Cache) (icao : String) : Option AirportStatus :=
  if c.failed.contains icao then some .failed
  else if c.missing.contains icao then some .missing
  else if c.pending.contains icao then some .pending
  else if c.index.contains icao then some .resolved
  else none

/-- A list of codes without one of them. -/
def without (codes : List String) (icao : String) : List String :=
  codes.filter (· != icao)

/-- The airport is being fetched. -/
def await (c : Cache) (icao : String) : Cache :=
  { c with pending := c.pending.insert icao }

/-- The airport is no longer pending, missing or failed. -/
def resolve (c : Cache) (icao : String) : Cache :=
  { c with
    pending := without c.pending icao
    missing := without c.missing icao
    failed := without c.failed icao }

/-- The document is indexed, and every airport that it lists is resolved. -/
def load (c : Cache) (airports : List AirportRecord) : Cache :=
  (RuleIndex.listed airports).foldl resolve { c with index := c.index.load airports }

/-- The cache that holds one document and nothing else. -/
def ofAirports (airports : List AirportRecord) : Cache :=
  empty.load airports

/-- Takes the answer to a request for an airport into the cache. -/
def settle (c : Cache) (icao : String) (answer : Answer (List AirportRecord)) : Cache :=
  let c := { c with pending := without c.pending icao }
  match answer with
  | .received airports =>
    let c := c.load airports
    if c.index.contains icao then c else { c with missing := c.missing.insert icao }
  | .notFound => if c.index.contains icao then c else { c with missing := c.missing.insert icao }
  | .failed => if c.index.contains icao then c else { c with failed := c.failed.insert icao }

end Cache

end DepartureRules
