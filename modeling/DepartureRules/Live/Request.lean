import DepartureRules.Duration
import DepartureRules.Live.Address
import DepartureRules.Live.Cache
import DepartureRules.Rules.Document

/-!
# Requests to rule servers

A live source sends requests for two kinds of document and gets replies.

* `Network` says where the requests to an address wait for an answer;
* `Request` is a request that has not ended. It carries the generation at which it was launched, the address that it
  was launched for and the place where it waits;
* `RequestId` tells requests apart: those that were asked for are numbered in one row, those of the refresh
  loop in another, so neither row depends on how many requests the other has;
* `Reply` is what a server says, and `readAnswer` what it means for the document that was asked for;
* `RefreshLoop` is the schedule of the requests that are launched from time to time.
-/

namespace DepartureRules.Live
set_option autoImplicit false

/-! ## The network -/

/-- How requests get to servers. Which addresses can be sent to, and in what form an address reaches a server, is the
affair of the network. -/
structure Network where
  /-- Where a request to an address waits for an answer; nowhere if it cannot be sent. -/
  target? : String → Option String
  /-- Where a redirection to a location leads a request that waits at a place; nowhere if it cannot be followed. -/
  onward? : String → String → Option String

namespace Network

/-- The network on which a request waits at the address that it was sent to. -/
def up : Network :=
  ⟨some, fun _ location => some location⟩

/-- The network on which nothing can be sent. -/
def down : Network :=
  ⟨fun _ => none, fun _ _ => none⟩

end Network

/-! ## Requests -/

/-- What a request was launched for. -/
inductive Purpose
  /-- The rules of an airport. -/
  | airport (icao : String)
  | referenceTime
  deriving DecidableEq, Repr, Inhabited

/-- The address of the document that a request is for. -/
def Purpose.address (base : String) : Purpose → String
  | .airport icao => Address.airportAddress base icao
  | .referenceTime => Address.versionAddress base

/-- The number of a request. -/
inductive RequestId
  /-- One that was asked for by a question or a command. -/
  | asked (number : Nat)
  /-- One of the refresh loop. -/
  | loop (number : Nat)
  deriving DecidableEq, Repr, Inhabited

/-- The request was launched by the refresh loop. -/
def RequestId.ofLoop : RequestId → Bool
  | .asked _ => false
  | .loop _ => true

/-- A request that has not ended. -/
structure Request where
  id : RequestId
  purpose : Purpose
  /-- The generation at which it was launched. -/
  generation : Nat
  /-- When it was launched. -/
  began : Nat
  /-- The address that it was launched for. -/
  address : String
  /-- Where it waits for an answer; nowhere if it could not be sent. -/
  target : Option String
  /-- It has been redirected, and will not be again. -/
  redirected : Bool
  deriving DecidableEq, Repr, Inhabited

/-- The request where a redirection to a location leads it. -/
def Request.sentOn (r : Request) (network : Network) (location : String) : Request :=
  { r with target := r.target.bind (network.onward? · location), redirected := true }

/-! ## Replies -/

/-- What a server says. -/
inductive Reply
  | redirect (location : String)
  | document (body : String)
  | notFound
  | failed
  deriving DecidableEq, Repr, Inhabited

/-- A document from a reply; a text that is not the document counts as a failure. -/
def readAnswer {α : Type} (read : String → Except Json.Fault α) : Reply → Answer α
  | .document body =>
    match read body with
    | .ok document => .received document
    | .error _ => .failed
  | .notFound => .notFound
  | .redirect _ => .failed
  | .failed => .failed

/-- The rules in a reply. -/
def airportAnswer (reply : Reply) : Answer (List AirportRecord) :=
  readAnswer readAirports reply

/-- The version record in a reply. -/
def versionAnswer (reply : Reply) : Answer VersionRecord :=
  readAnswer readVersion reply

/-! ## The refresh loop -/

/-- The schedule of the refresh loop. -/
structure RefreshLoop where
  period : Nat
  period_pos : 0 < period
  /-- When the next refresh is due. -/
  due : Nat
  /-- When its requests were launched, the latest first. -/
  launches : List Nat

/-- How late a refresh may be launched with its schedule kept. -/
def lateness : Nat :=
  Duration.ofMillis 5

namespace RefreshLoop

/-- The schedule of a loop that begins at the start of time, if its period is not zero. -/
def ofPeriod (period : Nat) : Option RefreshLoop :=
  if h : 0 < period then some ⟨period, h, period, []⟩ else none

/-- The schedule after a refresh at `now`. A late one puts off the next by a whole period. -/
def fired (l : RefreshLoop) (now : Nat) : RefreshLoop :=
  { l with
    due := (if l.due + lateness < now then now else l.due) + l.period
    launches := now :: l.launches }

theorem due_lt_due_fired (l : RefreshLoop) {now : Nat} (h : l.due ≤ now) :
    l.due < (l.fired now).due := by
  have := l.period_pos
  simp only [fired]
  split <;> omega

/-- The next refresh is due a period after this one, or up to the admitted lateness less. -/
theorem launch_le_due_fired (l : RefreshLoop) (now : Nat) :
    now + l.period ≤ (l.fired now).due + lateness := by
  simp only [fired]
  split <;> omega

end RefreshLoop

end DepartureRules.Live
