import DepartureRules.Checker
import DepartureRules.Live.State

/-!
# What happens to a live source

* `Event` is what can happen to a source: a question, a command, an answer, time that passes;
* `State.step` is the state at rest after an event, and `State.run` after a row of events;
* `State.Reachable` holds the states that a source can come to;
* `source` answers the questions of a check from the state of a live source.

A check asks its source between two events, so the state is brought to rest after it.
-/

namespace DepartureRules.Live
set_option autoImplicit false

/-- What can happen to a live source. -/
inductive Event
  /-- It is asked for an airport. -/
  | lookup (icao : String)
  /-- It is given a server, or the one that it was made with. -/
  | useServer (server : Option String)
  /-- It is given a file, which may not be readable. -/
  | load (content : Option String)
  | invalidate
  | update
  /-- A server answers a request. -/
  | answer (id : RequestId) (reply : Reply)
  /-- Time passes. The refresh loop does not pause between its readings and its request. -/
  | pass (span : Nat)
  deriving Repr, Inhabited

namespace State

/-- The request of a number, if it is in flight. -/
def request? (s : State) (id : RequestId) : Option Request :=
  s.inFlight.find? fun r => r.id == id

/-- The direct effect of an event. -/
def apply (s : State) : Event → State
  | .lookup icao => (s.lookup icao).2
  | .useServer server => s.useServer server
  | .load content => (s.load content).2
  | .invalidate => s.invalidate
  | .update => s.update
  | .answer id reply =>
    match s.request? id with
    | none => s
    | some r => s.answer r reply
  | .pass span => { s with clock := s.clock + span, loopBase := none }

/-- The state at rest after an event. -/
def step (s : State) (e : Event) : State :=
  (s.apply e).settled

/-- The state after a row of events. -/
def run (s : State) (events : List Event) : State :=
  events.foldl step s

/-- The states that a source can come to. -/
inductive Reachable : State → Prop
  | start (network : Network) (server : String) (timeout period : Nat) :
    Reachable (.start network server timeout period)
  | step {s : State} (h : Reachable s) (e : Event) : Reachable (s.step e)

@[simp] theorem clock_answer (s : State) (r : Request) (reply : Reply) :
    (s.answer r reply).clock = s.clock := by
  unfold answer
  split
  · split <;> rfl
  · rfl

theorem clock_lookup (s : State) (icao : String) : (s.lookup icao).2.clock = s.clock := by
  unfold lookup
  split <;> rfl

/-- Time does not run backwards. -/
theorem clock_le_clock_step (s : State) (e : Event) : s.clock ≤ (s.step e).clock := by
  simp only [step, clock_settled]
  cases e with
  | lookup icao => exact Nat.le_of_eq (clock_lookup s icao).symm
  | useServer server => exact Nat.le_refl _
  | load content =>
    simp only [apply, load]
    split
    · exact Nat.le_refl _
    · split <;> exact Nat.le_refl _
  | invalidate => exact Nat.le_refl _
  | update => exact Nat.le_refl _
  | answer id reply =>
    simp only [apply]
    split
    · exact Nat.le_refl _
    · exact Nat.le_of_eq (clock_answer s _ reply).symm
  | pass span => exact Nat.le_add_right _ _

theorem Reachable.run {s : State} (h : Reachable s) (events : List Event) : Reachable (s.run events) := by
  induction events generalizing s with
  | nil => exact h
  | cons e events ih => exact ih (h.step e)

end State

/-- A live source as a source of rules. -/
def source : Source State where
  now := .reading State.now
  airport icao := .stepping fun s => s.lookup icao
  rules icao point := .reading fun s => s.rules? icao point

end DepartureRules.Live
