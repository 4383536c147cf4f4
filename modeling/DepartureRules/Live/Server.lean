import DepartureRules.Live.Event
import DepartureRules.Rules.Register

/-!
# Rule servers

A rule server holds every request until it answers it, and answers by a table. A `Session` is a live source
together with the server that it asks and the files that it may load.

* `Server.reply` is the answer of a server to a target;
* `Session.answer` lets the server answer one request, `Session.settle` all of them;
* `Session.perform` carries out a command of a session.
-/

namespace DepartureRules.Live
set_option autoImplicit false

/-! ## Servers -/

/-- What a server answers at a target. -/
structure Entry where
  status : Nat := 200
  body : String := ""
  location : Option String := none
  /-- The connection is closed without an answer. -/
  drop : Bool := false
  deriving DecidableEq, Repr, Inhabited

/-- The answers of a server by target. -/
abbrev Server : Type :=
  Register Entry

/-- The statuses that send a request on to another place. -/
def redirections : List Nat := [301, 302, 303, 307, 308]

/-- The answer that an entry stands for. -/
def Entry.reply (e : Entry) : Reply :=
  if e.drop then .failed
  else
    match e.location with
    | some location => if redirections.contains e.status then .redirect location else plain
    | none => plain
where
  /-- The answer without regard to a location. -/
  plain : Reply :=
    if e.status = 404 then .notFound
    else if 200 ≤ e.status && e.status < 300 then .document e.body
    else .failed

/-- The answer of a server at a target. -/
def Server.reply (server : Server) (target : String) : Reply :=
  match server.get? target with
  | some entry => entry.reply
  | none => .notFound

/-- The server with another entry at a target, or with none. -/
def Server.script (server : Server) (target : String) (entry : Option Entry) : Server :=
  match entry with
  | some entry => server.set target entry
  | none => ⟨server.entries.filter fun e => e.1 != target⟩

/-! ## Sessions -/

/-- A live source, the server that it asks and the files that it may load. -/
structure Session where
  state : State
  server : Server
  files : List (String × String)

namespace Session

/-- The session after an event. -/
def step (s : Session) (e : Event) : Session :=
  { s with state := s.state.step e }

/-- The targets of the requests in flight in the order in which they reached the server. -/
def held (s : Session) : List String :=
  s.state.inFlight.filterMap Request.target

/-- The server answers a request. -/
def reply (s : Session) (r : Request) (target : String) : Session :=
  s.step (.answer r.id (s.server.reply target))

/-- The server answers the first request at a target; none if no request is held there. -/
def answer (s : Session) (target : String) : Option Session :=
  match s.state.inFlight.find? fun r => r.target == some target with
  | none => none
  | some r => some (s.reply r target)

/-- More than the number of answers that the requests in flight, and those of the refresh loop that are
due already, can still take: two for each, as each may be redirected once. -/
def workload (s : Session) : Nat :=
  2 * s.state.inFlight.length + 2 * s.state.backlog + 1

/-- The server answers requests in order of arrival, redirected ones included, until it holds none. The
answer holds the targets in the order of the answers. -/
def settleWithin (s : Session) : Nat → List String × Session
  | 0 => ([], s)
  | fuel + 1 =>
    match s.held with
    | [] => ([], s)
    | target :: _ =>
      match s.answer target with
      | none => ([], s)
      | some next =>
        let rest := settleWithin next fuel
        (target :: rest.1, rest.2)

/-- The server answers all requests. -/
def settle (s : Session) : List String × Session :=
  settleWithin s s.workload

/-- Checks a plan with the source of the session. -/
def check (s : Session) (plan : FlightPlan) : Report × Session :=
  let checked := Checker.check source plan s.state
  (checked.1, { s with state := checked.2.settled })

/-- Gives the source a text: an address of a server, the name of a file, or nothing. -/
def set (s : Session) (text : Option String) : Except State.LoadError Unit × Session :=
  match text with
  | none => (.ok (), s.step (.useServer none))
  | some text =>
    if Address.namesServer text then (.ok (), s.step (.useServer (some text)))
    else
      let content := s.files.lookup text
      ((s.state.load content).1, s.step (.load content))

/-! ## Commands -/

/-- What can be done in a session. -/
inductive Command
  | airport (icao : String)
  | rules (icao point : String)
  | moment
  | base
  | set (text : Option String)
  | invalidate
  | update
  | check (plan : FlightPlan)
  | script (target : String) (entry : Option Entry)
  | answer (target : String)
  | settle
  | advance (span : Nat)

/-- What a command leads to. -/
inductive Result
  | done
  | status (status : AirportStatus)
  | rules (rules : Option RuleSet)
  | moment (moment : Moment)
  | text (text : String)
  | loaded (outcome : Except State.LoadError Unit)
  | report (report : Report)
  | answered (target : Option String)
  | settled (targets : List String)

/-- Carries out a command. -/
def perform (s : Session) (c : Command) : Result × Session :=
  match c with
  | .airport icao => (.status (s.state.lookup icao).1, s.step (.lookup icao))
  | .rules icao point => (.rules (s.state.rules? icao point), s)
  | .moment => (.moment s.state.now, s)
  | .base => (.text s.state.base, s)
  | .set text => ((.loaded (s.set text).1), (s.set text).2)
  | .invalidate => (.done, s.step .invalidate)
  | .update => (.done, s.step .update)
  | .check plan => (.report (s.check plan).1, (s.check plan).2)
  | .script target entry => (.done, { s with server := s.server.script target entry })
  | .answer target =>
    match s.answer target with
    | some next => (.answered (some target), next)
    | none => (.answered none, s)
  | .settle => (.settled s.settle.1, s.settle.2)
  | .advance span => (.done, s.step (.pass span))

/-! ## The clock of a session -/

/-- The time in the session. -/
def clockOf (s : Session) : Nat :=
  s.state.clock

theorem clockOf_le_step (s : Session) (e : Event) : s.clockOf ≤ (s.step e).clockOf :=
  State.clock_le_clock_step s.state e

theorem clockOf_le_settleWithin (s : Session) (fuel : Nat) :
    s.clockOf ≤ (s.settleWithin fuel).2.clockOf := by
  induction fuel generalizing s with
  | zero => exact Nat.le_refl _
  | succ fuel ih =>
    simp only [settleWithin]
    split
    · exact Nat.le_refl _
    · split
      · exact Nat.le_refl _
      · rename_i next hnext
        refine Nat.le_trans ?_ (ih next)
        simp only [answer] at hnext
        split at hnext
        · simp at hnext
        · rw [← Option.some.inj hnext]
          exact clockOf_le_step _ _

theorem clockOf_check (s : Session) (plan : FlightPlan) : (s.check plan).2.clockOf = s.clockOf := by
  simp only [check, clockOf, State.clock_settled]
  exact Checker.check_keeps (fun _ => rfl) (fun icao s => State.clock_lookup s icao) (fun _ _ _ => rfl)
    plan s.state

end Session

end DepartureRules.Live
