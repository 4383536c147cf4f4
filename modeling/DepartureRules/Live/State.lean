import DepartureRules.Live.Request

/-!
# A source that fetches its rules

A live source asks a rule server for the rules of an airport when they are needed first, and for the
reference time when it is made, on demand and, if it has a refresh loop, from time to time. It never waits: an
airport that is being fetched is pending.

* `State` holds the cache, the requests in flight, the generation and the clock;
* `State.answer` takes the answer to a request, `State.lookup` and the functions after it are the questions
  and commands of a source;
* `State.settled` brings a source to rest.

Every request carries the generation at which it was launched, and its answer counts in that generation
only. `invalidate` and the loading of a file begin a new generation, so older answers are discarded.

The refresh loop runs beside the commands. It reads the base address first and the generation then, and a command can
come in between: `State.loopBase` is the address that it has read.

A source at rest has no request left that cannot be sent or has run out of time, and no refresh that is due
and not held up by the last one.
-/

namespace DepartureRules.Live
set_option autoImplicit false

/-! ## States -/

/-- A live source. -/
structure State where
  network : Network
  /-- The base address that the source was made with. -/
  configured : String
  /-- How long a request may take. -/
  timeout : Nat
  clock : Nat
  /-- The base address that requests are launched with. -/
  base : String
  generation : Nat
  cache : Cache
  /-- The last reference time received. -/
  now : Moment
  /-- The requests that have not ended, in the order in which they reached a server. -/
  inFlight : List Request
  /-- The number of requests asked for so far. -/
  asked : Nat
  loop : Option RefreshLoop
  /-- The base address that the refresh loop has read at this moment for the request that is due, if it has. -/
  loopBase : Option String

namespace State

/-- A new request at the present moment to the server with a base address. -/
def newRequest (s : State) (base : String) (id : RequestId) (purpose : Purpose) : Request where
  id := id
  purpose := purpose
  generation := s.generation
  began := s.clock
  address := purpose.address base
  target := s.network.target? (purpose.address base)
  redirected := false

/-- Launches a request that was asked for. -/
def launch (s : State) (purpose : Purpose) : State :=
  { s with
    inFlight := s.inFlight ++ [s.newRequest s.base (.asked s.asked) purpose]
    asked := s.asked + 1 }

/-- The cache after a request has ended. -/
def cacheAfter (s : State) (r : Request) (reply : Reply) : Cache :=
  match r.purpose with
  | .airport icao =>
    if r.generation = s.generation then s.cache.settle icao (airportAnswer reply) else s.cache
  | .referenceTime => s.cache

/-- The reference time after a request has ended. -/
def nowAfter (s : State) (r : Request) (reply : Reply) : Moment :=
  match r.purpose with
  | .airport _ => s.now
  | .referenceTime =>
    match versionAnswer reply with
    | .received version => if r.generation = s.generation then version.moment else s.now
    | _ => s.now

/-- The requests in flight without one of them. -/
def inFlightWithout (s : State) (id : RequestId) : List Request :=
  s.inFlight.filter fun r => r.id != id

/-- Ends a request with an answer that is no redirection. -/
def finish (s : State) (r : Request) (reply : Reply) : State :=
  { s with
    inFlight := s.inFlightWithout r.id
    cache := s.cacheAfter r reply
    now := s.nowAfter r reply }

/-- Sends a request on to another place. -/
def redirect (s : State) (r : Request) (location : String) : State :=
  { s with inFlight := s.inFlightWithout r.id ++ [r.sentOn s.network location] }

/-- Takes the answer of a server to a request. A second redirection is a failure. -/
def answer (s : State) (r : Request) (reply : Reply) : State :=
  match reply with
  | .redirect location => if r.redirected then s.finish r .failed else s.redirect r location
  | reply => s.finish r reply

/-! ## Coming to rest -/

/-- The request has run out of time. -/
def isOverdue (s : State) (r : Request) : Bool :=
  r.began + s.timeout ≤ s.clock

/-- The request could not be sent, or has run out of time. -/
def isDead (s : State) (r : Request) : Bool :=
  r.target.isNone || s.isOverdue r

/-- Lets requests fail. -/
def failAll (s : State) (requests : List Request) : State :=
  requests.foldl (fun s r => s.finish r .failed) s

/-- Lets the requests fail that could not be sent or have run out of time. -/
def dropDead (s : State) : State :=
  s.failAll (s.inFlight.filter s.isDead)

/-- No request of the refresh loop is in flight. -/
def loopIdle (s : State) : Bool :=
  s.inFlight.all fun r => !r.id.ofLoop

/-- The refresh loop reads the base address. -/
def readBase (s : State) : State :=
  { s with loopBase := some s.base }

/-- The request that the refresh loop launches, to the address that it has read. -/
def loopRequest (s : State) (l : RefreshLoop) : Request :=
  s.newRequest (s.loopBase.getD s.base) (.loop l.launches.length) .referenceTime

/-- The refresh loop launches its request. If it has not read the base address, it does so now. -/
def fire (s : State) (l : RefreshLoop) : State :=
  { s with
    inFlight := s.inFlight ++ [s.loopRequest l]
    loop := some (l.fired s.clock)
    loopBase := none }

@[simp] theorem clock_failAll (s : State) (requests : List Request) :
    (s.failAll requests).clock = s.clock := by
  induction requests generalizing s with
  | nil => rfl
  | cons r requests ih => exact ih _

@[simp] theorem loop_failAll (s : State) (requests : List Request) :
    (s.failAll requests).loop = s.loop := by
  induction requests generalizing s with
  | nil => rfl
  | cons r requests ih => exact ih _

@[simp] theorem clock_dropDead (s : State) : s.dropDead.clock = s.clock :=
  clock_failAll _ _

@[simp] theorem loop_dropDead (s : State) : s.dropDead.loop = s.loop :=
  loop_failAll _ _

@[simp] theorem clock_fire (s : State) (l : RefreshLoop) : (s.fire l).clock = s.clock := rfl

@[simp] theorem loop_fire (s : State) (l : RefreshLoop) :
    (s.fire l).loop = some (l.fired s.clock) := rfl

/-- The time by which the refresh loop is behind, and one more if it is due. -/
def backlog (s : State) : Nat :=
  match s.loop with
  | none => 0
  | some l => s.clock + 1 - l.due

/-- The state at rest: nothing is left to do until a server answers or time passes. -/
def settled (s : State) : State :=
  match _h : s.dropDead.loop with
  | none => s.dropDead
  | some l =>
    if l.due ≤ s.dropDead.clock ∧ s.dropDead.loopIdle then (s.dropDead.fire l).settled else s.dropDead
termination_by s.backlog
decreasing_by
  rename_i hdue
  have hlt := l.due_lt_due_fired hdue.1
  rw [loop_dropDead] at _h
  simp only [clock_dropDead] at hdue hlt
  simp only [backlog, loop_fire, clock_fire, clock_dropDead, _h]
  omega

@[simp] theorem clock_settled (s : State) : s.settled.clock = s.clock := by
  fun_induction settled s with
  | case1 s h => exact clock_dropDead s
  | case2 s l h hdue ih => rw [ih, clock_fire, clock_dropDead]
  | case3 s l h hdue => exact clock_dropDead s

/-! ## Questions and commands -/

/-- What is known of an airport. An airport of which nothing is known is fetched. -/
def lookup (s : State) (icao : String) : AirportStatus × State :=
  match s.cache.status? icao with
  | some status => (status, s)
  | none => (.pending, { s with cache := s.cache.await icao }.launch (.airport icao))

/-- The rules under a fix or alias of an airport. -/
def rules? (s : State) (icao point : String) : Option RuleSet :=
  s.cache.index.rules? icao point

/-- Asks for the reference time. -/
def update (s : State) : State :=
  s.launch .referenceTime

/-- Forgets everything about airports and begins a new generation. -/
def invalidate (s : State) : State :=
  { s with generation := s.generation + 1, cache := .empty }.update

/-- Replaces the cache by a document and begins a new generation. -/
def replace (s : State) (airports : List AirportRecord) : State :=
  { s with generation := s.generation + 1, cache := .ofAirports airports }.update

/-- Changes the server that requests are launched with; none is the one the source was made with. -/
def useServer (s : State) (server : Option String) : State :=
  { s with
    base :=
      match server with
      | none => s.configured
      | some text => Address.normalize text }

/-- A new source, with a refresh loop if the period is not zero. -/
def start (network : Network) (server : String) (timeout period : Nat) : State :=
  let base := Address.normalize server
  let fresh : State := {
    network
    configured := base
    timeout
    clock := 0
    base
    generation := 0
    cache := .empty
    now := .unknown
    inFlight := []
    asked := 0
    loop := RefreshLoop.ofPeriod period
    loopBase := none }
  fresh.update.settled

/-! ## Files -/

/-- Why a file was not loaded. -/
inductive LoadError
  /-- The file cannot be read. -/
  | unreadable
  | faulty (fault : Json.Fault)
  deriving DecidableEq, Repr

/-- Loads the content of a file, if it has one. A file that is not loaded changes nothing. -/
def load (s : State) (content : Option String) : Except LoadError Unit × State :=
  match content with
  | none => (.error .unreadable, s)
  | some text =>
    match readAirports text with
    | .error fault => (.error (.faulty fault), s)
    | .ok airports => (.ok (), s.replace airports)

end State

end DepartureRules.Live
