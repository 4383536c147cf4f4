import DepartureRules.CommandLine.Arguments
import DepartureRules.Config
import DepartureRules.FlightPlan.Message
import DepartureRules.Json.Value
import DepartureRules.Live.Server
import DepartureRules.Polling.Basic
import DepartureRules.Source.Snapshot

/-!
# Runs of the command line

A run reads a flight plan message, checks the plan against a file of rules or against a rule server, and
tells the result: as one line on the error output, or as a document on the output. The exit status is the
code of the outcome.

* `Pace` is how the answers of a rule server and time come while a run sleeps;
* `Surroundings` is all that a run may look at, `Exit` all that it leaves behind;
* `pollMoment` and `pollReport` wait for a rule server, first for the reference time and then for the rules;
* `run` is the whole program.
-/

namespace DepartureRules.CommandLine
open DepartureRules.Json (Value)
set_option autoImplicit false

/-! ## What a run looks at -/

/-- How a session goes on while the program sleeps. -/
structure Pace where
  sleep : Nat → Live.Session → Live.Session
  /-- A sleep takes at least as long as it should. -/
  clockOf_sleep : ∀ delay s, s.clockOf + delay ≤ (sleep delay s).clockOf

namespace Pace

/-- The pace of a server that answers at once: all requests are answered before time passes. -/
def prompt : Pace where
  sleep delay s := s.settle.2.step (.pass delay)
  clockOf_sleep delay s := by
    have h := Live.Session.clockOf_le_settleWithin s s.workload
    simp only [Live.Session.clockOf, Live.Session.step, Live.Session.settle, Live.State.step,
      Live.State.clock_settled, Live.State.apply] at h ⊢
    omega

/-- The clock of a session that goes on at a pace. -/
def clock (pace : Pace) : Clock Live.Session where
  now := Live.Session.clockOf
  sleep := pace.sleep
  now_sleep := pace.clockOf_sleep

end Pace

/-- The clock of a run shows the times before this one, `2 ^ 63` seconds from its start. -/
def clockHorizon : Nat :=
  Duration.ofSeconds 9223372036854775808

/-- What a run may look at. -/
structure Surroundings where
  arguments : List String
  input : String
  /-- The files of the working directory and their contents. -/
  files : List (String × String)
  environment : List (String × String)
  network : Live.Network
  /-- The rule server, which answers the requests that the network takes to it. -/
  server : Live.Server
  pace : Pace := .prompt
  /-- The clock shows times before this one only. -/
  horizon : Nat := clockHorizon

/-- What a run leaves behind. -/
structure Exit where
  status : Nat
  output : String
  errors : String
  deriving DecidableEq, Repr, Inhabited

/-! ## Fixed texts -/

/-- The exit status of a plan that could not be checked. -/
def failureStatus : Nat := 101

/-- The exit status of wrong arguments. -/
def usageStatus : Nat := 2

/-- The name and version of the program. -/
def versionText : String := "vfpc-cli 0.2.0\n"

/-- The explanation of the arguments. -/
def helpText : String :=
  "Check a flight plan against SID departure rules\n\n" ++
  "Usage: vfpc-check [OPTIONS] [RULES]\n\n" ++
  "Arguments:\n" ++
  "  [RULES]  Airport rule document to check against instead of the rule server\n\n" ++
  "Options:\n" ++
  "      --server <SERVER>                Rule server URL (defaults to VFPC_SOURCE_URL or the public " ++
  "server)\n" ++
  "      --engine-type <ENGINE_TYPE>      Override the engine type code of the filed aircraft type\n" ++
  "      --aircraft-type <AIRCRAFT_TYPE>  Override the aircraft type code of the filed aircraft type\n" ++
  "      --wait-secs <WAIT_SECS>          Seconds to wait for the rule server before giving up " ++
  "[default: 30]\n" ++
  "      --json                           Print the report as JSON\n" ++
  "  -h, --help                           Print help\n" ++
  "  -V, --version                        Print version\n"

/-- The exit of a plan that could not be checked. -/
def failure (reason : String) : Exit :=
  ⟨failureStatus, "", "vfpc-check: " ++ reason⟩

/-- The exit of a run that breaks off because its wait would end past the horizon of the clock. It writes no line of
its own. -/
def brokenOff : Exit :=
  ⟨failureStatus, "", ""⟩

/-! ## Checks -/

/-- The first delay between two polls of a rule server. -/
def firstDelay : Nat := Duration.ofMillis 100

/-- The longest delay between two polls of a rule server. -/
def longestDelay : Nat := Duration.ofSeconds 2

/-- The check of a plan by the source of a session, as a poll. -/
def sessionCheck (pace : Pace) (plan : FlightPlan) : Poll pace.clock Report where
  run s := s.check plan
  forward s := Nat.le_of_eq (Live.Session.clockOf_check s plan).symm

/-- The reference time of the source of a session, as a poll. -/
def sessionMoment (pace : Pace) : Poll pace.clock Moment where
  run s := (s.state.now, s)
  forward _ := Nat.le_refl _

/-- How long to wait for a rule server at the most. -/
def Options.wait (o : Options) : Nat :=
  Duration.ofSeconds (o.waitSeconds.getD defaultWait)

/-- The schedule of a wait that begins in a session; none if it would end past the horizon of the clock. -/
def waitSchedule (horizon wait : Nat) (s : Live.Session) : Option Backoff :=
  Backoff.start? firstDelay longestDelay wait s.clockOf horizon

/-- The session that begins when a source is made. -/
def openSession (w : Surroundings) (o : Options) : Live.Session :=
  let config := Config.ofEnvironment w.environment
  let state := Live.State.start w.network (o.server.getD config.server)
    (Duration.ofSeconds config.timeout) (Duration.ofSeconds config.refresh)
  ⟨state, w.server, w.files⟩

/-- The wait for the reference time. -/
def pollMoment (w : Surroundings) (o : Options) : Option (Polled Live.Session Moment) :=
  let session := openSession w o
  (waitSchedule w.horizon o.wait session).map fun b => awaitMoment (sessionMoment w.pace) b session

/-- The check of a plan with a rule server. It begins when the wait for the reference time has ended. -/
def pollReport (w : Surroundings) (o : Options) (plan : FlightPlan) : Option (Polled Live.Session Report) :=
  (pollMoment w o).bind fun awaited =>
    (waitSchedule w.horizon o.wait awaited.state).map fun b =>
      checkSettled (sessionCheck w.pace plan) b awaited.state

/-- Checks a plan with a file of rules; none if it cannot be loaded. -/
def checkFile (w : Surroundings) (file : String) (filed : FiledPlan) : Option Report :=
  match w.files.lookup file with
  | none => none
  | some text =>
    match Snapshot.read text filed.departing with
    | .error _ => none
    | .ok snapshot => some (Checker.check Snapshot.source filed.plan snapshot).1

/-! ## Results -/

/-- The report on a plan as a document. -/
def reportValue (filed : FiledPlan) (report : Report) : Value :=
  .object [
    ("callsign", .text filed.callsign),
    ("class", .text report.outcome.classification.name),
    ("code", .number report.outcome.code),
    ("outcome", .text report.outcome.wireName),
    ("trail", .texts report.trail)]

/-- The exit of a plan that was checked. -/
def conclude (o : Options) (filed : FiledPlan) (report : Report) : Exit :=
  if o.json then ⟨report.outcome.code, (reportValue filed report).pretty ++ "\n", ""⟩
  else ⟨report.outcome.code, "", filed.resultLine report ++ "\n"⟩

/-- The run that the options ask for. -/
def runCheck (w : Surroundings) (o : Options) : Exit :=
  match FiledPlan.decode (joinLines w.input) with
  | .error e => failure ("failed to parse flight plan: " ++ e.message ++ "\n")
  | .ok filed =>
    let filed := filed.withTypeCodes o.engineType o.aircraftType
    match o.rules with
    | none => (pollReport w o filed.plan).elim brokenOff fun polled => conclude o filed polled.answer
    | some file =>
      match checkFile w file filed with
      | some report => conclude o filed report
      | none => failure ("failed to load rules from " ++ file)

/-- The whole program. -/
def run (w : Surroundings) : Exit :=
  match Request.ofArguments w.arguments with
  | .rejected => ⟨usageStatus, "", "usage"⟩
  | .version => ⟨0, versionText, ""⟩
  | .help => ⟨0, helpText, ""⟩
  | .check options => runCheck w options

end DepartureRules.CommandLine
