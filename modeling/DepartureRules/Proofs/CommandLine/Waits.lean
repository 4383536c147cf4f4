import DepartureRules.CommandLine.Run
import DepartureRules.Proofs.Live.Online
import DepartureRules.Proofs.Live.Statuses
import DepartureRules.Proofs.Source.Consulted

/-!
# Waits for a server

A run waits for the reference time and then for the report on its plan. Neither wait runs out while the server answers
in time.

* `Pace.Serves`: the server answers in time, whatever the order and the delay of its answers;
* `AwaitsMoment` and `AwaitsReport` hold before each poll of the two waits;
* `now_of_awaitMoment` and `answer_of_checkSettled`: what is waited for comes, and it is as in a snapshot.
-/

namespace DepartureRules
open Live Live.State
set_option autoImplicit false

theorem Live.Session.check_of_endpoints {plan : FlightPlan} {origin destination : String} (ifr : plan.ifr = true)
    (endpoints : plan.endpoints? = some (origin, destination)) (s : Session) :
    s.check plan = (plan.reportOn origin destination (s.state.lookup origin).1
      ((s.state.lookup origin).2.rules? origin) (s.state.lookup origin).2.now, s.step (.lookup origin)) := by
  rw [Session.check, Checker.check_of_says ifr endpoints (Live.source_says s.state origin)]
  rfl

namespace CommandLine

/-! ## Servers that answer in time -/

/-- While the program sleeps the server goes on answering and time passes. No request runs out of time, and when the
program wakes none is in flight that has been for as long as the latency. -/
structure Pace.Serves (pace : Pace) (latency : Nat) : Prop where
  follows : ∀ delay (s : Session), s.state.Alive → s.Follows (pace.sleep delay s)
  answered : ∀ delay (s : Session), s.state.Alive → ∀ r ∈ (pace.sleep delay s).state.inFlight,
    (pace.sleep delay s).clockOf < r.began + latency

section
variable {pace : Pace} {latency wait : Nat} {b : Backoff} {s : Session} {network : Network} {server : Server}
  {base origin document : String} {airports : List AirportRecord} {snapshot : Snapshot} {moment : Moment}

/-- What holds before each poll for the reference time. -/
structure AwaitsMoment (network : Network) (server : Server) (base origin : String) (snapshot : Snapshot)
    (deadline : Nat) (s : Session) : Prop where
  server_eq : s.server = server
  unasked : Unasked network base origin snapshot s.state
  early : s.state.now ≠ snapshot.now → s.clockOf < deadline

namespace AwaitsMoment

theorem sleep (h : AwaitsMoment network server base origin snapshot wait s) (serves : pace.Serves latency)
    (patient : latency < wait) (supplied : Supplied network server base origin document snapshot.now) (delay : Nat) :
    AwaitsMoment network server base origin snapshot wait (pace.sleep delay s) := by
  have hfollows := serves.follows delay s h.unasked.alive
  have hunasked := (Unasked.kept (h.server_eq ▸ supplied)).follows h.unasked hfollows
  refine ⟨hfollows.server_eq.trans h.server_eq, hunasked, fun hlate => ?_⟩
  -- the request that was launched at the start is still in flight
  obtain ⟨-, r, hr, -, hbegan⟩ := hunasked.timed.resolve_left hlate
  have hlt := serves.answered delay s h.unasked.alive r hr
  omega

theorem now_eq (h : AwaitsMoment network server base origin snapshot wait s) (settled : s.state.now.isTimed = true) :
    s.state.now = snapshot.now := by
  rcases h.unasked.timed with hnow | ⟨hunknown, -⟩
  · exact hnow
  · rw [hunknown] at settled
    cases settled

end AwaitsMoment

/-- What holds before each check of a plan that departs from the airport. -/
structure AwaitsReport (network : Network) (server : Server) (base origin : String) (snapshot : Snapshot)
    (since deadline : Nat) (s : Session) : Prop where
  server_eq : s.server = server
  asks : (Unasked network base origin snapshot s.state ∧ s.state.now = snapshot.now ∧ s.clockOf = since) ∨
    (Fetching network base origin snapshot since s.state ∧
      (s.state.cache.status? origin = some .pending → s.clockOf < deadline))

variable {plan : FlightPlan} {destination : String} {since deadline : Nat}

namespace AwaitsReport

theorem fetching (h : AwaitsReport network server base origin snapshot since deadline s)
    (supplied : Supplied network server base origin document snapshot.now) :
    Fetching network base origin snapshot since (s.state.lookup origin).2 := by
  rcases h.asks with ⟨hunasked, hnow, hclock⟩ | ⟨hfetching, -⟩
  · rw [← hclock]
    exact hunasked.fetching supplied hnow
  · rw [hfetching.lookup_eq]
    exact hfetching

theorem early (h : AwaitsReport network server base origin snapshot since deadline s) (hdeadline : since < deadline)
    (pending : (s.state.lookup origin).1 = .pending) : s.clockOf < deadline := by
  rcases h.asks with ⟨-, -, hclock⟩ | ⟨hfetching, hearly⟩
  · rwa [hclock]
  · rw [status_lookup] at pending
    cases hstatus : s.state.cache.status? origin with
    | none => exact absurd hstatus hfetching.asked
    | some status =>
      rw [hstatus] at pending
      exact hearly (hstatus.trans (congrArg some pending))

theorem sleep (h : AwaitsReport network server base origin (.ofAirports airports moment) since (since + wait) s)
    (serves : pace.Serves latency) (patient : latency < wait)
    (supplied : Supplied network server base origin document moment) (read : readAirports document = .ok airports)
    (delay : Nat) :
    AwaitsReport network server base origin (.ofAirports airports moment) since (since + wait)
      (pace.sleep delay (s.step (.lookup origin))) := by
  have hserver := h.server_eq
  subst hserver
  have hkept := Fetching.kept supplied read since
  have hasked := hkept.settled (h.fetching supplied)
  have hfollows := serves.follows delay (s.step (.lookup origin)) hasked.alive
  have hfetching := Kept.follows (s := s.step (.lookup origin)) hkept hasked hfollows
  refine ⟨hfollows.server_eq, .inr ⟨hfetching, fun hpending => ?_⟩⟩
  obtain ⟨r, hr, hbegan⟩ := hfetching.request_of_pending hpending
  have hlt := serves.answered delay _ hasked.alive r hr
  omega

/-- A check that has to be repeated is not the last one before the deadline. -/
theorem next (h : AwaitsReport network server base origin (.ofAirports airports moment) since (since + wait) s)
    (serves : pace.Serves latency) (patient : latency < wait)
    (supplied : Supplied network server base origin document moment) (read : readAirports document = .ok airports)
    (ifr : plan.ifr = true) (endpoints : plan.endpoints? = some (origin, destination))
    (unsettled : (s.check plan).1.isSettled = false) :
    (s.check plan).2.clockOf < since + wait ∧ ∀ delay,
      AwaitsReport network server base origin (.ofAirports airports moment) since (since + wait)
        (pace.sleep delay (s.check plan).2) := by
  rw [Session.clockOf_check]
  rw [Session.check_of_endpoints ifr endpoints] at unsettled ⊢
  refine ⟨h.early (by omega) ?_, h.sleep serves patient supplied read⟩
  by_contra hne
  have hsettled := reportOn_ne_pending plan origin destination hne ((s.state.lookup origin).2.rules? origin)
    (s.state.lookup origin).2.now
  rw [Report.isSettled, bne_eq_false_iff_eq] at unsettled
  exact hsettled unsettled

/-- A report that is not pending is the one on the snapshot. -/
theorem check_eq (h : AwaitsReport network server base origin snapshot since deadline s) (ifr : plan.ifr = true)
    (endpoints : plan.endpoints? = some (origin, destination)) (settled : (s.check plan).1.isSettled = true) :
    (s.check plan).1 = (Checker.check Snapshot.source plan snapshot).1 := by
  rw [Session.check_of_endpoints ifr endpoints] at settled ⊢
  rw [Checker.check_of_says ifr endpoints (snapshot.source_says origin)]
  have hstatus : (s.state.lookup origin).1 ≠ .pending := by
    rintro hpending
    rw [hpending] at settled
    exact Bool.false_ne_true settled
  rw [status_lookup] at hstatus
  rcases h.asks with ⟨hunasked, -, -⟩ | ⟨hfetching, -⟩
  · rw [hunasked.unknown] at hstatus
    exact absurd rfl hstatus
  · have hknown := hfetching.known.resolve_left hfetching.asked
    obtain ⟨hholds, -⟩ := hknown.resolve_left fun hpending => hstatus (by rw [hpending]; rfl)
    rw [hfetching.lookup_eq, status_lookup, hholds.status_eq, hfetching.now_eq, funext hholds.rules_eq]
    rfl

end AwaitsReport

end

end CommandLine

end DepartureRules
