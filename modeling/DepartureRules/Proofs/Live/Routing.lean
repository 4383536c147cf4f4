import DepartureRules.Proofs.Live.Confluence

/-!
# Where requests go

The requests that a source launches after an invalidation go to the server that it was given before, until it is given
another one or a file. One request of the refresh loop may stray: the loop reads the base address before it launches a
request, and what it read may be out of date by then.

* `State.given` are the numbers of the requests launched so far;
* `AddressedTo`: a request was launched for a document of a server, and waits there or where this has redirected it;
* `State.Sent`: the request was launched after a state and goes to a server. `State.Strays`: it goes to the server
  whose address the refresh loop had read in that state;
* `Turn` lists what a move can do that gives the source neither a server nor a file, and `turn_move` says that the
  list is complete;
* `Routed` is the invariant: every request of the present generation was launched since and goes to the server.
-/

namespace DepartureRules.Live
set_option autoImplicit false

/-- The move gives the source a server or a file. -/
def Move.choosesSource : Move → Bool
  | .event (.useServer _) => true
  | .event (.load _) => true
  | _ => false

/-- The request was launched for its document at the server with a base address. It waits there, or where a reply to it
in the moves has redirected it. -/
inductive AddressedTo (network : Network) (base : String) (ms : List Move) (r : Request) : Prop
  | direct (address_eq : r.address = r.purpose.address base) (first : r.redirected = false)
      (target_eq : r.target = network.target? r.address)
  | redirected (address_eq : r.address = r.purpose.address base) (sent : r.redirected = true) (location : String)
      (told : .event (.answer r.id (.redirect location)) ∈ ms)
      (target_eq : r.target = (network.target? r.address).bind (network.onward? · location))

theorem AddressedTo.mono {network : Network} {base : String} {ms ms' : List Move} {r : Request}
    (h : AddressedTo network base ms r) (hsub : ∀ m ∈ ms, m ∈ ms') : AddressedTo network base ms' r := by
  cases h with
  | direct address_eq first target_eq => exact .direct address_eq first target_eq
  | redirected address_eq sent location told target_eq =>
    exact .redirected address_eq sent location (hsub _ told) target_eq

namespace State
variable {s t t' : State} {base : String} {ms : List Move} {m : Move}

/-- The number has been given to a request. -/
def given (s : State) : RequestId → Bool
  | .asked number => number < s.asked
  | .loop number => s.loop.any fun l => number < l.launches.length

/-- The request was launched after the state and goes to the server with a base address. -/
structure Sent (s : State) (base : String) (ms : List Move) (r : Request) : Prop where
  launched : s.given r.id = false
  addressed : AddressedTo s.network base ms r

theorem Sent.concat {r : Request} (h : s.Sent base ms r) (m : Move) : s.Sent base (ms ++ [m]) r :=
  ⟨h.launched, h.addressed.mono fun _ => List.mem_append_left _⟩

/-- The request is the next one of the refresh loop, which had read the address of another server for it. -/
structure Strays (s : State) (base : String) (ms : List Move) (r : Request) : Prop where
  next : ∃ l, s.loop = some l ∧ r.id = .loop l.launches.length
  purpose_eq : r.purpose = .referenceTime
  read : ∃ old, s.loopBase = some old ∧ old ≠ base ∧ s.Sent old ms r

theorem Strays.concat {r : Request} (h : s.Strays base ms r) (m : Move) : s.Strays base (ms ++ [m]) r where
  next := h.next
  purpose_eq := h.purpose_eq
  read := by
    obtain ⟨old, hread, hother, hsent⟩ := h.read
    exact ⟨old, hread, hother, hsent.concat m⟩

/-- The request was launched after the state. It goes to the server with a base address, or strays. -/
def Leaves (s : State) (base : String) (ms : List Move) (r : Request) : Prop :=
  s.Sent base ms r ∨ s.Strays base ms r

theorem Leaves.concat {r : Request} (h : s.Leaves base ms r) (m : Move) : s.Leaves base (ms ++ [m]) r :=
  h.imp (Sent.concat · m) (Strays.concat · m)

/-- A request for an airport does not stray. -/
theorem Leaves.sent {r : Request} {icao : String} (h : s.Leaves base ms r) (hpurpose : r.purpose = .airport icao) :
    s.Sent base ms r := by
  refine h.resolve_right fun hstrays => ?_
  have htime := hstrays.purpose_eq
  rw [hpurpose] at htime
  cases htime

/-! ## What a move does -/

/-- What a move can do that gives the source neither a server nor a file. -/
inductive Turn (s : State) (m : Move) : State → Prop
  | wait (span : Nat) (loopBase : Option String)
    (read : ∀ old, loopBase = some old → old = s.base ∨ s.loopBase = some old) :
    Turn s m { s with clock := s.clock + span, loopBase := loopBase }
  | fetch (icao : String) : Turn s m ({ s with cache := s.cache.await icao }.launch (.airport icao))
  | update : Turn s m s.update
  | fire (l : RefreshLoop) (hl : s.loop = some l) : Turn s m (s.fire l)
  | invalidate : Turn s m s.invalidate
  | finish (r : Request) (hr : r ∈ s.inFlight) (reply : Reply) (ends : s.ending? m = some (r, reply)) :
    Turn s m (s.finish r reply)
  | redirect (r : Request) (hr : r ∈ s.inFlight) (location : String) (first : r.redirected = false)
      (told : m = .event (.answer r.id (.redirect location))) : Turn s m (s.redirect r location)

theorem turn_move (s : State) (hm : m.choosesSource = false) : Turn s m (s.move m) := by
  have hchange := change_move s m
  generalize s.move m = s' at hchange ⊢
  cases hchange with
  | idle => exact .wait 0 s.loopBase fun _ => .inr
  | fetch icao unknown => exact .fetch icao
  | useServer server => cases hm
  | load read => cases hm
  | invalidate => exact .invalidate
  | update => exact .update
  | answer hr ended => exact .finish _ (mem_of_request? hr).1 _ (ending?_answer hr ended)
  | redirect hr location first => exact .redirect _ (mem_of_request? hr).1 location first rfl
  | pass span => exact .wait span none fun old hread => absurd hread.symm (Option.some_ne_none old)
  | expire hr dead => exact .finish _ (mem_of_request? hr).1 .failed (ending?_expire hr dead)
  | readBase looping => exact .wait 0 (some s.base) fun old hread => .inl (Option.some.inj hread).symm
  | fire l hl due idle => exact .fire l hl

/-! ## Where requests go -/

/-- The requests of the present generation were launched after the first state and go to one server, or stray. The
loop has read the address of this server, or has not launched anything since it read another one. -/
structure Routed (s : State) (base : String) (ms : List Move) (t : State) : Prop where
  network : t.network = s.network
  base_eq : t.base = base
  given : ∀ id, t.given id = false → s.given id = false
  read : ∀ old, t.loopBase = some old → old = base ∨ s.loopBase = some old ∧ t.loop = s.loop
  leaves : ∀ r ∈ t.inFlight, r.generation = t.generation → s.Leaves base ms r

namespace Routed

/-- A request that is launched now goes to the server whose address it is given. -/
theorem sent_newRequest (h : s.Routed base ms t) {id : RequestId} (hid : t.given id = false) (purpose : Purpose)
    (server : String) : s.Sent server ms (t.newRequest server id purpose) := by
  refine ⟨h.given id hid, .direct rfl rfl ?_⟩
  show t.network.target? _ = s.network.target? _
  rw [h.network]
  rfl

theorem given_asked (t : State) : t.given (.asked t.asked) = false :=
  decide_eq_false (Nat.lt_irrefl _)

theorem given_of_asked_le {asked : Nat} (h : t.asked ≤ asked) {id : RequestId}
    (hid : State.given { t with asked := asked } id = false) : t.given id = false := by
  cases id with
  | asked number =>
    have hle : ¬number < asked := of_decide_eq_false hid
    exact decide_eq_false (by omega)
  | loop number => exact hid

theorem concat (h : s.Routed base ms t) (m : Move) : s.Routed base (ms ++ [m]) t :=
  ⟨h.network, h.base_eq, h.given, h.read, fun r hr hgeneration => (h.leaves r hr hgeneration).concat m⟩

theorem launch (h : s.Routed base ms t) (purpose : Purpose) : s.Routed base ms (t.launch purpose) where
  network := h.network
  base_eq := h.base_eq
  given id hid := h.given id (given_of_asked_le (Nat.le_succ _) hid)
  read := h.read
  leaves := by
    refine forall_mem_concat h.leaves fun _ => .inl ?_
    rw [← h.base_eq]
    exact h.sent_newRequest (given_asked t) purpose t.base

theorem leaves_loopRequest (h : s.Routed base ms t) {l : RefreshLoop} (hl : t.loop = some l) :
    s.Leaves base ms (t.loopRequest l) := by
  have hid : t.given (.loop l.launches.length) = false := by
    rw [State.given, hl]
    exact decide_eq_false (Nat.lt_irrefl _)
  have hsent := h.sent_newRequest hid .referenceTime (t.loopBase.getD t.base)
  by_cases hserver : t.loopBase.getD t.base = base
  · exact .inl (hserver ▸ hsent)
  -- The loop has read another address, and can only have read it before.
  · cases hread : t.loopBase with
    | none =>
      rw [hread] at hserver
      exact absurd h.base_eq hserver
    | some old =>
      rw [hread, Option.getD_some] at hserver hsent
      obtain ⟨hbefore, hsame⟩ := (h.read old hread).resolve_left hserver
      refine .inr ⟨⟨l, hsame ▸ hl, rfl⟩, rfl, old, hbefore, hserver, ?_⟩
      rw [loopRequest, hread]
      exact hsent

theorem fire (h : s.Routed base ms t) {l : RefreshLoop} (hl : t.loop = some l) : s.Routed base ms (t.fire l) where
  network := h.network
  base_eq := h.base_eq
  given id hid := by
    refine h.given id ?_
    cases id with
    | asked number => exact hid
    | loop number =>
      have hle : ¬number < l.launches.length + 1 := of_decide_eq_false hid
      rw [State.given, hl]
      exact decide_eq_false (by omega)
  read := nofun
  leaves := forall_mem_concat h.leaves fun _ => h.leaves_loopRequest hl

/-- Requests of a generation that is over need not go anywhere. -/
theorem invalidate (network : t.network = s.network) (base_eq : t.base = base)
    (given : ∀ id, t.given id = false → s.given id = false)
    (read : ∀ old, t.loopBase = some old → old = base ∨ s.loopBase = some old ∧ t.loop = s.loop)
    (hgeneration : ∀ r ∈ t.inFlight, r.generation ≤ t.generation) (ms : List Move) :
    s.Routed base ms t.invalidate := by
  have hlater : s.Routed base ms { t with generation := t.generation + 1, cache := .empty } :=
    ⟨network, base_eq, given, read, fun r hr hnow => absurd (hnow ▸ hgeneration r hr) (Nat.not_succ_le_self _)⟩
  exact hlater.launch .referenceTime

theorem sent_redirect {r : Request} {server location : String} (h : s.Sent server ms r) (first : r.redirected = false)
    (told : .event (.answer r.id (.redirect location)) ∈ ms) :
    s.Sent server ms (r.sentOn s.network location) := by
  refine ⟨h.launched, ?_⟩
  cases h.addressed with
  | direct address_eq _ target_eq =>
    refine .redirected address_eq rfl location told ?_
    rw [Request.sentOn, target_eq]
  -- A request is redirected once at most.
  | redirected _ sent =>
    rw [first] at sent
    cases sent

theorem redirect (h : s.Routed base ms t) {r : Request} (hr : r ∈ t.inFlight) (first : r.redirected = false)
    {location : String} (told : .event (.answer r.id (.redirect location)) ∈ ms) :
    s.Routed base ms (t.redirect r location) where
  network := h.network
  base_eq := h.base_eq
  given := h.given
  read := h.read
  leaves := by
    refine forall_mem_concat (fun r' hr' => h.leaves r' (mem_inFlightWithout.1 hr').1) fun hgeneration => ?_
    rw [h.network]
    rcases h.leaves r hr hgeneration with hsent | ⟨next, purpose_eq, old, hread, hother, hsent⟩
    · exact .inl (sent_redirect hsent first told)
    · exact .inr ⟨next, purpose_eq, old, hread, hother, sent_redirect hsent first told⟩

end Routed

end State

end DepartureRules.Live
