import DepartureRules.Live.Event

/-!
# The moves of a live source

A step of a source is an event and all that it leads to until the source is at rest. Here it is taken apart
into moves, each of them one change that nothing can come between: an event, the failure of one request, or
one of the two steps of the refresh loop, which reads the base address and then launches its request. Events come one
after the other, and between these two steps they come as they like, as long as no time passes.

* `Move`, `State.move` and `State.moves` are the moves and the states they lead to, in any order;
* `Visited` holds the states that a source comes through, at rest or not;
* `State.ending?` is the request that a move ends, with the reply that it ends with;
* `Change` lists what each move does, and `change_move` says that the list is complete;
* `Effect` lists the changes without the moves that make them.
-/

namespace DepartureRules.Live
set_option autoImplicit false

/-- One change of a live source. -/
inductive Move
  | event (e : Event)
  /-- A request that could not be sent or has run out of time fails. -/
  | expire (id : RequestId)
  /-- The refresh loop reads the base address for a request that is due. -/
  | readBase
  /-- The refresh loop launches a request that is due. -/
  | fire
  deriving Repr, Inhabited

/-- The reply that a request ends with when it gets one; none if it is sent on. -/
def Request.ending? (r : Request) : Reply → Option Reply
  | .redirect _ => if r.redirected then some .failed else none
  | reply => some reply

namespace State

/-- The state after a move. A move that cannot be made changes nothing. -/
def move (s : State) : Move → State
  | .event e => s.apply e
  | .expire id =>
    match s.request? id with
    | none => s
    | some r => if s.isDead r then s.finish r .failed else s
  | .readBase =>
    match s.loop with
    | none => s
    | some l => if l.due ≤ s.clock ∧ s.loopIdle then s.readBase else s
  | .fire =>
    match s.loop with
    | none => s
    | some l => if l.due ≤ s.clock ∧ s.loopIdle then s.fire l else s

def moves (s : State) (ms : List Move) : State :=
  ms.foldl move s

/-- A source that has not sent anything yet. -/
def opening (network : Network) (server : String) (timeout period : Nat) : State where
  network := network
  configured := Address.normalize server
  timeout := timeout
  clock := 0
  base := Address.normalize server
  generation := 0
  cache := .empty
  now := .unknown
  inFlight := []
  asked := 0
  loop := RefreshLoop.ofPeriod period
  loopBase := none

/-- The states that a source comes through. -/
inductive Visited : State → Prop
  | opening (network : Network) (server : String) (timeout period : Nat) :
    Visited (.opening network server timeout period)
  | move {s : State} (h : Visited s) (m : Move) : Visited (s.move m)

theorem moves_cons (s : State) (m : Move) (ms : List Move) : s.moves (m :: ms) = (s.move m).moves ms := rfl

theorem moves_append (s : State) (ms ms' : List Move) : s.moves (ms ++ ms') = (s.moves ms).moves ms' :=
  List.foldl_append

theorem Visited.moves {s : State} (h : Visited s) (ms : List Move) : Visited (s.moves ms) := by
  induction ms generalizing s with
  | nil => exact h
  | cons m ms ih => exact ih (h.move m)

/-! ## The ends of requests -/

/-- The request that a move ends, with the reply that it ends with. -/
def ending? (s : State) : Move → Option (Request × Reply)
  | .event (.answer id reply) => (s.request? id).bind fun r => (r.ending? reply).map fun reply => (r, reply)
  | .expire id => (s.request? id).bind fun r => if s.isDead r then some (r, .failed) else none
  | _ => none

section
variable {s : State} {r : Request} {reply reply' : Reply}

theorem mem_of_request? {id : RequestId} (h : s.request? id = some r) : r ∈ s.inFlight ∧ r.id = id :=
  ⟨List.mem_of_find?_eq_some h, by simpa using List.find?_some h⟩

theorem ending?_answer (hr : s.request? r.id = some r) (ended : r.ending? reply = some reply') :
    s.ending? (.event (.answer r.id reply)) = some (r, reply') := by
  rw [ending?, hr, Option.bind_some, ended, Option.map_some]

theorem ending?_expire (hr : s.request? r.id = some r) (dead : s.isDead r = true) :
    s.ending? (.expire r.id) = some (r, .failed) := by
  rw [ending?, hr, Option.bind_some, if_pos dead]

theorem answer_of_ending? (h : r.ending? reply = some reply') : s.answer r reply = s.finish r reply' := by
  cases reply with
  | redirect location =>
    simp only [Request.ending?] at h
    split at h
    · rename_i hredirected
      cases h
      exact if_pos hredirected
    · cases h
  | _ =>
    cases h
    rfl

theorem answer_of_not_ending? (h : r.ending? reply = none) :
    ∃ location, reply = .redirect location ∧ r.redirected = false ∧ s.answer r reply = s.redirect r location := by
  cases reply with
  | redirect location =>
    simp only [Request.ending?] at h
    split at h
    · cases h
    · rename_i hredirected
      exact ⟨location, rfl, Bool.not_eq_true _ ▸ hredirected, if_neg hredirected⟩
  | _ => cases h

theorem move_of_ending? {m : Move} (h : s.ending? m = some (r, reply)) :
    r ∈ s.inFlight ∧ s.move m = s.finish r reply := by
  cases m with
  | readBase => cases h
  | fire => cases h
  | expire id =>
    obtain ⟨r', hr', hdead⟩ := Option.bind_eq_some_iff.1 h
    split at hdead
    · rename_i hdead'
      cases hdead
      refine ⟨(mem_of_request? hr').1, ?_⟩
      simp only [move, hr', hdead', if_true]
    · cases hdead
  | event e =>
    cases e with
    | answer id reply' =>
      obtain ⟨r', hr', hending⟩ := Option.bind_eq_some_iff.1 h
      obtain ⟨reply'', hreply, hpair⟩ := Option.map_eq_some_iff.1 hending
      cases hpair
      refine ⟨(mem_of_request? hr').1, ?_⟩
      simp only [move, apply, hr']
      exact answer_of_ending? hreply
    | _ => cases h

end

/-! ## What a move does -/

/-- What each move does: nothing, or the change that it is for. -/
inductive Change (s : State) : Move → State → Prop
  | idle (m : Move) : Change s m s
  | fetch (icao : String) (unknown : s.cache.status? icao = none) :
    Change s (.event (.lookup icao)) ({ s with cache := s.cache.await icao }.launch (.airport icao))
  | useServer (server : Option String) : Change s (.event (.useServer server)) (s.useServer server)
  | load {text : String} {airports : List AirportRecord} (read : readAirports text = .ok airports) :
    Change s (.event (.load (some text))) (s.replace airports)
  | invalidate : Change s (.event .invalidate) s.invalidate
  | update : Change s (.event .update) s.update
  | answer {r : Request} (hr : s.request? r.id = some r) {reply reply' : Reply}
    (ended : r.ending? reply = some reply') : Change s (.event (.answer r.id reply)) (s.finish r reply')
  | redirect {r : Request} (hr : s.request? r.id = some r) (location : String) (first : r.redirected = false) :
    Change s (.event (.answer r.id (.redirect location))) (s.redirect r location)
  | pass (span : Nat) : Change s (.event (.pass span)) { s with clock := s.clock + span, loopBase := none }
  | expire {r : Request} (hr : s.request? r.id = some r) (dead : s.isDead r = true) :
    Change s (.expire r.id) (s.finish r .failed)
  | readBase (looping : s.loop ≠ none) : Change s .readBase s.readBase
  | fire (l : RefreshLoop) (hl : s.loop = some l) (due : l.due ≤ s.clock) (idle : s.loopIdle = true) :
    Change s .fire (s.fire l)

theorem change_apply (s : State) (e : Event) : Change s (.event e) (s.apply e) := by
  cases e with
  | lookup icao =>
    simp only [apply, lookup]
    split
    · exact .idle _
    · rename_i hnone
      exact .fetch icao hnone
  | useServer server => exact .useServer server
  | load content =>
    simp only [apply, load]
    split
    · exact .idle _
    · split
      · exact .idle _
      · rename_i read
        exact .load read
  | invalidate => exact .invalidate
  | update => exact .update
  | answer id reply =>
    simp only [apply]
    split
    · exact .idle _
    · rename_i r hr
      obtain ⟨-, rfl⟩ := mem_of_request? hr
      cases hending : r.ending? reply with
      | some reply' =>
        rw [answer_of_ending? hending]
        exact .answer hr hending
      | none =>
        obtain ⟨location, rfl, hfirst, hredirect⟩ := answer_of_not_ending? (s := s) hending
        rw [hredirect]
        exact .redirect hr location hfirst
  | pass span => exact .pass span

theorem change_move (s : State) (m : Move) : Change s m (s.move m) := by
  cases m with
  | event e => exact change_apply s e
  | expire id =>
    simp only [move]
    split
    · exact .idle _
    · rename_i r hr
      obtain ⟨-, rfl⟩ := mem_of_request? hr
      split
      · rename_i hdead
        exact .expire hr hdead
      · exact .idle _
  | readBase =>
    simp only [move]
    split
    · exact .idle _
    · rename_i l hl
      split
      · exact .readBase (hl ▸ Option.some_ne_none l)
      · exact .idle _
  | fire =>
    simp only [move]
    split
    · exact .idle _
    · rename_i l hl
      split
      · rename_i hdue
        exact .fire l hl hdue.1 hdue.2
      · exact .idle _

/-- The changes that a move can make. -/
inductive Effect (s : State) : State → Prop
  /-- Nothing but the time and the base addresses. Only a refresh loop reads a base address. -/
  | quiet (base : String) (span : Nat) (loopBase : Option String)
    (unread : s.loop = none → s.loopBase = none → loopBase = none) :
    Effect s { s with base := base, clock := s.clock + span, loopBase := loopBase }
  | fetch (icao : String) (unknown : s.cache.status? icao = none) :
    Effect s ({ s with cache := s.cache.await icao }.launch (.airport icao))
  | update : Effect s s.update
  | fire (l : RefreshLoop) (hl : s.loop = some l) (due : l.due ≤ s.clock) (idle : s.loopIdle = true) :
    Effect s (s.fire l)
  | finish (r : Request) (hr : r ∈ s.inFlight) (reply : Reply) : Effect s (s.finish r reply)
  | redirect (r : Request) (hr : r ∈ s.inFlight) (location : String) (first : r.redirected = false) :
    Effect s (s.redirect r location)
  | replace (airports : List AirportRecord) : Effect s (s.replace airports)

theorem effect_move (s : State) (m : Move) : Effect s (s.move m) := by
  have hchange := change_move s m
  generalize s.move m = s' at hchange ⊢
  cases hchange with
  | idle => exact .quiet s.base 0 s.loopBase fun _ => id
  | fetch icao unknown => exact .fetch icao unknown
  | useServer server => exact .quiet _ 0 s.loopBase fun _ => id
  | load read => exact .replace _
  | invalidate => exact .replace []
  | update => exact .update
  | answer hr ended => exact .finish _ (mem_of_request? hr).1 _
  | redirect hr location first => exact .redirect _ (mem_of_request? hr).1 location first
  | pass span => exact .quiet s.base span none fun _ _ => rfl
  | expire hr dead => exact .finish _ (mem_of_request? hr).1 .failed
  | readBase looping => exact .quiet s.base 0 (some s.base) fun hloop => absurd hloop looping
  | fire l hl due idle => exact .fire l hl due idle

/-- Time does not run backwards. -/
theorem clock_le_clock_move (s : State) (m : Move) : s.clock ≤ (s.move m).clock := by
  have heffect := effect_move s m
  generalize s.move m = s' at heffect ⊢
  cases heffect with
  | quiet base span loopBase unread => exact Nat.le_add_right _ _
  | _ => exact Nat.le_refl _

theorem clock_le_clock_moves (s : State) (ms : List Move) : s.clock ≤ (s.moves ms).clock := by
  induction ms generalizing s with
  | nil => exact Nat.le_refl _
  | cons m ms ih => exact Nat.le_trans (clock_le_clock_move s m) (ih _)

/-- What holds of a new source and is kept by every change holds of every state that is visited. -/
theorem Visited.induct {P : State → Prop}
    (opening : ∀ network server timeout period, P (.opening network server timeout period))
    (effect : ∀ s s', P s → Effect s s' → P s') {s : State} (h : Visited s) : P s := by
  induction h with
  | opening network server timeout period => exact opening network server timeout period
  | @move s _ m ih => exact effect s _ ih (effect_move s m)

/-- A source keeps its refresh loop, or goes on without one. -/
theorem loop_eq_none_iff_of_effect {s s' : State} (he : Effect s s') : s'.loop = none ↔ s.loop = none := by
  cases he with
  | fire l hl due idle => simp [fire, hl]
  | _ => exact Iff.rfl

end State

end DepartureRules.Live
