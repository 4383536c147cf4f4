import DepartureRules.Rules.Basic

/-!
# Sources of rules

A source supplies rules and the present moment. It has a state of the type `σ`, and an answer may change the
state: a source that fetches rules launches a fetch when it is asked for an airport that it does not know.
Instead of answering, a source may also break down.

* `Ask σ`, questions to a source: a state goes in, an answer or a breakdown comes out with a new state;
* `Source σ`, the three questions that a check asks.
-/

namespace DepartureRules
set_option autoImplicit false

/-- What is known of an airport. -/
inductive AirportStatus
  /-- The rules of the airport are at hand. -/
  | resolved
  /-- The rules are being fetched. -/
  | pending
  /-- The rule server has none. -/
  | missing
  /-- The rules could not be fetched. -/
  | failed
  deriving DecidableEq, Repr, Inhabited

/-- A source broke down instead of answering. -/
inductive Breakdown
  | internal
  deriving DecidableEq, Repr, Inhabited

/-- A question to a source with the state `σ`. -/
abbrev Ask (σ α : Type) : Type :=
  ExceptT Breakdown (StateM σ) α

namespace Ask
variable {σ α β : Type}

/-- The question that `answer` answers from the state alone. -/
def reading (answer : σ → α) : Ask σ α :=
  fun s => (.ok (answer s), s)

/-- The question that `answer` answers with a new state. -/
def stepping (answer : σ → α × σ) : Ask σ α :=
  fun s => (.ok (answer s).1, (answer s).2)

/-- The question that the source breaks down at. -/
def broken : Ask σ α :=
  fun s => (.error .internal, s)

/-- The answer, with something else in the place of a breakdown. -/
def orElse (ask : Ask σ α) (instead : α) (s : σ) : α × σ :=
  match ask s with
  | (.ok a, s) => (a, s)
  | (.error _, s) => (instead, s)

theorem bind_ok {ask : Ask σ α} {next : α → Ask σ β} {s t : σ} {a : α} (h : ask s = (.ok a, t)) :
    (ask >>= next) s = next a t := by
  change ExceptT.bind ask next s = _
  simp only [ExceptT.bind, ExceptT.mk, bind, StateT.bind, h]
  rfl

theorem bind_error {ask : Ask σ α} {next : α → Ask σ β} {s t : σ} {e : Breakdown}
    (h : ask s = (.error e, t)) : (ask >>= next) s = (.error e, t) := by
  change ExceptT.bind ask next s = _
  simp only [ExceptT.bind, ExceptT.mk, bind, StateT.bind, h]
  rfl

/-- The question leaves a part of the state as it is. -/
def Keeps (part : σ → β) (ask : Ask σ α) : Prop :=
  ∀ s, part (ask s).2 = part s

theorem Keeps.pure (part : σ → β) (a : α) : Keeps part (Pure.pure a : Ask σ α) :=
  fun _ => rfl

theorem Keeps.bind {γ : Type} {part : σ → γ} {ask : Ask σ α} {next : α → Ask σ β} (h : Keeps part ask)
    (hnext : ∀ a, Keeps part (next a)) : Keeps part (ask >>= next) := by
  intro s
  rcases hask : ask s with ⟨answer, t⟩
  have ht : part t = part s := by
    rw [← h s, hask]
  cases answer with
  | ok a => rw [bind_ok hask, hnext a t, ht]
  | error e => rw [bind_error hask, ht]

end Ask

/-- A supplier of rules. -/
structure Source (σ : Type) where
  /-- The present moment. -/
  now : Ask σ Moment
  /-- What is known of an airport. -/
  airport : String → Ask σ AirportStatus
  /-- The rules under a fix or alias of an airport. -/
  rules : String → String → Ask σ (Option RuleSet)

end DepartureRules
