import DepartureRules.Proofs.Live.Tracking

/-!
# The cache when all answers are in

What a cache holds once certain answers have come, said without an order of the answers.

* `Coming` pairs the airports that requests ask for with the answers that they will get;
* `Cache.outcome?` is the status of an airport after all of them, and `Cache.Finds` the rules found then if
  the answers agree;
* `Tracks.outcome?_settle` and `Finds.settle`: when one of the answers is settled, what comes of the others
  is the same as before.
-/

namespace DepartureRules
set_option autoImplicit false

/-- Airports that requests ask for, with the answers that they will get. -/
abbrev Coming : Type :=
  List (String × Answer (List AirportRecord))

namespace Coming
open RuleIndex
variable {coming coming' rest : Coming} {icao asked : String} {answer : Answer (List AirportRecord)}

def Brings (coming : Coming) (icao : String) : Prop :=
  ∃ p ∈ coming, icao ∈ listed p.2.airports

def Asks (coming : Coming) (icao : String) : Prop :=
  ∃ p ∈ coming, p.1 = icao

def Fails (coming : Coming) (icao : String) : Prop :=
  ∃ p ∈ coming, p.1 = icao ∧ p.2 = .failed

/-- Answers that list the same airport give it the same rules. -/
def Agree (coming : Coming) : Prop :=
  ∀ p ∈ coming, ∀ q ∈ coming, ∀ icao, icao ∈ listed p.2.airports → icao ∈ listed q.2.airports →
    ∀ point, (ofAirports p.2.airports).rules? icao point = (ofAirports q.2.airports).rules? icao point

instance (coming : Coming) (icao : String) : Decidable (coming.Brings icao) :=
  inferInstanceAs (Decidable (∃ p ∈ coming, icao ∈ listed p.2.airports))

instance (coming : Coming) (icao : String) : Decidable (coming.Asks icao) :=
  inferInstanceAs (Decidable (∃ p ∈ coming, p.1 = icao))

instance (coming : Coming) (icao : String) : Decidable (coming.Fails icao) :=
  inferInstanceAs (Decidable (∃ p ∈ coming, p.1 = icao ∧ p.2 = .failed))

theorem brings_cons :
    Brings ((asked, answer) :: rest) icao ↔ icao ∈ listed answer.airports ∨ rest.Brings icao := by
  simp [Brings]

theorem asks_cons : Asks ((asked, answer) :: rest) icao ↔ asked = icao ∨ rest.Asks icao := by
  simp [Asks]

theorem fails_cons :
    Fails ((asked, answer) :: rest) icao ↔ asked = icao ∧ answer = .failed ∨ rest.Fails icao := by
  simp [Fails]

theorem Fails.asks (h : coming.Fails icao) : coming.Asks icao := by
  obtain ⟨p, hp, hicao, -⟩ := h
  exact ⟨p, hp, hicao⟩

theorem brings_congr (h : coming.Perm coming') : coming.Brings icao ↔ coming'.Brings icao :=
  exists_congr fun _ => and_congr_left fun _ => h.mem_iff

theorem asks_congr (h : coming.Perm coming') : coming.Asks icao ↔ coming'.Asks icao :=
  exists_congr fun _ => and_congr_left fun _ => h.mem_iff

theorem fails_congr (h : coming.Perm coming') : coming.Fails icao ↔ coming'.Fails icao :=
  exists_congr fun _ => and_congr_left fun _ => h.mem_iff

end Coming

namespace Cache
open RuleIndex Coming

/-! ## Statuses -/

/-- The status of an airport after all answers that are coming. -/
def outcome? (c : Cache) (coming : Coming) (icao : String) : Option AirportStatus :=
  if c.status? icao = some .resolved ∨ coming.Brings icao then some .resolved
  else if coming.Fails icao then some .failed
  else if coming.Asks icao then some .missing
  else c.status? icao

theorem outcome?_nil (c : Cache) (icao : String) : c.outcome? [] icao = c.status? icao := by
  have hbrings : ¬Brings [] icao := by simp [Brings]
  have hfails : ¬Fails [] icao := by simp [Fails]
  have hasks : ¬Asks [] icao := by simp [Asks]
  simp only [outcome?, hbrings, hfails, hasks, or_false, if_false]
  split
  · rename_i hresolved
    exact hresolved.symm
  · rfl

theorem outcome?_congr (c : Cache) {coming coming' : Coming} (h : coming.Perm coming') (icao : String) :
    c.outcome? coming icao = c.outcome? coming' icao := by
  simp only [outcome?, brings_congr h, fails_congr h, asks_congr h]

theorem status?_congr {c c' : Cache} {x : String} (hp : x ∈ c.pending ↔ x ∈ c'.pending)
    (hm : x ∈ c.missing ↔ x ∈ c'.missing) (hf : x ∈ c.failed ↔ x ∈ c'.failed)
    (hr : c.index.contains x = true ↔ c'.index.contains x = true) : c.status? x = c'.status? x := by
  simp only [status?, List.contains_iff_mem, hp, hm, hf, hr]

/-- An answer says nothing of an airport that it was not asked for and does not list. -/
theorem status?_settle_of_not_listed (c : Cache) {icao x : String} {answer : Answer (List AirportRecord)}
    (hne : x ≠ icao) (hnot : x ∉ listed answer.airports) : (c.settle icao answer).status? x = c.status? x := by
  apply status?_congr
  · rw [mem_pending_settle, and_iff_left ⟨hne, hnot⟩]
  · rw [mem_missing_settle, or_iff_left fun e => hne e.1, and_iff_left hnot]
  · rw [mem_failed_settle, or_iff_left fun e => hne e.1, and_iff_left hnot]
  · rw [index_settle, contains_load, or_iff_right hnot]

namespace Tracks
variable {c : Cache} {count : String → Nat} {icao : String}

theorem status?_settle_eq_resolved_iff (h : c.Tracks count) (one : count icao = 1)
    (answer : Answer (List AirportRecord)) (x : String) :
    (c.settle icao answer).status? x = some .resolved ↔
      c.status? x = some .resolved ∨ x ∈ listed answer.airports := by
  rw [((h.settle one answer).exclusive x).status?_eq_resolved_iff, (h.exclusive x).status?_eq_resolved_iff,
    index_settle, contains_load, or_comm]

theorem status?_settle_self (h : c.Tracks count) (one : count icao = 1) (answer : Answer (List AirportRecord))
    (hnot : (c.index.load answer.airports).contains icao = false) :
    (c.settle icao answer).status? icao = some (if answer = .failed then .failed else .missing) := by
  by_cases hanswer : answer = .failed
  · rw [if_pos hanswer]
    exact status?_of_failed ((mem_failed_settle c icao answer icao).2 (.inr ⟨rfl, hanswer, hnot⟩))
  · rw [if_neg hanswer]
    have hmissing := (mem_missing_settle c icao answer icao).2 (.inr ⟨rfl, hanswer, hnot⟩)
    exact ((h.settle one answer).exclusive icao).status?_of_missing hmissing

/-- The answer to the only request for an airport can be settled before the others. -/
theorem outcome?_settle (h : c.Tracks count) (one : count icao = 1) (answer : Answer (List AirportRecord))
    {rest : Coming} (only : ¬rest.Asks icao) (x : String) :
    (c.settle icao answer).outcome? rest x = c.outcome? ((icao, answer) :: rest) x := by
  have hfirst : ((c.settle icao answer).status? x = some .resolved ∨ rest.Brings x) ↔
      (c.status? x = some .resolved ∨ Brings ((icao, answer) :: rest) x) := by
    rw [h.status?_settle_eq_resolved_iff one, brings_cons, or_assoc]
  unfold outcome?
  simp only [hfirst]
  by_cases hresolved : c.status? x = some .resolved ∨ Brings ((icao, answer) :: rest) x
  · rw [if_pos hresolved, if_pos hresolved]
  rw [if_neg hresolved, if_neg hresolved]
  rw [brings_cons, not_or, not_or, (h.exclusive x).status?_eq_resolved_iff, Bool.not_eq_true] at hresolved
  obtain ⟨hindex, hnot, -⟩ := hresolved
  by_cases hx : icao = x
  · -- what the answer says of its own airport stands, as no other answer says anything of it
    subst hx
    have hfails : Fails ((icao, answer) :: rest) icao ↔ answer = .failed := by
      rw [fails_cons, or_iff_left fun e => only e.asks, eq_self, true_and]
    have hasks : Asks ((icao, answer) :: rest) icao := asks_cons.2 (.inl rfl)
    have hself := h.status?_settle_self one answer ((contains_load_eq_false_iff _ _ _).2 ⟨hnot, hindex⟩)
    rw [if_neg fun e => only e.asks, if_neg only, if_pos hasks, hself]
    simp only [hfails]
    split <;> rfl
  · have hfails : Fails ((icao, answer) :: rest) x ↔ rest.Fails x := by
      rw [fails_cons, or_iff_right fun e => hx e.1]
    have hasks : Asks ((icao, answer) :: rest) x ↔ rest.Asks x := by
      rw [asks_cons, or_iff_right hx]
    simp only [hfails, hasks, status?_settle_of_not_listed c (Ne.symm hx) hnot]

end Tracks

/-! ## Rules -/

/-- What is found under a point of an airport after all answers that are coming: what every answer says that
lists the airport, or else what is found already. -/
structure Finds (c : Cache) (coming : Coming) (icao point : String) (found : Option RuleSet) : Prop where
  listed : ∀ p ∈ coming, icao ∈ listed p.2.airports →
    (RuleIndex.ofAirports p.2.airports).rules? icao point = found
  kept : ¬coming.Brings icao → c.index.rules? icao point = found

theorem exists_finds (c : Cache) {coming : Coming} (agree : coming.Agree) (icao point : String) :
    ∃ found, c.Finds coming icao point found := by
  by_cases hbrings : coming.Brings icao
  · obtain ⟨p, hp, hicao⟩ := hbrings
    refine ⟨(RuleIndex.ofAirports p.2.airports).rules? icao point, ?_, fun hnot => absurd ⟨p, hp, hicao⟩ hnot⟩
    intro q hq hq'
    exact agree q hq p hp icao hq' hicao point
  · exact ⟨c.index.rules? icao point, fun p hp hicao => absurd ⟨p, hp, hicao⟩ hbrings, fun _ => rfl⟩

namespace Finds
variable {c : Cache} {coming coming' rest : Coming} {icao point : String} {found : Option RuleSet}

theorem nil (h : c.Finds [] icao point found) : c.index.rules? icao point = found :=
  h.kept (by simp [Brings])

theorem congr (h : c.Finds coming icao point found) (hperm : coming.Perm coming') :
    c.Finds coming' icao point found where
  listed := fun p hp => h.listed p (hperm.mem_iff.2 hp)
  kept := fun hnot => h.kept fun e => hnot ((brings_congr hperm).1 e)

theorem settle {asked : String} {answer : Answer (List AirportRecord)}
    (h : c.Finds ((asked, answer) :: rest) icao point found) :
    (c.settle asked answer).Finds rest icao point found where
  listed := fun p hp => h.listed p (List.mem_cons_of_mem _ hp)
  kept := by
    intro hrest
    rw [index_settle]
    by_cases hicao : icao ∈ RuleIndex.listed answer.airports
    · rw [rules?_load_of_listed hicao]
      exact h.listed _ List.mem_cons_self hicao
    · rw [rules?_load_of_not_listed hicao]
      exact h.kept fun e => (brings_cons.1 e).elim hicao hrest

end Finds

end Cache

end DepartureRules
