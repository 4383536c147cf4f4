import DepartureRules.Live.Cache
import DepartureRules.Proofs.Rules.Index

/-!
# What settling a request does to the cache

The members of the three sets and of the index after the answer to a request for an airport.

* `Answer.airports` is the document that came with an answer, none with a failure;
* `mem_pending_settle`, `mem_missing_settle`, `mem_failed_settle` and `index_settle` say what an answer does
  to each part of the cache;
* `Cache.Exclusive` says that an airport is in one part at most, and `Exclusive.status?_eq_resolved_iff` that
  the statuses are then those of the parts.
-/

namespace DepartureRules
set_option autoImplicit false

/-- The airports that come with an answer. -/
def Answer.airports : Answer (List AirportRecord) → List AirportRecord
  | .received airports => airports
  | .notFound => []
  | .failed => []

namespace Cache
open RuleIndex

/-! ## Loading a document -/

theorem mem_without (codes : List String) (icao x : String) :
    x ∈ without codes icao ↔ x ∈ codes ∧ x ≠ icao := by
  simp [without, List.mem_filter]

theorem index_foldl_resolve (codes : List String) (c : Cache) : (codes.foldl resolve c).index = c.index := by
  induction codes generalizing c with
  | nil => rfl
  | cons code codes ih => exact ih _

theorem mem_foldl_resolve (codes : List String) (c : Cache) (x : String) :
    (x ∈ (codes.foldl resolve c).pending ↔ x ∈ c.pending ∧ x ∉ codes) ∧
      (x ∈ (codes.foldl resolve c).missing ↔ x ∈ c.missing ∧ x ∉ codes) ∧
      (x ∈ (codes.foldl resolve c).failed ↔ x ∈ c.failed ∧ x ∉ codes) := by
  induction codes generalizing c with
  | nil => simp
  | cons code codes ih =>
    obtain ⟨hp, hm, hf⟩ := ih (c.resolve code)
    rw [List.foldl_cons, hp, hm, hf]
    simp only [resolve, mem_without, List.mem_cons, not_or, and_assoc, and_self]

theorem index_load (c : Cache) (airports : List AirportRecord) :
    (c.load airports).index = c.index.load airports :=
  index_foldl_resolve _ _

theorem mem_pending_load (c : Cache) (airports : List AirportRecord) (x : String) :
    x ∈ (c.load airports).pending ↔ x ∈ c.pending ∧ x ∉ listed airports :=
  (mem_foldl_resolve _ _ x).1

theorem mem_missing_load (c : Cache) (airports : List AirportRecord) (x : String) :
    x ∈ (c.load airports).missing ↔ x ∈ c.missing ∧ x ∉ listed airports :=
  (mem_foldl_resolve _ _ x).2.1

theorem mem_failed_load (c : Cache) (airports : List AirportRecord) (x : String) :
    x ∈ (c.load airports).failed ↔ x ∈ c.failed ∧ x ∉ listed airports :=
  (mem_foldl_resolve _ _ x).2.2

/-! ## Settling a request -/

/-- The cache without a pending airport and with the airports of an answer, before the airport itself is
recorded as missing or failed. -/
def receive (c : Cache) (icao : String) (answer : Answer (List AirportRecord)) : Cache :=
  { c with pending := without c.pending icao }.load answer.airports

theorem index_receive (c : Cache) (icao : String) (answer : Answer (List AirportRecord)) :
    (c.receive icao answer).index = c.index.load answer.airports :=
  index_load _ _

theorem settle_of_contains {c : Cache} {icao : String} {answer : Answer (List AirportRecord)}
    (h : (c.index.load answer.airports).contains icao = true) :
    c.settle icao answer = c.receive icao answer := by
  rw [← index_receive c icao] at h
  cases answer with
  | received airports => exact if_pos h
  | notFound => exact if_pos h
  | failed => exact if_pos h

theorem settle_of_failed {c : Cache} {icao : String} (h : c.index.contains icao = false) :
    c.settle icao .failed =
      { c.receive icao .failed with failed := (c.receive icao .failed).failed.insert icao } :=
  if_neg (Bool.not_eq_true _ ▸ h)

theorem settle_of_missing {c : Cache} {icao : String} {answer : Answer (List AirportRecord)}
    (hanswer : answer ≠ .failed) (h : (c.index.load answer.airports).contains icao = false) :
    c.settle icao answer =
      { c.receive icao answer with missing := (c.receive icao answer).missing.insert icao } := by
  rw [← index_receive c icao] at h
  cases answer with
  | received airports => exact if_neg (Bool.not_eq_true _ ▸ h)
  | notFound => exact if_neg (Bool.not_eq_true _ ▸ h)
  | failed => exact absurd rfl hanswer

/-- An answer is received, and an airport that is not resolved then is missing or failed. -/
theorem settle_cases (c : Cache) (icao : String) (answer : Answer (List AirportRecord)) :
    ((c.index.load answer.airports).contains icao = true ∧ c.settle icao answer = c.receive icao answer) ∨
      ((c.index.load answer.airports).contains icao = false ∧ answer = .failed ∧ c.settle icao answer =
        { c.receive icao answer with failed := (c.receive icao answer).failed.insert icao }) ∨
      ((c.index.load answer.airports).contains icao = false ∧ answer ≠ .failed ∧ c.settle icao answer =
        { c.receive icao answer with missing := (c.receive icao answer).missing.insert icao }) := by
  cases h : (c.index.load answer.airports).contains icao with
  | true => exact .inl ⟨rfl, settle_of_contains h⟩
  | false =>
    by_cases hanswer : answer = .failed
    · subst hanswer
      exact .inr (.inl ⟨rfl, rfl, settle_of_failed h⟩)
    · exact .inr (.inr ⟨rfl, hanswer, settle_of_missing hanswer h⟩)

theorem index_settle (c : Cache) (icao : String) (answer : Answer (List AirportRecord)) :
    (c.settle icao answer).index = c.index.load answer.airports := by
  rcases settle_cases c icao answer with ⟨-, h⟩ | ⟨-, -, h⟩ | ⟨-, -, h⟩ <;> rw [h] <;>
    exact index_receive c icao answer

theorem mem_pending_settle (c : Cache) (icao : String) (answer : Answer (List AirportRecord)) (x : String) :
    x ∈ (c.settle icao answer).pending ↔ x ∈ c.pending ∧ x ≠ icao ∧ x ∉ listed answer.airports := by
  have hreceive : x ∈ (c.receive icao answer).pending ↔
      x ∈ c.pending ∧ x ≠ icao ∧ x ∉ listed answer.airports := by
    rw [receive, mem_pending_load, mem_without, and_assoc]
  rcases settle_cases c icao answer with ⟨-, h⟩ | ⟨-, -, h⟩ | ⟨-, -, h⟩ <;> rw [h] <;> exact hreceive

theorem mem_missing_settle (c : Cache) (icao : String) (answer : Answer (List AirportRecord)) (x : String) :
    x ∈ (c.settle icao answer).missing ↔ (x ∈ c.missing ∧ x ∉ listed answer.airports) ∨
      (x = icao ∧ answer ≠ .failed ∧ (c.index.load answer.airports).contains icao = false) := by
  have hreceive : x ∈ (c.receive icao answer).missing ↔ x ∈ c.missing ∧ x ∉ listed answer.airports :=
    mem_missing_load _ _ x
  rcases settle_cases c icao answer with ⟨hin, h⟩ | ⟨hin, hanswer, h⟩ | ⟨hin, hanswer, h⟩
  · rw [h, hreceive]
    simp [hin]
  · rw [h, or_iff_left fun e => e.2.1 hanswer]
    exact hreceive
  · rw [h, List.mem_insert_iff, hreceive, or_comm]
    simp [hin, hanswer]

theorem mem_failed_settle (c : Cache) (icao : String) (answer : Answer (List AirportRecord)) (x : String) :
    x ∈ (c.settle icao answer).failed ↔ (x ∈ c.failed ∧ x ∉ listed answer.airports) ∨
      (x = icao ∧ answer = .failed ∧ (c.index.load answer.airports).contains icao = false) := by
  have hreceive : x ∈ (c.receive icao answer).failed ↔ x ∈ c.failed ∧ x ∉ listed answer.airports :=
    mem_failed_load _ _ x
  rcases settle_cases c icao answer with ⟨hin, h⟩ | ⟨hin, hanswer, h⟩ | ⟨hin, hanswer, h⟩
  · rw [h, hreceive]
    simp [hin]
  · rw [h, List.mem_insert_iff, hreceive, or_comm]
    simp only [hanswer, true_and] at hin ⊢
    rw [hin, eq_self, and_true]
  · rw [h, or_iff_left fun e => hanswer e.2.1]
    exact hreceive

/-! ## One part for each airport -/

/-- An airport is in one part of the cache at most. -/
structure Exclusive (c : Cache) (icao : String) : Prop where
  pending_missing : icao ∈ c.pending → icao ∉ c.missing
  pending_failed : icao ∈ c.pending → icao ∉ c.failed
  missing_failed : icao ∈ c.missing → icao ∉ c.failed
  resolved_pending : c.index.contains icao = true → icao ∉ c.pending
  resolved_missing : c.index.contains icao = true → icao ∉ c.missing
  resolved_failed : c.index.contains icao = true → icao ∉ c.failed

theorem status?_eq_none_iff (c : Cache) (icao : String) :
    c.status? icao = none ↔
      icao ∉ c.failed ∧ icao ∉ c.missing ∧ icao ∉ c.pending ∧ c.index.contains icao = false := by
  unfold status?
  by_cases hf : icao ∈ c.failed <;> by_cases hm : icao ∈ c.missing <;> by_cases hp : icao ∈ c.pending <;>
    cases hr : c.index.contains icao <;> simp [hf, hm, hp]

namespace Exclusive
variable {c : Cache} {icao : String}

theorem status?_eq_resolved_iff (h : c.Exclusive icao) :
    c.status? icao = some .resolved ↔ c.index.contains icao = true := by
  constructor
  · intro hstatus
    unfold status? at hstatus
    split at hstatus
    · cases hstatus
    · split at hstatus
      · cases hstatus
      · split at hstatus
        · cases hstatus
        · split at hstatus
          · assumption
          · cases hstatus
  · intro hr
    simp [status?, hr, h.resolved_failed hr, h.resolved_missing hr, h.resolved_pending hr]

theorem status?_of_missing (h : c.Exclusive icao) (hm : icao ∈ c.missing) : c.status? icao = some .missing := by
  simp [status?, hm, h.missing_failed hm]

end Exclusive

theorem status?_of_failed {c : Cache} {icao : String} (hf : icao ∈ c.failed) :
    c.status? icao = some .failed := by
  simp [status?, hf]

end Cache

end DepartureRules
