import DepartureRules.Selection.Checks

/-!
# Selection

Of the constraints of a departure the first one that passes every check wins. If there is none, the report
is on the constraint that passed the most checks, the earliest of several.

* `best?`, the candidate to report on;
* `select`, the outcome and the notes of a departure.
-/

namespace DepartureRules
set_option autoImplicit false

/-- The earliest of the candidates that passed the most checks. -/
def best? : List Candidate → Option Candidate
  | [] => none
  | c :: candidates =>
    match best? candidates with
    | none => some c
    | some other => if c.passes < other.passes then some other else some c

/-- The notes on the best candidate, the first of them with its introduction. -/
def bestNotes : List String → List String
  | [] => ["best candidate for SID"]
  | first :: others => ("best candidate for SID: " ++ first) :: others

/-- The candidates of a departure in the order of its constraints. -/
def Departure.candidates (d : Departure) : List Candidate :=
  d.rules.constraints.map fun c =>
    candidate c d (verdict d.rules.restrictions d.circumstances)

/-- The outcome of a departure and the notes that led to it. -/
def select (d : Departure) : Report :=
  let notes := (verdict d.rules.restrictions d.circumstances).note.toList
  match d.candidates.find? fun c => c.outcome == .success with
  | some winner => ⟨.success, notes ++ winner.trail ++ ["candidate constraint passed"]⟩
  | none =>
    match best? d.candidates with
    | none => ⟨.sidUnknown, notes ++ ["departure has no constraints"]⟩
    | some best => ⟨best.outcome, notes ++ bestNotes best.trail⟩

/-! ## Facts -/

theorem best?_eq_none_iff (candidates : List Candidate) : best? candidates = none ↔ candidates = [] := by
  cases candidates with
  | nil => simp [best?]
  | cons c candidates =>
    simp only [best?]
    split
    · simp
    · split <;> simp

theorem mem_of_best? {candidates : List Candidate} {best : Candidate}
    (h : best? candidates = some best) : best ∈ candidates := by
  induction candidates generalizing best with
  | nil => simp [best?] at h
  | cons c candidates ih =>
    simp only [best?] at h
    split at h
    · rw [← Option.some.inj h]
      exact List.mem_cons_self
    · rename_i other hother
      split at h
      · rw [← Option.some.inj h]
        exact List.mem_cons_of_mem _ (ih hother)
      · rw [← Option.some.inj h]
        exact List.mem_cons_self

/-- No candidate passed more checks than the best one. -/
theorem passes_le_of_best? {candidates : List Candidate} {best : Candidate}
    (h : best? candidates = some best) {c : Candidate} (hc : c ∈ candidates) :
    c.passes ≤ best.passes := by
  induction candidates generalizing best with
  | nil => simp at hc
  | cons d candidates ih =>
    simp only [best?] at h
    split at h
    · rename_i hnone
      rw [best?_eq_none_iff] at hnone
      subst hnone
      have hcd : c = best := (List.mem_singleton.1 hc).trans (Option.some.inj h)
      exact Nat.le_of_eq (congrArg Candidate.passes hcd)
    · rename_i other hother
      split at h
      · rename_i hlt
        rw [← Option.some.inj h]
        rcases List.mem_cons.1 hc with rfl | hc
        · exact Nat.le_of_lt hlt
        · exact ih hother hc
      · rename_i hge
        rw [← Option.some.inj h]
        rcases List.mem_cons.1 hc with rfl | hc
        · exact Nat.le_refl _
        · exact Nat.le_trans (ih hother hc) (Nat.le_of_not_lt hge)

end DepartureRules
