import DepartureRules.Proofs.Selection.Requirements
import DepartureRules.Selection.Ranking

/-!
# What a departure is reported with

The rule by which the constraints of a departure lead to its report, said without candidates and checks.

* `Chosen d report` has one case for each way to a report: the first constraint that admits the departure,
  the constraint that is reported on when none does, and no constraint at all;
* `best?_eq_some_iff` says which candidate is the best one: it passed more checks than those before it and
  no fewer than those after it;
* `select_spec` says that `select` follows the rule, and succeeds exactly when a constraint admits the
  departure.
-/

namespace DepartureRules
set_option autoImplicit false

/-! ## The rule -/

/-- The note that a report on the departure begins with, if its restrictions do not permit it. -/
def Departure.foreword (d : Departure) : List String :=
  if d.Permitted then [] else (refusal d.rules.restrictions d.circumstances).notes

/-- How the notes on the constraint that is reported on stand in the report. -/
inductive Introduced : List String → List String → Prop
  | silent : Introduced [] ["best candidate for SID"]
  | noted (first : String) (others : List String) :
    Introduced (first :: others) (("best candidate for SID: " ++ first) :: others)

/-- A report on a departure that follows from its constraints. -/
inductive Chosen (d : Departure) : Report → Prop
  /-- The first constraint that admits the departure. -/
  | admitted {before after : List Constraint} {c : Constraint}
      (split : d.rules.constraints = before ++ c :: after)
      (first : ∀ b ∈ before, ¬ Admits b d) (admits : Admits c d) :
      Chosen d ⟨.success, d.foreword ++ Requirement.order.flatMap (Requirement.remarks d) ++
        ["candidate constraint passed"]⟩
  /-- No constraint admits the departure, and this one is the earliest of those that it meets the most
  requirements of before the first unmet one. -/
  | rejected {before after : List Constraint} {c : Constraint} {q : Requirement} {notes : List String}
      (split : d.rules.constraints = before ++ c :: after)
      (admitsNone : ∀ b ∈ d.rules.constraints, ¬ Admits b d)
      (earlier : ∀ b ∈ before, (metFirst b d).length < (metFirst c d).length)
      (later : ∀ a ∈ after, (metFirst a d).length ≤ (metFirst c d).length)
      (unmet : firstUnmet? c d = some q)
      (introduced : Introduced ((metFirst c d).flatMap (Requirement.remarks d) ++ (q.objection c d).notes) notes) :
      Chosen d ⟨(q.objection c d).outcome, d.foreword ++ notes⟩
  | unconstrained (none : d.rules.constraints = []) :
      Chosen d ⟨.sidUnknown, d.foreword ++ ["departure has no constraints"]⟩

theorem foreword_eq (d : Departure) : d.foreword = d.overall.note.toList := by
  unfold Departure.foreword Departure.overall
  by_cases hwhole : d.Permitted
  · rw [if_pos hwhole, (verdict_of_permits hwhole).2.1]
    rfl
  · rw [if_neg hwhole, (verdict_of_not_permits hwhole).2.2]

theorem introduced_iff {notes lines : List String} : Introduced notes lines ↔ lines = bestNotes notes := by
  constructor
  · rintro (_ | ⟨first, others⟩) <;> rfl
  · rintro rfl
    cases notes with
    | nil => exact .silent
    | cons first others => exact .noted first others

/-! ## The best candidate -/

theorem best?_eq_some_of_split {before after : List Candidate} {b : Candidate}
    (earlier : ∀ a ∈ before, a.passes < b.passes) (later : ∀ a ∈ after, a.passes ≤ b.passes) :
    best? (before ++ b :: after) = some b := by
  induction before with
  | nil =>
    rw [List.nil_append, best?]
    cases hafter : best? after with
    | none => rfl
    | some other =>
      have hle : other.passes ≤ b.passes := later other (mem_of_best? hafter)
      simp only [Nat.not_lt.2 hle, if_false]
  | cons a before ih =>
    have hlt : a.passes < b.passes := earlier a List.mem_cons_self
    rw [List.cons_append, best?, ih fun x hx => earlier x (List.mem_cons_of_mem a hx)]
    simp only [hlt, if_true]

theorem split_of_best?_eq_some {candidates : List Candidate} {b : Candidate} (h : best? candidates = some b) :
    ∃ before after, candidates = before ++ b :: after ∧ (∀ a ∈ before, a.passes < b.passes) ∧
      ∀ a ∈ after, a.passes ≤ b.passes := by
  induction candidates generalizing b with
  | nil => cases h
  | cons c candidates ih =>
    rw [best?] at h
    cases hrest : best? candidates with
    | none =>
      rw [hrest] at h
      cases h
      rw [best?_eq_none_iff] at hrest
      exact ⟨[], [], by rw [hrest]; rfl, by simp, by simp⟩
    | some other =>
      rw [hrest] at h
      dsimp only at h
      split at h
      · rename_i hlt
        cases h
        obtain ⟨before, after, rfl, earlier, later⟩ := ih hrest
        refine ⟨c :: before, after, rfl, ?_, later⟩
        intro a ha
        rcases List.mem_cons.1 ha with rfl | ha
        · exact hlt
        · exact earlier a ha
      · rename_i hge
        cases h
        refine ⟨[], candidates, rfl, by simp, fun a ha => ?_⟩
        exact Nat.le_trans (passes_le_of_best? hrest ha) (Nat.le_of_not_lt hge)

/-- The best candidate passed more checks than those before it and no fewer than those after it. -/
theorem best?_eq_some_iff {candidates : List Candidate} {b : Candidate} :
    best? candidates = some b ↔ ∃ before after, candidates = before ++ b :: after ∧
      (∀ a ∈ before, a.passes < b.passes) ∧ ∀ a ∈ after, a.passes ≤ b.passes := by
  constructor
  · exact split_of_best?_eq_some
  · rintro ⟨before, after, rfl, earlier, later⟩
    exact best?_eq_some_of_split earlier later

/-! ## Selection -/

theorem candidates_eq (d : Departure) :
    d.candidates = d.rules.constraints.map fun c => candidate c d d.overall := rfl

/-- The test by which `select` finds the winner. -/
theorem success_test_iff (c : Constraint) (d : Departure) :
    ((candidate c d d.overall).outcome == .success) = true ↔ Admits c d := by
  rw [beq_iff_eq, candidate_success_iff]

theorem find?_winner_eq_none_iff (d : Departure) :
    (d.candidates.find? fun c => c.outcome == .success) = none ↔
      ∀ c ∈ d.rules.constraints, ¬ Admits c d := by
  simp only [candidates_eq, List.find?_map, Option.map_eq_none_iff, List.find?_eq_none, Function.comp_apply,
    success_test_iff]

theorem find?_winner_of_split {d : Departure} {before after : List Constraint} {c : Constraint}
    (split : d.rules.constraints = before ++ c :: after) (first : ∀ b ∈ before, ¬ Admits b d)
    (admits : Admits c d) :
    (d.candidates.find? fun c => c.outcome == .success) = some (candidate c d d.overall) := by
  have hfirst : before.find? ((fun c => c.outcome == .success) ∘ fun c => candidate c d d.overall) = none := by
    simpa only [List.find?_eq_none, Function.comp_apply, success_test_iff] using first
  rw [candidates_eq, split, List.find?_map, List.find?_append, hfirst, Option.none_or, List.find?_cons_of_pos]
  · rfl
  · exact (success_test_iff c d).2 admits

theorem select_of_admitted {d : Departure} {before after : List Constraint} {c : Constraint}
    (split : d.rules.constraints = before ++ c :: after) (first : ∀ b ∈ before, ¬ Admits b d)
    (admits : Admits c d) :
    select d = ⟨.success, d.foreword ++ Requirement.order.flatMap (Requirement.remarks d) ++
      ["candidate constraint passed"]⟩ := by
  rw [select, find?_winner_of_split split first admits, candidate_of_admits admits, foreword_eq]
  rfl

theorem select_of_rejected {d : Departure} {before after : List Constraint} {c : Constraint} {q : Requirement}
    {notes : List String}
    (split : d.rules.constraints = before ++ c :: after)
    (admitsNone : ∀ b ∈ d.rules.constraints, ¬ Admits b d)
    (earlier : ∀ b ∈ before, (metFirst b d).length < (metFirst c d).length)
    (later : ∀ a ∈ after, (metFirst a d).length ≤ (metFirst c d).length)
    (unmet : firstUnmet? c d = some q)
    (introduced : Introduced ((metFirst c d).flatMap (Requirement.remarks d) ++ (q.objection c d).notes) notes) :
    select d = ⟨(q.objection c d).outcome, d.foreword ++ notes⟩ := by
  have hbest : best? d.candidates = some (candidate c d d.overall) := by
    rw [candidates_eq, split, List.map_append, List.map_cons]
    refine best?_eq_some_of_split ?_ ?_
    · intro a ha
      obtain ⟨b, hb, rfl⟩ := List.mem_map.1 ha
      simpa only [candidate_passes] using earlier b hb
    · intro a ha
      obtain ⟨b, hb, rfl⟩ := List.mem_map.1 ha
      simpa only [candidate_passes] using later b hb
  rw [select, (find?_winner_eq_none_iff d).2 admitsNone, hbest, candidate_of_firstUnmet? unmet, foreword_eq,
    introduced_iff.1 introduced]
  rfl

theorem select_of_unconstrained {d : Departure} (h : d.rules.constraints = []) :
    select d = ⟨.sidUnknown, d.foreword ++ ["departure has no constraints"]⟩ := by
  rw [select, candidates_eq, h, foreword_eq]
  rfl

theorem select_eq_of_chosen {d : Departure} {report : Report} (h : Chosen d report) : select d = report := by
  cases h with
  | admitted split first admits => exact select_of_admitted split first admits
  | rejected split admitsNone earlier later unmet introduced =>
    exact select_of_rejected split admitsNone earlier later unmet introduced
  | unconstrained none => exact select_of_unconstrained none

theorem chosen_of_winner {d : Departure} {winner : Candidate}
    (h : (d.candidates.find? fun c => c.outcome == .success) = some winner) : Chosen d (select d) := by
  rw [candidates_eq, List.find?_map, Option.map_eq_some_iff] at h
  obtain ⟨c, hfind, -⟩ := h
  rw [List.find?_eq_some_iff_append] at hfind
  obtain ⟨hc, before, after, split, hbefore⟩ := hfind
  have admits : Admits c d := (success_test_iff c d).1 hc
  have first : ∀ b ∈ before, ¬ Admits b d := by
    intro b hb hadmits
    have hfail := hbefore b hb
    rw [Function.comp_apply, (success_test_iff b d).2 hadmits] at hfail
    cases hfail
  rw [select_of_admitted split first admits]
  exact .admitted split first admits

theorem chosen_of_best {d : Departure} {best : Candidate} (admitsNone : ∀ b ∈ d.rules.constraints, ¬ Admits b d)
    (h : best? d.candidates = some best) : Chosen d (select d) := by
  obtain ⟨before', after', split', earlier', later'⟩ := best?_eq_some_iff.1 h
  rw [candidates_eq, List.map_eq_append_iff] at split'
  obtain ⟨before, rest, split, rfl, hrest⟩ := split'
  obtain ⟨c, after, rfl, rfl, rfl⟩ := List.map_eq_cons_iff.1 hrest
  simp only [List.forall_mem_map, candidate_passes] at earlier' later'
  have hc : c ∈ d.rules.constraints := split ▸ List.mem_append_cons_self
  obtain ⟨q, unmet⟩ := (not_admits_iff c d).1 (admitsNone c hc)
  rw [select_of_rejected split admitsNone earlier' later' unmet (introduced_iff.2 rfl)]
  exact .rejected split admitsNone earlier' later' unmet (introduced_iff.2 rfl)

theorem chosen_select (d : Departure) : Chosen d (select d) := by
  cases hfind : d.candidates.find? fun c => c.outcome == .success with
  | some winner => exact chosen_of_winner hfind
  | none =>
    have admitsNone := (find?_winner_eq_none_iff d).1 hfind
    cases hbest : best? d.candidates with
    | some best => exact chosen_of_best admitsNone hbest
    | none =>
      rw [best?_eq_none_iff, candidates_eq, List.map_eq_nil_iff] at hbest
      rw [select_of_unconstrained hbest]
      exact .unconstrained hbest

theorem Chosen.success_iff {d : Departure} {report : Report} (h : Chosen d report) :
    report.outcome = .success ↔ ∃ c ∈ d.rules.constraints, Admits c d := by
  cases h with
  | admitted split first admits =>
    exact iff_of_true rfl ⟨_, split ▸ List.mem_append_cons_self, admits⟩
  | rejected split admitsNone earlier later unmet introduced =>
    refine iff_of_false ?_ fun ⟨c, hc, admits⟩ => admitsNone c hc admits
    exact objection_ne_success (not_met_of_firstUnmet? unmet)
  | unconstrained none =>
    refine iff_of_false nofun fun ⟨c, hc, _⟩ => ?_
    rw [none] at hc
    cases hc

/-- `select` succeeds exactly when a constraint admits the departure, and its report is the one that the
rule leads to. -/
theorem select_spec (d : Departure) :
    ((select d).outcome = .success ↔ ∃ c ∈ d.rules.constraints, Admits c d) ∧
      ∀ report, select d = report ↔ Chosen d report := by
  refine ⟨(chosen_select d).success_iff, fun report => ⟨?_, select_eq_of_chosen⟩⟩
  rintro rfl
  exact chosen_select d

end DepartureRules
