import Mathlib.Data.List.TakeWhile
import DepartureRules.Proofs.Selection.Clauses

/-!
# The requirements of a constraint

What a constraint requires of a departure, said without the checks that look for it.

* `Requirement.Met` says when one of the seven requirements is met, `Admits` that all of them are;
* `Requirement.remarks` are the notes that a met requirement leaves, `Requirement.objection` is the
  rejection that an unmet one leads to;
* `metFirst` and `firstUnmet?` are the requirements met before the first unmet one, and that one.

`candidate_of_admits` and `candidate_of_firstUnmet?` say that the checks find exactly this: a candidate has as
many passes as requirements are met in front, and its outcome and trail are those of the first unmet one.
-/

namespace DepartureRules
set_option autoImplicit false

/-! ## Requirements -/

/-- A level, in thousands of feet, is open in a direction. -/
def Direction.Opens : Direction → Int → Prop
  | .odd, level => (level ≤ 41 → level.tmod 2 = 1) ∧ (41 < level → (2 + level - 41).tmod 4 = 2)
  | .even, level => (level ≤ 41 → level.tmod 2 = 0) ∧ (41 < level → (2 + level - 41).tmod 4 = 0)

/-- What a constraint requires of a departure. -/
inductive Requirement
  | destination
  | exitPoint
  | restrictions
  | levelBlock
  | levelParity
  | route
  | alerts
  deriving DecidableEq, Repr

/-- The restrictions on the whole departure permit it. -/
def Departure.Permitted (d : Departure) : Prop :=
  Permits d.rules.restrictions d.circumstances

/-- The deciding clause of the constraint clears the departure of the restrictions on all of it. -/
def Constraint.Clears (c : Constraint) (d : Departure) : Prop :=
  ∃ r : Restriction, r.Decides c.restrictions d.circumstances ∧ r.clearsSid = true

/-- No excluded text has the property, and one of the admitted texts has it, if there are any. -/
def Allowed (excluded admitted : List String) (P : String → Prop) : Prop :=
  (∀ text ∈ excluded, ¬ P text) ∧ (admitted = [] ∨ ∃ text ∈ admitted, P text)

/-- What two lists of texts that do not allow a departure lead to. -/
def disallowed (outcome : Outcome) (subject : String) (excluded : List String) (P : String → Prop)
    [DecidablePred P] : Rejection :=
  ⟨outcome, [if ∃ text ∈ excluded, P text then subject ++ " matches blacklist"
    else subject ++ " not in whitelist"]⟩

/-- The destination of a departure begins with a text. -/
def Departure.HeadsFor (d : Departure) (text : String) : Prop :=
  text.toList <+: d.destination.toList

/-- A pattern matches the route of a departure. -/
def Departure.Follows (d : Departure) (pattern : String) : Prop :=
  Pattern.matchesRoute pattern d.route (!d.fix.isEmpty) = true

instance : (direction : Direction) → (level : Int) → Decidable (direction.Opens level)
  | .odd, _ => inferInstanceAs (Decidable (_ ∧ _))
  | .even, _ => inferInstanceAs (Decidable (_ ∧ _))

instance (d : Departure) : Decidable d.Permitted :=
  inferInstanceAs (Decidable (Permits _ _))

instance (c : Constraint) (d : Departure) : Decidable (c.Clears d) :=
  decidable_of_iff (∃ r ∈ c.restrictions.find? (Restriction.applies · d.circumstances), r.clearsSid = true)
    exists_decides_iff.symm

instance (excluded admitted : List String) (P : String → Prop) [DecidablePred P] :
    Decidable (Allowed excluded admitted P) :=
  inferInstanceAs (Decidable (_ ∧ _))

instance (d : Departure) : DecidablePred d.HeadsFor :=
  fun text => inferInstanceAs (Decidable (text.toList <+: d.destination.toList))

instance (d : Departure) : DecidablePred d.Follows :=
  fun _ => inferInstanceAs (Decidable (_ = true))

namespace Requirement

/-- The requirements in the order in which they are looked at. -/
def order : List Requirement :=
  [.destination, .exitPoint, .restrictions, .levelBlock, .levelParity, .route, .alerts]

/-- The departure meets a requirement of the constraint. -/
def Met (c : Constraint) (d : Departure) : Requirement → Prop
  | .destination => Allowed c.excludedDestinations c.destinations d.HeadsFor
  | .exitPoint => Allowed c.excludedExitPoints c.exitPoints (· ∈ d.points)
  | .restrictions => Permits c.restrictions d.circumstances ∧ (d.Permitted ∨ c.Clears d)
  | .levelBlock =>
    (∀ lowest ∈ c.lowest, (lowest : Int) ≤ d.cruiseLevel.tdiv 100) ∧
      ∀ highest ∈ c.highest, d.cruiseLevel.tdiv 100 ≤ (highest : Int)
  | .levelParity =>
    (1000 : Int) ∣ d.cruiseLevel ∧
      ∀ direction ∈ c.direction, direction.Opens (d.cruiseLevel.tdiv 1000)
  | .route => Allowed c.excludedRoutes c.routes d.Follows
  | .alerts => ∀ alert ∈ c.alerts, alert.ban = false ∧ alert.warn = false

instance (c : Constraint) (d : Departure) : (q : Requirement) → Decidable (q.Met c d)
  | .destination => inferInstanceAs (Decidable (Allowed _ _ _))
  | .exitPoint => inferInstanceAs (Decidable (Allowed _ _ _))
  | .restrictions => inferInstanceAs (Decidable (_ ∧ _))
  | .levelBlock => inferInstanceAs (Decidable (_ ∧ _))
  | .levelParity => inferInstanceAs (Decidable (_ ∧ _))
  | .route => inferInstanceAs (Decidable (Allowed _ _ _))
  | .alerts => inferInstanceAs (Decidable (∀ alert ∈ c.alerts, _))

/-- The notes that a met requirement leaves. -/
def remarks (d : Departure) : Requirement → List String
  | .restrictions => if d.Permitted then [] else ["overridden by matching constrained condition"]
  | _ => []

/-- What an unmet requirement leads to. -/
def objection (c : Constraint) (d : Departure) : Requirement → Rejection
  | .destination => disallowed .destination "destination" c.excludedDestinations d.HeadsFor
  | .exitPoint => disallowed .exitPoint "exit point" c.excludedExitPoints (· ∈ d.points)
  | .restrictions =>
    if Permits c.restrictions d.circumstances then
      ⟨(refusal d.rules.restrictions d.circumstances).outcome, alternativesIn d.rules.restrictions⟩
    else
      ⟨(refusal c.restrictions d.circumstances).outcome,
        (refusal c.restrictions d.circumstances).notes ++ alternativesIn c.restrictions⟩
  | .levelBlock =>
    ⟨.levelBlock,
      [if ∃ lowest ∈ c.lowest, d.cruiseLevel.tdiv 100 < (lowest : Int)
        then "requested level beneath minimum" else "requested level above maximum"]⟩
  | .levelParity =>
    if (1000 : Int) ∣ d.cruiseLevel then
      ⟨.levelParity,
        [if d.cruiseLevel.tdiv 1000 ≤ 41
          then "requested level has incorrect parity" else "requested RVSM level has incorrect parity"]⟩
    else ⟨.levelSeries, ["requested level not IFR"]⟩
  | .route => disallowed .route "route" c.excludedRoutes d.Follows
  | .alerts =>
    ⟨if ∃ alert ∈ c.alerts, alert.ban = true then .constraintBan else .warning, alarms c.alerts⟩

/-- The answer to a requirement: notes if it is met, else a rejection. -/
def answer (c : Constraint) (d : Departure) (q : Requirement) : CheckAnswer :=
  if q.Met c d then .ok (q.remarks d) else .error (q.objection c d)

end Requirement

/-! ## The checks look for the requirements -/

theorem any_iff_exists {p : String → Bool} {P : String → Prop} (h : ∀ text, p text = true ↔ P text)
    (texts : List String) : texts.any p = true ↔ ∃ text ∈ texts, P text := by
  simp only [List.any_eq_true, h]

/-- Two lists of texts are looked through in the same way by three of the checks. -/
theorem check_lists_eq {p : String → Bool} {P : String → Prop} [DecidablePred P]
    (h : ∀ text, p text = true ↔ P text) (outcome : Outcome) (subject : String)
    (excluded admitted : List String) :
    (if excluded.any p then reject outcome (subject ++ " matches blacklist")
      else if !admitted.isEmpty && !admitted.any p then reject outcome (subject ++ " not in whitelist")
      else pass) =
      if Allowed excluded admitted P then .ok [] else .error (disallowed outcome subject excluded P) := by
  by_cases hex : ∃ text ∈ excluded, P text
  · have hnot : ¬ Allowed excluded admitted P := by
      rintro ⟨hno, -⟩
      obtain ⟨text, hmem, hP⟩ := hex
      exact hno text hmem hP
    rw [if_pos ((any_iff_exists h excluded).2 hex), if_neg hnot, disallowed, if_pos hex]
    rfl
  · have hno : ∀ text ∈ excluded, ¬ P text := fun text hmem hP => hex ⟨text, hmem, hP⟩
    rw [if_neg (fun e => hex ((any_iff_exists h excluded).1 e))]
    by_cases had : admitted = [] ∨ ∃ text ∈ admitted, P text
    · have hpass : ¬ (!admitted.isEmpty && !admitted.any p) = true := by
        rw [← any_iff_exists h] at had
        rcases had with hnil | hany
        · simp [hnil]
        · simp [hany]
      rw [if_neg hpass, if_pos ⟨hno, had⟩]
      rfl
    · have hfail : (!admitted.isEmpty && !admitted.any p) = true := by
        rw [← any_iff_exists h] at had
        simpa only [Bool.and_eq_true, Bool.not_eq_true', List.isEmpty_eq_false_iff, not_or, ne_eq,
          Bool.not_eq_true] using had
      rw [if_pos hfail, if_neg (fun e => had e.2), disallowed, if_neg hex]
      rfl

theorem checkDestination_eq (c : Constraint) (d : Departure) :
    checkDestination c d.destination = Requirement.answer c d .destination :=
  check_lists_eq (fun text => by simp [beginsWith, Departure.HeadsFor]) .destination "destination"
    c.excludedDestinations c.destinations

theorem checkExitPoint_eq (c : Constraint) (d : Departure) :
    checkExitPoint c d.points = Requirement.answer c d .exitPoint :=
  check_lists_eq (fun point => by simp) .exitPoint "exit point" c.excludedExitPoints c.exitPoints

theorem checkRoute_eq (c : Constraint) (d : Departure) :
    checkRoute c d.route d.fix = Requirement.answer c d .route :=
  check_lists_eq (fun _ => Iff.rfl) .route "route" c.excludedRoutes c.routes

/-- The verdict on the whole departure, as the checks get it. -/
def Departure.overall (d : Departure) : Verdict :=
  verdict d.rules.restrictions d.circumstances

theorem checkRestrictions_eq (c : Constraint) (d : Departure) :
    checkRestrictions c d d.overall = Requirement.answer c d .restrictions := by
  unfold checkRestrictions Departure.overall
  by_cases hown : Permits c.restrictions d.circumstances
  · obtain ⟨hown_passed, -, hclears⟩ := verdict_of_permits hown
    by_cases hwhole : d.Permitted
    · obtain ⟨hwhole_passed, -⟩ := verdict_of_permits hwhole
      simp only [hown_passed, hwhole_passed, Bool.not_true, Bool.false_eq_true, if_false, if_true]
      rw [Requirement.answer, if_pos ⟨hown, .inl hwhole⟩, Requirement.remarks, if_pos hwhole]
      rfl
    · obtain ⟨hwhole_passed, hwhole_outcome, -⟩ := verdict_of_not_permits hwhole
      simp only [hown_passed, hwhole_passed, Bool.not_true, Bool.false_eq_true, if_false]
      by_cases hclear : c.Clears d
      · rw [if_pos (hclears.2 hclear), Requirement.answer, if_pos ⟨hown, .inr hclear⟩, Requirement.remarks,
          if_neg hwhole]
      · rw [if_neg (fun e => hclear (hclears.1 e)), Requirement.answer, if_neg (fun e => e.2.elim hwhole hclear),
          Requirement.objection, if_pos hown, hwhole_outcome, suggestions_eq]
  · obtain ⟨hown_passed, hown_outcome, hown_note⟩ := verdict_of_not_permits hown
    simp only [hown_passed, Bool.not_false, if_true]
    rw [Requirement.answer, if_neg (fun e => hown e.1), Requirement.objection, if_neg hown, hown_outcome, hown_note,
      suggestions_eq]

theorem checkLevelBlock_eq (c : Constraint) (d : Departure) :
    checkLevelBlock c d.cruiseLevel = Requirement.answer c d .levelBlock := by
  have hlow : (c.lowest.any fun (lowest : Nat) => decide (d.cruiseLevel.tdiv 100 < (lowest : Int))) = true ↔
      ∃ lowest ∈ c.lowest, d.cruiseLevel.tdiv 100 < (lowest : Int) := by
    cases c.lowest <;> simp
  have hhigh : (c.highest.any fun (highest : Nat) => decide ((highest : Int) < d.cruiseLevel.tdiv 100)) = true ↔
      ∃ highest ∈ c.highest, (highest : Int) < d.cruiseLevel.tdiv 100 := by
    cases c.highest <;> simp
  unfold checkLevelBlock
  by_cases hl : ∃ lowest ∈ c.lowest, d.cruiseLevel.tdiv 100 < (lowest : Int)
  · have hnot : ¬ Requirement.levelBlock.Met c d := by
      rintro ⟨hall, -⟩
      obtain ⟨lowest, hmem, hlt⟩ := hl
      exact absurd (hall lowest hmem) (by omega)
    rw [if_pos (hlow.2 hl), Requirement.answer, if_neg hnot, Requirement.objection, if_pos hl]
    rfl
  · have hall : ∀ lowest ∈ c.lowest, (lowest : Int) ≤ d.cruiseLevel.tdiv 100 := by
      intro lowest hmem
      exact Int.not_lt.1 fun hlt => hl ⟨lowest, hmem, hlt⟩
    rw [if_neg (fun e => hl (hlow.1 e))]
    by_cases hh : ∃ highest ∈ c.highest, (highest : Int) < d.cruiseLevel.tdiv 100
    · have hnot : ¬ Requirement.levelBlock.Met c d := by
        rintro ⟨-, hle⟩
        obtain ⟨highest, hmem, hlt⟩ := hh
        exact absurd (hle highest hmem) (by omega)
      rw [if_pos (hhigh.2 hh), Requirement.answer, if_neg hnot, Requirement.objection, if_neg hl]
      rfl
    · have hle : ∀ highest ∈ c.highest, d.cruiseLevel.tdiv 100 ≤ (highest : Int) := by
        intro highest hmem
        exact Int.not_lt.1 fun hlt => hh ⟨highest, hmem, hlt⟩
      have hmet : Requirement.levelBlock.Met c d := ⟨hall, hle⟩
      rw [if_neg (fun e => hh (hhigh.1 e)), Requirement.answer, if_pos hmet]
      rfl

theorem opens_iff_parity (direction : Direction) (level : Int) :
    direction.Opens level ↔
      (level ≤ 41 → level.tmod 2 = direction.parity) ∧
        (41 < level → (2 + level - 41).tmod 4 = direction.parity * 2) := by
  cases direction <;> exact Iff.rfl

theorem tmod_thousand_eq_zero_iff (level : Int) : level.tmod 1000 = 0 ↔ (1000 : Int) ∣ level :=
  Int.dvd_iff_tmod_eq_zero.symm

theorem checkLevelParity_eq (c : Constraint) (d : Departure) :
    checkLevelParity c d.cruiseLevel = Requirement.answer c d .levelParity := by
  unfold checkLevelParity
  by_cases hdvd : (1000 : Int) ∣ d.cruiseLevel
  · rw [if_neg (fun e => e ((tmod_thousand_eq_zero_iff _).2 hdvd)), Requirement.answer,
      Requirement.objection, if_pos hdvd]
    cases hdir : c.direction with
    | none =>
      have hmet : Requirement.levelParity.Met c d := ⟨hdvd, by simp [hdir]⟩
      rw [if_pos hmet]
      rfl
    | some direction =>
      have hmet_iff : Requirement.levelParity.Met c d ↔ direction.Opens (d.cruiseLevel.tdiv 1000) := by
        simp [Requirement.Met, hdir, hdvd]
      have hhigh : ¬ d.cruiseLevel.tdiv 1000 ≤ 41 → 41 < d.cruiseLevel.tdiv 1000 := by omega
      simp only [lastThousand, hmet_iff, opens_iff_parity, reject]
      by_cases hlow : d.cruiseLevel.tdiv 1000 ≤ 41
      · simp only [hlow, Int.not_lt.2 hlow, if_true, true_implies, false_implies, and_true]
        rfl
      · simp only [hlow, hhigh hlow, if_false, true_implies, false_implies, true_and]
        rfl
  · have hnot : ¬ Requirement.levelParity.Met c d := fun e => hdvd e.1
    rw [if_pos (fun e => hdvd ((tmod_thousand_eq_zero_iff _).1 e)), Requirement.answer, if_neg hnot,
      Requirement.objection, if_neg hdvd]
    rfl

theorem warningNotes_eq_nil_iff {alerts : List Alert} (h : alerts.find? (fun alert => alert.ban) = none) :
    warningNotes alerts = [] ↔ ∀ alert ∈ alerts, alert.warn = false := by
  rw [List.find?_eq_none] at h
  have htake : alerts.takeWhile (fun alert => !alert.ban) = alerts := by
    rw [List.takeWhile_eq_self_iff]
    intro alert hmem
    simpa using h alert hmem
  simp [warningNotes, htake, List.filter_eq_nil_iff]

theorem checkAlerts_eq (c : Constraint) (d : Departure) :
    checkAlerts c = Requirement.answer c d .alerts := by
  have halarms := alarms_eq c.alerts
  unfold checkAlerts
  cases hban : c.alerts.find? fun alert => alert.ban with
  | some alert =>
    have hmem := List.mem_of_find?_eq_some hban
    have hbanned : alert.ban = true := by simpa using List.find?_some hban
    have hnot : ¬ Requirement.alerts.Met c d := by
      intro hmet
      rw [(hmet alert hmem).1] at hbanned
      cases hbanned
    rw [hban, Option.map_some, Option.toList_some] at halarms
    rw [Requirement.answer, if_neg hnot, Requirement.objection, if_pos ⟨alert, hmem, hbanned⟩, halarms]
  | none =>
    have hnone : ∀ alert ∈ c.alerts, alert.ban = false := by
      intro alert hmem
      simpa using List.find?_eq_none.1 hban alert hmem
    have hnot : ¬∃ alert ∈ c.alerts, alert.ban = true := by simpa using hnone
    have hmet_iff : Requirement.alerts.Met c d ↔ warningNotes c.alerts = [] := by
      rw [warningNotes_eq_nil_iff hban]
      exact ⟨fun hmet alert hmem => (hmet alert hmem).2, fun h alert hmem => ⟨hnone alert hmem, h alert hmem⟩⟩
    rw [hban, Option.map_none, Option.toList_none, List.append_nil] at halarms
    simp only [Requirement.answer, hmet_iff, Requirement.objection, if_neg hnot, halarms, List.isEmpty_iff]
    rfl

theorem checks_eq (c : Constraint) (d : Departure) :
    checks c d d.overall = Requirement.order.map (Requirement.answer c d) := by
  simp only [checks, checkDestination_eq, checkExitPoint_eq, checkRestrictions_eq, checkLevelBlock_eq,
    checkLevelParity_eq, checkRoute_eq, checkAlerts_eq c d]
  rfl

/-! ## Candidates -/

/-- The departure meets every requirement of the constraint. -/
def Admits (c : Constraint) (d : Departure) : Prop :=
  ∀ q : Requirement, q.Met c d

/-- The requirements that are met before the first unmet one. -/
def metFirst (c : Constraint) (d : Departure) : List Requirement :=
  Requirement.order.takeWhile fun q => decide (q.Met c d)

/-- The first requirement that is not met. -/
def firstUnmet? (c : Constraint) (d : Departure) : Option Requirement :=
  Requirement.order.find? fun q => !decide (q.Met c d)

theorem mem_order (q : Requirement) : q ∈ Requirement.order := by
  cases q <;> decide

instance (c : Constraint) (d : Departure) : Decidable (Admits c d) :=
  decidable_of_iff (∀ q ∈ Requirement.order, q.Met c d) ⟨fun h q => h q (mem_order q), fun h q _ => h q⟩

theorem firstUnmet?_eq_none_iff (c : Constraint) (d : Departure) :
    firstUnmet? c d = none ↔ Admits c d := by
  simp only [firstUnmet?, List.find?_eq_none, Bool.not_eq_true', Bool.not_eq_false, decide_eq_true_eq]
  exact ⟨fun h q => h q (mem_order q), fun h q _ => h q⟩

theorem not_met_of_firstUnmet? {c : Constraint} {d : Departure} {q : Requirement}
    (h : firstUnmet? c d = some q) : ¬ q.Met c d := by
  simpa using List.find?_some h

theorem not_admits_iff (c : Constraint) (d : Departure) :
    ¬ Admits c d ↔ ∃ q, firstUnmet? c d = some q := by
  rw [← firstUnmet?_eq_none_iff, ← Option.isSome_iff_exists, Option.isSome_iff_ne_none]

theorem metFirst_of_admits {c : Constraint} {d : Departure} (h : Admits c d) :
    metFirst c d = Requirement.order := by
  rw [metFirst, List.takeWhile_eq_self_iff]
  intro q _
  simpa using h q

/-- Checks that are answered as requirements are met stop at the first unmet one. -/
theorem runChecks_answers (c : Constraint) (d : Departure) (qs : List Requirement) :
    runChecks (qs.map (Requirement.answer c d)) =
      match qs.find? fun q => !decide (q.Met c d) with
      | none => ⟨qs.length, .success, qs.flatMap (Requirement.remarks d)⟩
      | some q =>
        ⟨(qs.takeWhile fun q => decide (q.Met c d)).length, (q.objection c d).outcome,
          (qs.takeWhile fun q => decide (q.Met c d)).flatMap (Requirement.remarks d) ++
            (q.objection c d).notes⟩ := by
  induction qs with
  | nil => rfl
  | cons q qs ih =>
    rw [List.map_cons, List.find?_cons, List.takeWhile_cons]
    by_cases hq : q.Met c d
    · rw [Requirement.answer, if_pos hq, runChecks, ih]
      simp only [hq, decide_true, Bool.not_true, if_true, List.length_cons, List.flatMap_cons]
      cases qs.find? fun q => !decide (q.Met c d) with
      | none => rfl
      | some first => simp only [List.append_assoc]
    · rw [Requirement.answer, if_neg hq, runChecks]
      simp only [hq, decide_false, Bool.not_false, Bool.false_eq_true, if_false, List.length_nil,
        List.flatMap_nil, List.nil_append]

theorem candidate_of_admits {c : Constraint} {d : Departure} (h : Admits c d) :
    candidate c d d.overall =
      ⟨(metFirst c d).length, .success, Requirement.order.flatMap (Requirement.remarks d)⟩ := by
  have hnone := (firstUnmet?_eq_none_iff c d).2 h
  rw [firstUnmet?] at hnone
  rw [candidate, checks_eq, runChecks_answers, hnone, metFirst_of_admits h]

theorem candidate_of_firstUnmet? {c : Constraint} {d : Departure} {q : Requirement}
    (h : firstUnmet? c d = some q) :
    candidate c d d.overall =
      ⟨(metFirst c d).length, (q.objection c d).outcome,
        (metFirst c d).flatMap (Requirement.remarks d) ++ (q.objection c d).notes⟩ := by
  rw [firstUnmet?] at h
  rw [candidate, checks_eq, runChecks_answers, h]
  rfl

theorem candidate_passes (c : Constraint) (d : Departure) :
    (candidate c d d.overall).passes = (metFirst c d).length := by
  by_cases h : Admits c d
  · rw [candidate_of_admits h]
  · obtain ⟨q, hq⟩ := (not_admits_iff c d).1 h
    rw [candidate_of_firstUnmet? hq]

/-- No requirement that is not met leads to success. -/
theorem objection_ne_success {c : Constraint} {d : Departure} {q : Requirement} (h : ¬ q.Met c d) :
    (q.objection c d).outcome ≠ .success := by
  cases q with
  | restrictions =>
    rw [Requirement.objection]
    split
    · rcases refusal_outcome d.rules.restrictions d.circumstances with hrefusal | hrefusal <;> simp [hrefusal]
    · rcases refusal_outcome c.restrictions d.circumstances with hrefusal | hrefusal <;> simp [hrefusal]
  | levelParity =>
    rw [Requirement.objection]
    split <;> simp
  | alerts =>
    rw [Requirement.objection]
    split <;> simp
  | destination =>
    show Outcome.destination ≠ .success
    decide
  | exitPoint =>
    show Outcome.exitPoint ≠ .success
    decide
  | levelBlock =>
    show Outcome.levelBlock ≠ .success
    decide
  | route =>
    show Outcome.route ≠ .success
    decide

theorem candidate_success_iff (c : Constraint) (d : Departure) :
    (candidate c d d.overall).outcome = .success ↔ Admits c d := by
  constructor
  · intro hsuccess
    by_cases h : Admits c d
    · exact h
    · obtain ⟨q, hq⟩ := (not_admits_iff c d).1 h
      rw [candidate_of_firstUnmet? hq] at hsuccess
      exact absurd hsuccess (objection_ne_success (not_met_of_firstUnmet? hq))
  · intro h
    rw [candidate_of_admits h]

end DepartureRules
