import DepartureRules.Proofs.Selection.Choice

/-!
# Warnings and bans

A departure that meets every requirement but the last one is stopped at the alerts of a constraint, by a
warning or by a ban. Both have passed the same number of checks, so the one that is declared first is
reported on.

* `Warned` and `Banned` are the two ways to be stopped there;
* `select_warning_iff` says when the report is a warning, and that it is a ban else;
* `ban_hides_warning` is a departure with a warning that is reported as banned.
-/

namespace DepartureRules
set_option autoImplicit false

/-- The departure meets every requirement but the last one, and the alerts of the constraint warn of it
without a ban. -/
def Warned (c : Constraint) (d : Departure) : Prop :=
  (∀ q, q ≠ Requirement.alerts → q.Met c d) ∧ (∃ alert ∈ c.alerts, alert.warn = true) ∧
    ∀ alert ∈ c.alerts, alert.ban = false

/-- The departure meets every requirement but the last one, and an alert bans the constraint. -/
def Banned (c : Constraint) (d : Departure) : Prop :=
  (∀ q, q ≠ Requirement.alerts → q.Met c d) ∧ ∃ alert ∈ c.alerts, alert.ban = true

instance (c : Constraint) (d : Departure) : Decidable (Warned c d) :=
  decidable_of_iff ((∀ q ∈ Requirement.order, q ≠ .alerts → q.Met c d) ∧
      (∃ alert ∈ c.alerts, alert.warn = true) ∧ ∀ alert ∈ c.alerts, alert.ban = false)
    (and_congr_left' ⟨fun h q => h q (mem_order q), fun h q _ => h q⟩)

/-! ## How far a departure gets -/

theorem length_metFirst {c : Constraint} {d : Departure} {q : Requirement} (h : firstUnmet? c d = some q) :
    (metFirst c d).length = Requirement.order.idxOf q := by
  obtain ⟨hunmet, front, rest, hsplit, hfront⟩ := List.find?_eq_some_iff_append.1 h
  have hmet : ∀ p ∈ front, decide (p.Met c d) = true := by simpa using hfront
  have hq : decide (q.Met c d) = false := by simpa using hunmet
  have hnot : q ∉ front := by
    intro hmem
    rw [hmet q hmem] at hq
    cases hq
  have htake : metFirst c d = front := by
    rw [metFirst, hsplit, List.takeWhile_append_of_pos hmet, List.takeWhile_cons, hq]
    simp
  rw [htake, hsplit, List.idxOf_append, if_neg hnot, List.idxOf_cons_self, Nat.zero_add]

theorem metFirst_eq_take (c : Constraint) (d : Departure) :
    metFirst c d = Requirement.order.take (metFirst c d).length :=
  List.prefix_iff_eq_take.1 (List.takeWhile_prefix _)

theorem idxOf_le_six (q : Requirement) : Requirement.order.idxOf q ≤ 6 := by
  cases q <;> decide

theorem eq_alerts_of_six_le {q : Requirement} (h : 6 ≤ Requirement.order.idxOf q) : q = .alerts := by
  cases q with
  | alerts => rfl
  | _ => exact absurd h (by decide)

/-- Whoever meets all requirements but the last is stopped at the alerts. -/
theorem firstUnmet?_eq_alerts_iff (c : Constraint) (d : Departure) :
    firstUnmet? c d = some .alerts ↔
      (∀ q, q ≠ Requirement.alerts → q.Met c d) ∧ ¬ Requirement.alerts.Met c d := by
  constructor
  · intro h
    refine ⟨fun q hq => ?_, not_met_of_firstUnmet? h⟩
    have hlen : (metFirst c d).length = 6 := length_metFirst h
    have hmem : q ∈ metFirst c d := by
      rw [metFirst_eq_take, hlen]
      cases q with
      | alerts => exact absurd rfl hq
      | _ => decide
    simpa using List.mem_takeWhile_imp hmem
  · rintro ⟨hothers, halerts⟩
    refine List.find?_eq_some_iff_append.2 ⟨by simpa using halerts,
      [.destination, .exitPoint, .restrictions, .levelBlock, .levelParity, .route], [], rfl, ?_⟩
    intro q hq
    have hne : q ≠ .alerts := by
      rintro rfl
      exact absurd hq (by decide)
    simpa using hothers q hne

theorem Warned.firstUnmet? {c : Constraint} {d : Departure} (h : Warned c d) :
    firstUnmet? c d = some .alerts := by
  obtain ⟨hothers, ⟨alert, hmem, hwarn⟩, -⟩ := h
  refine (firstUnmet?_eq_alerts_iff c d).2 ⟨hothers, fun hmet => ?_⟩
  rw [(hmet alert hmem).2] at hwarn
  cases hwarn

theorem Banned.firstUnmet? {c : Constraint} {d : Departure} (h : Banned c d) :
    firstUnmet? c d = some .alerts := by
  obtain ⟨hothers, alert, hmem, hban⟩ := h
  refine (firstUnmet?_eq_alerts_iff c d).2 ⟨hothers, fun hmet => ?_⟩
  rw [(hmet alert hmem).1] at hban
  cases hban

theorem warned_or_banned {c : Constraint} {d : Departure} (h : firstUnmet? c d = some .alerts) :
    Warned c d ∨ Banned c d := by
  obtain ⟨hothers, hunmet⟩ := (firstUnmet?_eq_alerts_iff c d).1 h
  by_cases hban : ∃ alert ∈ c.alerts, alert.ban = true
  · exact .inr ⟨hothers, hban⟩
  · have hnoban : ∀ alert ∈ c.alerts, alert.ban = false := by simpa using hban
    refine .inl ⟨hothers, ?_, hnoban⟩
    by_cases hwarn : ∃ alert ∈ c.alerts, alert.warn = true
    · exact hwarn
    · have hnowarn : ∀ alert ∈ c.alerts, alert.warn = false := by simpa using hwarn
      exact absurd (fun alert hmem => ⟨hnoban alert hmem, hnowarn alert hmem⟩) hunmet

/-! ## What the alerts lead to -/

theorem Warned.objection {c : Constraint} {d : Departure} (h : Warned c d) :
    (Requirement.alerts.objection c d).outcome = .warning := by
  have hnone : ¬∃ alert ∈ c.alerts, alert.ban = true := by simpa using h.2.2
  exact if_neg hnone

theorem Banned.objection {c : Constraint} {d : Departure} (h : Banned c d) :
    (Requirement.alerts.objection c d).outcome = .constraintBan :=
  if_pos h.2

theorem not_banned_of_warned {c : Constraint} {d : Departure} (h : Warned c d) : ¬ Banned c d := by
  rintro ⟨-, alert, hmem, hban⟩
  rw [h.2.2 alert hmem] at hban
  cases hban

/-! ## The first of the two is reported on -/

theorem split_cases {before after before' after' : List Constraint} {c w : Constraint}
    (h : before ++ c :: after = before' ++ w :: after') : c = w ∨ c ∈ before' ∨ w ∈ before := by
  rcases List.append_eq_append_iff.1 h with ⟨l, hl, hr⟩ | ⟨l, hl, hr⟩
  · cases l with
    | nil => exact .inl (List.cons_eq_cons.1 hr).1
    | cons x l =>
      rw [List.cons_append, List.cons_eq_cons] at hr
      refine .inr (.inl ?_)
      rw [hl, hr.1]
      simp
  · cases l with
    | nil => exact .inl (List.cons_eq_cons.1 hr).1.symm
    | cons x l =>
      rw [List.cons_append, List.cons_eq_cons] at hr
      refine .inr (.inr ?_)
      rw [hl, hr.1]
      simp

theorem reported_of_rejected {d : Departure} {before after : List Constraint} {c : Constraint} {q : Requirement}
    (split : d.rules.constraints = before ++ c :: after)
    (earlier : ∀ b ∈ before, (metFirst b d).length < (metFirst c d).length)
    (later : ∀ a ∈ after, (metFirst a d).length ≤ (metFirst c d).length)
    (unmet : firstUnmet? c d = some q) (warned : ∃ w ∈ d.rules.constraints, Warned w d) :
    q = .alerts ∧ ∀ b ∈ before, firstUnmet? b d ≠ some .alerts := by
  have hsix : 6 ≤ (metFirst c d).length := by
    obtain ⟨w, hw, hwarned⟩ := warned
    have hlen : (metFirst w d).length = 6 := length_metFirst hwarned.firstUnmet?
    rw [split, List.mem_append, List.mem_cons] at hw
    rcases hw with hw | rfl | hw
    · have := earlier w hw
      omega
    · omega
    · have := later w hw
      omega
  have hq := length_metFirst unmet
  have halerts : q = .alerts := eq_alerts_of_six_le (by omega)
  refine ⟨halerts, fun b hb hbunmet => ?_⟩
  have hb6 : (metFirst b d).length = 6 := length_metFirst hbunmet
  have hlt := earlier b hb
  have hle := idxOf_le_six q
  omega

/-- A departure that no constraint admits and some constraint warns of is reported with a warning when no
ban is declared before the first warning, and as banned when one is. -/
theorem select_warning_iff {d : Departure} (admitsNone : ∀ c ∈ d.rules.constraints, ¬ Admits c d)
    (warned : ∃ c ∈ d.rules.constraints, Warned c d) :
    ((select d).outcome = .warning ↔ ∃ before w after, d.rules.constraints = before ++ w :: after ∧
        Warned w d ∧ ∀ b ∈ before, ¬ Banned b d) ∧
      ((select d).outcome = .warning ∨ (select d).outcome = .constraintBan) := by
  have hchosen := chosen_select d
  revert hchosen
  generalize select d = report
  intro hchosen
  cases hchosen with
  | admitted split first admits =>
    exact absurd admits (admitsNone _ (split ▸ List.mem_append_cons_self))
  | unconstrained none =>
    obtain ⟨c, hc, -⟩ := warned
    rw [none] at hc
    cases hc
  | @rejected before after c q _ split _ earlier later unmet =>
    obtain ⟨rfl, hbefore⟩ := reported_of_rejected split earlier later unmet warned
    rcases warned_or_banned unmet with hwarned | hbanned
    · have hfirst : ∀ b ∈ before, ¬ Banned b d := fun b hb hban => hbefore b hb hban.firstUnmet?
      exact ⟨iff_of_true hwarned.objection ⟨before, c, after, split, hwarned, hfirst⟩, .inl hwarned.objection⟩
    · refine ⟨iff_of_false ?_ ?_, .inr hbanned.objection⟩
      · dsimp only
        rw [hbanned.objection]
        decide
      · rintro ⟨before', w, after', split', hwarned, hfirst⟩
        rcases split_cases (split.symm.trans split') with rfl | hc | hw
        · exact not_banned_of_warned hwarned hbanned
        · exact hfirst c hc hbanned
        · exact hbefore w hw hwarned.firstUnmet?

/-! ## A ban in front of a warning -/

/-- A departure of which one constraint bans it and another one warns. -/
def stopped (alerts : List Alert) : Departure where
  rules := ⟨alerts.map fun alert => { alerts := [alert] }, []⟩
  fix := "CPT"
  destination := "EGCC"
  points := ["CPT"]
  route := ["CPT"]
  cruiseLevel := 35000
  circumstances := ⟨.unknown, "F", 'J', 'L'⟩

theorem warning_before_ban :
    (∀ c ∈ (stopped [{ warn := true }, { ban := true }]).rules.constraints,
        ¬ Admits c (stopped [{ warn := true }, { ban := true }])) ∧
      (∃ c ∈ (stopped [{ warn := true }, { ban := true }]).rules.constraints,
        Warned c (stopped [{ warn := true }, { ban := true }])) ∧
      (select (stopped [{ warn := true }, { ban := true }])).outcome = .warning :=
  ⟨by decide, by decide,
    (select_warning_iff (by decide) (by decide)).1.2 ⟨[], _, _, rfl, by decide, by simp⟩⟩

/-- A warning does not win against a ban that is declared before it. -/
theorem ban_hides_warning :
    ¬ ∀ d : Departure, (∀ c ∈ d.rules.constraints, ¬ Admits c d) → (∃ c ∈ d.rules.constraints, Warned c d) →
      (select d).outcome = .warning := by
  intro h
  have hwarning := h (stopped [{ ban := true }, { warn := true }]) (by decide) (by decide)
  exact absurd hwarning (by decide)

end DepartureRules
