import DepartureRules.Selection.Checks

/-!
# What clauses and alerts come to

What a list of restrictions and a list of alerts mean for a departure, and the notes on them, said without the
functions that look for the deciding entry.

* `Restriction.Applies` and `Restriction.Decides`: a clause decides when it applies and none before it does;
* `Permits` and `Bans`: the list is empty or its deciding clause is no ban, or it is one. `refusal` is what a list leads
  to that does not permit a departure;
* `alternativesIn` is the note on the departures that a list names instead, and `alarms` are the notes on alerts, up to
  the first ban.

`verdict_of_permits` and `verdict_of_not_permits` say that the verdict on a list is this one.
-/

namespace DepartureRules
set_option autoImplicit false

/-! ## The deciding clause -/

/-- The window of the clause is open, and it is a clause for this suffix and for one of the two type codes. A clause
that names no suffixes or no types is one for all of them. -/
structure Restriction.Applies (r : Restriction) (c : Circumstances) : Prop where
  window : ∀ start ∈ r.start, ∀ finish ∈ r.finish, Window.contains start finish c.now = true
  suffix : r.suffixes = [] ∨ ∃ ending ∈ r.suffixes, ending.toList <:+ c.suffix.toList
  type : r.types = [] ∨ ∃ code ∈ r.types, code = c.engineType.toString ∨ code = c.aircraftType.toString

/-- The clause applies, and none before it in the list does. -/
def Restriction.Decides (r : Restriction) (restrictions : List Restriction) (c : Circumstances) : Prop :=
  ∃ before after, restrictions = before ++ r :: after ∧ r.Applies c ∧ ∀ b ∈ before, ¬b.Applies c

/-- There are no restrictions, or the deciding one is no ban. -/
def Permits (restrictions : List Restriction) (c : Circumstances) : Prop :=
  restrictions = [] ∨ ∃ r : Restriction, r.Decides restrictions c ∧ r.banned = false

/-- The deciding restriction is a ban. -/
def Bans (restrictions : List Restriction) (c : Circumstances) : Prop :=
  ∃ r : Restriction, r.Decides restrictions c ∧ r.banned = true

theorem applies_iff {r : Restriction} {c : Circumstances} : r.applies c = true ↔ r.Applies c := by
  have hwindow : r.windowOpen c.now = true ↔
      ∀ start ∈ r.start, ∀ finish ∈ r.finish, Window.contains start finish c.now = true := by
    unfold Restriction.windowOpen
    cases r.start <;> cases r.finish <;> simp
  have hsuffix : r.suffixAdmitted c.suffix = true ↔
      r.suffixes = [] ∨ ∃ ending ∈ r.suffixes, ending.toList <:+ c.suffix.toList := by
    simp [Restriction.suffixAdmitted, endsIn]
  have htype : r.typeAdmitted c.engineType c.aircraftType = true ↔
      r.types = [] ∨ ∃ code ∈ r.types, code = c.engineType.toString ∨ code = c.aircraftType.toString := by
    simp [Restriction.typeAdmitted]
  rw [Restriction.applies, Bool.and_eq_true, Bool.and_eq_true, hwindow, hsuffix, htype]
  exact ⟨fun ⟨⟨window, suffix⟩, type⟩ => ⟨window, suffix, type⟩, fun h => ⟨⟨h.window, h.suffix⟩, h.type⟩⟩

section
variable {restrictions : List Restriction} {c : Circumstances} {r : Restriction}

theorem find?_eq_some_iff_decides :
    (restrictions.find? fun r => r.applies c) = some r ↔ r.Decides restrictions c := by
  simp only [List.find?_eq_some_iff_append, Restriction.Decides, ← applies_iff, Bool.not_eq_true', Bool.not_eq_true]
  exact ⟨fun ⟨happlies, before, after, hsplit, hbefore⟩ => ⟨before, after, hsplit, happlies, hbefore⟩,
    fun ⟨before, after, hsplit, happlies, hbefore⟩ => ⟨happlies, before, after, hsplit, hbefore⟩⟩

theorem exists_decides_iff {P : Restriction → Prop} :
    (∃ r : Restriction, r.Decides restrictions c ∧ P r) ↔ ∃ r ∈ restrictions.find? (fun r => r.applies c), P r := by
  simp only [Option.mem_def, find?_eq_some_iff_decides]

instance (restrictions : List Restriction) (c : Circumstances) : Decidable (Permits restrictions c) :=
  decidable_of_iff (restrictions = [] ∨ ∃ r ∈ restrictions.find? (Restriction.applies · c), r.banned = false)
    (or_congr_right exists_decides_iff.symm)

instance (restrictions : List Restriction) (c : Circumstances) : Decidable (Bans restrictions c) :=
  decidable_of_iff (∃ r ∈ restrictions.find? (Restriction.applies · c), r.banned = true) exists_decides_iff.symm

/-! ## Verdicts -/

/-- What restrictions lead to that do not permit a departure. -/
def refusal (restrictions : List Restriction) (c : Circumstances) : Rejection :=
  if Bans restrictions c then ⟨.conditionBan, ["banned condition matches"]⟩
  else ⟨.conditionFail, ["no conditions match"]⟩

theorem refusal_outcome (restrictions : List Restriction) (c : Circumstances) :
    (refusal restrictions c).outcome = .conditionBan ∨ (refusal restrictions c).outcome = .conditionFail := by
  unfold refusal
  split
  · exact .inl rfl
  · exact .inr rfl

theorem verdict_of_permits (h : Permits restrictions c) :
    (verdict restrictions c).passed = true ∧ (verdict restrictions c).note = none ∧
      ((verdict restrictions c).clearsSid = true ↔
        ∃ r : Restriction, r.Decides restrictions c ∧ r.clearsSid = true) := by
  rw [exists_decides_iff]
  rcases h with rfl | ⟨r, hdecides, hadmits⟩
  · exact ⟨rfl, rfl, by simp [verdict]⟩
  · have hfind := find?_eq_some_iff_decides.2 hdecides
    have hsome : restrictions.isEmpty = false := by
      cases restrictions with
      | nil => cases hfind
      | cons => rfl
    have hverdict : verdict restrictions c = ⟨.success, r.clearsSid, none⟩ := by
      simp [verdict, hsome, hfind, hadmits]
    rw [hverdict, hfind]
    exact ⟨rfl, rfl, by simp⟩

theorem verdict_of_not_permits (h : ¬Permits restrictions c) :
    (verdict restrictions c).passed = false ∧ (verdict restrictions c).outcome = (refusal restrictions c).outcome ∧
      (verdict restrictions c).note.toList = (refusal restrictions c).notes := by
  have hsome : restrictions.isEmpty = false := by
    rw [List.isEmpty_eq_false_iff]
    exact fun hnil => h (.inl hnil)
  cases hfind : restrictions.find? fun r => r.applies c with
  | none =>
    have hnot : ¬Bans restrictions c := by
      rw [Bans, exists_decides_iff, hfind]
      exact nofun
    simp [verdict, hsome, hfind, refusal, hnot, Verdict.passed]
  | some r =>
    have hdecides := find?_eq_some_iff_decides.1 hfind
    have hban : r.banned = true := by
      rw [← Bool.not_eq_false]
      exact fun hadmits => h (.inr ⟨r, hdecides, hadmits⟩)
    have hbans : Bans restrictions c := ⟨r, hdecides, hban⟩
    simp [verdict, hsome, hfind, refusal, hbans, hban, Verdict.passed]

end

/-! ## Notes -/

/-- The note on the departures that restrictions name instead, if they name any. -/
def alternativesIn (restrictions : List Restriction) : List String :=
  match restrictions.flatMap Restriction.alternatives with
  | [] => []
  | first :: others => ["alternatives exist (" ++ ", ".intercalate (first :: others) ++ ")"]

theorem suggestions_eq (restrictions : List Restriction) :
    (suggestions restrictions).toList = alternativesIn restrictions := by
  unfold suggestions alternativesIn
  cases restrictions.flatMap Restriction.alternatives <;> rfl

/-- A message, with the note of an alert if it has one. -/
def Alert.comment (alert : Alert) (message : String) : String :=
  match alert.note with
  | none => message
  | some note => message ++ ": " ++ note

/-- The notes on alerts: one for each warning in front of the first ban, and one for this ban. -/
def alarms : List Alert → List String
  | [] => []
  | alert :: alerts =>
    if alert.ban = true then [alert.comment "candidate is banned"]
    else if alert.warn = true then alert.comment "candidate contains warning" :: alarms alerts
    else alarms alerts

theorem withNote_eq (alert : Alert) (message : String) : withNote message alert.note = alert.comment message := by
  unfold withNote Alert.comment
  cases alert.note <;> rfl

theorem alarms_eq (alerts : List Alert) :
    alarms alerts = warningNotes alerts ++
      ((alerts.find? fun alert => alert.ban).map fun alert => withNote "candidate is banned" alert.note).toList := by
  induction alerts with
  | nil => rfl
  | cons alert alerts ih =>
    unfold warningNotes at ih ⊢
    rw [alarms, List.takeWhile_cons, List.find?_cons]
    by_cases hban : alert.ban = true
    · simp [hban, withNote_eq]
    · by_cases hwarn : alert.warn = true
      · simp [hban, hwarn, withNote_eq, ih]
      · simp [hban, hwarn, withNote_eq, ih]

end DepartureRules
