import DepartureRules.Json.Reader

/-!
# Values that can be read

What holds of every value that a reader can give, whatever the text.

* `Yields item P`: every value that `item` reads satisfies `P`;
* `yields_natural`, `Yields.refine`, `Yields.optional` and `Yields.list`, for the readers of values;
* `yields_record`: a record satisfies what the blank record satisfies and every field preserves, in either of its
  written forms.
-/

namespace DepartureRules.Json
set_option autoImplicit false

/-- Every value that is read satisfies the condition. -/
def Yields {β : Type} (item : Reader β) (P : β → Prop) : Prop :=
  ∀ ⦃s : List Char⦄ ⦃b : β⦄ ⦃rest : List Char⦄, item s = .ok (b, rest) → P b

/-- A field that is read into a draft leaves the condition as it is. -/
def RecordField.Keeps {α : Type} (field : RecordField α) (P : α → Prop) : Prop :=
  ∀ ⦃draft : α⦄, P draft → Yields (field.read draft) P

section
variable {α β γ : Type} {item : Reader β} {P : β → Prop}

theorem yields_true : Yields item fun _ => True :=
  fun _ _ _ _ => trivial

theorem yields_bounded {limit n : Nat} {number : Except Fault (Option Nat × List Char)} {rest : List Char}
    (h : Reader.bounded limit number = .ok (n, rest)) : n ≤ limit := by
  unfold Reader.bounded at h
  split at h
  · cases h
  · cases h
  · split at h
    · rename_i hle
      cases h
      exact hle
    · cases h

theorem yields_natural (limit : Nat) : Yields (Reader.natural limit) (· ≤ limit) := by
  intro s n rest h
  unfold Reader.natural at h
  split at h
  · cases h
  · split at h
    · exact yields_bounded h
    · split at h
      · exact yields_bounded h
      · cases h

theorem yields_refine {accept : β → Option γ} {Q : γ → Prop} (h : ∀ b c, accept b = some c → Q c) :
    Yields (item.refine accept) Q := by
  intro s c rest hread
  unfold Reader.refine at hread
  split at hread
  · cases hread
  · split at hread
    · rename_i haccept
      cases hread
      exact h _ _ haccept
    · cases hread

theorem map_eq_ok {ε : Type} {read : Except ε β} {f : β → γ} {c : γ} :
    read.map f = .ok c ↔ ∃ b, read = .ok b ∧ f b = c := by
  cases read <;> simp [Except.map]

theorem Yields.optional (h : Yields item P) : Yields item.optional fun o => ∀ b ∈ o, P b := by
  intro s o rest hread
  unfold Reader.optional at hread
  split at hread
  · cases hread
  · split at hread
    · obtain ⟨_, -, heq⟩ := map_eq_ok.1 hread
      cases heq
      rintro b hb
      cases hb
    · obtain ⟨_, hitem, heq⟩ := map_eq_ok.1 hread
      cases heq
      rintro b hb
      cases hb
      exact h hitem

theorem Yields.items (h : Yields item P) (fuel : Nat) (first : Bool) :
    Yields (Reader.items item fuel first) fun bs => ∀ b ∈ bs, P b := by
  induction fuel generalizing first with
  | zero => exact nofun
  | succ fuel ih =>
    intro s bs rest hread
    unfold Reader.items at hread
    split at hread
    · cases hread
    · cases hread
      exact nofun
    · split at hread
      · cases hread
      · rename_i hitem
        split at hread
        · cases hread
        · rename_i hitems
          cases hread
          exact List.forall_mem_cons.2 ⟨h hitem, ih false hitems⟩

theorem Yields.list (h : Yields item P) : Yields item.list fun bs => ∀ b ∈ bs, P b := by
  intro s bs rest hread
  unfold Reader.list at hread
  split at hread
  · cases hread
  · split at hread
    · exact h.items _ _ hread
    · cases hread

/-! ## Records -/

variable {fields : List (RecordField α)} {draft : α} {Q : α → Prop}

/-- A field keeps the condition that its values satisfy where they are stored. -/
theorem keeps_cons {name : String} {required : Bool} {put : α → β → α} (h : Yields item P)
    (hput : ∀ draft b, Q draft → P b → Q (put draft b)) (tail : ∀ field ∈ fields, field.Keeps Q) :
    ∀ field ∈ RecordField.of name required item put :: fields, field.Keeps Q := by
  refine List.forall_mem_cons.2 ⟨fun draft hdraft s a rest hread => ?_, tail⟩
  obtain ⟨_, hitem, heq⟩ := map_eq_ok.1 hread
  cases heq
  exact hput _ _ hdraft (h hitem)

theorem yields_entries (hfields : ∀ field ∈ fields, field.Keeps Q) (hdraft : Q draft) (fuel : Nat) (first : Bool)
    (seen : List String) : Yields (Reader.entries fields fuel first seen draft) Q := by
  induction fuel generalizing first seen draft with
  | zero => exact nofun
  | succ fuel ih =>
    intro s a rest hread
    unfold Reader.entries at hread
    split at hread
    · cases hread
    · split at hread
      · cases hread
        exact hdraft
      · cases hread
    · split at hread
      · cases hread
      · split at hread
        · cases hread
        · simp only at hread
          split at hread
          · split at hread
            · cases hread
            · split at hread
              · cases hread
              · exact ih hdraft _ _ hread
          · rename_i field hfield
            split at hread
            · cases hread
            · split at hread
              · cases hread
              · split at hread
                · cases hread
                · rename_i hnext
                  exact ih (hfields field (List.mem_of_find?_eq_some hfield) hdraft hnext) _ _ hread

theorem yields_positions (hfields : ∀ field ∈ fields, field.Keeps Q) (hdraft : Q draft) (first : Bool) :
    Yields (Reader.positions fields first draft) Q := by
  induction fields generalizing first draft with
  | nil =>
    intro s a rest hread
    obtain ⟨_, -, heq⟩ := map_eq_ok.1 hread
    cases heq
    exact hdraft
  | cons field fields ih =>
    rw [List.forall_mem_cons] at hfields
    intro s a rest hread
    unfold Reader.positions at hread
    split at hread
    · cases hread
    · split at hread
      · cases hread
      · cases hread
        exact hdraft
    · split at hread
      · cases hread
      · rename_i hnext
        exact ih hfields.2 (hfields.1 hdraft hnext) _ hread

theorem yields_record (hfields : ∀ field ∈ fields, field.Keeps Q) (hdraft : Q draft) :
    Yields (Reader.record fields draft) Q := by
  intro s a rest hread
  unfold Reader.record at hread
  split at hread
  · cases hread
  · split at hread
    · exact yields_entries hfields hdraft _ _ _ hread
    · split at hread
      · exact yields_positions hfields hdraft _ hread
      · cases hread

theorem yields_document {text : String} {b : β} (h : Yields item P) (hread : Reader.document item text = .ok b) :
    P b := by
  unfold Reader.document at hread
  split at hread
  · cases hread
  · rename_i hitem
    split at hread
    · cases hread
      exact h hitem
    · cases hread

end

end DepartureRules.Json
