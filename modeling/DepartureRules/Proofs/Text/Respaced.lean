import Mathlib.Data.List.DropRight
import DepartureRules.Proofs.Text.Words

/-!
# Texts that differ in their blanks

A text is respaced when runs of blanks in it are replaced by other runs of blanks. Nothing that looks past the lengths
of such runs tells the two texts apart.

* `trim_append_of_blank`, `trim_eq_self_iff`: what trimming takes away, and which texts it leaves as they are;
* `Respaced p`: the runs that are replaced have a member with `p`;
* `Respaced.trim`, `Respaced.takeWhile_visible` and `Respaced.dropWhile_visible`: the texts stay respaced when they are
  cut at blanks;
* `Respaced.words_eq`: respaced texts have the same words.
-/

namespace DepartureRules.Text
set_option autoImplicit false

/-- A property of the characters of a text is decided along the text, not over all characters. -/
instance decidableForallMem (p : Char → Prop) [DecidablePred p] (s : List Char) : Decidable (∀ c ∈ s, p c) :=
  List.decidableBAll p s

/-! ## Trimming -/

section
variable {α : Type} {p : α → Bool}

/-- The library's name for it, with the library's lemmas. -/
theorem dropTrailing_eq (p : α → Bool) (l : List α) : dropTrailing p l = l.rdropWhile p := rfl

theorem dropTrailing_append_cons {a : α} (ha : p a = false) (l rest : List α) :
    dropTrailing p (l ++ a :: rest) = l ++ a :: dropTrailing p rest := by
  induction rest using List.reverseRecOn with
  | nil => rw [dropTrailing_concat, ha, dropTrailing_nil, if_neg Bool.false_ne_true]
  | append_singleton rest b ih =>
    rw [← List.cons_append, ← List.append_assoc, dropTrailing_concat, dropTrailing_concat, ih]
    split
    · rfl
    · rw [List.append_assoc, List.cons_append]

theorem dropTrailing_append_of_forall {rest : List α} (h : ∀ a ∈ rest, p a = true) (l : List α) :
    dropTrailing p (l ++ rest) = dropTrailing p l := by
  induction rest using List.reverseRecOn with
  | nil => rw [List.append_nil]
  | append_singleton rest b ih =>
    rw [List.forall_mem_append, List.forall_mem_singleton] at h
    rw [← List.append_assoc, dropTrailing_concat, if_pos h.2, ih h.1]

end

/-- Behind a visible character only the end of a text is trimmed. -/
theorem trim_append_cons {front : List Char} {c : Char} (hfront : ∀ d ∈ front.head?, isBlank d = false)
    (hc : isBlank c = false) (rest : List Char) :
    trim (front ++ c :: rest) = front ++ c :: dropTrailing isBlank rest := by
  have hdrop : (front ++ c :: rest).dropWhile isBlank = front ++ c :: rest := by
    cases front with
    | nil => exact List.dropWhile_cons_of_neg (by simp [hc])
    | cons d front => exact List.dropWhile_cons_of_neg (by simp [hfront d rfl])
  rw [trim, hdrop, dropTrailing_append_cons hc]

theorem trim_append_of_visible {front : List Char} (hne : front ≠ []) (hfront : ∀ c ∈ front, isBlank c = false)
    (rest : List Char) : trim (front ++ rest) = front ++ dropTrailing isBlank rest := by
  obtain ⟨init, last, rfl⟩ := (List.eq_nil_or_concat' front).resolve_left hne
  rw [List.forall_mem_append, List.forall_mem_singleton] at hfront
  rw [List.append_assoc, List.singleton_append, List.append_assoc, List.singleton_append]
  exact trim_append_cons (fun d hd => hfront.1 d (List.mem_of_mem_head? hd)) hfront.2 rest

theorem trim_append_of_blank {front back : List Char} (hfront : ∀ c ∈ front, isBlank c = true)
    (hback : ∀ c ∈ back, isBlank c = true) (s : List Char) : trim (front ++ s ++ back) = trim s := by
  rw [List.append_assoc, trim, List.dropWhile_append_of_pos hfront]
  by_cases hs : ∀ c ∈ s, isBlank c = true
  · rw [trim, List.dropWhile_eq_nil_iff.2 hs, List.dropWhile_eq_nil_iff.2 (List.forall_mem_append.2 ⟨hs, hback⟩)]
  · have hne : s.dropWhile isBlank ≠ [] := fun h => hs (List.dropWhile_eq_nil_iff.1 h)
    rw [List.dropWhile_append, if_neg (by simpa using hne), dropTrailing_append_of_forall hback, trim]

/-- A text is its trimmed form with blanks around it. -/
theorem exists_append_trim (s : List Char) :
    ∃ front back, (∀ c ∈ front, isBlank c = true) ∧ (∀ c ∈ back, isBlank c = true) ∧
      s = front ++ trim s ++ back := by
  refine ⟨s.takeWhile isBlank, (s.dropWhile isBlank).rtakeWhile isBlank, fun c hc => List.mem_takeWhile_imp hc,
    fun c hc => List.mem_rtakeWhile_imp hc, ?_⟩
  rw [List.append_assoc, trim, dropTrailing_eq, List.rdropWhile_append_rtakeWhile, List.takeWhile_append_dropWhile]

theorem forall_isBlank_of_trim_eq_nil {s : List Char} (h : trim s = []) : ∀ c ∈ s, isBlank c = true := by
  obtain ⟨front, back, hfront, hback, hs⟩ := exists_append_trim s
  rw [h, List.append_nil] at hs
  rw [hs]
  exact List.forall_mem_append.2 ⟨hfront, hback⟩

theorem trim_trim (s : List Char) : trim (trim s) = trim s := by
  obtain ⟨front, back, hfront, hback, hs⟩ := exists_append_trim s
  have h := trim_append_of_blank hfront hback (trim s)
  rw [← hs] at h
  exact h.symm

theorem isBlank_of_mem_head_dropWhile {s : List Char} {c : Char} (h : c ∈ (s.dropWhile isBlank).head?) :
    isBlank c = false := by
  have hhead := List.head?_dropWhile_not isBlank s
  rw [Option.mem_def.1 h] at hhead
  simpa using hhead

theorem isBlank_of_mem_head_trim {s : List Char} {c : Char} (h : c ∈ (trim s).head?) : isBlank c = false := by
  obtain ⟨rest, hrest⟩ := List.rdropWhile_prefix isBlank (s.dropWhile isBlank)
  refine isBlank_of_mem_head_dropWhile (s := s) ?_
  rw [← hrest, List.head?_append, ← dropTrailing_eq, ← trim, Option.mem_def.1 h]
  rfl

theorem isBlank_of_mem_getLast_trim {s : List Char} {c : Char} (h : c ∈ (trim s).getLast?) : isBlank c = false := by
  rw [trim, dropTrailing, List.getLast?_reverse] at h
  exact isBlank_of_mem_head_dropWhile h

/-- Trimming leaves a text as it is that neither begins nor ends with a blank. -/
theorem trim_eq_self_iff {s : List Char} :
    trim s = s ↔ (∀ c ∈ s.head?, isBlank c = false) ∧ ∀ c ∈ s.getLast?, isBlank c = false := by
  have hdrop : ∀ l : List Char, (∀ c ∈ l.head?, isBlank c = false) → l.dropWhile isBlank = l := by
    intro l hl
    cases l with
    | nil => rfl
    | cons c l => exact List.dropWhile_cons_of_neg (by simp [hl c rfl])
  constructor
  · intro h
    rw [← h]
    exact ⟨fun c hc => isBlank_of_mem_head_trim hc, fun c hc => isBlank_of_mem_getLast_trim hc⟩
  · rintro ⟨hhead, hlast⟩
    rw [trim, hdrop s hhead, dropTrailing, hdrop s.reverse (by rwa [List.head?_reverse]), List.reverse_reverse]

/-! ## Respaced texts -/

section
variable {gap : List Char}

theorem takeWhile_visible_append (ne_nil : gap ≠ []) (blank : ∀ c ∈ gap, isBlank c = true) (s : List Char) :
    (gap ++ s).takeWhile (fun c => !isBlank c) = [] := by
  cases gap with
  | nil => exact absurd rfl ne_nil
  | cons c gap => simp [blank c List.mem_cons_self]

theorem dropWhile_visible_append (ne_nil : gap ≠ []) (blank : ∀ c ∈ gap, isBlank c = true) (s : List Char) :
    (gap ++ s).dropWhile (fun c => !isBlank c) = gap ++ s := by
  cases gap with
  | nil => exact absurd rfl ne_nil
  | cons c gap => simp [blank c List.mem_cons_self]

/-- A run of blanks parts the words before it from those behind it. -/
theorem words_append_append (ne_nil : gap ≠ []) (blank : ∀ c ∈ gap, isBlank c = true) (s t : List Char) :
    words (s ++ (gap ++ t)) = words s ++ words t := by
  cases gap with
  | nil => exact absurd rfl ne_nil
  | cons c gap =>
    rw [List.forall_mem_cons] at blank
    rw [List.cons_append, words_append_cons blank.1, words_append_of_blank blank.2]

end

theorem words_append_blank {gap : List Char} (blank : ∀ c ∈ gap, isBlank c = true) (s : List Char) :
    words (s ++ gap) = words s := by
  by_cases hgap : gap = []
  · rw [hgap, List.append_nil]
  · rw [← List.append_nil gap, words_append_append hgap blank, words_nil, List.append_nil]

theorem words_trim (s : List Char) : words (trim s) = words s := by
  obtain ⟨front, back, hfront, hback, hs⟩ := exists_append_trim s
  conv_rhs => rw [hs, List.append_assoc, words_append_of_blank hfront, words_append_blank hback]

/-- The second text is the first one with runs of blanks replaced by other runs of blanks. A run that is replaced has
a member with `p`. -/
inductive Respaced (p : Char → Bool) : List Char → List Char → Prop
  | nil : Respaced p [] []
  | keep (c : Char) {s t : List Char} (tail : Respaced p s t) : Respaced p (c :: s) (c :: t)
  | run {gap other s t : List Char} (blank : ∀ c ∈ gap, isBlank c = true) (blank' : ∀ c ∈ other, isBlank c = true)
      (ne_nil' : other ≠ []) (marked : ∃ c ∈ gap, p c = true) (tail : Respaced p s t) :
      Respaced p (gap ++ s) (other ++ t)

namespace Respaced
variable {p : Char → Bool} {s t : List Char}

theorem refl (s : List Char) : Respaced p s s := by
  induction s with
  | nil => exact .nil
  | cons c s ih => exact .keep c ih

theorem append {s' t' : List Char} (h : Respaced p s t) (h' : Respaced p s' t') :
    Respaced p (s ++ s') (t ++ t') := by
  induction h with
  | nil => exact h'
  | keep c _ ih => exact .keep c ih
  | run blank blank' ne_nil' marked _ ih =>
    rw [List.append_assoc, List.append_assoc]
    exact .run blank blank' ne_nil' marked ih

theorem reverse (h : Respaced p s t) : Respaced p s.reverse t.reverse := by
  induction h with
  | nil => exact .nil
  | keep c _ ih =>
    rw [List.reverse_cons, List.reverse_cons]
    exact ih.append (refl [c])
  | @run gap other _ _ blank blank' ne_nil' marked _ ih =>
    rw [List.reverse_append, List.reverse_append]
    have hrun : Respaced p (gap.reverse ++ []) (other.reverse ++ []) :=
      .run (by simpa using blank) (by simpa using blank') (by simpa using ne_nil') (by simpa using marked) .nil
    rw [List.append_nil, List.append_nil] at hrun
    exact ih.append hrun

/-- A text without a member that marks the runs is left as it is. -/
theorem eq_of_forall (h : Respaced p s t) (hs : ∀ c ∈ s, p c = false) : t = s := by
  induction h with
  | nil => rfl
  | keep c _ ih =>
    rw [List.forall_mem_cons] at hs
    rw [ih hs.2]
  | run _ _ _ marked _ _ =>
    obtain ⟨c, hc, hp⟩ := marked
    rw [hs c (List.mem_append_left _ hc)] at hp
    cases hp

/-! ### Beginnings -/

theorem ne_nil_of_marked {gap : List Char} (h : ∃ c ∈ gap, p c = true) : gap ≠ [] := by
  obtain ⟨c, hc, -⟩ := h
  exact List.ne_nil_of_mem hc

theorem eq_nil_iff (h : Respaced p s t) : s = [] ↔ t = [] := by
  cases h with
  | nil => rfl
  | keep => simp
  | run _ _ ne_nil' marked _ => simp [ne_nil', ne_nil_of_marked marked]

/-- A visible character at the head stays there. -/
theorem cons_left {c : Char} (h : Respaced p (c :: s) t) (hc : isBlank c = false) :
    ∃ t', t = c :: t' ∧ Respaced p s t' := by
  generalize hs : c :: s = full at h
  cases h with
  | nil => cases hs
  | keep _ tail =>
    cases hs
    exact ⟨_, rfl, tail⟩
  | @run gap _ _ _ blank _ _ marked _ =>
    obtain ⟨d, hd, -⟩ := marked
    cases gap with
    | nil => cases hd
    | cons d gap =>
      cases hs
      rw [blank c List.mem_cons_self] at hc
      cases hc

theorem append_left {front : List Char} (h : Respaced p (front ++ s) t) (hfront : ∀ c ∈ front, isBlank c = false) :
    ∃ t', t = front ++ t' ∧ Respaced p s t' := by
  induction front generalizing t with
  | nil => exact ⟨t, rfl, h⟩
  | cons c front ih =>
    rw [List.forall_mem_cons] at hfront
    obtain ⟨t, rfl, htail⟩ := h.cons_left hfront.1
    obtain ⟨t', rfl, hrest⟩ := ih htail hfront.2
    exact ⟨t', rfl, hrest⟩

/-! ### Cuts -/

theorem dropWhile_blank (h : Respaced p s t) : Respaced p (s.dropWhile isBlank) (t.dropWhile isBlank) := by
  induction h with
  | nil => exact .nil
  | keep c tail ih =>
    rw [List.dropWhile_cons, List.dropWhile_cons]
    split
    · exact ih
    · exact .keep c tail
  | run blank blank' _ _ _ ih =>
    rw [List.dropWhile_append_of_pos blank, List.dropWhile_append_of_pos blank']
    exact ih

theorem trim (h : Respaced p s t) : Respaced p (trim s) (trim t) :=
  h.dropWhile_blank.reverse.dropWhile_blank.reverse

theorem takeWhile_visible (h : Respaced p s t) :
    t.takeWhile (fun c => !isBlank c) = s.takeWhile fun c => !isBlank c := by
  induction h with
  | nil => rfl
  | keep c _ ih => rw [List.takeWhile_cons, List.takeWhile_cons, ih]
  | run blank blank' ne_nil' marked _ _ =>
    rw [takeWhile_visible_append (ne_nil_of_marked marked) blank, takeWhile_visible_append ne_nil' blank']

theorem dropWhile_visible (h : Respaced p s t) :
    Respaced p (s.dropWhile fun c => !isBlank c) (t.dropWhile fun c => !isBlank c) := by
  induction h with
  | nil => exact .nil
  | keep c tail ih =>
    rw [List.dropWhile_cons, List.dropWhile_cons]
    split
    · exact ih
    · exact .keep c tail
  | run blank blank' ne_nil' marked tail _ =>
    rw [dropWhile_visible_append (ne_nil_of_marked marked) blank, dropWhile_visible_append ne_nil' blank']
    exact .run blank blank' ne_nil' marked tail

/-- Respaced texts have the same words. -/
theorem words_eq (h : Respaced p s t) : words t = words s := by
  -- the induction passes what it has read to the text in front
  suffices ∀ front, words (front ++ t) = words (front ++ s) from this []
  induction h with
  | nil => exact fun front => rfl
  | @keep c s t _ ih =>
    intro front
    rw [List.append_cons, List.append_cons front c s]
    exact ih (front ++ [c])
  | run blank blank' ne_nil' marked _ ih =>
    intro front
    rw [words_append_append (ne_nil_of_marked marked) blank, words_append_append ne_nil' blank']
    exact congrArg (words front ++ ·) (ih [])

end Respaced

end DepartureRules.Text
