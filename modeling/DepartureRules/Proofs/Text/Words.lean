import DepartureRules.Text.Blank
import DepartureRules.Text.DecimalDigit
import DepartureRules.Text.Uppercase

/-!
# Words of a text

How words are found again in a text that they are written in.

* `Spaced` relates words to the texts that hold them with blanks between and around them, and
  `words_of_spaced` finds the words in such a text;
* `flatten_words`: the words of a text hold its visible characters and no others;
* `mem_joinWith` and `forall_mem_joinWith`: the characters of pieces that are written one after another;
* `upperChars_ascii_eq` and `upperChars_of_isDecimalDigit`: the uppercase of ASCII is its own, and digits have
  none;
* `mem_upper_iff_of_isDecimalDigit`: digits outside ASCII are in the uppercase form of a text if they are in the text;
* `isBlank_eq_false_of_isDecimalDigit`: no digit is a blank.
-/

namespace DepartureRules.Text
set_option autoImplicit false

/-! ## Texts of words -/

/-- The text holds the words in order, with any blanks around them and at least one between two of them. -/
inductive Spaced : List (List Char) → List Char → Prop
  | blanks {gap : List Char} (blank : ∀ c ∈ gap, isBlank c = true) : Spaced [] gap
  | word {gap word rest : List Char} {words : List (List Char)} (blank : ∀ c ∈ gap, isBlank c = true)
      (apart : ∀ c ∈ rest.head?, isBlank c = true) (tail : Spaced words rest) :
      Spaced (word :: words) (gap ++ (word ++ rest))

theorem Spaced.word_of_all {gap word rest : List Char} {words : List (List Char)} (blank : gap.all isBlank = true)
    (apart : rest.head?.all isBlank = true) (tail : Spaced words rest) :
    Spaced (word :: words) (gap ++ (word ++ rest)) := by
  refine .word (List.all_eq_true.1 blank) (fun c hc => ?_) tail
  rw [Option.mem_def.1 hc] at apart
  exact apart

theorem splitWhere_append_cons {α : Type} {p : α → Bool} {a : α} (ha : p a = true) (l rest : List α) :
    splitWhere p (l ++ a :: rest) = splitWhere p l ++ splitWhere p rest := by
  induction l with
  | nil => simp [splitWhere, ha]
  | cons b l ih =>
    simp only [List.cons_append, splitWhere, ih]
    cases hb : p b with
    | true => rfl
    | false =>
      cases hl : splitWhere p l with
      | nil => exact absurd hl (splitWhere_ne_nil p l)
      | cons piece pieces => rfl

theorem splitWhere_of_forall {α : Type} {p : α → Bool} {l : List α} (h : ∀ a ∈ l, p a = false) :
    splitWhere p l = [l] := by
  induction l with
  | nil => rfl
  | cons a l ih =>
    rw [List.forall_mem_cons] at h
    simp [splitWhere, h.1, ih h.2]

/-- A blank parts the words before it from those behind it. -/
theorem words_append_cons {c : Char} (hc : isBlank c = true) (s t : List Char) :
    words (s ++ c :: t) = words s ++ words t := by
  rw [words, splitWhere_append_cons hc, List.filter_append]
  rfl

theorem words_cons {c : Char} (hc : isBlank c = true) (s : List Char) : words (c :: s) = words s :=
  words_append_cons hc [] s

theorem words_append_of_blank {gap : List Char} (h : ∀ c ∈ gap, isBlank c = true) (s : List Char) :
    words (gap ++ s) = words s := by
  induction gap with
  | nil => rfl
  | cons c gap ih =>
    rw [List.forall_mem_cons] at h
    rw [List.cons_append, words_cons h.1, ih h.2]

theorem words_of_visible {word : List Char} (hne : word ≠ []) (h : ∀ c ∈ word, isBlank c = false) :
    words word = [word] := by
  rw [words, splitWhere_of_forall h]
  simp [hne]

theorem words_of_spaced {ws : List (List Char)} {text : List Char} (h : Spaced ws text)
    (hws : ∀ word ∈ ws, word ≠ [] ∧ ∀ c ∈ word, isBlank c = false) : words text = ws := by
  induction h with
  | @blanks gap blank => simpa [words_nil] using words_append_of_blank blank []
  | @word gap word rest ws blank apart tail ih =>
    rw [List.forall_mem_cons] at hws
    have hword := words_of_visible hws.1.1 hws.1.2
    have hrest := ih hws.2
    rw [words_append_of_blank blank]
    cases rest with
    | nil => rw [List.append_nil, hword, ← hrest, words_nil]
    | cons c rest =>
      have hc := apart c rfl
      rw [words_append_cons hc, hword, ← hrest, words_cons hc]
      rfl

/-- Words that are written with a blank between two of them are found again. -/
theorem words_joinWith {ws : List (List Char)} (h : ∀ word ∈ ws, word ≠ [] ∧ ∀ c ∈ word, isBlank c = false) :
    words (joinWith [' '] ws) = ws := by
  induction ws with
  | nil => rfl
  | cons word ws ih =>
    rw [List.forall_mem_cons] at h
    have hword := words_of_visible h.1.1 h.1.2
    by_cases hnil : ws = []
    · rw [hnil]
      exact hword
    · rw [joinWith_cons _ _ hnil, List.append_assoc, List.singleton_append, words_append_cons (by decide), hword,
        ih h.2]
      rfl

theorem words_joinWith_words (s : List Char) : words (joinWith [' '] (words s)) = words s :=
  words_joinWith fun _ hword => ⟨ne_nil_of_mem_words hword, fun _ hc => isBlank_eq_false_of_mem_words hword hc⟩

/-! ## Characters of words -/

theorem flatten_splitWhere {α : Type} (p : α → Bool) (l : List α) :
    (splitWhere p l).flatten = l.filter fun a => !p a := by
  induction l with
  | nil => rfl
  | cons a l ih =>
    cases ha : p a with
    | true => simpa [splitWhere, ha] using ih
    | false =>
      cases hl : splitWhere p l with
      | nil => exact absurd hl (splitWhere_ne_nil p l)
      | cons piece pieces =>
        rw [hl] at ih
        simpa [splitWhere, ha, hl] using ih

/-- The words of a text hold its visible characters, in order. -/
theorem flatten_words (s : List Char) : (words s).flatten = s.filter fun c => !isBlank c := by
  rw [words, List.flatten_filter_not_isEmpty, flatten_splitWhere]

theorem exists_mem_words_iff {s : List Char} {c : Char} :
    (∃ word ∈ words s, c ∈ word) ↔ c ∈ s ∧ isBlank c = false := by
  rw [← List.mem_flatten, flatten_words, List.mem_filter, Bool.not_eq_true']

/-! ## Joined pieces -/

section
variable {separator : List Char} {pieces : List (List Char)}

theorem joinWith_concat (separator : Char) (h : pieces ≠ []) (last : List Char) :
    joinWith [separator] (pieces ++ [last]) = joinWith [separator] pieces ++ separator :: last := by
  induction pieces with
  | nil => exact absurd rfl h
  | cons piece pieces ih =>
    cases pieces with
    | nil => simp [joinWith]
    | cons next pieces =>
      have hrest := ih (List.cons_ne_nil _ _)
      rw [List.cons_append, joinWith_cons _ _ (by simp), hrest, joinWith_cons _ _ (List.cons_ne_nil _ _)]
      simp only [List.append_assoc]

theorem joinWith_ne_nil {piece : List Char} (h : piece ≠ []) (pieces : List (List Char)) :
    joinWith separator (piece :: pieces) ≠ [] := by
  cases pieces <;> simp [joinWith, h]

theorem mem_joinWith {piece : List Char} {c : Char} (hpiece : piece ∈ pieces) (hc : c ∈ piece) :
    c ∈ joinWith separator pieces := by
  induction pieces with
  | nil => cases hpiece
  | cons first pieces ih =>
    by_cases hpieces : pieces = []
    · subst hpieces
      rwa [List.mem_singleton.1 hpiece] at hc
    · rw [joinWith_cons _ _ hpieces, List.append_assoc]
      rcases List.mem_cons.1 hpiece with rfl | hrest
      · exact List.mem_append_left _ hc
      · exact List.mem_append_right _ (List.mem_append_right _ (ih hrest))

theorem forall_mem_joinWith {P : Char → Prop} (hseparator : ∀ c ∈ separator, P c)
    (h : ∀ piece ∈ pieces, ∀ c ∈ piece, P c) : ∀ c ∈ joinWith separator pieces, P c := by
  induction pieces with
  | nil => exact List.forall_mem_nil _
  | cons piece pieces ih =>
    rw [List.forall_mem_cons] at h
    by_cases hpieces : pieces = []
    · subst hpieces
      exact h.1
    · rw [joinWith_cons _ _ hpieces, List.forall_mem_append, List.forall_mem_append]
      exact ⟨⟨h.1, hseparator⟩, ih h.2⟩

end

/-! ## Letter case -/

/-- On ASCII the uppercase form is that of the standard library. -/
theorem upperChars_ascii_eq {c : Char} (ascii : c.toNat < 128) : upperChars c = [c.toUpper] := by
  have hall : ∀ n, n < 128 → upperChars (Char.ofNat n) = [(Char.ofNat n).toUpper] := by decide +kernel
  have hc := hall c.toNat ascii
  rwa [Char.ofNat_toNat] at hc

theorem toUpper_beyond_ascii {c : Char} (h : 128 ≤ c.toNat) : c.toUpper = c := by
  refine dif_neg fun hlower => ?_
  have hle : c.toNat ≤ 'z'.toNat := UInt32.le_iff_toNat_le.1 hlower.2
  have hz : 'z'.toNat = 122 := rfl
  omega

/-- Stretches of code points that hold the characters in the tables of uppercase forms, and the forms. -/
def casedStretches : List (Nat × Nat) := [
  (0x41, 0x587), (0x10A0, 0x13FD), (0x1C80, 0x2D2D), (0xA640, 0xA7F6), (0xAB53, 0xABBF), (0xFB00, 0xFB17),
  (0xFF21, 0x1044F), (0x104B0, 0x10CF2), (0x10D50, 0x10D85), (0x118A0, 0x118DF), (0x16E40, 0x16E7F),
  (0x1E900, 0x1E943)]

/-- The code points between the two are in one of the stretches. -/
def isCased (low high : Nat) : Bool :=
  casedStretches.any fun stretch => Nat.ble stretch.1 low && Nat.ble high stretch.2

theorem isCased_expansions : ∀ entry ∈ caseExpansions,
    isCased entry.1 entry.1 = true ∧ ∀ n ∈ entry.2, isCased n n = true := by
  decide +kernel

theorem isCased_runs : ∀ run ∈ caseRuns, isCased run.first run.last = true ∧
    isCased (run.first + run.shift).toNat (run.last + run.shift).toNat = true := by
  decide +kernel

/-- No digit outside ASCII is in one of the stretches. -/
theorem apart_of_isCased {low high z : Nat} (h : isCased low high = true) (hz : z ∈ decimalZeros) :
    high < z ∨ z + 9 < low := by
  have hapart : ∀ stretch ∈ casedStretches, ∀ z ∈ decimalZeros, stretch.2 < z ∨ z + 9 < stretch.1 := by decide +kernel
  obtain ⟨stretch, hstretch, hin⟩ := List.any_eq_true.1 h
  rw [Bool.and_eq_true, Nat.ble_eq, Nat.ble_eq] at hin
  have := hapart stretch hstretch z hz
  omega

theorem decimalZeros_visible : ∀ z ∈ decimalZeros,
    (0xA0 < z ∧ z + 9 < 0x1680) ∨ (0x1680 < z ∧ z + 9 < 0x2000) ∨ 0x3000 < z := by
  decide

theorem exists_decimalZero {c : Char} (h : isDecimalDigit c = true) (beyond : 128 ≤ c.toNat) :
    ∃ z ∈ decimalZeros, z ≤ c.toNat ∧ c.toNat ≤ z + 9 := by
  have hnine : '9'.toNat = 57 := rfl
  simp only [isDecimalDigit, isAsciiDigit, Bool.or_eq_true, Bool.and_eq_true, decide_eq_true_eq,
    List.any_eq_true] at h
  rcases h with ⟨-, hle⟩ | ⟨-, h⟩
  · omega
  · exact h

/-- A digit is its own uppercase form. -/
theorem upperChars_of_isDecimalDigit {c : Char} (h : isDecimalDigit c = true) (beyond : 128 ≤ c.toNat) :
    upperChars c = [c] := by
  obtain ⟨z, hz, hlow, hhigh⟩ := exists_decimalZero h beyond
  have hnone : (caseExpansions.find? fun entry => entry.1 == c.toNat) = none := by
    refine List.find?_eq_none.2 fun entry hentry => ?_
    have := apart_of_isCased (isCased_expansions entry hentry).1 hz
    rw [beq_iff_eq]
    omega
  have hnone' : (caseRuns.find? fun run => run.holds c.toNat) = none := by
    refine List.find?_eq_none.2 fun run hrun => ?_
    have := apart_of_isCased (isCased_runs run hrun).1 hz
    simp only [CaseRun.holds, Bool.and_eq_true, decide_eq_true_eq]
    omega
  have hlower : isLowerLetter c = false := by
    have ha : 'z'.toNat = 122 := rfl
    simp only [isLowerLetter, Bool.and_eq_false_iff, decide_eq_false_iff_not]
    omega
  rw [upperChars, if_neg (by simp [hlower]), if_neg (by omega), upperBeyondAscii, hnone, hnone']

/-- A code point stands for the character that has it, or for none and then for the character with the point zero. -/
theorem toNat_ofNat_cases (n : Nat) : (Char.ofNat n).toNat = n ∨ (Char.ofNat n).toNat = 0 := by
  by_cases h : n.isValidChar
  · exact .inl (by rw [Char.ofNat, dif_pos h]; rfl)
  · exact .inr (by rw [Char.ofNat, dif_neg h]; rfl)

/-- A digit outside ASCII is in no uppercase form but its own. -/
theorem eq_of_mem_upperChars {c d : Char} (h : d ∈ upperChars c) (digit : isDecimalDigit d = true)
    (beyond : 128 ≤ d.toNat) : d = c := by
  obtain ⟨z, hz, hlow, hhigh⟩ := exists_decimalZero digit beyond
  unfold upperChars upperBeyondAscii at h
  split at h
  · rename_i hlower
    have hle : c.toNat ≤ 'z'.toNat := of_decide_eq_true (Bool.and_eq_true_iff.1 hlower).2
    have hz : 'z'.toNat = 122 := rfl
    rw [List.mem_singleton.1 h] at beyond
    rcases toNat_ofNat_cases (c.toNat - 32) with hn | hn <;> omega
  · split at h
    · exact List.mem_singleton.1 h
    · split at h
      · rename_i entry hentry
        obtain ⟨n, hmem, rfl⟩ := List.mem_map.1 h
        have := apart_of_isCased ((isCased_expansions entry (List.mem_of_find?_eq_some hentry)).2 n hmem) hz
        rcases toNat_ofNat_cases n with hn | hn <;> omega
      · split at h
        · rename_i run hrun
          have hout := apart_of_isCased (isCased_runs run (List.mem_of_find?_eq_some hrun)).2 hz
          have hholds := List.find?_some hrun
          simp only [CaseRun.holds, Bool.and_eq_true, decide_eq_true_eq] at hholds
          rw [List.mem_singleton.1 h] at hlow hhigh beyond
          rcases toNat_ofNat_cases (c.toNat + run.shift).toNat with hn | hn <;> omega
        · exact List.mem_singleton.1 h

theorem mem_upper_iff_of_isDecimalDigit {s : List Char} {d : Char} (digit : isDecimalDigit d = true)
    (beyond : 128 ≤ d.toNat) : d ∈ upper s ↔ d ∈ s := by
  rw [upper, List.mem_flatMap]
  constructor
  · rintro ⟨c, hc, hd⟩
    rwa [eq_of_mem_upperChars hd digit beyond]
  · intro hd
    exact ⟨d, hd, by rw [upperChars_of_isDecimalDigit digit beyond]; exact List.mem_singleton_self d⟩

theorem isBlank_eq_false_of_isDecimalDigit {c : Char} (h : isDecimalDigit c = true) (beyond : 128 ≤ c.toNat) :
    isBlank c = false := by
  obtain ⟨z, hz, hlow, hhigh⟩ := exists_decimalZero h beyond
  have hvisible := decimalZeros_visible z hz
  simp only [isBlank, Bool.or_eq_false_iff, Bool.and_eq_false_iff, decide_eq_false_iff_not, beq_eq_false_iff_ne]
  omega

end DepartureRules.Text
