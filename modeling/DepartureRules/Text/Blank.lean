/-!
# Blanks, trimming and words

Blanks are the characters with the Unicode property `White_Space`. The module holds:

* `isBlank`, the property;
* `trim`, a text without the blanks at its two ends;
* `splitWhere p`, the pieces between the characters that satisfy `p`, empty pieces included;
* `words`, the non-empty pieces between blanks, and `joinWith`, which writes pieces with a separator.

`joinWith_splitWhere` says that cutting at one character loses nothing but that character.
-/

namespace DepartureRules.Text
set_option autoImplicit false

/-! ## Blanks -/

/-- A character is blank when it has the Unicode property `White_Space`. -/
def isBlank (c : Char) : Bool :=
  let n := c.toNat
  (9 ≤ n && n ≤ 13) || n == 0x20 || n == 0x85 || n == 0xA0 || n == 0x1680 ||
    (0x2000 ≤ n && n ≤ 0x200A) || n == 0x2028 || n == 0x2029 || n == 0x202F || n == 0x205F ||
    n == 0x3000

/-- No visible ASCII character is a blank. -/
theorem isBlank_eq_false_of_visible {c : Char} (lo : 0x21 ≤ c.toNat) (hi : c.toNat ≤ 0x7E) :
    isBlank c = false := by
  simp only [isBlank, Bool.or_eq_false_iff, Bool.and_eq_false_iff, decide_eq_false_iff_not,
    beq_eq_false_iff_ne]
  omega

/-! ## Trimming -/

/-- A list without the members at its end that satisfy `p`. -/
def dropTrailing {α : Type} (p : α → Bool) (l : List α) : List α :=
  (l.reverse.dropWhile p).reverse

/-- A text without the blanks before and after it. -/
def trim (s : List Char) : List Char :=
  dropTrailing isBlank (s.dropWhile isBlank)

@[simp] theorem dropTrailing_nil {α : Type} (p : α → Bool) : dropTrailing p [] = [] := rfl

theorem dropTrailing_concat {α : Type} (p : α → Bool) (l : List α) (a : α) :
    dropTrailing p (l ++ [a]) = if p a then dropTrailing p l else l ++ [a] := by
  cases h : p a <;> simp [dropTrailing, h]

/-! ## Pieces and words -/

/-- The pieces of a list between its members that satisfy `p`. There is one piece more than there are
such members. -/
def splitWhere {α : Type} (p : α → Bool) : List α → List (List α)
  | [] => [[]]
  | a :: l =>
    if p a then [] :: splitWhere p l
    else
      match splitWhere p l with
      | [] => [[a]]
      | piece :: pieces => (a :: piece) :: pieces

/-- The words of a text: its longest runs without blanks. -/
def words (s : List Char) : List (List Char) :=
  (splitWhere isBlank s).filter fun piece => !piece.isEmpty

/-- Pieces written one after another with a separator between two of them. -/
def joinWith {α : Type} (separator : List α) : List (List α) → List α
  | [] => []
  | [piece] => piece
  | piece :: next :: pieces => piece ++ separator ++ joinWith separator (next :: pieces)

theorem splitWhere_ne_nil {α : Type} (p : α → Bool) (l : List α) : splitWhere p l ≠ [] := by
  cases l with
  | nil => simp [splitWhere]
  | cons a l =>
    simp only [splitWhere]
    split
    · simp
    · split <;> simp

/-- No piece holds a member that satisfies `p`. -/
theorem not_mem_of_mem_splitWhere {α : Type} {p : α → Bool} {l piece : List α} {a : α}
    (hpiece : piece ∈ splitWhere p l) (ha : a ∈ piece) : p a = false := by
  induction l generalizing piece with
  | nil => simp_all [splitWhere]
  | cons b l ih =>
    simp only [splitWhere] at hpiece
    split at hpiece
    · rcases List.mem_cons.1 hpiece with rfl | h
      · simp at ha
      · exact ih h ha
    · rename_i hb
      split at hpiece
      · rename_i h
        exact absurd h (splitWhere_ne_nil p l)
      · rename_i first others h
        rcases List.mem_cons.1 hpiece with rfl | hmem
        · rcases List.mem_cons.1 ha with rfl | ha
          · simpa using hb
          · exact ih (h ▸ List.mem_cons_self) ha
        · exact ih (h ▸ List.mem_cons_of_mem _ hmem) ha

theorem joinWith_cons {α : Type} (separator piece : List α) {pieces : List (List α)}
    (h : pieces ≠ []) :
    joinWith separator (piece :: pieces) = piece ++ separator ++ joinWith separator pieces := by
  cases pieces with
  | nil => exact absurd rfl h
  | cons => rfl

theorem joinWith_splitWhere {α : Type} [BEq α] [LawfulBEq α] (a : α) (l : List α) :
    joinWith [a] (splitWhere (· == a) l) = l := by
  induction l with
  | nil => rfl
  | cons b l ih =>
    simp only [splitWhere]
    split
    · rename_i hb
      rw [joinWith_cons _ _ (splitWhere_ne_nil _ _), ih, eq_of_beq hb]
      rfl
    · split
      · rename_i h
        exact absurd h (splitWhere_ne_nil _ _)
      · rename_i first others h
        rw [h] at ih
        cases others with
        | nil => simp_all [joinWith]
        | cons => simp_all [joinWith]

theorem words_nil : words [] = [] := rfl

/-- A word is not empty. -/
theorem ne_nil_of_mem_words {s word : List Char} (h : word ∈ words s) : word ≠ [] := by
  have := (List.mem_filter.1 h).2
  intro e
  simp [e] at this

/-- A word holds no blank. -/
theorem isBlank_eq_false_of_mem_words {s word : List Char} {c : Char} (h : word ∈ words s)
    (hc : c ∈ word) : isBlank c = false :=
  not_mem_of_mem_splitWhere (List.mem_filter.1 h).1 hc

/-! ## The same on strings -/

/-- `trim` on strings. -/
def trimmed (s : String) : String :=
  String.ofList (trim s.toList)

/-- `words` on strings. -/
def wordsOf (s : String) : List String :=
  (words s.toList).map String.ofList

/-- The pieces of a string between its occurrences of one character. -/
def piecesAt (separator : Char) (s : String) : List String :=
  (splitWhere (· == separator) s.toList).map String.ofList

end DepartureRules.Text
