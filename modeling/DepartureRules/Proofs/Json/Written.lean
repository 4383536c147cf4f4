import DepartureRules.Json.Reader
import DepartureRules.Json.Value
import Mathlib.Data.List.TakeDrop
import Mathlib.Data.Nat.Digits.Defs

/-!
# Written parts of a document

A number or a string that is written in a document is read back, and a value may be written with any blanks between
its parts.

* `Ends`: what may follow a value;
* `readNumber_decimal`: a number up to the significand limit is read back;
* `stringBody_flatMap_escaped`: every string is read back, its control characters among them;
* `Spelled` relates a value to its written forms, and `spelled_compactChars` and `spelled_prettyChars` find the compact
  and the indented form among them.
-/

namespace DepartureRules.Json
open DepartureRules.Text
set_option autoImplicit false

/-- Blanks that may stand between the parts of a document. -/
def Gap (gap : List Char) : Prop :=
  ∀ c ∈ gap, isJsonBlank c = true

/-- The text is at its end, or a comma, a closing bracket or a blank stands there. -/
def Ends (rest : List Char) : Prop :=
  ∀ c ∈ rest.head?, c ∈ [',', ']', '\x7d', ' ', '\n', '\t', '\r']

/-! ## Numbers -/

section
variable {c : Char} {ds rest : List Char} {n : Nat}

theorem isAsciiDigit_of_mem_decimal (h : c ∈ decimal n) : isAsciiDigit c = true := by
  have hdigit := Nat.isDigit_of_mem_toDigits (by decide) (by decide) h
  simpa [Char.isDigit, isAsciiDigit, UInt32.le_iff_toNat_le] using hdigit

theorem decimal_zero : decimal 0 = ['0'] := rfl

/-- A number other than zero does not begin with the digit zero. -/
theorem exists_decimal_cons (h : 0 < n) : ∃ c ds, decimal n = c :: ds ∧ c ≠ '0' := by
  induction n using Nat.strongRecOn with
  | ind n ih =>
    by_cases hn : n < 10
    · refine ⟨n.digitChar, [], Nat.toDigits_of_lt_base hn, ?_⟩
      rw [Ne, Nat.digitChar_eq_zero]
      omega
    · obtain ⟨c, ds, hds, hc⟩ := ih (n / 10) (by omega) (by omega)
      refine ⟨c, ds ++ [(n % 10).digitChar], ?_, hc⟩
      rw [decimal, Nat.toDigits_of_base_le (by decide) (Nat.le_of_not_lt hn), ← decimal, hds]
      rfl

/-- No number goes on with what may follow a value. -/
theorem Ends.stops (h : Ends rest) (n : Nat) :
    startsWithDigit rest = false ∧ numberTail false n 0 rest = .ok (some n, rest) := by
  cases rest with
  | nil => exact ⟨rfl, rfl⟩
  | cons c s =>
    have hc := h c rfl
    simp only [List.mem_cons, List.not_mem_nil, or_false] at hc
    rcases hc with rfl | rfl | rfl | rfl | rfl | rfl | rfl <;> exact ⟨rfl, rfl⟩

theorem le_ofDigitChars (ds : List Char) (n : Nat) : n ≤ Nat.ofDigitChars 10 ds n := by
  induction ds generalizing n with
  | nil => exact Nat.le_refl n
  | cons c ds ih =>
    have hc := ih (10 * n + (c.toNat - '0'.toNat))
    rw [Nat.ofDigitChars_cons]
    omega

theorem absorbDigits_append (hds : ∀ c ∈ ds, isAsciiDigit c = true) (hrest : startsWithDigit rest = false)
    (hlimit : Nat.ofDigitChars 10 ds n ≤ significandLimit) :
    absorbDigits n (ds ++ rest) = (Nat.ofDigitChars 10 ds n, ds.length, rest) := by
  induction ds generalizing n with
  | nil =>
    cases rest with
    | nil => rfl
    | cons c rest =>
      have hc : isAsciiDigit c = false := hrest
      simp [absorbDigits, hc, Nat.ofDigitChars]
  | cons c ds ih =>
    rw [List.forall_mem_cons] at hds
    have hvalue : n * 10 + digitValue c = 10 * n + (c.toNat - '0'.toNat) := by
      rw [digitValue, Nat.mul_comm]
    have hle := le_ofDigitChars ds (10 * n + (c.toNat - '0'.toNat))
    rw [Nat.ofDigitChars_cons] at hlimit ⊢
    simp only [List.cons_append, absorbDigits, hvalue, hds.1, Bool.true_and, decide_eq_true_eq]
    rw [if_pos (hle.trans hlimit), ih hds.2 hlimit]
    rfl

/-- A number within the limit is read back. -/
theorem readNumber_decimal (hn : n ≤ significandLimit) (h : Ends rest) :
    readNumber false (decimal n ++ rest) = .ok (some n, rest) := by
  obtain ⟨hdigit, htail⟩ := h.stops n
  have hspan : spanDigits rest = ([], rest) := by
    cases rest with
    | nil => rfl
    | cons c rest =>
      have hc : isAsciiDigit c = false := hdigit
      simp [spanDigits, List.span_eq_takeWhile_dropWhile, hc]
  rcases Nat.eq_zero_or_pos n with rfl | hpos
  · simp [decimal_zero, readNumber, hdigit, htail]
  · obtain ⟨c, ds, hds, hc⟩ := exists_decimal_cons hpos
    have hdigits : ∀ d ∈ c :: ds, isAsciiDigit d = true := fun d hd => isAsciiDigit_of_mem_decimal (hds ▸ hd)
    rw [List.forall_mem_cons] at hdigits
    have hvalue : Nat.ofDigitChars 10 ds (digitValue c) = n := by
      have hall := Nat.ofDigitChars_toDigits (b := 10) (n := n) (by decide) (by decide)
      rwa [← decimal, hds, Nat.ofDigitChars_cons, Nat.mul_zero, Nat.zero_add] at hall
    have habsorb := absorbDigits_append hdigits.2 hdigit (hvalue ▸ hn)
    rw [hvalue] at habsorb
    simp [hds, readNumber, hc, hdigits.1, habsorb, hspan, htail]

end

/-! ## Strings -/

section
variable {s rest : List Char}

theorem hexValue?_hexDigit (n : Nat) : hexValue? (hexDigit n) = some (n % 16) := by
  have hall : ∀ k, k < 16 → hexValue? (Nat.digitChar k) = some k := by decide
  exact hall (n % 16) (Nat.mod_lt n (by decide))

theorem hexFour_control {n : Nat} (h : n < 32) (rest : List Char) :
    hexFour ('0' :: '0' :: hexDigit (n / 16) :: hexDigit n :: rest) = .ok (n, rest) := by
  have hzero : hexValue? '0' = some 0 := by decide
  simp only [hexFour, hzero, hexValue?_hexDigit, Except.ok.injEq, Prod.mk.injEq, and_true]
  omega

theorem stringBody_plain {c : Char} (hquote : c ≠ '"') (hslash : c ≠ '\\') (hcontrol : ¬c.toNat < 0x20) :
    stringBody (c :: s) = (stringBody s).map fun read => (c :: read.1, read.2) := by
  rw [stringBody, if_neg hquote, if_neg hslash, if_neg hcontrol]
  cases stringBody s <;> rfl

theorem stringBody_escape {c : Char} (h : escape s = .ok (c, rest)) :
    stringBody ('\\' :: s) = (stringBody rest).map fun read => (c :: read.1, read.2) := by
  rw [stringBody, if_neg (by decide), if_pos rfl]
  split
  · rename_i hescape
    cases h.symm.trans hescape
  · rename_i hescape
    cases h.symm.trans hescape
    cases stringBody rest <;> rfl

/-- Every character is read back from its written form. -/
theorem stringBody_escaped (c : Char) (s : List Char) :
    stringBody (escaped c ++ s) = (stringBody s).map fun read => (c :: read.1, read.2) := by
  unfold escaped
  split_ifs with hquote hslash hb hf hn hr ht hcontrol
  · exact stringBody_escape (by subst hquote; rfl)
  · exact stringBody_escape (by subst hslash; rfl)
  · exact stringBody_escape (by subst hb; rfl)
  · exact stringBody_escape (by subst hf; rfl)
  · exact stringBody_escape (by subst hn; rfl)
  · exact stringBody_escape (by subst hr; rfl)
  · exact stringBody_escape (by subst ht; rfl)
  · refine stringBody_escape ?_
    have hsurrogate : ¬(0xDC00 ≤ c.toNat) ∧ ¬(0xD800 ≤ c.toNat) := by omega
    simp [escape, numberedEscape, hexFour_control hcontrol, hsurrogate]
  · exact stringBody_plain hquote hslash hcontrol

theorem stringBody_flatMap_escaped (s rest : List Char) :
    stringBody (s.flatMap escaped ++ '"' :: rest) = .ok (s, rest) := by
  induction s with
  | nil => rw [List.flatMap_nil, List.nil_append, stringBody, if_pos rfl]
  | cons c s ih => rw [List.flatMap_cons, List.append_assoc, stringBody_escaped, ih]; rfl

end

/-! ## Written forms -/

/-- What stands before a part of a list or an object. -/
def separator (first : Bool) : List Char :=
  if first then [] else [',']

/-- The items of a list and its closing bracket, when `spelled` says how each of them may be written. -/
inductive SpelledItems (spelled : Value → List Char → Prop) : Bool → List Value → List Char → Prop
  | nil {first : Bool} {gap : List Char} (hgap : Gap gap) : SpelledItems spelled first [] (gap ++ [']'])
  | cons {first : Bool} {gap gap' s t : List Char} {item : Value} {items : List Value} (hgap : Gap gap)
      (hgap' : Gap gap') (head : spelled item s) (tail : SpelledItems spelled false items t) :
      SpelledItems spelled first (item :: items) (gap ++ (separator first ++ (gap' ++ (s ++ t))))

/-- The entries of an object and its closing brace. -/
inductive SpelledEntries (spelled : Value → List Char → Prop) : Bool → List (String × Value) → List Char → Prop
  | nil {first : Bool} {gap : List Char} (hgap : Gap gap) : SpelledEntries spelled first [] (gap ++ ['\x7d'])
  | cons {first : Bool} {gap gap' gap'' s t : List Char} {name : String} {value : Value}
      {entries : List (String × Value)} (hgap : Gap gap) (hgap' : Gap gap') (hgap'' : Gap gap'')
      (head : spelled value s) (tail : SpelledEntries spelled false entries t) :
      SpelledEntries spelled first ((name, value) :: entries)
        (gap ++ (separator first ++ (gap' ++ (quotedString name ++ ':' :: (gap'' ++ (s ++ t))))))

/-- A written form of a value, with any blanks before its parts. -/
inductive Spelled : Value → List Char → Prop
  | null : Spelled .null ['n', 'u', 'l', 'l']
  | yes : Spelled (.flag true) ['t', 'r', 'u', 'e']
  | no : Spelled (.flag false) ['f', 'a', 'l', 's', 'e']
  | number (n : Nat) : Spelled (.number n) (decimal n)
  | text (s : String) : Spelled (.text s) (quotedString s)
  | list {items : List Value} {s : List Char} (h : SpelledItems Spelled true items s) :
      Spelled (.list items) ('[' :: s)
  | object {entries : List (String × Value)} {s : List Char} (h : SpelledEntries Spelled true entries s) :
      Spelled (.object entries) ('\x7b' :: s)

/-- A written form begins with a character that is no blank, separates nothing and closes nothing. Only `null` begins
with its letter. -/
theorem Spelled.exists_cons {w : Value} {s : List Char} (h : Spelled w s) :
    ∃ c t, s = c :: t ∧ isJsonBlank c = false ∧ c ∉ [',', ']', '\x7d'] ∧ (c = 'n' → w = .null) := by
  cases h with
  | null => exact ⟨_, _, rfl, rfl, by decide, fun _ => rfl⟩
  | number n =>
    cases hdigits : decimal n with
    | nil => exact absurd hdigits Nat.toDigits_ne_nil
    | cons c ds =>
      have hc : isAsciiDigit c = true := isAsciiDigit_of_mem_decimal (hdigits ▸ List.mem_cons_self)
      have hne : ∀ d, isAsciiDigit d = false → c ≠ d := by
        rintro d hd rfl
        exact absurd hc (Bool.not_eq_true _ ▸ hd)
      refine ⟨c, ds, rfl, ?_, ?_, fun hn => absurd hn (hne 'n' rfl)⟩
      · simp [isJsonBlank, hne ' ' rfl, hne '\n' rfl, hne '\t' rfl, hne '\r' rfl]
      · simp [hne ',' rfl, hne ']' rfl, hne '\x7d' rfl]
  | _ => exact ⟨_, _, rfl, rfl, by decide, fun h => absurd h (by decide)⟩

theorem gap_nil : Gap [] := nofun

theorem gap_blank : Gap [' '] := by
  rintro c hc
  rw [List.mem_singleton.1 hc]
  rfl

theorem gap_newLine (level : Nat) : Gap (Value.newLine level) := by
  intro c hc
  rcases List.mem_cons.1 hc with rfl | hc
  · rfl
  · rw [List.eq_of_mem_replicate hc]
    rfl

mutual

theorem spelled_compactChars : (v : Value) → Spelled v v.compactChars
  | .null => .null
  | .flag true => .yes
  | .flag false => .no
  | .number n => .number n
  | .text s => .text s
  | .list [] => .list (.nil gap_nil)
  | .list (item :: items) =>
    .list (.cons gap_nil gap_nil (spelled_compactChars item) (spelled_compactItems items))
  | .object [] => .object (.nil gap_nil)
  | .object ((name, value) :: entries) => by
    have h : Spelled (.object ((name, value) :: entries)) _ :=
      .object (.cons gap_nil gap_nil gap_nil (spelled_compactChars value) (spelled_compactEntries entries))
    simpa [Value.compactChars, separator] using h

theorem spelled_compactItems : (items : List Value) → SpelledItems Spelled false items (Value.compactItems items)
  | [] => .nil gap_nil
  | item :: items => .cons gap_nil gap_nil (spelled_compactChars item) (spelled_compactItems items)

theorem spelled_compactEntries :
    (entries : List (String × Value)) → SpelledEntries Spelled false entries (Value.compactEntries entries)
  | [] => .nil gap_nil
  | (name, value) :: entries => by
    have h : SpelledEntries Spelled false ((name, value) :: entries) _ :=
      .cons gap_nil gap_nil gap_nil (spelled_compactChars value) (spelled_compactEntries entries)
    simpa [Value.compactEntries, separator] using h

end

mutual

theorem spelled_prettyChars (level : Nat) : (v : Value) → Spelled v (v.prettyChars level)
  | .null => .null
  | .flag true => .yes
  | .flag false => .no
  | .number n => .number n
  | .text s => .text s
  | .list [] => .list (.nil gap_nil)
  | .list (item :: items) => by
    have h : Spelled (.list (item :: items)) _ :=
      .list (.cons (gap_newLine (level + 1)) gap_nil (spelled_prettyChars (level + 1) item)
        (spelled_prettyItems level items))
    simpa [Value.prettyChars, separator] using h
  | .object [] => .object (.nil gap_nil)
  | .object ((name, value) :: entries) => by
    have h : Spelled (.object ((name, value) :: entries)) _ :=
      .object (.cons (gap_newLine (level + 1)) gap_nil gap_blank (spelled_prettyChars (level + 1) value)
        (spelled_prettyEntries level entries))
    simpa [Value.prettyChars, separator] using h

theorem spelled_prettyItems (level : Nat) :
    (items : List Value) → SpelledItems Spelled false items (Value.prettyItems level items)
  | [] => .nil (gap_newLine level)
  | item :: items => by
    have h : SpelledItems Spelled false (item :: items) _ :=
      .cons gap_nil (gap_newLine (level + 1)) (spelled_prettyChars (level + 1) item) (spelled_prettyItems level items)
    simpa [Value.prettyItems, separator] using h

theorem spelled_prettyEntries (level : Nat) :
    (entries : List (String × Value)) → SpelledEntries Spelled false entries (Value.prettyEntries level entries)
  | [] => .nil (gap_newLine level)
  | (name, value) :: entries => by
    have h : SpelledEntries Spelled false ((name, value) :: entries) _ :=
      .cons gap_nil (gap_newLine (level + 1)) gap_blank (spelled_prettyChars (level + 1) value)
        (spelled_prettyEntries level entries)
    simpa [Value.prettyEntries, separator] using h

end

end DepartureRules.Json
