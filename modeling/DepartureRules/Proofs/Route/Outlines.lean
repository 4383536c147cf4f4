import DepartureRules.Route.Lexical

/-!
# Outlines of words

What a word looks like when its letters are not told apart, nor its digits. Two lexical classes without a
common outline have no common word, so it takes a comparison of two short lists to keep them apart.

* `mark` is what is seen of a character, and `outline` of a word;
* `outlines` are the outlines of the words of a class, and `outline_mem_outlines` says so;
* `fitsAny_eq_false`: classes without a common outline are disjoint;
* `isAirway_iff` and `isAirport_iff` take the two classes apart;
* `alphanumeric_of_fitsAny`: all classes but that of airports have letters and digits only, so no slash;
* the last part says which classes of route words overlap: an airway that is a point or an airport is a
  track across the North Atlantic or the word `DCT`, and a point that is an airport is four letters.
-/

namespace DepartureRules.Lexical
open DepartureRules.Text
set_option autoImplicit false

/-! ## Marks -/

/-- What is seen of a character when letters are not told apart, nor digits. -/
inductive Mark
  | letter
  | digit
  | slash
  | other
  deriving DecidableEq, Repr

def mark (c : Char) : Mark :=
  if isUpperLetter c then .letter
  else if isDecimalDigit c then .digit
  else if c = '/' then .slash
  else .other

def outline (word : List Char) : List Mark :=
  word.map mark

theorem mark_of_isUpperLetter {c : Char} (h : isUpperLetter c = true) : mark c = .letter :=
  if_pos h

theorem not_isUpperLetter_of_isDecimalDigit {c : Char} (h : isDecimalDigit c = true) :
    isUpperLetter c = false := by
  have hA : 'A'.toNat = 65 := rfl
  have hZ : 'Z'.toNat = 90 := rfl
  have h9 : '9'.toNat = 57 := rfl
  rw [← Bool.not_eq_true]
  intro hletter
  simp only [isUpperLetter, Bool.and_eq_true, decide_eq_true_eq] at hletter
  have hascii := isAsciiDigit_of_isDecimalDigit h (by omega)
  simp only [isAsciiDigit, Bool.and_eq_true, decide_eq_true_eq] at hascii
  omega

theorem mark_of_isDecimalDigit {c : Char} (h : isDecimalDigit c = true) : mark c = .digit := by
  rw [mark, if_neg (by simp [not_isUpperLetter_of_isDecimalDigit h]), if_pos h]

/-! ## Outlines of a class -/

/-- The characters that a class is tried on. -/
def trials : List Char :=
  ['1', '/'] ++ (List.range 26).map fun n => Char.ofNat (65 + n)

/-- The mark of the members of a class. -/
def classMark (p : Char → Bool) : Mark :=
  ((trials.find? p).map mark).getD .other

/-- All members of the class have the same mark. -/
def Uniform (p : Char → Bool) : Prop :=
  ∀ c, p c = true → mark c = classMark p

/-- The shapes consist of classes whose members have the same mark. -/
def Outlined (shapes : List Shape) : Prop :=
  ∀ shape ∈ shapes, ∀ p ∈ shape, Uniform p

def outlines (shapes : List Shape) : List (List Mark) :=
  shapes.map fun shape => shape.map classMark

theorem outline_of_fits {shape : Shape} {word : List Char} (uniform : ∀ p ∈ shape, Uniform p)
    (h : fits shape word = true) : outline word = shape.map classMark := by
  rw [fits_iff] at h
  induction h with
  | nil => rfl
  | @cons p c shape word head tail ih =>
    have hc := uniform p List.mem_cons_self c head
    have hword := ih fun q hq => uniform q (List.mem_cons_of_mem _ hq)
    simp only [outline, List.map_cons, hc] at hword ⊢
    rw [hword]

theorem outline_mem_outlines {shapes : List Shape} {word : List Char} (outlined : Outlined shapes)
    (h : fitsAny shapes word = true) : outline word ∈ outlines shapes := by
  obtain ⟨shape, hshape, hfits⟩ := List.any_eq_true.1 h
  rw [outline_of_fits (outlined shape hshape) hfits]
  exact List.mem_map_of_mem hshape

/-- Classes without a common outline have no common word. -/
theorem fitsAny_eq_false {shapes others : List Shape} (outlined : Outlined shapes) (outlined' : Outlined others)
    (apart : ∀ o ∈ outlines shapes, o ∉ outlines others) {word : List Char} (h : fitsAny shapes word = true) :
    fitsAny others word = false := by
  rw [← Bool.not_eq_true]
  exact fun h' => apart _ (outline_mem_outlines outlined h) (outline_mem_outlines outlined' h')

/-! ## Uniform classes -/

theorem uniform_nonZeroDigit : ∀ p ∈ nonZeroDigit, Uniform p := by
  intro p hp c hc
  rw [List.mem_singleton.1 hp] at hc ⊢
  exact mark_of_isDecimalDigit (isDecimalDigit_of_isAsciiDigit (Bool.and_eq_true_iff.1 hc).1)

theorem uniform_letters (n : Nat) : ∀ p ∈ letters n, Uniform p := by
  intro p hp c hc
  rw [List.eq_of_mem_replicate hp] at hc ⊢
  exact mark_of_isUpperLetter hc

theorem uniform_digits (n : Nat) : ∀ p ∈ digits n, Uniform p := by
  intro p hp c hc
  rw [List.eq_of_mem_replicate hp] at hc ⊢
  exact mark_of_isDecimalDigit hc

theorem uniform_oneOf {chars : List Char}
    (h : chars.all (fun c => mark c = classMark fun c => chars.contains c) = true) :
    ∀ p ∈ oneOf chars, Uniform p := by
  intro p hp c hc
  rw [List.mem_singleton.1 hp] at hc ⊢
  exact of_decide_eq_true (List.all_eq_true.1 h c (List.contains_iff_mem.1 hc))

theorem uniform_exactly {chars : List Char} (h : chars.all (fun d => mark d = classMark fun c => c == d) = true) :
    ∀ p ∈ exactly chars, Uniform p := by
  intro p hp c hc
  obtain ⟨d, hd, rfl⟩ := List.mem_map.1 hp
  rw [eq_of_beq hc]
  exact of_decide_eq_true (List.all_eq_true.1 h d hd)

section
variable {shape next : Shape} {shapes more : List Shape}

theorem uniform_append (h : ∀ p ∈ shape, Uniform p) (h' : ∀ p ∈ next, Uniform p) :
    ∀ p ∈ shape ++ next, Uniform p :=
  List.forall_mem_append.2 ⟨h, h'⟩

theorem outlined_nil : Outlined [] := nofun

theorem outlined_cons (h : ∀ p ∈ shape, Uniform p) (rest : Outlined shapes) : Outlined (shape :: shapes) :=
  List.forall_mem_cons.2 ⟨h, rest⟩

theorem outlined_singleton (h : ∀ p ∈ shape, Uniform p) : Outlined [shape] :=
  outlined_cons h outlined_nil

theorem outlined_append (h : Outlined shapes) (h' : Outlined more) : Outlined (shapes ++ more) :=
  List.forall_mem_append.2 ⟨h, h'⟩

theorem outlined_followedBy (h : Outlined shapes) (h' : Outlined more) : Outlined (followedBy shapes more) := by
  intro joined hjoined
  obtain ⟨first, hfirst, hjoined⟩ := List.mem_flatMap.1 hjoined
  obtain ⟨second, hsecond, rfl⟩ := List.mem_map.1 hjoined
  exact uniform_append (h first hfirst) (h' second hsecond)

theorem outlined_optionally (h : Outlined shapes) : Outlined (optionally shapes) :=
  outlined_cons nofun h

end

/-! ## The classes of route words -/

theorem outlined_levels : Outlined levels :=
  outlined_cons (uniform_append (uniform_oneOf (by decide)) (uniform_digits 3))
    (outlined_singleton (uniform_append (uniform_oneOf (by decide)) (uniform_digits 4)))

theorem outlined_speedLevels : Outlined speedLevels := by
  have hspeeds : Outlined speeds :=
    outlined_cons (uniform_append (uniform_exactly (by decide)) (uniform_digits 3))
      (outlined_singleton (uniform_append (uniform_oneOf (by decide)) (uniform_digits 4)))
  exact outlined_followedBy hspeeds outlined_levels

theorem outlined_climbs : Outlined climbs :=
  outlined_followedBy outlined_speedLevels
    (outlined_append outlined_levels (outlined_singleton (uniform_exactly (by decide))))

theorem outlined_runways : Outlined runways :=
  outlined_followedBy (outlined_singleton (uniform_digits 2))
    (outlined_optionally (outlined_singleton (uniform_oneOf (by decide))))

theorem outlined_airports : Outlined airports := by
  have hrunway : Outlined (followedBy [exactly ['/']] runways) :=
    outlined_followedBy (outlined_singleton (uniform_exactly (by decide))) outlined_runways
  exact outlined_followedBy (outlined_singleton (uniform_letters 4)) (outlined_optionally hrunway)

/-- Two to five letters. -/
theorem outlined_names : Outlined [letters 2, letters 3, letters 4, letters 5] :=
  outlined_cons (uniform_letters 2) (outlined_cons (uniform_letters 3)
    (outlined_cons (uniform_letters 4) (outlined_singleton (uniform_letters 5))))

theorem outlined_points : Outlined points := by
  have hnamed : Outlined namedPoints :=
    outlined_followedBy outlined_names (outlined_optionally (outlined_singleton (uniform_digits 6)))
  have hminutes : Outlined (optionally [digits 2]) := outlined_optionally (outlined_singleton (uniform_digits 2))
  have hlatitude : Outlined (followedBy [digits 2] (optionally [digits 2])) :=
    outlined_followedBy (outlined_singleton (uniform_digits 2)) hminutes
  have hlongitude : Outlined [oneOf ['N', 'S'] ++ digits 3] :=
    outlined_singleton (uniform_append (uniform_oneOf (by decide)) (uniform_digits 3))
  have hside : Outlined [oneOf ['E', 'W']] := outlined_singleton (uniform_oneOf (by decide))
  exact outlined_append hnamed
    (outlined_followedBy hlatitude (outlined_followedBy hlongitude (outlined_followedBy hminutes hside)))

/-- The airways with a number. -/
def countedAirways : List Shape :=
  terminalRoutes ++ numberedAirways

/-- The name of a track across the North Atlantic. -/
def oceanTrack : Shape :=
  exactly ['N', 'A', 'T'] ++ letters 1

theorem outlined_countedAirways : Outlined countedAirways := by
  have hletter : Outlined (optionally [letters 1]) := outlined_optionally (outlined_singleton (uniform_letters 1))
  have hterminal : Outlined terminalRoutes :=
    outlined_followedBy outlined_names (outlined_followedBy (outlined_singleton (uniform_digits 1)) hletter)
  have hhead : Outlined (optionally [oneOf ['U', 'S', 'K']]) :=
    outlined_optionally (outlined_singleton (uniform_oneOf (by decide)))
  have hseries : Outlined [letters 1 ++ nonZeroDigit] :=
    outlined_singleton (uniform_append (uniform_letters 1) uniform_nonZeroDigit)
  have hnumber : Outlined [[], digits 1, digits 2] :=
    outlined_cons nofun (outlined_cons (uniform_digits 1) (outlined_singleton (uniform_digits 2)))
  exact outlined_append hterminal
    (outlined_followedBy hhead (outlined_followedBy hseries (outlined_followedBy hnumber hletter)))

theorem outlined_airways : Outlined airways :=
  outlined_append outlined_countedAirways
    (outlined_cons (uniform_append (uniform_exactly (by decide)) (uniform_letters 1))
      (outlined_singleton (uniform_exactly (by decide))))

theorem fits_exactly {chars word : List Char} : fits (exactly chars) word = true ↔ word = chars := by
  induction chars generalizing word with
  | nil => cases word <;> simp [exactly, fits]
  | cons d chars ih =>
    cases word with
    | nil => simp [exactly, fits]
    | cons c word =>
      simp only [exactly, List.map_cons, fits, Bool.and_eq_true, beq_iff_eq, List.cons.injEq]
      exact and_congr_right fun _ => ih

theorem isAirway_iff {word : List Char} :
    isAirway word = true ↔
      fitsAny countedAirways word = true ∨ fits oceanTrack word = true ∨ word = ['D', 'C', 'T'] := by
  rw [← fits_exactly]
  simp [isAirway, fitsAny, airways, countedAirways, oceanTrack, or_assoc]

/-! ## Words of two parts -/

theorem fits_append_iff {shape more : Shape} {word : List Char} :
    fits (shape ++ more) word = true ↔
      ∃ head tail, word = head ++ tail ∧ fits shape head = true ∧ fits more tail = true := by
  constructor
  · intro h
    induction shape generalizing word with
    | nil => exact ⟨[], word, rfl, rfl, h⟩
    | cons p shape ih =>
      cases word with
      | nil => cases h
      | cons c word =>
        simp only [List.cons_append, fits, Bool.and_eq_true] at h
        obtain ⟨head, tail, rfl, hhead, htail⟩ := ih h.2
        exact ⟨c :: head, tail, rfl, by simp only [fits, h.1, hhead, Bool.and_self], htail⟩
  · rintro ⟨head, tail, rfl, hhead, htail⟩
    exact fits_append hhead htail

theorem fitsAny_followedBy_iff {shapes more : List Shape} {word : List Char} :
    fitsAny (followedBy shapes more) word = true ↔
      ∃ head tail, word = head ++ tail ∧ fitsAny shapes head = true ∧ fitsAny more tail = true := by
  simp only [fitsAny, List.any_eq_true]
  constructor
  · rintro ⟨joined, hjoined, h⟩
    obtain ⟨first, hfirst, hjoined⟩ := List.mem_flatMap.1 hjoined
    obtain ⟨second, hsecond, rfl⟩ := List.mem_map.1 hjoined
    obtain ⟨head, tail, rfl, hhead, htail⟩ := fits_append_iff.1 h
    exact ⟨head, tail, rfl, ⟨first, hfirst, hhead⟩, second, hsecond, htail⟩
  · rintro ⟨head, tail, rfl, ⟨first, hfirst, hhead⟩, second, hsecond, htail⟩
    refine ⟨first ++ second, ?_, fits_append hhead htail⟩
    exact List.mem_flatMap.2 ⟨first, hfirst, List.mem_map_of_mem hsecond⟩

theorem fitsAny_optionally_iff {shapes : List Shape} {word : List Char} :
    fitsAny (optionally shapes) word = true ↔ word = [] ∨ fitsAny shapes word = true := by
  rw [fitsAny, optionally, List.any_cons, Bool.or_eq_true]
  cases word <;> simp [fits, fitsAny]

theorem fitsAny_singleton {shape : Shape} {word : List Char} :
    fitsAny [shape] word = true ↔ fits shape word = true := by
  simp [fitsAny]

/-- An airport is four letters and possibly a runway behind a slash. -/
theorem isAirport_iff {word : List Char} :
    isAirport word = true ↔ fits (letters 4) word = true ∨
      ∃ ident runway, word = ident ++ '/' :: runway ∧ fits (letters 4) ident = true ∧
        fitsAny runways runway = true := by
  simp only [isAirport, airports, fitsAny_followedBy_iff, fitsAny_optionally_iff, fitsAny_singleton, fits_exactly]
  constructor
  · rintro ⟨ident, rest, rfl, hident, rfl | ⟨slash, runway, rfl, rfl, hrunway⟩⟩
    · exact .inl (by rwa [List.append_nil])
    · exact .inr ⟨ident, runway, rfl, hident, hrunway⟩
  · rintro (hword | ⟨ident, runway, rfl, hident, hrunway⟩)
    · exact ⟨word, [], (List.append_nil word).symm, hword, .inl rfl⟩
    · exact ⟨ident, '/' :: runway, rfl, hident, .inr ⟨['/'], runway, rfl, rfl, hrunway⟩⟩

/-! ## Letters and digits -/

/-- A mark that is in no outline of a class is not in its words. -/
theorem mark_ne_of_fitsAny {shapes : List Shape} (outlined : Outlined shapes) {m : Mark}
    (absent : ∀ o ∈ outlines shapes, m ∉ o) {word : List Char} (h : fitsAny shapes word = true) :
    ∀ c ∈ word, mark c ≠ m := by
  rintro c hc rfl
  exact absent _ (outline_mem_outlines outlined h) (List.mem_map_of_mem hc)

/-- A letter `A` to `Z` or a decimal digit. -/
def isAlphanumeric (c : Char) : Bool :=
  isUpperLetter c || isDecimalDigit c

theorem isAlphanumeric_iff_mark {c : Char} : isAlphanumeric c = true ↔ mark c = .letter ∨ mark c = .digit := by
  unfold isAlphanumeric mark
  cases isUpperLetter c with
  | true => simp
  | false =>
    cases isDecimalDigit c with
    | true => simp
    | false => by_cases hslash : c = '/' <;> simp [hslash]

theorem mark_ne_other_of_isAlphanumeric {c : Char} (h : isAlphanumeric c = true) : mark c ≠ .other := by
  rcases isAlphanumeric_iff_mark.1 h with hmark | hmark <;> rw [hmark] <;> nofun

/-- The classes of route words that have no slash. -/
def unslashedClasses : List (List Shape) :=
  [[letters 4], speedLevels, climbs, runways, airways, points]

theorem outlined_unslashedClasses : ∀ shapes ∈ unslashedClasses, Outlined shapes := by
  simp only [unslashedClasses, List.forall_mem_cons]
  exact ⟨outlined_singleton (uniform_letters 4), outlined_speedLevels, outlined_climbs, outlined_runways,
    outlined_airways, outlined_points, List.forall_mem_nil _⟩

theorem marks_unslashedClasses :
    ∀ shapes ∈ unslashedClasses, ∀ o ∈ outlines shapes, ∀ m ∈ o, m = .letter ∨ m = .digit := by
  decide +kernel

section
variable {shapes : List Shape} {word : List Char}

theorem alphanumeric_of_fitsAny (hclass : shapes ∈ unslashedClasses) (h : fitsAny shapes word = true) :
    ∀ c ∈ word, isAlphanumeric c = true := by
  intro c hc
  have houtline := outline_mem_outlines (outlined_unslashedClasses shapes hclass) h
  exact isAlphanumeric_iff_mark.2 (marks_unslashedClasses shapes hclass _ houtline _ (List.mem_map_of_mem hc))

theorem alphanumeric_of_isSpeedLevel (h : isSpeedLevel word = true) : ∀ c ∈ word, isAlphanumeric c = true :=
  alphanumeric_of_fitsAny (by simp [unslashedClasses]) h

theorem alphanumeric_of_isClimb (h : isClimb word = true) : ∀ c ∈ word, isAlphanumeric c = true :=
  alphanumeric_of_fitsAny (by simp [unslashedClasses]) h

theorem alphanumeric_of_runway (h : fitsAny runways word = true) : ∀ c ∈ word, isAlphanumeric c = true :=
  alphanumeric_of_fitsAny (by simp [unslashedClasses]) h

theorem alphanumeric_of_isAirway (h : isAirway word = true) : ∀ c ∈ word, isAlphanumeric c = true :=
  alphanumeric_of_fitsAny (by simp [unslashedClasses]) h

theorem alphanumeric_of_isPoint (h : isPoint word = true) : ∀ c ∈ word, isAlphanumeric c = true :=
  alphanumeric_of_fitsAny (by simp [unslashedClasses]) h

theorem alphanumeric_of_fourLetters (h : fits (letters 4) word = true) : ∀ c ∈ word, isAlphanumeric c = true :=
  alphanumeric_of_fitsAny (by simp [unslashedClasses]) (fitsAny_singleton.2 h)

theorem slash_not_mem (h : ∀ c ∈ word, isAlphanumeric c = true) : '/' ∉ word :=
  fun hmem => absurd (h '/' hmem) (by decide)

theorem slash_not_mem_of_isSpeedLevel (h : isSpeedLevel word = true) : '/' ∉ word :=
  slash_not_mem (alphanumeric_of_isSpeedLevel h)

theorem slash_not_mem_of_isClimb (h : isClimb word = true) : '/' ∉ word :=
  slash_not_mem (alphanumeric_of_isClimb h)

theorem slash_not_mem_of_runway (h : fitsAny runways word = true) : '/' ∉ word :=
  slash_not_mem (alphanumeric_of_runway h)

theorem slash_not_mem_of_isAirway (h : isAirway word = true) : '/' ∉ word :=
  slash_not_mem (alphanumeric_of_isAirway h)

theorem slash_not_mem_of_isPoint (h : isPoint word = true) : '/' ∉ word :=
  slash_not_mem (alphanumeric_of_isPoint h)

theorem slash_not_mem_of_fourLetters (h : fits (letters 4) word = true) : '/' ∉ word :=
  slash_not_mem (alphanumeric_of_fourLetters h)

end

/-! ## Overlaps -/

/-- Pairs of classes that have no common word. -/
def disjointClasses : List (List Shape × List Shape) :=
  [(speedLevels, runways), (speedLevels, airports), (speedLevels, airways), (speedLevels, points),
    (countedAirways, airports), (countedAirways, points)]

theorem outlines_disjointClasses : ∀ pair ∈ disjointClasses, ∀ o ∈ outlines pair.1, o ∉ outlines pair.2 := by
  decide +kernel

section
variable {word : List Char}

theorem not_runway_of_isSpeedLevel (h : isSpeedLevel word = true) : fitsAny runways word = false :=
  fitsAny_eq_false outlined_speedLevels outlined_runways
    (outlines_disjointClasses (speedLevels, runways) (by simp [disjointClasses])) h

theorem not_isAirport_of_isSpeedLevel (h : isSpeedLevel word = true) : isAirport word = false :=
  fitsAny_eq_false outlined_speedLevels outlined_airports
    (outlines_disjointClasses (speedLevels, airports) (by simp [disjointClasses])) h

theorem not_isAirway_of_isSpeedLevel (h : isSpeedLevel word = true) : isAirway word = false :=
  fitsAny_eq_false outlined_speedLevels outlined_airways
    (outlines_disjointClasses (speedLevels, airways) (by simp [disjointClasses])) h

theorem not_isPoint_of_isSpeedLevel (h : isSpeedLevel word = true) : isPoint word = false :=
  fitsAny_eq_false outlined_speedLevels outlined_points
    (outlines_disjointClasses (speedLevels, points) (by simp [disjointClasses])) h

/-- A word that is an airway and an airport is a track. -/
theorem oceanTrack_of_isAirway_of_isAirport (h : isAirway word = true) (h' : isAirport word = true) :
    fits oceanTrack word = true := by
  rcases isAirway_iff.1 h with hcounted | htrack | rfl
  · have hnot : isAirport word = false :=
      fitsAny_eq_false outlined_countedAirways outlined_airports
        (outlines_disjointClasses (countedAirways, airports) (by simp [disjointClasses])) hcounted
    rw [hnot] at h'
    cases h'
  · exact htrack
  · exact absurd h' (by decide)

/-- A word that is an airway and a point is a track or the word for no airway. -/
theorem oceanTrack_or_of_isAirway_of_isPoint (h : isAirway word = true) (h' : isPoint word = true) :
    fits oceanTrack word = true ∨ word = ['D', 'C', 'T'] := by
  rcases isAirway_iff.1 h with hcounted | hrest
  · have hnot : isPoint word = false :=
      fitsAny_eq_false outlined_countedAirways outlined_points
        (outlines_disjointClasses (countedAirways, points) (by simp [disjointClasses])) hcounted
    rw [hnot] at h'
    cases h'
  · exact hrest

/-- A word that is an airport and a point is four letters. -/
theorem fourLetters_of_isAirport_of_isPoint (h : isAirport word = true) (h' : isPoint word = true) :
    fits (letters 4) word = true := by
  rcases isAirport_iff.1 h with hfour | ⟨ident, runway, rfl, -, -⟩
  · exact hfour
  · exact absurd (List.mem_append_right _ List.mem_cons_self) (slash_not_mem_of_isPoint h')

theorem fourLetters_of_oceanTrack (h : fits oceanTrack word = true) : fits (letters 4) word = true := by
  obtain ⟨head, tail, rfl, hhead, htail⟩ := fits_append_iff.1 h
  rw [fits_exactly] at hhead
  subst hhead
  have hnat : fits (letters 3) ['N', 'A', 'T'] = true := by decide
  exact fits_append hnat htail

end

end DepartureRules.Lexical
