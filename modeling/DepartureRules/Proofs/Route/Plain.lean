import DepartureRules.Proofs.Route.Recorded

/-!
# The characters of a route

A route that is read is written in letters, decimal digits and slashes. The digits are those of the text: ASCII or
not, they are taken over as they stand.

* `RouteToken.parts` are what stands between the slashes of a token, and `text_eq_joinWith` writes the token;
* `alphanumeric_of_isLexical`: the parts consist of letters and digits;
* `mem_text_iff_of_isDecimalDigit`: a digit outside ASCII is in a token exactly if it is in the text;
* `characters_of_parse`: a route is plain exactly if all digits of its text are ASCII;
* `foreign_digit_read` is a route that is not plain.
-/

namespace DepartureRules
open Lexical Text
set_option autoImplicit false

/-- A letter `A` to `Z`, a digit `0` to `9` or a slash. -/
def isPlain (c : Char) : Bool :=
  isUpperLetter c || isAsciiDigit c || c == '/'

namespace RouteToken

/-- What stands between the slashes of a token. -/
def parts : RouteToken → List String
  | .speedLevel text => [text]
  | .airport ident runway => ident :: runway.toList
  | .airway text => [text]
  | .direct => ["DCT"]
  | .waypoint ident change climb => (if climb then ["C"] else []) ++ ident :: change.toList

theorem text_eq_joinWith (token : RouteToken) :
    token.text.toList = joinWith ['/'] (token.parts.map String.toList) := by
  cases token with
  | speedLevel text => rfl
  | airport ident runway => cases runway <;> simp [text, parts, slashed, joinWith]
  | airway text => rfl
  | direct => rfl
  | waypoint ident change climb => cases change <;> cases climb <;> simp [text, parts, slashed, joinWith]

theorem mem_parts_of_bare? {token : RouteToken} {element : String} (h : token.bare? = some element) :
    element ∈ token.parts := by
  cases token with
  | airway text =>
    cases h
    exact List.mem_singleton_self _
  | waypoint ident change climb =>
    cases h
    exact List.mem_append_right _ List.mem_cons_self
  | speedLevel | airport | direct => cases h

end RouteToken

namespace Route
open RouteToken

/-! ## Letters and digits -/

theorem alphanumeric_of_isLexical {token : RouteToken} (h : token.isLexical = true) :
    ∀ part ∈ token.parts, ∀ c ∈ part.toList, isAlphanumeric c = true := by
  cases token with
  | speedLevel text =>
    rw [parts, List.forall_mem_singleton]
    exact alphanumeric_of_isSpeedLevel h
  | airport ident runway =>
    rw [isLexical, Bool.and_eq_true] at h
    rw [parts, List.forall_mem_cons]
    refine ⟨alphanumeric_of_fourLetters h.1, ?_⟩
    cases runway with
    | none => exact List.forall_mem_nil _
    | some runway =>
      rw [Option.toList_some, List.forall_mem_singleton]
      exact alphanumeric_of_runway h.2
  | airway text =>
    rw [isLexical, Bool.and_eq_true] at h
    rw [parts, List.forall_mem_singleton]
    exact alphanumeric_of_isAirway h.1
  | direct => decide
  | waypoint ident change climb =>
    have hsign : ∀ part ∈ if climb then ["C"] else [], ∀ c ∈ part.toList, isAlphanumeric c = true := by
      cases climb <;> decide
    rw [parts, List.forall_mem_append, List.forall_mem_cons]
    cases change with
    | none =>
      rw [isLexical, Bool.and_eq_true] at h
      exact ⟨hsign, alphanumeric_of_isPoint h.1, List.forall_mem_nil _⟩
    | some change =>
      rw [isLexical, Bool.and_eq_true] at h
      rw [Option.toList_some, List.forall_mem_singleton]
      refine ⟨hsign, alphanumeric_of_isPoint h.1, ?_⟩
      cases climb with
      | false => exact alphanumeric_of_isSpeedLevel h.2
      | true => exact alphanumeric_of_isClimb h.2

/-! ## Digits of the text -/

/-- A token has the characters of its word, up to a slash. -/
theorem Recorded.mem_text_iff {word : String} {token : RouteToken} (h : Recorded word token) {c : Char}
    (hc : c ≠ '/') : c ∈ token.text.toList ↔ c ∈ word.toList := by
  by_cases hend : EndsInSlash word
  · obtain ⟨ident, rfl, rfl⟩ := h.cut hend
    simp [RouteToken.text, slashed, hc]
  · rw [h.whole hend]

theorem exists_mem_text_iff {words : List String} {tokens : List RouteToken} (h : List.Forall₂ Recorded words tokens)
    {c : Char} (hc : c ≠ '/') : (∃ token ∈ tokens, c ∈ token.text.toList) ↔ ∃ word ∈ words, c ∈ word.toList := by
  induction h with
  | nil => simp
  | cons head tail ih => rw [List.exists_mem_cons_iff, List.exists_mem_cons_iff, head.mem_text_iff hc, ih]

section
variable {text origin destination : String} {route : Route}

/-- A digit outside ASCII is read as it stands, and no other character becomes one. -/
theorem mem_text_iff_of_isDecimalDigit (h : parse text origin destination = .ok route) {d : Char}
    (digit : isDecimalDigit d = true) (beyond : 128 ≤ d.toNat) :
    (∃ token ∈ route.tokens, d ∈ token.text.toList) ↔ d ∈ text.toList := by
  have hslash : d ≠ '/' := by
    rintro rfl
    exact absurd digit (by decide)
  calc (∃ token ∈ route.tokens, d ∈ token.text.toList)
      ↔ ∃ word ∈ (wordsOf text).map uppercased, d ∈ word.toList := exists_mem_text_iff (forall₂_recorded h) hslash
    _ ↔ ∃ word ∈ words text.toList, d ∈ word := by
        simp [wordsOf, mem_upper_iff_of_isDecimalDigit digit beyond]
    _ ↔ d ∈ text.toList := by
        rw [exists_mem_words_iff, isBlank_eq_false_of_isDecimalDigit digit beyond]
        simp

theorem isPlain_of_isAlphanumeric {c : Char} (h : isAlphanumeric c = true)
    (ascii : isDecimalDigit c = true → isAsciiDigit c = true) : isPlain c = true := by
  rw [isPlain, Bool.or_eq_true, Bool.or_eq_true]
  exact .inl ((Bool.or_eq_true_iff.1 h).imp_right ascii)

theorem not_isPlain_of_isDecimalDigit {d : Char} (digit : isDecimalDigit d = true) (foreign : isAsciiDigit d ≠ true) :
    isPlain d ≠ true := by
  have hletter := not_isUpperLetter_of_isDecimalDigit digit
  have hslash : d ≠ '/' := by
    rintro rfl
    exact absurd digit (by decide)
  simpa [isPlain, hletter, hslash] using foreign

theorem beyond_ascii {d : Char} (digit : isDecimalDigit d = true) (foreign : isAsciiDigit d ≠ true) :
    128 ≤ d.toNat :=
  Nat.le_of_not_lt fun ascii => foreign (isAsciiDigit_of_isDecimalDigit digit ascii)

/-- A route that is read is written in letters `A` to `Z`, decimal digits and slashes between its parts, and its bare
route without the slashes. Its digits outside ASCII are those of the text. So all its tokens are plain exactly if the
text has no digit outside ASCII. -/
theorem characters_of_parse (h : parse text origin destination = .ok route) :
    (∀ token ∈ route.tokens, token.text.toList = joinWith ['/'] (token.parts.map String.toList) ∧
        ∀ part ∈ token.parts, ∀ c ∈ part.toList, isAlphanumeric c = true) ∧
      (∀ element ∈ route.bare, ∃ token ∈ route.tokens, element ∈ token.parts) ∧
      (∀ d, isDecimalDigit d = true → 128 ≤ d.toNat →
        ((∃ token ∈ route.tokens, d ∈ token.text.toList) ↔ d ∈ text.toList)) ∧
      ((∀ token ∈ route.tokens, ∀ c ∈ token.text.toList, isPlain c = true) ↔
        ∀ c ∈ text.toList, isDecimalDigit c = true → isAsciiDigit c = true) := by
  have hparts := fun token htoken => alphanumeric_of_isLexical (isLexical_of_parse h token htoken)
  refine ⟨fun token htoken => ⟨text_eq_joinWith token, hparts token htoken⟩, fun element helement => ?_,
    fun d digit beyond => mem_text_iff_of_isDecimalDigit h digit beyond, fun hplain d hd digit => ?_,
    fun hascii token htoken => ?_⟩
  · obtain ⟨token, htoken, hbare⟩ := List.mem_filterMap.1 helement
    exact ⟨token, htoken, mem_parts_of_bare? hbare⟩
  · by_contra foreign
    obtain ⟨token, htoken, hmem⟩ :=
      (mem_text_iff_of_isDecimalDigit h digit (beyond_ascii digit foreign)).2 hd
    exact not_isPlain_of_isDecimalDigit digit foreign (hplain token htoken d hmem)
  · have hmem : ∀ part ∈ token.parts, ∀ c ∈ part.toList, c ∈ token.text.toList := by
      intro part hpart c hc
      rw [text_eq_joinWith]
      exact mem_joinWith (List.mem_map_of_mem hpart) hc
    rw [text_eq_joinWith]
    refine forall_mem_joinWith (by decide) (List.forall_mem_map.2 fun part hpart c hc => ?_)
    refine isPlain_of_isAlphanumeric (hparts token htoken part hpart c hc) fun digit => ?_
    by_contra foreign
    have hd := (mem_text_iff_of_isDecimalDigit h digit (beyond_ascii digit foreign)).1
      ⟨token, htoken, hmem part hpart c hc⟩
    exact foreign (hascii c hd digit)

end

/-- A text with an Arabic-Indic digit in the name of a departure and in the level of a change. -/
def arabicText : String :=
  "egll/27r cpt\u0663f CPT/n0450f3\u06650 l9 wal"

def arabicRoute : Route :=
  ⟨[.airport "EGLL" (some "27R"), .airway "CPT\u0663F", .waypoint "CPT" (some "N0450F3\u06650") false, .airway "L9",
    .waypoint "WAL" none false]⟩

theorem characters_of_arabicText :
    parse arabicText "EGLL" "EGCC" = .ok arabicRoute ∧
      (∀ token ∈ arabicRoute.tokens, token.text.toList = joinWith ['/'] (token.parts.map String.toList) ∧
        ∀ part ∈ token.parts, ∀ c ∈ part.toList, isAlphanumeric c = true) ∧
      (∀ element ∈ arabicRoute.bare, ∃ token ∈ arabicRoute.tokens, element ∈ token.parts) ∧
      (∀ d, isDecimalDigit d = true → 128 ≤ d.toNat →
        ((∃ token ∈ arabicRoute.tokens, d ∈ token.text.toList) ↔ d ∈ arabicText.toList)) ∧
      ((∀ token ∈ arabicRoute.tokens, ∀ c ∈ token.text.toList, isPlain c = true) ↔
        ∀ c ∈ arabicText.toList, isDecimalDigit c = true → isAsciiDigit c = true) :=
  have hparse : parse arabicText "EGLL" "EGCC" = .ok arabicRoute := by decide +kernel
  ⟨hparse, characters_of_parse hparse⟩

/-- A digit outside ASCII in the name of a departure is read, and the name is in the bare route. -/
theorem foreign_digit_read : ∃ route, parse "CPT\u0663F CPT" "EGLL" "EGCC" = .ok route ∧ "CPT\u0663F" ∈ route.bare ∧
    ¬∀ token ∈ route.tokens, ∀ c ∈ token.text.toList, isPlain c = true :=
  ⟨⟨[.airway "CPT\u0663F", .waypoint "CPT" none false]⟩, by decide +kernel, by decide +kernel, by decide +kernel⟩

end Route

end DepartureRules
