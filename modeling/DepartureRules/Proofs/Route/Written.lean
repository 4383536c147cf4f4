import DepartureRules.Proofs.Route.Itinerary
import DepartureRules.Proofs.Route.Outlines
import DepartureRules.Proofs.Text.Words

/-!
# Words of tokens

A token that keeps to its own grammar is read back from the word that it is filed as, and from no other part of a
route.

* `RouteToken.wellFormed` is the grammar of a single token;
* `airport?_text`, `airway?_text` and `point?_text`: the word of a token is read as the token;
* `speedLevel?_text_eq_none`, `airway?_waypoint_eq_none` and `airway?_airport_eq_none`: it is not read as anything
  that is looked for before;
* `WrittenAs` relates tokens to the texts that hold their words, and `words_of_writtenAs` finds these in the text,
  however they are spaced and in whichever case their letters are.
-/

namespace DepartureRules
open Lexical Text
set_option autoImplicit false

/-! ## Tokens -/

namespace RouteToken

/-- The token keeps to its own grammar. A word that is filed for a waypoint without a change is neither the
word for no airway nor an airport. -/
def wellFormed : RouteToken → Bool
  | .speedLevel text => isSpeedLevel text.toList
  | .airport ident runway => fits (letters 4) ident.toList && runway.all fun r => fitsAny runways r.toList
  | .airway text => isAirway text.toList && text != "DCT"
  | .direct => true
  | .waypoint ident none climb =>
    !climb && isPoint ident.toList && ident != "DCT" && !fits (letters 4) ident.toList
  | .waypoint ident (some change) climb =>
    isPoint ident.toList && if climb then isClimb change.toList else isSpeedLevel change.toList

def isEnRoute : RouteToken → Bool
  | .airway _ | .direct => true
  | _ => false

def isWaypoint : RouteToken → Bool
  | .waypoint _ _ _ => true
  | _ => false

end RouteToken

namespace Route
open RouteToken

/-! ## Slashes in words -/

section
variable {word ident rest : List Char}

theorem ne_slash (h : '/' ∉ word) : ∀ c ∈ word, (c != '/') = true := by
  intro c hc
  rw [bne_iff_ne]
  rintro rfl
  exact h hc

theorem beforeSlash_of_not_mem (h : '/' ∉ word) : beforeSlash word = word := by
  have happend : beforeSlash (word ++ []) = word ++ [] := List.takeWhile_append_of_pos (ne_slash h)
  rwa [List.append_nil] at happend

theorem behindSlash_of_not_mem (h : '/' ∉ word) : behindSlash word = [] := by
  have happend : (word ++ []).dropWhile (· != '/') = [] := List.dropWhile_append_of_pos (ne_slash h)
  rw [List.append_nil] at happend
  rw [behindSlash, happend]
  rfl

theorem beforeSlash_append (h : '/' ∉ ident) : beforeSlash (ident ++ '/' :: rest) = ident := by
  rw [beforeSlash, List.takeWhile_append_of_pos (ne_slash h)]
  exact List.append_nil ident

theorem behindSlash_append (h : '/' ∉ ident) : behindSlash (ident ++ '/' :: rest) = rest := by
  rw [behindSlash, List.dropWhile_append_of_pos (ne_slash h)]
  rfl

theorem climbSign_of_isPoint (h : isPoint ident = true) (rest : List Char) :
    climbSign (ident ++ rest) = (false, ident ++ rest) := by
  have hlength : 2 ≤ ident.length := by
    have hall : ∀ o ∈ outlines points, 2 ≤ o.length := by decide +kernel
    have houtline := hall _ (outline_mem_outlines outlined_points h)
    rwa [outline, List.length_map] at houtline
  have hslash := slash_not_mem_of_isPoint h
  cases ident with
  | nil => cases hlength
  | cons a ident =>
    cases ident with
    | nil => simp at hlength
    | cons b ident =>
      have hb : b ≠ '/' := by
        rintro rfl
        exact hslash (List.mem_cons_of_mem _ List.mem_cons_self)
      simp only [List.cons_append]
      unfold climbSign
      split
      · rename_i hword
        exact absurd (List.cons.inj (List.cons.inj hword).2).1 hb
      · rfl

theorem nonEmpty_toList {part : String} (h : part.toList ≠ []) : nonEmpty part.toList = some part := by
  simp [nonEmpty, h]

end

/-! ## Words that are read as their tokens -/

section
variable {ident change : List Char}

theorem not_isAirport_of_change (hident : '/' ∉ ident) (hchange : isSpeedLevel change = true) :
    isAirport (ident ++ '/' :: change) = false := by
  rw [← Bool.not_eq_true, isAirport_iff]
  rintro (hfour | ⟨airport, runway, hword, hairport, hrunway⟩)
  · exact slash_not_mem_of_fourLetters hfour (List.mem_append_right _ List.mem_cons_self)
  · have hsame := congrArg behindSlash hword
    rw [behindSlash_append hident, behindSlash_append (slash_not_mem_of_fourLetters hairport)] at hsame
    have hnot := not_runway_of_isSpeedLevel hchange
    rw [hsame, hrunway] at hnot
    cases hnot

theorem not_isAirport_of_climb (rest : List Char) : isAirport ('C' :: '/' :: rest) = false := by
  rw [← Bool.not_eq_true, isAirport_iff]
  rintro (hfour | ⟨airport, runway, hword, hairport, -⟩)
  · exact slash_not_mem_of_fourLetters hfour (List.mem_cons_of_mem _ List.mem_cons_self)
  · have hsame := congrArg beforeSlash hword
    rw [beforeSlash_append (slash_not_mem_of_fourLetters hairport)] at hsame
    have hlength := length_of_fits hairport
    rw [← hsame] at hlength
    cases hlength

end

theorem airport?_text {ident : String} {runway : Option String} (h : (airport ident runway).wellFormed = true) :
    airport? (airport ident runway).text = some (airport ident runway) := by
  rw [wellFormed, Bool.and_eq_true] at h
  obtain ⟨hident, hrunway⟩ := h
  have hslash := slash_not_mem_of_fourLetters hident
  rw [airport?_eq_some_iff]
  cases runway with
  | none =>
    have htext : (airport ident none).text.toList = ident.toList := by simp [RouteToken.text, slashed]
    rw [htext, beforeSlash_of_not_mem hslash, behindSlash_of_not_mem hslash, String.ofList_toList]
    exact ⟨isAirport_iff.2 (.inl hident), rfl⟩
  | some r =>
    have htext : (airport ident (some r)).text.toList = ident.toList ++ '/' :: r.toList := by
      simp [RouteToken.text, slashed]
    have hr : fitsAny runways r.toList = true := hrunway
    have hne : r.toList ≠ [] := by
      intro e
      rw [e] at hr
      exact absurd hr (by decide)
    rw [htext, beforeSlash_append hslash, behindSlash_append hslash, String.ofList_toList, nonEmpty_toList hne]
    exact ⟨isAirport_iff.2 (.inr ⟨_, _, rfl, hident, hr⟩), rfl⟩

theorem airway?_text {token : RouteToken} (h : token.wellFormed = true) (hkind : token.isEnRoute = true) :
    airway? token.text = some token := by
  cases token with
  | airway text =>
    rw [wellFormed, Bool.and_eq_true, bne_iff_ne] at h
    show airway? text = _
    rw [airway?, if_pos h.1, if_neg h.2]
  | direct => decide
  | _ => cases hkind

theorem waypoint?_plain {ident : String} (h : isPoint ident.toList = true) :
    waypoint? ident = .ok (some (.waypoint ident none false)) := by
  have hslash := slash_not_mem_of_isPoint h
  have hsign := climbSign_of_isPoint h []
  rw [List.append_nil] at hsign
  simp [waypoint?, hsign, beforeSlash_of_not_mem hslash, behindSlash_of_not_mem hslash, h]

theorem waypoint?_change {word ident change : String} {climb : Bool} (h : isPoint ident.toList = true)
    (hsign : climbSign word.toList = (climb, ident.toList ++ '/' :: change.toList))
    (hchange : (if climb then isClimb change.toList else isSpeedLevel change.toList) = true) :
    waypoint? word = .ok (some (.waypoint ident (some change) climb)) := by
  have hslash := slash_not_mem_of_isPoint h
  have hne : change.toList ≠ [] := by
    intro e
    rw [e] at hchange
    cases climb <;> exact absurd hchange (by decide)
  simp [waypoint?, hsign, beforeSlash_append hslash, behindSlash_append hslash, h, hne, hchange]

theorem point?_text {token : RouteToken} (h : token.wellFormed = true) (hkind : token.isWaypoint = true) :
    point? token.text = .ok (some token) := by
  cases token with
  | waypoint ident change climb =>
    cases change with
    | none =>
      simp only [wellFormed, Bool.and_eq_true, Bool.not_eq_true', bne_iff_ne] at h
      obtain ⟨⟨⟨rfl, hpoint⟩, -⟩, hfour⟩ := h
      have hairport : isAirport ident.toList = false := by
        rw [← Bool.not_eq_true]
        intro hairport
        rw [fourLetters_of_isAirport_of_isPoint hairport hpoint] at hfour
        cases hfour
      have htext : (waypoint ident none false).text = ident := by simp [RouteToken.text, slashed]
      rw [htext, point?, if_neg (by simp [hairport]), waypoint?_plain hpoint]
    | some change =>
      rw [wellFormed, Bool.and_eq_true] at h
      obtain ⟨hpoint, hchange⟩ := h
      cases climb with
      | false =>
        have htext : (waypoint ident (some change) false).text.toList = ident.toList ++ '/' :: change.toList := by
          simp [RouteToken.text, slashed]
        have hairport := not_isAirport_of_change (slash_not_mem_of_isPoint hpoint) hchange
        have hsign := climbSign_of_isPoint hpoint ('/' :: change.toList)
        rw [← htext] at hairport hsign
        rw [point?, if_neg (by simp [hairport])]
        exact waypoint?_change hpoint (hsign.trans (congrArg _ htext)) hchange
      | true =>
        have htext : (waypoint ident (some change) true).text.toList =
            'C' :: '/' :: (ident.toList ++ '/' :: change.toList) := by
          simp [RouteToken.text, slashed]
        have hairport := not_isAirport_of_climb (ident.toList ++ '/' :: change.toList)
        rw [← htext] at hairport
        rw [point?, if_neg (by simp [hairport])]
        exact waypoint?_change hpoint (by rw [htext]; rfl) hchange
  | _ => cases hkind

/-! ## Words that are not read as anything else -/

theorem speedLevel?_eq_none_iff {word : String} :
    speedLevel? word = none ↔ isSpeedLevel word.toList = false := by
  rw [speedLevel?]
  cases isSpeedLevel word.toList <;> simp

theorem airway?_eq_none_iff {word : String} : airway? word = none ↔ isAirway word.toList = false := by
  rw [airway?]
  cases isAirway word.toList <;> simp

theorem airport?_eq_none_iff {word : String} : airport? word = none ↔ isAirport word.toList = false := by
  rw [airport?]
  cases isAirport word.toList <;> simp

theorem speedLevel?_text {text : String} (h : (speedLevel text).wellFormed = true) :
    speedLevel? (speedLevel text).text = some (speedLevel text) :=
  if_pos h

theorem isAirport_text {ident : String} {runway : Option String} (h : (airport ident runway).wellFormed = true) :
    isAirport (airport ident runway).text.toList = true :=
  (airport?_eq_some_iff.1 (airport?_text h)).1

/-- A waypoint is filed as a point or as a word with a slash. -/
theorem isPoint_or_slash_mem_text {ident : String} {change : Option String} {climb : Bool}
    (h : (waypoint ident change climb).wellFormed = true) :
    (isPoint (waypoint ident change climb).text.toList = true ∧ (waypoint ident change climb).text ≠ "DCT" ∧
        fits (letters 4) (waypoint ident change climb).text.toList = false) ∨
      '/' ∈ (waypoint ident change climb).text.toList := by
  cases change with
  | none =>
    simp only [wellFormed, Bool.and_eq_true, Bool.not_eq_true', bne_iff_ne] at h
    obtain ⟨⟨⟨rfl, hpoint⟩, hname⟩, hfour⟩ := h
    have htext : (waypoint ident none false).text = ident := by simp [RouteToken.text, slashed]
    rw [htext]
    exact .inl ⟨hpoint, hname, hfour⟩
  | some change => exact .inr (by simp [RouteToken.text, slashed])

theorem speedLevel?_text_eq_none {token : RouteToken} (h : token.wellFormed = true)
    (hkind : ∀ text, token ≠ .speedLevel text) : speedLevel? token.text = none := by
  rw [speedLevel?_eq_none_iff, ← Bool.not_eq_true]
  intro hspeed
  cases token with
  | speedLevel text => exact hkind text rfl
  | airport ident runway =>
    have hairport := isAirport_text h
    rw [not_isAirport_of_isSpeedLevel hspeed] at hairport
    cases hairport
  | airway text =>
    rw [wellFormed, Bool.and_eq_true] at h
    rw [RouteToken.text] at hspeed
    rw [not_isAirway_of_isSpeedLevel hspeed] at h
    cases h.1
  | direct => exact absurd hspeed (by decide)
  | waypoint ident change climb =>
    rcases isPoint_or_slash_mem_text h with ⟨hpoint, -, -⟩ | hslash
    · rw [not_isPoint_of_isSpeedLevel hspeed] at hpoint
      cases hpoint
    · exact slash_not_mem_of_isSpeedLevel hspeed hslash

theorem airway?_waypoint_eq_none {token : RouteToken} (h : token.wellFormed = true)
    (hkind : token.isWaypoint = true) : airway? token.text = none := by
  rw [airway?_eq_none_iff, ← Bool.not_eq_true]
  intro hairway
  cases token with
  | waypoint ident change climb =>
    rcases isPoint_or_slash_mem_text h with ⟨hpoint, hname, hfour⟩ | hslash
    · rcases oceanTrack_or_of_isAirway_of_isPoint hairway hpoint with htrack | hdirect
      · rw [fourLetters_of_oceanTrack htrack] at hfour
        cases hfour
      · exact hname (String.toList_inj.1 hdirect)
    · exact slash_not_mem_of_isAirway hairway hslash
  | _ => cases hkind

/-- An airport that is no track is no airway. -/
theorem airway?_airport_eq_none {ident : String} {runway : Option String}
    (h : (airport ident runway).wellFormed = true) (htrack : fits oceanTrack ident.toList = false) :
    airway? (airport ident runway).text = none := by
  rw [airway?_eq_none_iff, ← Bool.not_eq_true]
  intro hairway
  have hword := oceanTrack_of_isAirway_of_isAirport hairway (isAirport_text h)
  cases runway with
  | none =>
    have htext : (airport ident none).text = ident := by simp [RouteToken.text, slashed]
    rw [htext, htrack] at hword
    cases hword
  | some r => exact slash_not_mem_of_isAirway hairway (by simp [RouteToken.text, slashed])

/-! ## Words in any letter case -/

/-- A letter, digit or slash in any letter case is visible, and is its own uppercase form but for the case. -/
theorem visible_of_toUpper {c : Char} (h : mark c.toUpper ≠ .other) :
    isBlank c = false ∧ upperChars c = [c.toUpper] := by
  by_cases ascii : c.toNat < 128
  · have hall : ∀ n, n < 128 → mark (Char.ofNat n).toUpper ≠ .other → isBlank (Char.ofNat n) = false := by
      decide +kernel
    have hc := hall c.toNat ascii
    rw [Char.ofNat_toNat] at hc
    exact ⟨hc h, upperChars_ascii_eq ascii⟩
  · have beyond : 128 ≤ c.toNat := Nat.le_of_not_lt ascii
    rw [toUpper_beyond_ascii beyond] at h ⊢
    have hletter : isUpperLetter c = false := by
      have hZ : 'Z'.toNat = 90 := rfl
      simp only [isUpperLetter, Bool.and_eq_false_iff, decide_eq_false_iff_not]
      omega
    have hslash : c ≠ '/' := by
      rintro rfl
      exact absurd beyond (by decide)
    have hdigit : isDecimalDigit c = true := by
      rw [← Bool.not_eq_false]
      intro hdigit
      exact h (by simp [mark, hletter, hdigit, hslash])
    exact ⟨isBlank_eq_false_of_isDecimalDigit hdigit beyond, upperChars_of_isDecimalDigit hdigit beyond⟩

theorem upper_of_toUpper {word : List Char} (h : ∀ c ∈ word.map Char.toUpper, mark c ≠ .other) :
    upper word = word.map Char.toUpper ∧ ∀ c ∈ word, isBlank c = false := by
  rw [List.forall_mem_map] at h
  refine ⟨?_, fun c hc => (visible_of_toUpper (h c hc)).1⟩
  induction word with
  | nil => rfl
  | cons c word ih =>
    rw [List.forall_mem_cons] at h
    rw [upper_cons, (visible_of_toUpper h.1).2, ih h.2]
    rfl

theorem mark_text_ne_other {token : RouteToken} (h : token.wellFormed = true) :
    ∀ c ∈ token.text.toList, mark c ≠ .other := by
  have hwritten {word : List Char} (h : ∀ c ∈ word, isAlphanumeric c = true) : ∀ c ∈ word, mark c ≠ .other :=
    fun c hc => mark_ne_other_of_isAlphanumeric (h c hc)
  have hplain {word : String} (h : word.toList.all (fun c => mark c ≠ .other) = true) :
      ∀ c ∈ word.toList, mark c ≠ .other := fun c hc => of_decide_eq_true (List.all_eq_true.1 h c hc)
  cases token with
  | speedLevel text => exact hwritten (alphanumeric_of_isSpeedLevel h)
  | airport ident runway => exact mark_ne_of_fitsAny outlined_airports (by decide +kernel) (isAirport_text h)
  | airway text =>
    rw [wellFormed, Bool.and_eq_true] at h
    exact hwritten (alphanumeric_of_isAirway h.1)
  | direct => exact hplain (by decide)
  | waypoint ident change climb =>
    have hsign : ∀ c ∈ (if climb then "C/" else "").toList, mark c ≠ .other := hplain (by cases climb <;> decide)
    simp only [RouteToken.text, String.toList_append, List.forall_mem_append]
    cases change with
    | none =>
      simp only [wellFormed, Bool.and_eq_true] at h
      exact ⟨⟨hsign, hwritten (alphanumeric_of_isPoint h.1.1.2)⟩, by simp [slashed]⟩
    | some change =>
      rw [wellFormed, Bool.and_eq_true] at h
      refine ⟨⟨hsign, hwritten (alphanumeric_of_isPoint h.1)⟩, ?_⟩
      simp only [slashed, String.toList_append, List.forall_mem_append]
      refine ⟨hplain (by decide), ?_⟩
      cases climb with
      | false => exact hwritten (alphanumeric_of_isSpeedLevel h.2)
      | true => exact hwritten (alphanumeric_of_isClimb h.2)

theorem text_ne_nil {token : RouteToken} (h : token.wellFormed = true) : token.text.toList ≠ [] := by
  intro e
  cases token with
  | speedLevel text =>
    rw [wellFormed, show text.toList = [] from e] at h
    exact absurd h (by decide)
  | airport ident runway =>
    have hairport := isAirport_text h
    rw [e] at hairport
    exact absurd hairport (by decide)
  | airway text =>
    rw [wellFormed, Bool.and_eq_true, show text.toList = [] from e] at h
    exact absurd h.1 (by decide)
  | direct => exact absurd e (by decide)
  | waypoint ident change climb =>
    rcases isPoint_or_slash_mem_text h with ⟨hpoint, -, -⟩ | hslash
    · rw [e] at hpoint
      exact absurd hpoint (by decide)
    · rw [e] at hslash
      cases hslash

/-- The text holds the words of the tokens, with blanks between and around them and in any case of their
letters. -/
def WrittenAs (tokens : List RouteToken) (text : String) : Prop :=
  ∃ words, Spaced words text.toList ∧
    words.map (fun word => word.map Char.toUpper) = tokens.map fun token => token.text.toList

theorem words_of_writtenAs {tokens : List RouteToken} {text : String} (h : WrittenAs tokens text)
    (formed : ∀ t ∈ tokens, t.wellFormed = true) : (wordsOf text).map uppercased = tokens.map RouteToken.text := by
  obtain ⟨words, hspaced, htexts⟩ := h
  have hword : ∀ word ∈ words, word ≠ [] ∧ (∀ c ∈ word, isBlank c = false) ∧
      upper word = word.map Char.toUpper := by
    intro word hword
    have htoken : word.map Char.toUpper ∈ tokens.map fun token => token.text.toList :=
      htexts ▸ List.mem_map_of_mem hword
    obtain ⟨token, htoken, htext⟩ := List.mem_map.1 htoken
    have hmarks := mark_text_ne_other (formed token htoken)
    have hne := text_ne_nil (formed token htoken)
    rw [htext] at hmarks hne
    obtain ⟨hupper, hvisible⟩ := upper_of_toUpper hmarks
    exact ⟨fun e => hne (by rw [e]; rfl), hvisible, hupper⟩
  rw [wordsOf, words_of_spaced hspaced fun word hmem => ⟨(hword word hmem).1, (hword word hmem).2.1⟩]
  calc (words.map String.ofList).map uppercased
      = (words.map fun word => word.map Char.toUpper).map String.ofList := by
        simp only [List.map_map]
        refine List.map_congr_left fun word hmem => ?_
        simp only [Function.comp_apply, uppercased, String.toList_ofList, (hword word hmem).2.2]
    _ = tokens.map RouteToken.text := by
        rw [htexts, List.map_map]
        exact List.map_congr_left fun token _ => String.ofList_toList

end Route

end DepartureRules
