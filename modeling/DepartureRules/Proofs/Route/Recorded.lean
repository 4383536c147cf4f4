import DepartureRules.Proofs.Route.Bare
import Mathlib.Data.List.Forall2

/-!
# What is recorded of the words of a route

A route that is read has a token for every word, and the token is written as the word. One thing is lost: a slash
behind a waypoint with nothing behind the slash.

* `RouteToken.isLexical`: every part of a token is in its lexical class, a change in the one that its sign asks for;
* `Recorded` says what a token records of its word, and `recorded_of_speedLevel?`, `recorded_of_airport?`,
  `recorded_of_airway?` and `recorded_of_point?` that every way to read a word records it;
* `text_of_parse`: the words of a text and the tokens of its route, one beside the other;
* `slash_lost` is a route with a word that is not written again.
-/

namespace DepartureRules
open Lexical Text
set_option autoImplicit false

/-- The parts of a token are in their lexical classes. A climb has a change, and its change is the one of a climb. -/
def RouteToken.isLexical : RouteToken → Bool
  | .speedLevel text => isSpeedLevel text.toList
  | .airport ident runway => fits (letters 4) ident.toList && runway.all fun r => fitsAny runways r.toList
  | .airway text => isAirway text.toList && text != "DCT"
  | .direct => true
  | .waypoint ident none climb => isPoint ident.toList && !climb
  | .waypoint ident (some change) climb =>
    isPoint ident.toList && if climb then isClimb change.toList else isSpeedLevel change.toList

namespace Route
open RouteToken

/-- The word ends in a slash. -/
def EndsInSlash (word : String) : Prop :=
  word.toList.getLast? = some '/'

/-- The token is written as the word, unless this ends in a slash. Then the token is a waypoint without a change, and
the word is written as the waypoint and a slash. -/
structure Recorded (word : String) (token : RouteToken) : Prop where
  lexical : token.isLexical = true
  whole : ¬EndsInSlash word → token.text = word
  cut : EndsInSlash word → ∃ ident, token = .waypoint ident none false ∧ ident ++ "/" = word

/-! ## Slashes at the end -/

section
variable {word rest : List Char}

theorem getLast?_ne_slash (h : '/' ∉ word) : word.getLast? ≠ some '/' :=
  fun e => h (List.mem_of_getLast? e)

theorem getLast?_append_slash (hne : rest ≠ []) (h : '/' ∉ rest) : (word ++ '/' :: rest).getLast? ≠ some '/' := by
  have hlast : (word ++ '/' :: rest).getLast? = rest.getLast? := by
    rw [List.getLast?_append_of_ne_nil _ (List.cons_ne_nil _ _), List.getLast?_cons]
    cases hrest : rest.getLast? with
    | none => exact absurd (List.getLast?_eq_none_iff.1 hrest) hne
    | some c => rfl
  rw [hlast]
  exact getLast?_ne_slash h

/-- A word is what stands before its first slash, the slash and what stands behind it. -/
theorem slash_cases (word : List Char) :
    beforeSlash word = word ∧ behindSlash word = [] ∨ word = beforeSlash word ++ '/' :: behindSlash word := by
  have hsplit : beforeSlash word ++ word.dropWhile (· != '/') = word := List.takeWhile_append_dropWhile
  cases hrest : word.dropWhile (· != '/') with
  | nil =>
    rw [hrest, List.append_nil] at hsplit
    exact .inl ⟨hsplit, by rw [behindSlash, hrest]; rfl⟩
  | cons c rest =>
    have hc : c = '/' := by
      have hhead := List.head?_dropWhile_not (· != '/') word
      rw [hrest] at hhead
      simpa using hhead
    have hbehind : behindSlash word = rest := by rw [behindSlash, hrest]; rfl
    rw [hrest, hc] at hsplit
    exact .inr (by rw [hbehind, hsplit])

theorem climbSign_append (word : List Char) :
    word = (if (climbSign word).1 then ['C', '/'] else []) ++ (climbSign word).2 := by
  unfold climbSign
  split <;> rfl

end

section
variable {word : String} {token : RouteToken}

/-! ## Words that are recorded -/

theorem recorded_of_not_mem (hlexical : token.isLexical = true) (hslash : '/' ∉ word.toList)
    (htext : token.text = word) : Recorded word token where
  lexical := hlexical
  whole := fun _ => htext
  cut := fun hend => absurd hend (getLast?_ne_slash hslash)

theorem recorded_of_speedLevel? (h : speedLevel? word = some token) : Recorded word token := by
  obtain ⟨hspeed, rfl⟩ := speedLevel?_eq_some_iff.1 h
  exact recorded_of_not_mem hspeed (slash_not_mem_of_isSpeedLevel hspeed) rfl

theorem recorded_of_airway? (h : airway? word = some token) : Recorded word token := by
  obtain ⟨hairway, rfl⟩ := airway?_eq_some_iff.1 h
  have hslash := slash_not_mem_of_isAirway hairway
  by_cases hword : word = "DCT"
  · rw [if_pos hword]
    exact recorded_of_not_mem rfl hslash hword.symm
  · rw [if_neg hword]
    refine recorded_of_not_mem ?_ hslash rfl
    simp only [isLexical, hairway, Bool.true_and, bne_iff_ne]
    exact hword

theorem recorded_of_airport? (h : airport? word = some token) : Recorded word token := by
  obtain ⟨hairport, rfl⟩ := airport?_eq_some_iff.1 h
  rcases isAirport_iff.1 hairport with hfour | ⟨ident, runway, hword, hident, hrunway⟩
  · have hslash := slash_not_mem_of_fourLetters hfour
    rw [beforeSlash_of_not_mem hslash, behindSlash_of_not_mem hslash, String.ofList_toList]
    refine recorded_of_not_mem ?_ hslash ?_
    · simpa [isLexical, nonEmpty] using hfour
    · simp [RouteToken.text, nonEmpty, slashed]
  · have hslash := slash_not_mem_of_fourLetters hident
    have hne : runway ≠ [] := by
      rintro rfl
      exact absurd hrunway (by decide)
    rw [hword, beforeSlash_append hslash, behindSlash_append hslash]
    have hsome : nonEmpty runway = some (String.ofList runway) := by simp [nonEmpty, hne]
    refine ⟨?_, fun _ => ?_, fun hend => ?_⟩
    · simp [isLexical, hsome, hident, hrunway]
    · rw [← String.toList_inj, hword, hsome]
      simp [RouteToken.text, slashed]
    · rw [EndsInSlash, hword] at hend
      exact absurd hend (getLast?_append_slash hne (slash_not_mem_of_runway hrunway))

/-- What is read as a waypoint is a point, possibly with a slash behind it, or a point with a change. -/
theorem waypoint?_cases (h : waypoint? word = .ok (some token)) :
    ∃ ident : List Char, isPoint ident = true ∧
      (token = .waypoint (String.ofList ident) none false ∧
          (word.toList = ident ∨ word.toList = ident ++ ['/']) ∨
        ∃ climb change, (if climb then isClimb change else isSpeedLevel change) = true ∧ change ≠ [] ∧
          token = .waypoint (String.ofList ident) (some (String.ofList change)) climb ∧
          word.toList = (if climb then ['C', '/'] else []) ++ (ident ++ '/' :: change)) := by
  have hword := climbSign_append word.toList
  unfold waypoint? at h
  generalize climbSign word.toList = signed at h hword
  obtain ⟨climb, body⟩ := signed
  simp only at h hword
  split at h
  · rename_i hpoint
    refine ⟨beforeSlash body, hpoint, ?_⟩
    by_cases hempty : behindSlash body = []
    · cases climb with
      | true => simp [hempty] at h
      | false =>
        simp only [hempty, List.isEmpty_nil, if_true, Bool.false_eq_true, if_false] at h
        cases h
        refine .inl ⟨rfl, ?_⟩
        rw [hword]
        rcases slash_cases body with ⟨hbody, -⟩ | hbody
        · exact .inl hbody.symm
        · rw [hempty] at hbody
          exact .inr hbody
    · have hfalse : (behindSlash body).isEmpty = false := by simpa using hempty
      simp only [hfalse, Bool.false_eq_true, if_false] at h
      generalize hgrammar : (if climb = true then isClimb (behindSlash body) else isSpeedLevel (behindSlash body)) =
        grammar at h
      cases grammar with
      | false => cases h
      | true =>
        cases h
        refine .inr ⟨climb, behindSlash body, hgrammar, hempty, rfl, ?_⟩
        rcases slash_cases body with ⟨-, hbehind⟩ | hbody
        · exact absurd hbehind hempty
        · rw [← hbody, hword]
  · cases h

theorem recorded_of_point? (h : point? word = .ok (some token)) : Recorded word token := by
  have hwaypoint : waypoint? word = .ok (some token) := by
    unfold point? at h
    split at h
    · cases h
    · exact h
  obtain ⟨ident, hpoint, ⟨rfl, hword⟩ | ⟨climb, change, hchange, hne, rfl, hword⟩⟩ := waypoint?_cases hwaypoint
  · have hslash := slash_not_mem_of_isPoint hpoint
    have hlexical : (waypoint (String.ofList ident) none false).isLexical = true := by simp [isLexical, hpoint]
    rcases hword with rfl | hword
    · refine recorded_of_not_mem hlexical hslash ?_
      simp [RouteToken.text, slashed]
    · refine ⟨hlexical, fun hend => absurd ?_ hend, fun _ => ⟨_, rfl, ?_⟩⟩
      · rw [EndsInSlash, hword, List.getLast?_concat]
      · rw [← String.toList_inj, hword]
        simp
  · refine ⟨?_, fun _ => ?_, fun hend => ?_⟩
    · simpa [isLexical, hpoint] using hchange
    · rw [← String.toList_inj, hword]
      cases climb <;> simp [RouteToken.text, slashed]
    · have hslash : '/' ∉ change := by
        cases climb with
        | false => exact slash_not_mem_of_isSpeedLevel hchange
        | true => exact slash_not_mem_of_isClimb hchange
      rw [EndsInSlash, hword, ← List.append_assoc] at hend
      exact absurd hend (getLast?_append_slash hne hslash)

end

/-! ## Whole routes -/

theorem Itinerary.Reads.recorded {it : Itinerary ReadWord} {origin destination : String}
    (h : it.Reads origin destination) : ∀ p ∈ it.items, Recorded p.1 p.2 := by
  refine Itinerary.forall_mem_items.2 ⟨?_, ?_, ?_, Itinerary.forall_mem_afterSpeed.2
    ⟨Itinerary.forall_mem_enRoute.2 ⟨fun leg hleg => ?_, ?_⟩, ?_⟩⟩
  · exact fun p hp => recorded_of_speedLevel? (h.lead p hp)
  · exact fun p hp => recorded_of_airport? (h.origin p hp).1
  · exact fun p hp => recorded_of_speedLevel? (h.speed p hp)
  · have hread := h.legs leg hleg
    exact Itinerary.forall_mem_items_leg.2
      ⟨fun p hp => recorded_of_airway? (hread.airway p hp), recorded_of_point? hread.waypoint⟩
  · exact fun p hp => recorded_of_airway? (h.last p hp)
  · exact fun p hp => recorded_of_airport? (h.destination p hp).1

theorem Recorded.text_eq_iff {word : String} {token : RouteToken} (h : Recorded word token) :
    token.text = word ↔ ¬EndsInSlash word := by
  refine ⟨fun htext hend => ?_, h.whole⟩
  obtain ⟨ident, rfl, rfl⟩ := h.cut hend
  have hlength := congrArg String.length htext
  simp [RouteToken.text, slashed] at hlength

theorem map_text_eq_iff {words : List String} {tokens : List RouteToken} (h : List.Forall₂ Recorded words tokens) :
    tokens.map RouteToken.text = words ↔ ∀ word ∈ words, ¬EndsInSlash word := by
  induction h with
  | nil => simp
  | cons head tail ih => rw [List.map_cons, List.cons.injEq, List.forall_mem_cons, head.text_eq_iff, ih]

section
variable {text origin destination : String} {route : Route}

/-- Every word of a text that is read is recorded by the token in its place. -/
theorem forall₂_recorded (h : parse text origin destination = .ok route) :
    List.Forall₂ Recorded ((wordsOf text).map uppercased) route.tokens := by
  obtain ⟨it, hreads, hwords, htokens⟩ := exists_itinerary h
  rw [← hwords, ← htokens, List.forall₂_map_left_iff, List.forall₂_map_right_iff, List.forall₂_same]
  exact hreads.recorded

theorem isLexical_of_parse (h : parse text origin destination = .ok route) :
    ∀ token ∈ route.tokens, token.isLexical = true := by
  intro token htoken
  obtain ⟨it, hreads, -, htokens⟩ := exists_itinerary h
  rw [← htokens] at htoken
  obtain ⟨p, hp, rfl⟩ := List.mem_map.1 htoken
  exact (hreads.recorded p hp).lexical

/-- A route that is read has a token for every word of its text, in order. A token is written as its word in uppercase,
unless the word ends in a slash: then it is a waypoint without a change, and the word is the waypoint and the slash. So
all words are written again exactly if none of them ends in a slash. Every change that is recorded is one. -/
theorem text_of_parse (h : parse text origin destination = .ok route) :
    route.tokens.length = (wordsOf text).length ∧
      List.Forall₂ Recorded ((wordsOf text).map uppercased) route.tokens ∧
      (route.tokens.map RouteToken.text = (wordsOf text).map uppercased ↔
        ∀ word ∈ (wordsOf text).map uppercased, ¬EndsInSlash word) ∧
      ∀ ident change climb, .waypoint ident (some change) climb ∈ route.tokens →
        (if climb then isClimb change.toList else isSpeedLevel change.toList) = true := by
  have hrecorded := forall₂_recorded h
  refine ⟨?_, hrecorded, map_text_eq_iff hrecorded, fun ident change climb htoken => ?_⟩
  · rw [← hrecorded.length_eq, List.length_map]
  · have hlexical := isLexical_of_parse h _ htoken
    rw [isLexical, Bool.and_eq_true] at hlexical
    exact hlexical.2

end

/-- A text with a word for every kind of token, and with a slash behind a waypoint. -/
def slashedText : String :=
  "n0450f350 egll/27r CPT/N0440F300 l9 WAL/ dct C/KENET/N0450F350PLUS egcc"

def slashedRoute : Route :=
  ⟨[.speedLevel "N0450F350", .airport "EGLL" (some "27R"), .waypoint "CPT" (some "N0440F300") false, .airway "L9",
    .waypoint "WAL" none false, .direct, .waypoint "KENET" (some "N0450F350PLUS") true, .airport "EGCC" none]⟩

theorem text_of_slashedText :
    parse slashedText "EGLL" "EGCC" = .ok slashedRoute ∧
      slashedRoute.tokens.length = (wordsOf slashedText).length ∧
      List.Forall₂ Recorded ((wordsOf slashedText).map uppercased) slashedRoute.tokens ∧
      (slashedRoute.tokens.map RouteToken.text = (wordsOf slashedText).map uppercased ↔
        ∀ word ∈ (wordsOf slashedText).map uppercased, ¬EndsInSlash word) ∧
      ∀ ident change climb, .waypoint ident (some change) climb ∈ slashedRoute.tokens →
        (if climb then isClimb change.toList else isSpeedLevel change.toList) = true :=
  have hparse : parse slashedText "EGLL" "EGCC" = .ok slashedRoute := by decide +kernel
  ⟨hparse, text_of_parse hparse⟩

/-- A slash with nothing behind it is taken with the waypoint before it and is not written again. -/
theorem slash_lost : ∃ route, parse "CPT/ WAL" "EGLL" "EGCC" = .ok route ∧
    route.tokens.map RouteToken.text = ["CPT", "WAL"] ∧ (wordsOf "CPT/ WAL").map uppercased = ["CPT/", "WAL"] :=
  ⟨⟨[.waypoint "CPT" none false, .waypoint "WAL" none false]⟩, by decide +kernel, by decide +kernel, by decide +kernel⟩

end Route

end DepartureRules
