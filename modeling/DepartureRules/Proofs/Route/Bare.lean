import DepartureRules.Proofs.Route.RoundTrip
import Mathlib.Data.List.Flatten

/-!
# The bare route of a text

The bare route of a text that is parsed, said of its words instead of its tokens.

* `pointName` is the name of the point in a word that is filed for a waypoint, and `Itinerary.bare` what the words of
  an itinerary add up to;
* `element?` is what a word stands for by itself, whichever part of the route it is;
* `bare_of_parse`: the bare route is what the words add up to. It is what each of them stands for by itself unless
  the word for no airway is filed for a waypoint, where it is taken for the name of a point;
* `direct_in_bare` is such a route.
-/

namespace DepartureRules
open Lexical Text
set_option autoImplicit false

namespace Route
open RouteToken

/-! ## Elements -/

/-- The word without the sign of a climb and without the change of speed and level. -/
def pointName (word : String) : String :=
  String.ofList (beforeSlash (climbSign word.toList).2)

/-- The element that an airway or a waypoint stands for by itself. The word for no airway stands for nothing. -/
def element? (word : String) : Option String :=
  if word = "DCT" then none
  else some (if isAirway word.toList then word else pointName word)

/-- The airway of a leg, unless it is the word for none, and the name of its waypoint. -/
def Leg.bare (leg : Leg String) : List String :=
  leg.airway.toList.filter (· != "DCT") ++ [pointName leg.waypoint]

/-- The airways, other than the word for none, and the names of the waypoints in the order in which they are filed. -/
def Itinerary.bare (it : Itinerary String) : List String :=
  it.legs.flatMap Leg.bare ++ it.last.toList.filter (· != "DCT")

/-! ## Single words -/

section
variable {word : String} {token : RouteToken}

theorem airway?_eq_some_iff :
    airway? word = some token ↔
      isAirway word.toList = true ∧ token = if word = "DCT" then .direct else .airway word := by
  unfold airway?
  cases isAirway word.toList with
  | false => simp
  | true => simp only [if_true, Option.some.injEq, true_and, eq_comm]

theorem speedLevel?_eq_some_iff :
    speedLevel? word = some token ↔ isSpeedLevel word.toList = true ∧ token = .speedLevel word := by
  unfold speedLevel?
  cases isSpeedLevel word.toList with
  | false => simp
  | true => simp only [if_true, Option.some.injEq, true_and, eq_comm]

theorem waypoint_of_point? (h : point? word = .ok (some token)) :
    ∃ change climb, token = .waypoint (pointName word) change climb := by
  unfold point? at h
  split at h
  · cases h
  unfold waypoint? at h
  simp only at h
  split at h
  · generalize hchange : behindSlash (climbSign word.toList).2 = change at h
    generalize hclimb : (climbSign word.toList).1 = climb at h
    generalize hgrammar : (if climb = true then isClimb change else isSpeedLevel change) = grammar at h
    cases hempty : change.isEmpty <;> cases climb <;> cases grammar <;> rw [hempty] at h <;> cases h <;>
      exact ⟨_, _, rfl⟩
  · cases h

theorem bare?_of_airway? (h : airway? word = some token) :
    token.bare? = if word = "DCT" then none else some word := by
  obtain ⟨-, rfl⟩ := airway?_eq_some_iff.1 h
  by_cases hword : word = "DCT" <;> simp [hword, bare?]

theorem isEnRoute_of_airway? (h : airway? word = some token) : token.isEnRoute = true := by
  obtain ⟨-, rfl⟩ := airway?_eq_some_iff.1 h
  by_cases hword : word = "DCT" <;> simp [hword, isEnRoute]

theorem bare?_of_point? (h : point? word = .ok (some token)) : token.bare? = some (pointName word) := by
  obtain ⟨change, climb, rfl⟩ := waypoint_of_point? h
  rfl

/-- An airway has no slash that could be taken for the sign of a climb or for a change. -/
theorem pointName_of_isAirway (h : isAirway word.toList = true) : pointName word = word := by
  have hslash := slash_not_mem_of_isAirway h
  have hsign : climbSign word.toList = (false, word.toList) := by
    unfold climbSign
    split
    · rename_i hword
      exact absurd (hword ▸ List.mem_cons_of_mem _ List.mem_cons_self) hslash
    · rfl
  rw [pointName, hsign, beforeSlash_of_not_mem hslash, String.ofList_toList]

theorem element?_of_isAirway (h : isAirway word.toList = true) :
    element? word = if word = "DCT" then none else some word := by
  simp [element?, h]

theorem element?_of_ne (h : word ≠ "DCT") : element? word = some (pointName word) := by
  cases hairway : isAirway word.toList with
  | false => simp [element?, h, hairway]
  | true => simp [element?, h, hairway, pointName_of_isAirway hairway]

end

/-! ## Itineraries that are read -/

section
variable {it : Itinerary ReadWord} {leg : Leg ReadWord} {part : Option ReadWord} {origin destination : String}

theorem filterMap_bare?_of_airway? (h : ∀ p ∈ part, airway? p.1 = some p.2) :
    (part.map Prod.snd).toList.filterMap bare? = (part.map Prod.fst).toList.filter (· != "DCT") := by
  cases part with
  | none => rfl
  | some p =>
    have hp := bare?_of_airway? (h p rfl)
    by_cases hword : p.1 = "DCT" <;> simp [hp, hword]

theorem filterMap_element?_of_airway? (h : ∀ p ∈ part, airway? p.1 = some p.2) :
    (part.map Prod.fst).toList.filterMap element? = (part.map Prod.fst).toList.filter (· != "DCT") := by
  cases part with
  | none => rfl
  | some p =>
    have hp := element?_of_isAirway (airway?_eq_some_iff.1 (h p rfl)).1
    show [p.1].filterMap element? = [p.1].filter (· != "DCT")
    rw [List.filterMap_cons, hp]
    by_cases hword : p.1 = "DCT" <;> simp [hword]

theorem Leg.Reads.filterMap_bare? (h : leg.Reads) :
    (leg.map Prod.snd).items.filterMap bare? = (leg.map Prod.fst).bare := by
  have hwaypoint : [(leg.map Prod.snd).waypoint].filterMap bare? = [pointName (leg.map Prod.fst).waypoint] := by
    simp [Leg.map, bare?_of_point? h.waypoint]
  rw [Leg.items, Leg.bare, List.filterMap_append, hwaypoint]
  exact congrArg (· ++ _) (filterMap_bare?_of_airway? h.airway)

/-- The words of a leg stand by themselves for its elements, except where the word for no airway is the waypoint. -/
theorem Leg.Reads.filterMap_element? (h : leg.Reads) :
    ((leg.map Prod.fst).items.filterMap element?).Sublist (leg.map Prod.fst).bare ∧
      ((leg.map Prod.fst).items.filterMap element? = (leg.map Prod.fst).bare ↔ leg.waypoint.1 ≠ "DCT") := by
  have hairway : (leg.map Prod.fst).airway.toList.filterMap element? =
      (leg.map Prod.fst).airway.toList.filter (· != "DCT") := filterMap_element?_of_airway? h.airway
  rw [Leg.items, Leg.bare, List.filterMap_append, hairway]
  by_cases hword : leg.waypoint.1 = "DCT"
  · simp [Leg.map, hword, element?]
  · simp [Leg.map, hword, element?_of_ne hword]

theorem Itinerary.Reads.inOrder (h : it.Reads origin destination) :
    (it.map Prod.snd).InOrder origin destination where
  lead := Itinerary.forall_mem_map fun p hp => ⟨p.1, (speedLevel?_eq_some_iff.1 (h.lead p hp)).2⟩
  origin := Itinerary.forall_mem_map fun p hp => (h.origin p hp).2
  speed := Itinerary.forall_mem_map fun p hp => ⟨p.1, (speedLevel?_eq_some_iff.1 (h.speed p hp)).2⟩
  legs := by
    refine List.forall_mem_map.2 fun leg hleg => ?_
    obtain ⟨hairway, hwaypoint, -⟩ := h.legs leg hleg
    obtain ⟨change, climb, hpoint⟩ := waypoint_of_point? hwaypoint
    exact ⟨Itinerary.forall_mem_map fun p hp => isEnRoute_of_airway? (hairway p hp), congrArg isWaypoint hpoint⟩
  last := Itinerary.forall_mem_map fun p hp => isEnRoute_of_airway? (h.last p hp)
  destination := Itinerary.forall_mem_map fun p hp => (h.destination p hp).2

theorem Itinerary.Reads.filterMap_bare? (h : it.Reads origin destination) :
    (it.items.map Prod.snd).filterMap bare? = (it.map Prod.fst).bare := by
  have hlegs : (it.map Prod.snd).legs.map (fun leg => leg.items.filterMap bare?) =
      (it.map Prod.fst).legs.map Leg.bare := by
    simp only [Itinerary.map, List.map_map]
    exact List.map_congr_left fun leg hleg => (h.legs leg hleg).filterMap_bare?
  rw [← Itinerary.items_map, h.inOrder.filterMap_items, Itinerary.enRoute, Itinerary.bare, List.filterMap_append,
    List.filterMap_flatMap, List.flatMap_def, List.flatMap_def, hlegs]
  exact congrArg (_ ++ ·) (filterMap_bare?_of_airway? h.last)

theorem flatMap_eq_iff {α β : Type} {f g : α → List β} {l : List α} (sublist : ∀ a ∈ l, (f a).Sublist (g a)) :
    l.flatMap f = l.flatMap g ↔ ∀ a ∈ l, f a = g a := by
  induction l with
  | nil => simp
  | cons a l ih =>
    rw [List.forall_mem_cons] at sublist ⊢
    rw [← ih sublist.2, List.flatMap_cons, List.flatMap_cons]
    refine ⟨fun h => ?_, fun h => by rw [h.1, h.2]⟩
    have hlength := congrArg List.length h
    rw [List.length_append, List.length_append] at hlength
    -- Neither part of the one list is shorter than its counterpart, so both have the same length.
    have hhead := sublist.1.length_le
    have htail := (List.Sublist.flatMap_right l sublist.2).length_le
    exact List.append_inj h (by omega)

theorem Itinerary.Reads.filterMap_element? (h : it.Reads origin destination) :
    (it.map Prod.fst).bare = (it.map Prod.fst).enRoute.filterMap element? ↔
      ∀ leg ∈ it.legs, leg.waypoint.1 ≠ "DCT" := by
  have hlast : (it.map Prod.fst).last.toList.filterMap element? =
      (it.map Prod.fst).last.toList.filter (· != "DCT") := filterMap_element?_of_airway? h.last
  rw [Itinerary.enRoute, Itinerary.bare, List.filterMap_append, hlast, List.append_left_inj, eq_comm]
  simp only [Itinerary.map, List.filterMap_flatMap, List.flatMap_map]
  rw [flatMap_eq_iff fun leg hleg => (h.legs leg hleg).filterMap_element?.1]
  exact forall₂_congr fun leg hleg => (h.legs leg hleg).filterMap_element?.2

theorem direct_mem_bare_iff (it : Itinerary String) :
    "DCT" ∈ it.bare ↔ ∃ leg ∈ it.legs, pointName leg.waypoint = "DCT" := by
  have hfilter (words : List String) : "DCT" ∉ words.filter (· != "DCT") := by simp
  simp [Itinerary.bare, Leg.bare, List.mem_flatMap, hfilter, eq_comm]

/-- The bare route of a text holds its airways, other than the word for none, and the names of its waypoints in filed
order. The word for no airway is in it exactly if it is the name of a waypoint. Its elements are those that the words
stand for by themselves exactly if that word is nowhere filed for a waypoint. -/
theorem bare_of_parse {text : String} {route : Route} (h : parse text origin destination = .ok route) :
    ∃ it : Itinerary ReadWord, it.Reads origin destination ∧
      it.items.map Prod.fst = (wordsOf text).map uppercased ∧
      route.bare = (it.map Prod.fst).bare ∧
      ("DCT" ∈ route.bare ↔ ∃ leg ∈ it.legs, pointName leg.waypoint.1 = "DCT") ∧
      (route.bare = (it.map Prod.fst).enRoute.filterMap element? ↔ ∀ leg ∈ it.legs, leg.waypoint.1 ≠ "DCT") := by
  obtain ⟨it, hreads, hwords, htokens⟩ := exists_itinerary h
  have hbare : route.bare = (it.map Prod.fst).bare := by
    rw [Route.bare, ← htokens, hreads.filterMap_bare?]
  refine ⟨it, hreads, hwords, hbare, ?_, ?_⟩
  · rw [hbare, direct_mem_bare_iff]
    constructor
    · rintro ⟨_, hmem, hname⟩
      obtain ⟨leg, hleg, rfl⟩ := List.mem_map.1 hmem
      exact ⟨leg, hleg, hname⟩
    · rintro ⟨leg, hleg, hname⟩
      exact ⟨leg.map Prod.fst, List.mem_map_of_mem hleg, hname⟩
  · rw [hbare, hreads.filterMap_element?]

end

def filedText : String :=
  "egll n0450f350 CPT ul9 C/WAL/N0450F350PLUS dct EGCC/23R"

def filedRoute : Route :=
  ⟨[.airport "EGLL" none, .speedLevel "N0450F350", .waypoint "CPT" none false, .airway "UL9",
    .waypoint "WAL" (some "N0450F350PLUS") true, .direct, .airport "EGCC" (some "23R")]⟩

theorem bare_of_filedText :
    parse filedText "EGLL" "EGCC" = .ok filedRoute ∧
    ∃ it : Itinerary ReadWord, it.Reads "EGLL" "EGCC" ∧
      it.items.map Prod.fst = (wordsOf filedText).map uppercased ∧
      filedRoute.bare = (it.map Prod.fst).bare ∧
      ("DCT" ∈ filedRoute.bare ↔ ∃ leg ∈ it.legs, pointName leg.waypoint.1 = "DCT") ∧
      (filedRoute.bare = (it.map Prod.fst).enRoute.filterMap element? ↔
        ∀ leg ∈ it.legs, leg.waypoint.1 ≠ "DCT") :=
  have hparse : parse filedText "EGLL" "EGCC" = .ok filedRoute := by decide +kernel
  ⟨hparse, bare_of_parse hparse⟩

/-- The word for no airway, filed where a waypoint has to follow it. -/
theorem direct_in_bare : ∃ route, parse "CPT DCT DCT WAL" "EGLL" "EGCC" = .ok route ∧ "DCT" ∈ route.bare :=
  ⟨⟨[.waypoint "CPT" none false, .direct, .waypoint "DCT" none false, .waypoint "WAL" none false]⟩,
    by decide +kernel, by decide +kernel⟩

end Route

end DepartureRules
