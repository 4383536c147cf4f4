import DepartureRules.Proofs.Route.Written

/-!
# Routes that are written and read

A route whose tokens keep to their own grammars and stand in the order of filing is read back from its words.

* `Itinerary.InOrder` is the order of the tokens;
* `InOrder.reads`: their words are read part by part, and `InOrder.filterMap_items`: only the airways and waypoints
  among them are in the bare route;
* `parse_text`: however the words are spaced and in whichever case their letters are, the route is read.
-/

namespace DepartureRules
open Lexical Text
set_option autoImplicit false

namespace Route
open RouteToken

/-! ## Tokens in order -/

/-- Every part of the itinerary holds a token of its kind. -/
structure Itinerary.InOrder (it : Itinerary RouteToken) (origin destination : String) : Prop where
  lead : ∀ t ∈ it.lead, ∃ text, t = .speedLevel text
  origin : ∀ t ∈ it.origin, ∃ runway, t = .airport origin runway
  speed : ∀ t ∈ it.speed, ∃ text, t = .speedLevel text
  legs : ∀ leg ∈ it.legs, (∀ t ∈ leg.airway, t.isEnRoute = true) ∧ leg.waypoint.isWaypoint = true
  last : ∀ t ∈ it.last, t.isEnRoute = true
  destination : ∀ t ∈ it.destination, ∃ runway, t = .airport destination runway

/-- The tokens behind a speed and level at their head, if one stands there. -/
def behindSpeedLevel : List RouteToken → List RouteToken
  | .speedLevel _ :: tokens => tokens
  | tokens => tokens

/-- A token beside its word. -/
def withText (t : RouteToken) : ReadWord :=
  (t.text, t)

/-- A speed and level at the head of the route is its lead, whether or not it is meant so. -/
def Itinerary.advanced (it : Itinerary RouteToken) : Itinerary RouteToken :=
  match it.lead, it.origin with
  | none, none => { it with lead := it.speed, speed := none }
  | _, _ => it

section
variable {it : Itinerary RouteToken} {origin destination : String}

theorem items_advanced (it : Itinerary RouteToken) : it.advanced.items = it.items := by
  unfold Itinerary.advanced
  split
  · rename_i hlead horigin
    simp [Itinerary.items, Itinerary.afterLead, Itinerary.afterOrigin, Itinerary.afterSpeed, Itinerary.enRoute,
      hlead, horigin]
  · rfl

theorem origin_advanced (it : Itinerary RouteToken) : it.advanced.origin = it.origin := by
  unfold Itinerary.advanced
  split <;> rfl

theorem Itinerary.InOrder.advanced (h : it.InOrder origin destination) : it.advanced.InOrder origin destination := by
  unfold Itinerary.advanced
  split
  · exact ⟨h.speed, h.origin, nofun, h.legs, h.last, h.destination⟩
  · exact h

theorem speed_advanced (hlead : it.advanced.lead = none) (horigin : it.origin = none) :
    it.advanced.speed = none := by
  cases hit : it.lead with
  | none => simp only [Itinerary.advanced, hit, horigin]
  | some t =>
    simp only [Itinerary.advanced, hit] at hlead
    cases hlead

theorem Itinerary.InOrder.ne_speedLevel (h : it.InOrder origin destination) :
    ∀ t ∈ it.afterSpeed, ∀ text, t ≠ .speedLevel text := by
  have henRoute : ∀ t : RouteToken, t.isEnRoute = true → ∀ text, t ≠ .speedLevel text := by
    rintro t ht text rfl
    cases ht
  refine Itinerary.forall_mem_afterSpeed.2 ⟨Itinerary.forall_mem_enRoute.2 ⟨fun leg hleg => ?_, ?_⟩, ?_⟩
  · obtain ⟨hairway, hwaypoint⟩ := h.legs leg hleg
    refine Itinerary.forall_mem_items_leg.2 ⟨fun t ht => henRoute t (hairway t ht), fun text htext => ?_⟩
    rw [htext] at hwaypoint
    cases hwaypoint
  · exact fun t ht => henRoute t (h.last t ht)
  · intro t ht text htext
    obtain ⟨runway, hairport⟩ := h.destination t ht
    rw [hairport] at htext
    cases htext

/-- The first word of a row of tokens is that of its first token. -/
theorem forall_head?_withText {tokens : List RouteToken} {P : String → Prop} (h : ∀ t ∈ tokens.head?, P t.text) :
    ∀ w ∈ ((tokens.map withText).map Prod.fst).head?, P w := by
  intro w hw
  rw [List.map_map, List.head?_map] at hw
  obtain ⟨t, ht, rfl⟩ := Option.map_eq_some_iff.1 hw
  exact h t ht

/-- Tokens in order that keep to their grammars are read from their words, if the lead is taken first and no
other word passes for the origin. -/
theorem Itinerary.InOrder.reads (h : it.InOrder origin destination)
    (formed : ∀ t ∈ it.items, t.wellFormed = true) (hnext : it.lead = none → it.origin = none → it.speed = none)
    (hne : it.afterLead ≠ [])
    (hfirst : it.origin = none → ∀ t ∈ it.afterOrigin.head?, isAirport t.text.toList = false)
    (htrack : fits oceanTrack destination.toList = false) :
    (it.map withText).Reads origin destination := by
  obtain ⟨hlead, horigin, hspeed, hafter⟩ := Itinerary.forall_mem_items.1 formed
  obtain ⟨henRoute, hdestination⟩ := Itinerary.forall_mem_afterSpeed.1 hafter
  obtain ⟨hlegs, hlast⟩ := Itinerary.forall_mem_enRoute.1 henRoute
  have hspeedLevel : ∀ t ∈ it.afterSpeed.head?, speedLevel? t.text = none := fun t ht =>
    have hmem := List.mem_of_mem_head? ht
    speedLevel?_text_eq_none (hafter t hmem) (h.ne_speedLevel t hmem)
  exact {
    lead := Itinerary.forall_mem_map fun t ht => by
      obtain ⟨text, rfl⟩ := h.lead t ht
      exact speedLevel?_text (hlead _ ht)
    no_lead := fun hnone => by
      rw [Itinerary.afterLead_map]
      refine forall_head?_withText fun t ht => ?_
      cases horigin? : it.origin with
      | none =>
        have hnospeed := hnext (Option.map_eq_none_iff.1 hnone) horigin?
        rw [Itinerary.afterLead, Itinerary.afterOrigin, horigin?, hnospeed] at ht
        exact hspeedLevel t ht
      | some token =>
        rw [Itinerary.afterLead, horigin?] at ht
        cases ht
        obtain ⟨runway, rfl⟩ := h.origin t horigin?
        exact speedLevel?_text_eq_none (horigin _ horigin?) fun text e => by cases e
    afterLead_ne_nil := by
      rw [Itinerary.afterLead_map]
      exact fun e => hne (List.map_eq_nil_iff.1 e)
    origin := Itinerary.forall_mem_map fun t ht => by
      obtain ⟨runway, rfl⟩ := h.origin t ht
      exact ⟨airport?_text (horigin _ ht), runway, rfl⟩
    no_origin := fun hnone => by
      rw [Itinerary.afterOrigin_map]
      refine forall_head?_withText fun t ht => ?_
      exact airport?_eq_none_iff.2 (hfirst (Option.map_eq_none_iff.1 hnone) t ht)
    speed := Itinerary.forall_mem_map fun t ht => by
      obtain ⟨text, rfl⟩ := h.speed t ht
      exact speedLevel?_text (hspeed _ ht)
    no_speed := fun _ => by
      rw [Itinerary.afterSpeed_map]
      exact forall_head?_withText hspeedLevel
    legs := List.forall_mem_map.2 fun leg hleg => by
      obtain ⟨hairway, hwaypoint⟩ := h.legs leg hleg
      obtain ⟨hairway', hwaypoint'⟩ := Itinerary.forall_mem_items_leg.1 (hlegs leg hleg)
      exact ⟨Itinerary.forall_mem_map fun t ht => airway?_text (hairway' t ht) (hairway t ht),
        point?_text hwaypoint' hwaypoint, fun _ => airway?_waypoint_eq_none hwaypoint' hwaypoint⟩
    last := Itinerary.forall_mem_map fun t ht => airway?_text (hlast t ht) (h.last t ht)
    no_last := fun _ w hw => by
      obtain ⟨p, hp, rfl⟩ := List.mem_map.1 (List.mem_of_mem_head? hw)
      obtain ⟨t, ht, rfl⟩ := Option.map_eq_some_iff.1 (Option.mem_toList.1 hp)
      obtain ⟨runway, rfl⟩ := h.destination t ht
      exact airway?_airport_eq_none (hdestination _ ht) htrack
    destination := Itinerary.forall_mem_map fun t ht => by
      obtain ⟨runway, rfl⟩ := h.destination t ht
      exact ⟨airport?_text (hdestination _ ht), runway, rfl⟩ }

theorem Itinerary.InOrder.behindSpeedLevel_items (h : it.InOrder origin destination)
    (hnext : it.lead = none → it.origin = none → it.speed = none) : behindSpeedLevel it.items = it.afterLead := by
  cases hlead : it.lead with
  | some t =>
    obtain ⟨text, rfl⟩ := h.lead t hlead
    rw [Itinerary.items, hlead]
    rfl
  | none =>
    have hhead : ∀ t ∈ it.afterLead.head?, ∀ text, t ≠ .speedLevel text := by
      intro t ht
      cases horigin : it.origin with
      | none =>
        rw [Itinerary.afterLead, Itinerary.afterOrigin, horigin, hnext hlead horigin] at ht
        exact h.ne_speedLevel t (List.mem_of_mem_head? ht)
      | some token =>
        rw [Itinerary.afterLead, horigin] at ht
        cases ht
        obtain ⟨runway, rfl⟩ := h.origin t horigin
        intro text e
        cases e
    rw [Itinerary.items, hlead]
    show behindSpeedLevel it.afterLead = it.afterLead
    cases hafter : it.afterLead with
    | nil => rfl
    | cons t tokens =>
      rw [hafter] at hhead
      cases t with
      | speedLevel text => exact absurd rfl (hhead _ rfl text)
      | _ => rfl

/-- Only airways and waypoints are in the bare route. -/
theorem Itinerary.InOrder.filterMap_items (h : it.InOrder origin destination) :
    it.items.filterMap bare? = it.enRoute.filterMap bare? := by
  have hnone {part : Option RouteToken} (hpart : ∀ t ∈ part, t.bare? = none) : part.toList.filterMap bare? = [] :=
    List.filterMap_eq_nil_iff.2 fun t ht => hpart t (Option.mem_toList.1 ht)
  have hlead : it.lead.toList.filterMap bare? = [] := hnone fun t ht => by
    obtain ⟨text, rfl⟩ := h.lead t ht
    rfl
  have horigin : it.origin.toList.filterMap bare? = [] := hnone fun t ht => by
    obtain ⟨runway, rfl⟩ := h.origin t ht
    rfl
  have hspeed : it.speed.toList.filterMap bare? = [] := hnone fun t ht => by
    obtain ⟨text, rfl⟩ := h.speed t ht
    rfl
  have hdestination : it.destination.toList.filterMap bare? = [] := hnone fun t ht => by
    obtain ⟨runway, rfl⟩ := h.destination t ht
    rfl
  simp only [Itinerary.items, Itinerary.afterLead, Itinerary.afterOrigin, Itinerary.afterSpeed,
    List.filterMap_append, hlead, horigin, hspeed, hdestination, List.nil_append, List.append_nil]

/-- Tokens in the order of filing that keep to their grammars are read back from their words, however these are
spaced and in whichever case their letters are. At least one of them stands behind a speed and level at the
head; where no origin is filed the first of those is not written as an airport; and the destination has not the
name of a track. -/
theorem parse_text {text : String} (order : it.InOrder origin destination)
    (formed : ∀ t ∈ it.items, t.wellFormed = true) (nonempty : behindSpeedLevel it.items ≠ [])
    (first : it.origin = none → ∀ t ∈ (behindSpeedLevel it.items).head?, isAirport t.text.toList = false)
    (track : fits oceanTrack destination.toList = false) (written : WrittenAs it.items text) :
    ∃ route, parse text origin destination = .ok route ∧ route.tokens = it.items ∧
      route.bare = it.enRoute.filterMap bare? := by
  refine ⟨⟨it.items⟩, ?_, rfl, order.filterMap_items⟩
  have hitems := items_advanced it
  have horigin := origin_advanced it
  have hnext : it.advanced.lead = none → it.advanced.origin = none → it.advanced.speed = none := fun hlead hnone =>
    speed_advanced hlead (horigin ▸ hnone)
  have hbehind : behindSpeedLevel it.items = it.advanced.afterLead := by
    rw [← hitems]
    exact order.advanced.behindSpeedLevel_items hnext
  rw [hbehind] at nonempty first
  have hfirst : it.advanced.origin = none →
      ∀ t ∈ it.advanced.afterOrigin.head?, isAirport t.text.toList = false := by
    intro hnone
    have hafter : it.advanced.afterLead = it.advanced.afterOrigin := by rw [Itinerary.afterLead, hnone]; rfl
    rw [← hafter]
    exact first (horigin ▸ hnone)
  have hread := ofWords_itinerary (order.advanced.reads (hitems ▸ formed) hnext nonempty hfirst track)
  rw [Itinerary.items_map, hitems, List.map_map, List.map_map] at hread
  rw [parse, words_of_writtenAs written formed]
  refine hread.trans ?_
  rw [show Prod.snd ∘ withText = id from rfl, List.map_id]

end

/-- A route with every kind of token. -/
def fullItinerary : Itinerary RouteToken where
  lead := some (.speedLevel "N0450F350")
  origin := some (.airport "EGLL" (some "27R"))
  speed := none
  legs := [
    ⟨some (.airway "NATB"), .waypoint "CPT" (some "N0440F300") false⟩,
    ⟨some .direct, .waypoint "DCT" (some "M082F350") false⟩,
    ⟨none, .waypoint "WAL" (some "N0450F350PLUS") true⟩,
    ⟨none, .waypoint "5030N00512W" none false⟩]
  last := some (.airway "UL9")
  destination := some (.airport "EGCC" none)

def fullText : String :=
  "\tn0450f350 EGLL/27r natb cpt/N0440F300 \n dct Dct/m082f350 c/wal/N0450F350plus 5030n00512W\u00a0ul9 egcc "

theorem fullText_writtenAs : WrittenAs fullItinerary.items fullText := by
  have htext : fullText.toList = ['\t'] ++ ("n0450f350".toList ++ ([' '] ++ ("EGLL/27r".toList ++ ([' '] ++
      ("natb".toList ++ ([' '] ++ ("cpt/N0440F300".toList ++ ([' ', '\n', ' '] ++ ("dct".toList ++ ([' '] ++
      ("Dct/m082f350".toList ++ ([' '] ++ ("c/wal/N0450F350plus".toList ++ ([' '] ++
      ("5030n00512W".toList ++ (['\u00a0'] ++ ("ul9".toList ++ ([' '] ++ ("egcc".toList ++
      [' ']))))))))))))))))))) := by decide +kernel
  refine ⟨["n0450f350".toList, "EGLL/27r".toList, "natb".toList, "cpt/N0440F300".toList, "dct".toList,
    "Dct/m082f350".toList, "c/wal/N0450F350plus".toList, "5030n00512W".toList, "ul9".toList, "egcc".toList], ?_, ?_⟩
  · rw [htext]
    refine .word_of_all (by decide) (by decide) ?_
    refine .word_of_all (by decide) (by decide) ?_
    refine .word_of_all (by decide) (by decide) ?_
    refine .word_of_all (by decide) (by decide) ?_
    refine .word_of_all (by decide) (by decide) ?_
    refine .word_of_all (by decide) (by decide) ?_
    refine .word_of_all (by decide) (by decide) ?_
    refine .word_of_all (by decide) (by decide) ?_
    refine .word_of_all (by decide) (by decide) ?_
    refine .word_of_all (by decide) (by decide) ?_
    exact .blanks (List.all_eq_true.1 (by decide))
  · decide +kernel

theorem fullItinerary_inOrder : fullItinerary.InOrder "EGLL" "EGCC" where
  lead := by
    rintro _ ⟨⟩
    exact ⟨_, rfl⟩
  origin := by
    rintro _ ⟨⟩
    exact ⟨_, rfl⟩
  speed := nofun
  legs := by decide
  last := by decide
  destination := by
    rintro _ ⟨⟩
    exact ⟨_, rfl⟩

/-- Read back from mixed case and from blanks of three kinds. -/
theorem parse_fullText : (fullItinerary.InOrder "EGLL" "EGCC" ∧ WrittenAs fullItinerary.items fullText) ∧
    ∃ route, parse fullText "EGLL" "EGCC" = .ok route ∧ route.tokens = fullItinerary.items ∧
      route.bare = ["NATB", "CPT", "DCT", "WAL", "5030N00512W", "UL9"] :=
  ⟨⟨fullItinerary_inOrder, fullText_writtenAs⟩,
    parse_text fullItinerary_inOrder (by decide +kernel) (by decide) nofun (by decide +kernel) fullText_writtenAs⟩

end Route

end DepartureRules
