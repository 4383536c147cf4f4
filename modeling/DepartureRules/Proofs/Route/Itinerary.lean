import DepartureRules.Route.Parser

/-!
# The parts of a filed route

A route is filed in parts that stand in a fixed order:

    [speed/level] [origin] [speed/level] { [airway] waypoint } [airway] [destination]

* `Itinerary` holds the parts, and `Itinerary.items` lists them in order;
* `Leg.Reads` and `Itinerary.Reads` say that every word is read as the token beside it, and in the first part
  where it can be read;
* `ofWords_eq_ok_iff`: the words that are parsed are those of such an itinerary, and the tokens are its tokens.
-/

namespace DepartureRules.Route
set_option autoImplicit false

/-! ## Itineraries -/

/-- A waypoint with the airway that leads to it. -/
structure Leg (α : Type) where
  airway : Option α
  waypoint : α

/-- The parts of a route. -/
structure Itinerary (α : Type) where
  /-- The speed and level before everything else. -/
  lead : Option α
  origin : Option α
  /-- The speed and level behind the origin. -/
  speed : Option α
  legs : List (Leg α)
  /-- The airway behind the last waypoint. -/
  last : Option α
  destination : Option α

section
variable {α β : Type}

def Leg.items (leg : Leg α) : List α :=
  leg.airway.toList ++ [leg.waypoint]

def Leg.map (f : α → β) (leg : Leg α) : Leg β :=
  ⟨leg.airway.map f, f leg.waypoint⟩

namespace Itinerary

def enRoute (it : Itinerary α) : List α :=
  it.legs.flatMap Leg.items ++ it.last.toList

def afterSpeed (it : Itinerary α) : List α :=
  it.enRoute ++ it.destination.toList

def afterOrigin (it : Itinerary α) : List α :=
  it.speed.toList ++ it.afterSpeed

def afterLead (it : Itinerary α) : List α :=
  it.origin.toList ++ it.afterOrigin

/-- The parts in the order in which they are filed. -/
def items (it : Itinerary α) : List α :=
  it.lead.toList ++ it.afterLead

def map (f : α → β) (it : Itinerary α) : Itinerary β :=
  ⟨it.lead.map f, it.origin.map f, it.speed.map f, it.legs.map (Leg.map f), it.last.map f, it.destination.map f⟩

theorem toList_map (f : α → β) (part : Option α) : (part.map f).toList = part.toList.map f := by
  cases part <;> rfl

theorem forall_mem_map {f : α → β} {part : Option α} {P : β → Prop} (h : ∀ a ∈ part, P (f a)) :
    ∀ b ∈ part.map f, P b := by
  intro b hb
  obtain ⟨a, ha, rfl⟩ := Option.map_eq_some_iff.1 hb
  exact h a ha

theorem items_map_leg (f : α → β) (leg : Leg α) : (leg.map f).items = leg.items.map f := by
  simp only [Leg.items, Leg.map, toList_map, List.map_append, List.map_cons, List.map_nil]

theorem enRoute_map (f : α → β) (it : Itinerary α) : (it.map f).enRoute = it.enRoute.map f := by
  simp only [enRoute, map, toList_map, List.flatMap_map, List.map_flatMap, List.map_append, items_map_leg]

theorem afterSpeed_map (f : α → β) (it : Itinerary α) : (it.map f).afterSpeed = it.afterSpeed.map f := by
  rw [afterSpeed, afterSpeed, enRoute_map, List.map_append, ← toList_map]
  rfl

theorem afterOrigin_map (f : α → β) (it : Itinerary α) : (it.map f).afterOrigin = it.afterOrigin.map f := by
  rw [afterOrigin, afterOrigin, afterSpeed_map, List.map_append, ← toList_map]
  rfl

theorem afterLead_map (f : α → β) (it : Itinerary α) : (it.map f).afterLead = it.afterLead.map f := by
  rw [afterLead, afterLead, afterOrigin_map, List.map_append, ← toList_map]
  rfl

theorem items_map (f : α → β) (it : Itinerary α) : (it.map f).items = it.items.map f := by
  rw [items, items, afterLead_map, List.map_append, ← toList_map]
  rfl

theorem forall_mem_items_leg {P : α → Prop} {leg : Leg α} :
    (∀ a ∈ leg.items, P a) ↔ (∀ a ∈ leg.airway, P a) ∧ P leg.waypoint := by
  simp only [Leg.items, List.forall_mem_append, Option.mem_toList, List.forall_mem_singleton, Option.mem_def]

theorem forall_mem_enRoute {P : α → Prop} {it : Itinerary α} :
    (∀ a ∈ it.enRoute, P a) ↔ (∀ leg ∈ it.legs, ∀ a ∈ leg.items, P a) ∧ ∀ a ∈ it.last, P a := by
  simp only [enRoute, List.forall_mem_append, List.forall_mem_flatMap, Option.mem_toList, Option.mem_def]

theorem forall_mem_afterSpeed {P : α → Prop} {it : Itinerary α} :
    (∀ a ∈ it.afterSpeed, P a) ↔ (∀ a ∈ it.enRoute, P a) ∧ ∀ a ∈ it.destination, P a := by
  simp only [afterSpeed, List.forall_mem_append, Option.mem_toList, Option.mem_def]

theorem forall_mem_items {P : α → Prop} {it : Itinerary α} :
    (∀ a ∈ it.items, P a) ↔ (∀ a ∈ it.lead, P a) ∧ (∀ a ∈ it.origin, P a) ∧ (∀ a ∈ it.speed, P a) ∧
      ∀ a ∈ it.afterSpeed, P a := by
  simp only [items, afterLead, afterOrigin, List.forall_mem_append, Option.mem_toList, Option.mem_def]

end Itinerary

end

/-! ## Words and their tokens -/

/-- A word with the token that it is read as. -/
abbrev ReadWord : Type :=
  String × RouteToken

/-- The words of a leg are read as its tokens. A word that could be an airway is no waypoint where an airway
may stand. -/
structure Leg.Reads (leg : Leg ReadWord) : Prop where
  airway : ∀ p ∈ leg.airway, airway? p.1 = some p.2
  waypoint : point? leg.waypoint.1 = .ok (some leg.waypoint.2)
  first : leg.airway = none → airway? leg.waypoint.1 = none

/-- The words of an itinerary are read as its tokens, and none of them could be read in a part before. -/
structure Itinerary.Reads (it : Itinerary ReadWord) (origin destination : String) : Prop where
  lead : ∀ p ∈ it.lead, speedLevel? p.1 = some p.2
  no_lead : it.lead = none → ∀ w ∈ (it.afterLead.map Prod.fst).head?, speedLevel? w = none
  afterLead_ne_nil : it.afterLead ≠ []
  origin : ∀ p ∈ it.origin, airport? p.1 = some p.2 ∧ ∃ runway, p.2 = .airport origin runway
  no_origin : it.origin = none → ∀ w ∈ (it.afterOrigin.map Prod.fst).head?, airport? w = none
  speed : ∀ p ∈ it.speed, speedLevel? p.1 = some p.2
  no_speed : it.speed = none → ∀ w ∈ (it.afterSpeed.map Prod.fst).head?, speedLevel? w = none
  legs : ∀ leg ∈ it.legs, leg.Reads
  last : ∀ p ∈ it.last, airway? p.1 = some p.2
  no_last : it.last = none → ∀ w ∈ (it.destination.toList.map Prod.fst).head?, airway? w = none
  destination : ∀ p ∈ it.destination, airport? p.1 = some p.2 ∧ ∃ runway, p.2 = .airport destination runway

/-! ## Single parts -/

section
variable {word : String} {words rest : List String} {token : RouteToken} {tokens : List RouteToken}

theorem airport?_eq_some_iff :
    airport? word = some token ↔ Lexical.isAirport word.toList = true ∧
      token = .airport (String.ofList (beforeSlash word.toList)) (nonEmpty (behindSlash word.toList)) := by
  unfold airport?
  cases Lexical.isAirport word.toList with
  | false => simp
  | true => simp only [if_true, Option.some.injEq, true_and, eq_comm]

theorem point?_of_airport? (h : airport? word = some token) : point? word = .ok none :=
  if_pos (airport?_eq_some_iff.1 h).1

/-- A part that may be missing has been read from the head of the words. -/
structure PartRead (words : List String) (tokens : List RouteToken) (rest : List String) (part : Option ReadWord) :
    Prop where
  words_eq : words = part.toList.map Prod.fst ++ rest
  tokens_eq : tokens = part.toList.map Prod.snd

theorem partRead_none (words : List String) : PartRead words [] words none :=
  ⟨rfl, rfl⟩

theorem partRead_some (word : String) (token : RouteToken) (rest : List String) :
    PartRead (word :: rest) [token] rest (some (word, token)) :=
  ⟨rfl, rfl⟩

theorem exists_takeSpeedLevel (words : List String) :
    ∃ part, PartRead words (takeSpeedLevel words).1 (takeSpeedLevel words).2 part ∧
      (∀ p ∈ part, speedLevel? p.1 = some p.2) ∧
      (part = none → ∀ w ∈ (takeSpeedLevel words).2.head?, speedLevel? w = none) := by
  cases words with
  | nil => exact ⟨none, partRead_none [], nofun, nofun⟩
  | cons word words =>
    cases htoken : speedLevel? word with
    | none =>
      simp only [takeSpeedLevel, htoken]
      exact ⟨none, partRead_none _, nofun, fun _ w hw => Option.some.inj hw ▸ htoken⟩
    | some token =>
      simp only [takeSpeedLevel, htoken]
      exact ⟨some (word, token), partRead_some word token words, fun p hp => Option.some.inj hp ▸ htoken, nofun⟩

theorem takeSpeedLevel_append {part : Option ReadWord} (h : ∀ p ∈ part, speedLevel? p.1 = some p.2)
    (hnone : part = none → ∀ w ∈ rest.head?, speedLevel? w = none) :
    takeSpeedLevel (part.toList.map Prod.fst ++ rest) = (part.toList.map Prod.snd, rest) := by
  cases part with
  | none =>
    cases rest with
    | nil => rfl
    | cons word rest =>
      show takeSpeedLevel (word :: rest) = ([], word :: rest)
      simp only [takeSpeedLevel, hnone rfl word rfl]
  | some p =>
    show takeSpeedLevel (p.1 :: rest) = ([p.2], rest)
    simp only [takeSpeedLevel, h p rfl]

theorem exists_takeAirport {code : String} {mismatch : RouteError}
    (h : takeAirport code mismatch words = .ok (tokens, rest)) :
    ∃ part, PartRead words tokens rest part ∧
      (∀ p ∈ part, airport? p.1 = some p.2 ∧ ∃ runway, p.2 = .airport code runway) ∧
      (part = none → ∀ w ∈ rest.head?, airport? w = none) := by
  cases words with
  | nil =>
    cases h
    exact ⟨none, partRead_none [], nofun, nofun⟩
  | cons word words =>
    cases htoken : airport? word with
    | none =>
      simp only [takeAirport, htoken] at h
      cases h
      exact ⟨none, partRead_none _, nofun, fun _ w hw => Option.some.inj hw ▸ htoken⟩
    | some token =>
      obtain ⟨-, rfl⟩ := airport?_eq_some_iff.1 htoken
      simp only [takeAirport, htoken] at h
      split at h
      · rename_i hcode
        cases h
        refine ⟨some (word, _), partRead_some word _ _, fun p hp => ?_, nofun⟩
        cases hp
        exact ⟨htoken, _, congrArg (RouteToken.airport · _) hcode⟩
      · cases h

theorem takeAirport_append {code : String} {mismatch : RouteError} {part : Option ReadWord}
    (h : ∀ p ∈ part, airport? p.1 = some p.2 ∧ ∃ runway, p.2 = .airport code runway)
    (hnone : part = none → ∀ w ∈ rest.head?, airport? w = none) :
    takeAirport code mismatch (part.toList.map Prod.fst ++ rest) = .ok (part.toList.map Prod.snd, rest) := by
  cases part with
  | none =>
    cases rest with
    | nil => rfl
    | cons word rest =>
      show takeAirport code mismatch (word :: rest) = .ok ([], word :: rest)
      simp only [takeAirport, hnone rfl word rfl]
  | some p =>
    obtain ⟨htoken, runway, hrunway⟩ := h p rfl
    show takeAirport code mismatch (p.1 :: rest) = .ok ([p.2], rest)
    simp only [takeAirport, htoken, hrunway, if_true]

end

/-! ## Legs -/

section
variable {words rest : List String} {tokens : List RouteToken}

/-- What has been read as legs and a last airway, and the words behind it. -/
structure LegsRead (words : List String) (tokens : List RouteToken) (rest : List String) (ls : List (Leg ReadWord))
    (final : Option ReadWord) : Prop where
  words_eq : words = (ls.flatMap Leg.items ++ final.toList).map Prod.fst ++ rest
  tokens_eq : tokens = (ls.flatMap Leg.items ++ final.toList).map Prod.snd
  legs : ∀ leg ∈ ls, leg.Reads
  last : ∀ p ∈ final, airway? p.1 = some p.2
  no_last : final = none → ∀ w ∈ rest.head?, airway? w = none

theorem LegsRead.cons {leg : Leg ReadWord} {ls : List (Leg ReadWord)} {final : Option ReadWord} (hleg : leg.Reads)
    (h : LegsRead words tokens rest ls final) :
    LegsRead (leg.items.map Prod.fst ++ words) (leg.items.map Prod.snd ++ tokens) rest (leg :: ls) final where
  words_eq := by simp [h.words_eq]
  tokens_eq := by simp [h.tokens_eq]
  legs := List.forall_mem_cons.2 ⟨hleg, h.legs⟩
  last := h.last
  no_last := h.no_last

theorem map_prepend_eq_ok {read : Except RouteError (List RouteToken × List String)} {first : List RouteToken}
    (h : read.map (prepend first) = .ok (tokens, rest)) :
    ∃ tokens', read = .ok (tokens', rest) ∧ tokens = first ++ tokens' := by
  cases read with
  | error e => cases h
  | ok read =>
    cases h
    exact ⟨_, rfl, rfl⟩

theorem exists_legsRead (h : Route.legs words = .ok (tokens, rest)) :
    ∃ ls final, LegsRead words tokens rest ls final := by
  fun_induction Route.legs words generalizing tokens with
  | case1 =>
    cases h
    exact ⟨[], none, rfl, rfl, nofun, nofun, nofun⟩
  | case2 =>
    cases h
  | case3 word words hairway hpoint =>
    cases h
    exact ⟨[], none, rfl, rfl, nofun, nofun, fun _ w hw => Option.some.inj hw ▸ hairway⟩
  | case4 word words hairway point hpoint ih =>
    obtain ⟨tokens', hrest, rfl⟩ := map_prepend_eq_ok h
    obtain ⟨ls, final, hread⟩ := ih hrest
    have hleg : Leg.Reads ⟨none, (word, point)⟩ := ⟨nofun, hpoint, fun _ => hairway⟩
    exact ⟨_, final, hread.cons hleg⟩
  | case5 word airway hairway =>
    cases h
    exact ⟨[], some (word, airway), rfl, rfl, nofun, fun p hp => Option.some.inj hp ▸ hairway, nofun⟩
  | case6 =>
    cases h
  | case7 word airway hairway next words hpoint =>
    cases h
    exact ⟨[], some (word, airway), rfl, rfl, nofun, fun p hp => Option.some.inj hp ▸ hairway, nofun⟩
  | case8 word airway hairway next words point hpoint ih =>
    obtain ⟨tokens', hrest, rfl⟩ := map_prepend_eq_ok h
    obtain ⟨ls, final, hread⟩ := ih hrest
    have hleg : Leg.Reads ⟨some (word, airway), (next, point)⟩ :=
      ⟨fun p hp => Option.some.inj hp ▸ hairway, hpoint, nofun⟩
    exact ⟨_, final, hread.cons hleg⟩

theorem legs_last_append {final : Option ReadWord} (hlast : ∀ p ∈ final, airway? p.1 = some p.2)
    (no_last : final = none → ∀ w ∈ rest.head?, airway? w = none)
    (stop : ∀ w ∈ rest.head?, point? w = .ok none) :
    Route.legs (final.toList.map Prod.fst ++ rest) = .ok (final.toList.map Prod.snd, rest) := by
  cases final with
  | none =>
    cases rest with
    | nil => rfl
    | cons word rest =>
      show Route.legs (word :: rest) = .ok ([], word :: rest)
      simp only [Route.legs, no_last rfl word rfl, stop word rfl]
  | some p =>
    show Route.legs (p.1 :: rest) = .ok ([p.2], rest)
    have hairway := hlast p rfl
    cases rest with
    | nil => simp only [Route.legs, hairway]
    | cons word rest => simp only [Route.legs, hairway, stop word rfl]

theorem legs_append {leg : Leg ReadWord} (h : leg.Reads) (hwords : Route.legs words = .ok (tokens, rest)) :
    Route.legs (leg.items.map Prod.fst ++ words) = .ok (leg.items.map Prod.snd ++ tokens, rest) := by
  obtain ⟨airway, waypoint⟩ := leg
  cases airway with
  | none =>
    show Route.legs (waypoint.1 :: words) = .ok (waypoint.2 :: tokens, rest)
    simp only [Route.legs, h.first rfl, h.waypoint, hwords]
    rfl
  | some p =>
    show Route.legs (p.1 :: waypoint.1 :: words) = .ok (p.2 :: waypoint.2 :: tokens, rest)
    simp only [Route.legs, h.airway p rfl, h.waypoint, hwords]
    rfl

theorem LegsRead.legs_eq {ls : List (Leg ReadWord)} {final : Option ReadWord}
    (h : LegsRead words tokens rest ls final) (stop : ∀ w ∈ rest.head?, point? w = .ok none) :
    Route.legs words = .ok (tokens, rest) := by
  rw [h.words_eq, h.tokens_eq]
  have hlegs := h.legs
  generalize ls = ls' at hlegs
  induction ls' with
  | nil => exact legs_last_append h.last h.no_last stop
  | cons leg ls' ih =>
    rw [List.forall_mem_cons] at hlegs
    have hrest := legs_append hlegs.1 (ih hlegs.2)
    simpa using hrest

end

/-! ## Whole routes -/

theorem bind_eq_ok {ε α β : Type} {x : Except ε α} {f : α → Except ε β} {b : β} :
    (x >>= f) = .ok b ↔ ∃ a, x = .ok a ∧ f a = .ok b := by
  cases x with
  | error e => simp [bind, Except.bind]
  | ok a => simp [bind, Except.bind]

/-- The steps in which a route is read. -/
theorem ofWords_eq_ok_iff_steps {words : List String} {origin destination : String} {route : Route} :
    ofWords words origin destination = .ok route ↔
      (takeSpeedLevel words).2 ≠ [] ∧
      ∃ start, takeAirport origin .originMismatch (takeSpeedLevel words).2 = .ok start ∧
      ∃ middle, Route.legs (takeSpeedLevel start.2).2 = .ok middle ∧
      ∃ finish, takeAirport destination .destinationMismatch middle.2 = .ok finish ∧ finish.2 = [] ∧
        route =
          ⟨(takeSpeedLevel words).1 ++ start.1 ++ (takeSpeedLevel start.2).1 ++ middle.1 ++ finish.1⟩ := by
  by_cases hrest : (takeSpeedLevel words).2 = []
  · have herror : ∃ e, ofWords words origin destination = .error e := by
      by_cases hwords : words = []
      · subst hwords
        exact ⟨.empty, rfl⟩
      · simp only [ofWords, List.isEmpty_iff, hwords, hrest, if_true, if_false]
        exact ⟨.noRoute, rfl⟩
    obtain ⟨e, herror⟩ := herror
    simp [herror, hrest]
  · have hwords : words ≠ [] := by
      rintro rfl
      exact hrest rfl
    simp only [ofWords, List.isEmpty_iff, hwords, hrest, if_false, bind_eq_ok, ne_eq, not_false_eq_true,
      true_and]
    refine exists_congr fun start => and_congr_right fun _ => exists_congr fun middle => and_congr_right fun _ =>
      exists_congr fun finish => and_congr_right fun _ => ?_
    obtain ⟨tokens, words'⟩ := finish
    cases words' with
    | nil => simp [pure, Except.pure, eq_comm]
    | cons word words' => simp [throw, throwThe, MonadExceptOf.throw]

theorem exists_itinerary {words : List String} {origin destination : String} {route : Route}
    (h : ofWords words origin destination = .ok route) :
    ∃ it : Itinerary ReadWord, it.Reads origin destination ∧ it.items.map Prod.fst = words ∧
      it.items.map Prod.snd = route.tokens := by
  obtain ⟨hrest, start, hstart, middle, hmiddle, finish, hfinish, hend, rfl⟩ := ofWords_eq_ok_iff_steps.1 h
  obtain ⟨lead, hlead, hlead', hlead_none⟩ := exists_takeSpeedLevel words
  obtain ⟨origin?, horigin, horigin', horigin_none⟩ := exists_takeAirport hstart
  obtain ⟨speed, hspeed, hspeed', hspeed_none⟩ := exists_takeSpeedLevel start.2
  obtain ⟨ls, final, hlegs⟩ := exists_legsRead hmiddle
  obtain ⟨destination?, hdestination, hdestination', -⟩ := exists_takeAirport hfinish
  let it : Itinerary ReadWord := ⟨lead, origin?, speed, ls, final, destination?⟩
  have hbehind : middle.2 = it.destination.toList.map Prod.fst := by
    rw [hdestination.words_eq, hend, List.append_nil]
  have hafterSpeed : it.afterSpeed.map Prod.fst = (takeSpeedLevel start.2).2 := by
    rw [hlegs.words_eq, hbehind, ← List.map_append]
    rfl
  have hafterOrigin : it.afterOrigin.map Prod.fst = start.2 := by
    rw [hspeed.words_eq, ← hafterSpeed, ← List.map_append]
    rfl
  have hafterLead : it.afterLead.map Prod.fst = (takeSpeedLevel words).2 := by
    rw [horigin.words_eq, ← hafterOrigin, ← List.map_append]
    rfl
  refine ⟨it, ?_, ?_, ?_⟩
  · exact {
      lead := hlead'
      no_lead := hafterLead ▸ hlead_none
      afterLead_ne_nil := fun e => hrest (by rw [← hafterLead, e, List.map_nil])
      origin := horigin'
      no_origin := hafterOrigin ▸ horigin_none
      speed := hspeed'
      no_speed := hafterSpeed ▸ hspeed_none
      legs := hlegs.legs
      last := hlegs.last
      no_last := hbehind ▸ hlegs.no_last
      destination := hdestination' }
  · rw [hlead.words_eq, ← hafterLead, ← List.map_append]
    rfl
  · simp only [hlead.tokens_eq, horigin.tokens_eq, hspeed.tokens_eq, hlegs.tokens_eq, hdestination.tokens_eq,
      ← List.map_append, List.append_assoc]
    simp only [it, Itinerary.items, Itinerary.afterLead, Itinerary.afterOrigin, Itinerary.afterSpeed,
      Itinerary.enRoute, List.append_assoc]

theorem ofWords_itinerary {it : Itinerary ReadWord} {origin destination : String}
    (h : it.Reads origin destination) :
    ofWords (it.items.map Prod.fst) origin destination = .ok ⟨it.items.map Prod.snd⟩ := by
  have hlead : takeSpeedLevel (it.items.map Prod.fst) = (it.lead.toList.map Prod.snd, it.afterLead.map Prod.fst) := by
    rw [Itinerary.items, List.map_append]
    exact takeSpeedLevel_append h.lead h.no_lead
  have hstart : takeAirport origin .originMismatch (it.afterLead.map Prod.fst) =
      .ok (it.origin.toList.map Prod.snd, it.afterOrigin.map Prod.fst) := by
    rw [Itinerary.afterLead, List.map_append]
    exact takeAirport_append h.origin h.no_origin
  have hspeed : takeSpeedLevel (it.afterOrigin.map Prod.fst) =
      (it.speed.toList.map Prod.snd, it.afterSpeed.map Prod.fst) := by
    rw [Itinerary.afterOrigin, List.map_append]
    exact takeSpeedLevel_append h.speed h.no_speed
  have hmiddle : Route.legs (it.afterSpeed.map Prod.fst) =
      .ok (it.enRoute.map Prod.snd, it.destination.toList.map Prod.fst) := by
    have hread : LegsRead (it.afterSpeed.map Prod.fst) (it.enRoute.map Prod.snd)
        (it.destination.toList.map Prod.fst) it.legs it.last :=
      ⟨List.map_append, rfl, h.legs, h.last, h.no_last⟩
    refine hread.legs_eq fun w hw => ?_
    obtain ⟨p, hp, rfl⟩ := List.mem_map.1 (List.mem_of_mem_head? hw)
    exact point?_of_airport? (h.destination p (Option.mem_toList.1 hp)).1
  have hfinish : takeAirport destination .destinationMismatch (it.destination.toList.map Prod.fst) =
      .ok (it.destination.toList.map Prod.snd, []) := by
    have hrest : takeAirport destination .destinationMismatch (it.destination.toList.map Prod.fst ++ []) =
        .ok (it.destination.toList.map Prod.snd, []) := takeAirport_append h.destination fun _ _ => nofun
    rwa [List.append_nil] at hrest
  refine ofWords_eq_ok_iff_steps.2 ⟨?_, ?_⟩
  · rw [hlead]
    exact fun e => h.afterLead_ne_nil (List.map_eq_nil_iff.1 e)
  · rw [hlead]
    refine ⟨_, hstart, _, by rw [hspeed]; exact hmiddle, _, hfinish, rfl, ?_⟩
    rw [hspeed]
    simp only [Itinerary.items, Itinerary.afterLead, Itinerary.afterOrigin, Itinerary.afterSpeed, List.map_append,
      List.append_assoc]

/-- The words that are parsed are those of an itinerary that can be read, and the tokens are its tokens. -/
theorem ofWords_eq_ok_iff {words : List String} {origin destination : String} {route : Route} :
    ofWords words origin destination = .ok route ↔
      ∃ it : Itinerary ReadWord, it.Reads origin destination ∧ it.items.map Prod.fst = words ∧
        it.items.map Prod.snd = route.tokens := by
  refine ⟨exists_itinerary, ?_⟩
  rintro ⟨it, hit, rfl, htokens⟩
  rw [ofWords_itinerary hit, htokens]

end DepartureRules.Route
