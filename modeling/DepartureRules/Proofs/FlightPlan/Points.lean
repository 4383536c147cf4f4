import DepartureRules.Checker
import DepartureRules.FlightPlan.Message
import DepartureRules.Proofs.Route.Recorded

/-!
# The points of a filed plan

A message that is decoded keeps the words of its route as the points of the plan, as they are filed. The waypoints of
the parsed route are names of points in uppercase, without their changes of speed and level.

* `FiledPlainly`: a word that is filed as the name of its point;
* `words_of_decode`: the points of a decoded message are the words of its route;
* `Recorded.pointName_eq` and `Recorded.eq_iff_filedPlainly`: what a filed word is to the waypoint that it is read as;
* `points_of_decode`: a waypoint is found among the points exactly if one of the words that name it is filed plainly;
* `point_missed` is a message with waypoints that are not found.
-/

namespace DepartureRules
open Lexical Text Route
set_option autoImplicit false

/-- The word is in uppercase, without the sign of a climb and without a change of speed and level. -/
def FiledPlainly (word : String) : Prop :=
  uppercased word = word ∧ '/' ∉ word.toList

instance (word : String) : Decidable (FiledPlainly word) :=
  inferInstanceAs (Decidable (_ ∧ _))

/-! ## Words of a message -/

/-- A decoded message has two airports, a moment of departure and a route. -/
theorem shape_of_decode {message : String} {filed : FiledPlan} (h : FiledPlan.decode message = .ok filed) :
    ∃ departure destination weekday time route, filed.plan.departure = some departure ∧
      filed.plan.destination = some destination ∧ filed.departing = ⟨some weekday, some time⟩ ∧
      filed.plan.route = some (String.ofList (joinWith [' '] (words route))) ∧
      filed.plan.points = (words route).map String.ofList := by
  unfold FiledPlan.decode at h
  obtain ⟨fields, -, h⟩ := bind_eq_ok.1 h
  split at h
  · cases h
  obtain ⟨designator, -, h⟩ := bind_eq_ok.1 h
  obtain ⟨aircraft, -, h⟩ := bind_eq_ok.1 h
  obtain ⟨⟨departure, departing⟩, -, h⟩ := bind_eq_ok.1 h
  obtain ⟨⟨speedLevel, route⟩, -, h⟩ := bind_eq_ok.1 h
  obtain ⟨cruiseLevel, -, h⟩ := bind_eq_ok.1 h
  obtain ⟨⟨destination, arriving⟩, -, h⟩ := bind_eq_ok.1 h
  obtain ⟨weekday, -, h⟩ := bind_eq_ok.1 h
  cases h
  exact ⟨departure, destination, weekday, departing, route, rfl, rfl, rfl, rfl, rfl⟩

/-- A decoded message has a route, and its points are the words of the route. -/
theorem words_of_decode {message : String} {filed : FiledPlan} (h : FiledPlan.decode message = .ok filed) :
    ∃ route, filed.plan.route = some route ∧ filed.plan.points = wordsOf route := by
  obtain ⟨-, -, -, -, route, -, -, -, hroute, hpoints⟩ := shape_of_decode h
  refine ⟨_, hroute, ?_⟩
  rw [hpoints, wordsOf, String.toList_ofList, words_joinWith_words]

/-! ## Words of a waypoint -/

namespace Route

section
variable {word ident : String} {token : RouteToken} {change : Option String} {climb : Bool}

/-- The sign of a climb and whatever stands behind the first slash are no part of the name of the point. -/
theorem pointName_of_append (climb : Bool) (rest : List Char) (hpoint : isPoint ident.toList = true)
    (hrest : ∀ c ∈ rest.head?, c = '/')
    (hword : word.toList = (if climb then ['C', '/'] else []) ++ (ident.toList ++ rest)) : pointName word = ident := by
  have hsign : (climbSign word.toList).2 = ident.toList ++ rest := by
    rw [hword]
    cases climb with
    | false => exact congrArg Prod.snd (climbSign_of_isPoint hpoint rest)
    | true => rfl
  have hslash := slash_not_mem_of_isPoint hpoint
  have hbefore : beforeSlash (ident.toList ++ rest) = ident.toList := by
    cases rest with
    | nil => rw [List.append_nil, beforeSlash_of_not_mem hslash]
    | cons c rest =>
      obtain rfl : c = '/' := hrest c rfl
      exact beforeSlash_append hslash
  rw [pointName, hsign, hbefore, String.ofList_toList]

theorem isPoint_of_isLexical (h : (RouteToken.waypoint ident change climb).isLexical = true) :
    isPoint ident.toList = true := by
  cases change <;> exact (Bool.and_eq_true_iff.1 h).1

theorem Recorded.isPoint (h : Recorded word (.waypoint ident change climb)) : isPoint ident.toList = true :=
  isPoint_of_isLexical h.lexical

theorem Recorded.pointName_eq (h : Recorded word (.waypoint ident change climb)) : pointName word = ident := by
  by_cases hend : EndsInSlash word
  · obtain ⟨_, htoken, rfl⟩ := h.cut hend
    cases htoken
    exact pointName_of_append false ['/'] h.isPoint (by simp) (by simp)
  · rw [← h.whole hend]
    refine pointName_of_append climb (RouteToken.slashed change).toList h.isPoint ?_ ?_
    · cases change <;> simp [RouteToken.slashed]
    · cases climb <;> simp [RouteToken.text]

/-- A character of a route word is its own uppercase form. -/
theorem upperChars_of_mark {c : Char} (h : mark c ≠ .other) : upperChars c = [c] := by
  by_cases ascii : c.toNat < 128
  · have hall : ∀ n, n < 128 → mark (Char.ofNat n) ≠ .other → upperChars (Char.ofNat n) = [Char.ofNat n] := by
      decide +kernel
    have hc := hall c.toNat ascii
    rw [Char.ofNat_toNat] at hc
    exact hc h
  · have hself := toUpper_beyond_ascii (Nat.le_of_not_lt ascii)
    rw [← hself] at h
    rw [(visible_of_toUpper h).2, hself]

theorem uppercased_of_isPoint (h : Lexical.isPoint word.toList = true) : uppercased word = word := by
  have hmark := fun c hc => mark_ne_other_of_isAlphanumeric (alphanumeric_of_isPoint h c hc)
  have hupper : upper word.toList = word.toList := by
    rw [upper, List.flatMap_congr fun c hc => upperChars_of_mark (hmark c hc)]
    exact List.flatMap_singleton' _
  rw [uppercased, hupper, String.ofList_toList]

theorem pointName_of_slash_not_mem (h : '/' ∉ word.toList) : pointName word = word := by
  have hsign : climbSign word.toList = (false, word.toList) := by
    unfold climbSign
    split
    · rename_i hword
      exact absurd (hword ▸ List.mem_cons_of_mem _ List.mem_cons_self) h
    · rfl
  rw [pointName, hsign, beforeSlash_of_not_mem h, String.ofList_toList]

/-- The word of a waypoint is the name of the point exactly if it is filed plainly. -/
theorem Recorded.eq_iff_filedPlainly (h : Recorded (uppercased word) (.waypoint ident change climb)) :
    word = ident ↔ FiledPlainly word := by
  constructor
  · rintro rfl
    exact ⟨uppercased_of_isPoint h.isPoint, slash_not_mem_of_isPoint h.isPoint⟩
  · rintro ⟨hupper, hslash⟩
    rw [← h.pointName_eq, hupper, pointName_of_slash_not_mem hslash]

end

end Route

/-! ## Points of a plan -/

/-- A point is among the filed ones exactly if one of the words that name it is filed plainly. -/
theorem mem_points_iff {ident : String} (points : List String) (h : isPoint ident.toList = true) :
    ident ∈ points ↔ ∃ word ∈ points, FiledPlainly word ∧ pointName (uppercased word) = ident := by
  have hupper := uppercased_of_isPoint h
  have hslash := slash_not_mem_of_isPoint h
  constructor
  · intro hident
    exact ⟨ident, hident, ⟨hupper, hslash⟩, by rw [hupper, pointName_of_slash_not_mem hslash]⟩
  · rintro ⟨word, hword, ⟨hupper, hslash⟩, hname⟩
    rw [hupper, pointName_of_slash_not_mem hslash] at hname
    exact hname ▸ hword

/-- A constraint that admits a single exit point asks for it among the filed points. -/
theorem checkExitPoint_eq_pass_iff {c : Constraint} {ident : String} (points : List String)
    (hexcluded : c.excludedExitPoints = []) (honly : c.exitPoints = [ident]) :
    checkExitPoint c points = pass ↔ ident ∈ points := by
  by_cases hident : ident ∈ points <;> simp [checkExitPoint, hexcluded, honly, hident, pass, reject]

/-- The points of a decoded message are the words of its route as they are filed. Where its route is parsed, each of
them is recorded by the token in its place. A waypoint is the word in its place exactly if that word is filed plainly,
in uppercase and without a slash. It is found among the points, and so by the check for exit points, exactly if this
holds for one of the words that name it. -/
theorem points_of_decode {message origin destination : String} {filed : FiledPlan} {route : Route}
    (hdecode : FiledPlan.decode message = .ok filed)
    (hparse : parse (filed.plan.route.getD "") origin destination = .ok route) :
    List.Forall₂ Recorded (filed.plan.points.map uppercased) route.tokens ∧
      (∀ p ∈ filed.plan.points.zip route.tokens, ∀ ident change climb, p.2 = .waypoint ident change climb →
        pointName (uppercased p.1) = ident ∧ (p.1 = ident ↔ FiledPlainly p.1)) ∧
      ∀ ident change climb, .waypoint ident change climb ∈ route.tokens →
        (ident ∈ filed.plan.points ↔
          ∃ word ∈ filed.plan.points, FiledPlainly word ∧ pointName (uppercased word) = ident) ∧
        ∀ c : Constraint, c.excludedExitPoints = [] → c.exitPoints = [ident] →
          (checkExitPoint c filed.plan.points = pass ↔
            ∃ word ∈ filed.plan.points, FiledPlainly word ∧ pointName (uppercased word) = ident) := by
  obtain ⟨text, hroute, hpoints⟩ := words_of_decode hdecode
  rw [hroute, Option.getD_some] at hparse
  have hrecorded := forall₂_recorded hparse
  rw [← hpoints] at hrecorded
  refine ⟨hrecorded, ?_, fun ident change climb hmem => ?_⟩
  · rintro ⟨word, token⟩ hp ident change climb rfl
    have hword : Recorded (uppercased word) (.waypoint ident change climb) :=
      (List.forall₂_iff_zip.1 (List.forall₂_map_left_iff.1 hrecorded)).2 hp
    exact ⟨hword.pointName_eq, hword.eq_iff_filedPlainly⟩
  · have hlexical := isLexical_of_parse hparse _ hmem
    have hfound := mem_points_iff filed.plan.points (isPoint_of_isLexical hlexical)
    exact ⟨hfound, fun c hexcluded honly => (checkExitPoint_eq_pass_iff _ hexcluded honly).trans hfound⟩

/-- A message whose route has a waypoint with a change, one in lowercase and one that is filed plainly. -/
def changingMessage : String :=
  "(FPL-BAW123-IS-B738/M-SDE2/LB1-EGLL1230-N0450F350 CPT3F CPT/N0440F300 L9 kenet DCT WAL-EGCC0045-DOF/261019)"

def changingPlan : FiledPlan where
  callsign := "BAW123"
  aircraft := "B738"
  departing := ⟨some 1, some ⟨12, 30⟩⟩
  plan := {
    departure := some "EGLL"
    destination := some "EGCC"
    cruiseLevel := 35000
    route := some "CPT3F CPT/N0440F300 L9 kenet DCT WAL"
    points := ["CPT3F", "CPT/N0440F300", "L9", "kenet", "DCT", "WAL"]
    sidName := "CPT3F" }

def changingRoute : Route :=
  ⟨[.airway "CPT3F", .waypoint "CPT" (some "N0440F300") false, .airway "L9", .waypoint "KENET" none false, .direct,
    .waypoint "WAL" none false]⟩

theorem decode_changingMessage : FiledPlan.decode changingMessage = .ok changingPlan := by decide +kernel

theorem parse_changingPlan : parse (changingPlan.plan.route.getD "") "EGLL" "EGCC" = .ok changingRoute := by
  decide +kernel

theorem points_of_changingMessage :
    FiledPlan.decode changingMessage = .ok changingPlan ∧
      parse (changingPlan.plan.route.getD "") "EGLL" "EGCC" = .ok changingRoute ∧
      ("WAL" ∈ changingPlan.plan.points ↔
        ∃ word ∈ changingPlan.plan.points, FiledPlainly word ∧ pointName (uppercased word) = "WAL") :=
  ⟨decode_changingMessage, parse_changingPlan,
    ((points_of_decode decode_changingMessage parse_changingPlan).2.2 "WAL" none false (by decide)).1⟩

/-- A point with a change of speed and level, and one in lowercase, are waypoints of the route of a message between its
own airports, and are not found among its points. -/
theorem point_missed : ∃ filed route, FiledPlan.decode changingMessage = .ok filed ∧
    filed.plan.endpoints? = some ("EGLL", "EGCC") ∧
    parse (filed.plan.route.getD "") "EGLL" "EGCC" = .ok route ∧
    .waypoint "CPT" (some "N0440F300") false ∈ route.tokens ∧ "CPT" ∈ route.bare ∧ "CPT" ∉ filed.plan.points ∧
    .waypoint "KENET" none false ∈ route.tokens ∧ "KENET" ∈ route.bare ∧ "KENET" ∉ filed.plan.points :=
  ⟨changingPlan, changingRoute, decode_changingMessage, by decide +kernel, parse_changingPlan, by decide, by decide,
    by decide, by decide, by decide, by decide⟩

end DepartureRules
