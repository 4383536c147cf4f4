import DepartureRules.Proofs.Checker.Decisions
import DepartureRules.Proofs.Text.Words

/-!
# Plans in any letter case

Plans that differ in the case of ASCII letters are checked alike.

* `eq_of_toUpper`: what does not tell the two cases of an ASCII letter apart;
* `trim_map` and `words_map`: texts are trimmed and cut into words before or after their characters are replaced by
  other ones, as long as blanks stay blanks;
* `Route.parse_capitals`, `SidDesignator.parse_capitals` and `endpoints?_inCapitals`: the four texts of a plan are read
  in capitals only;
* `check_any_case`: so the check asks the same questions and gives the same report.
-/

namespace DepartureRules
set_option autoImplicit false

namespace Text

/-! ## Characters -/

/-- The two cases of a letter are looked up for ASCII. Every other character is left as it is. -/
theorem eq_of_toUpper {α : Type} {f : Char → α} (ascii : ∀ n, n < 128 → f (Char.ofNat n).toUpper = f (Char.ofNat n))
    (c : Char) : f c.toUpper = f c := by
  by_cases h : c.toNat < 128
  · have hc := ascii c.toNat h
    rwa [Char.ofNat_toNat] at hc
  · rw [toUpper_beyond_ascii (Nat.le_of_not_lt h)]

theorem upperChars_toUpper (c : Char) : upperChars c.toUpper = upperChars c :=
  eq_of_toUpper (by decide +kernel) c

theorem isBlank_toUpper (c : Char) : isBlank c.toUpper = isBlank c :=
  eq_of_toUpper (by decide +kernel) c

/-! ## Texts -/

theorem upper_map_toUpper (s : List Char) : upper (s.map Char.toUpper) = upper s := by
  simp only [upper, List.flatMap_map, upperChars_toUpper]

section
variable {f : Char → Char}

theorem trim_map (h : ∀ c, isBlank (f c) = isBlank c) (s : List Char) : trim (s.map f) = (trim s).map f := by
  have hcomp : isBlank ∘ f = isBlank := funext h
  simp only [trim, dropTrailing, List.dropWhile_map, ← List.map_reverse, hcomp]

theorem splitWhere_map {α β : Type} (g : α → β) (p : β → Bool) (l : List α) :
    splitWhere p (l.map g) = (splitWhere (p ∘ g) l).map (List.map g) := by
  induction l with
  | nil => rfl
  | cons a l ih =>
    rw [List.map_cons, splitWhere, splitWhere, ih]
    cases hp : p (g a) with
    | true => simp [hp]
    | false =>
      cases hl : splitWhere (p ∘ g) l with
      | nil => exact absurd hl (splitWhere_ne_nil _ l)
      | cons piece pieces => simp [hp]

theorem words_map (h : ∀ c, isBlank (f c) = isBlank c) (s : List Char) :
    words (s.map f) = (words s).map (List.map f) := by
  have hcomp : isBlank ∘ f = isBlank := funext h
  rw [words, splitWhere_map, hcomp, List.filter_map, words]
  congr 2
  funext piece
  simp

end

/-- The text with its ASCII letters in uppercase. -/
def capitals (s : String) : String :=
  String.ofList (s.toList.map Char.toUpper)

theorem toList_capitals (s : String) : (capitals s).toList = s.toList.map Char.toUpper :=
  String.toList_ofList

theorem uppercased_capitals (s : String) : uppercased (capitals s) = uppercased s := by
  rw [uppercased, uppercased, toList_capitals, upper_map_toUpper]

theorem uppercased_words_capitals (s : String) :
    (wordsOf (capitals s)).map uppercased = (wordsOf s).map uppercased := by
  rw [wordsOf, wordsOf, toList_capitals, words_map isBlank_toUpper]
  simp only [List.map_map]
  refine List.map_congr_left fun word _ => ?_
  simp only [Function.comp_apply, uppercased, String.toList_ofList, upper_map_toUpper]

end Text

open Text

/-! ## The texts of a plan -/

theorem Route.parse_capitals (text origin destination : String) :
    Route.parse (capitals text) origin destination = Route.parse text origin destination := by
  rw [Route.parse, Route.parse, uppercased_words_capitals]

namespace SidDesignator

theorem normalName_capitals (name : String) : normalName (capitals name) = normalName name := by
  rw [normalName, normalName, toList_capitals, trim_map isBlank_toUpper, upper_map_toUpper]

theorem parse_capitals (name origin : String) : parse (capitals name) origin = parse name origin := by
  rw [parse, parse, normalName_capitals]

end SidDesignator

theorem airportCode?_map_capitals (code : Option String) :
    airportCode? (code.map capitals) = airportCode? code := by
  cases code with
  | none => rfl
  | some text =>
    have hempty : (capitals text).isEmpty = text.isEmpty := by
      rw [Bool.eq_iff_iff, String.isEmpty_iff, String.isEmpty_iff, ← String.toList_inj, ← String.toList_inj,
        toList_capitals]
      exact List.map_eq_nil_iff
    simp only [Option.map_some, airportCode?, hempty, uppercased_capitals]

namespace FlightPlan

/-- The plan with its airports, its route and its departure name in capitals. Only ASCII letters change. -/
def inCapitals (plan : FlightPlan) : FlightPlan :=
  { plan with
    departure := plan.departure.map capitals
    destination := plan.destination.map capitals
    route := plan.route.map capitals
    sidName := capitals plan.sidName }

/-- The plans differ in nothing but the case of ASCII letters in their airports, routes and departure names. -/
def SameButCase (plan plan' : FlightPlan) : Prop :=
  plan.inCapitals = plan'.inCapitals

instance (plan plan' : FlightPlan) : Decidable (plan.SameButCase plan') :=
  inferInstanceAs (Decidable (_ = _))

theorem endpoints?_inCapitals (plan : FlightPlan) : plan.inCapitals.endpoints? = plan.endpoints? := by
  simp only [endpoints?, inCapitals, airportCode?_map_capitals]

theorem parse_route_inCapitals (plan : FlightPlan) (origin destination : String) :
    Route.parse (plan.inCapitals.route.getD "") origin destination =
      Route.parse (plan.route.getD "") origin destination := by
  rw [inCapitals]
  cases plan.route with
  | none => rfl
  | some text => exact Route.parse_capitals text origin destination

theorem parse_sidName_inCapitals (plan : FlightPlan) (origin : String) :
    SidDesignator.parse plan.inCapitals.sidName origin = SidDesignator.parse plan.sidName origin :=
  SidDesignator.parse_capitals plan.sidName origin

end FlightPlan

/-! ## Checks -/

namespace Checker
variable {σ : Type}

theorem checkRules_inCapitals (source : Source σ) (plan : FlightPlan) (origin destination : String) :
    checkRules source plan.inCapitals origin destination = checkRules source plan origin destination := by
  rw [checkRules, checkRules, plan.parse_route_inCapitals, plan.parse_sidName_inCapitals]
  -- the rest of the plan is the same, and what is compared with the rules is made of that and of what was read
  rfl

theorem check_inCapitals (source : Source σ) (plan : FlightPlan) :
    check source plan.inCapitals = check source plan := by
  have hairport (origin destination : String) :
      checkAirport source plan.inCapitals origin destination = checkAirport source plan origin destination := by
    simp only [checkAirport, checkRules_inCapitals]
  have hevaluate : evaluate source plan.inCapitals = evaluate source plan := by
    simp only [evaluate, plan.endpoints?_inCapitals, hairport]
    rfl
  funext s
  rw [check, check, hevaluate]

/-- Whatever the case of the letters in its airports, its route and its departure name, a plan leads to the same
questions to a source, the airport and the fix that it is asked for included, to the same report with every note, and
to the same state of the source. -/
theorem check_any_case {plan plan' : FlightPlan} (same : plan.SameButCase plan') (source : Source σ) (s : σ) :
    ∃ report t asked,
      check source.noting plan (s, []) = (report, t, asked) ∧ check source.noting plan' (s, []) = (report, t, asked) ∧
        check source plan s = (report, t) ∧ check source plan' s = (report, t) := by
  have halike {τ : Type} (source : Source τ) : check source plan = check source plan' := by
    rw [← check_inCapitals source plan, ← check_inCapitals source plan', same]
  obtain ⟨report, t, asked, hdecided⟩ := exists_decided source plan s
  have hnoting := check_of_decided hdecided
  have hcheck := check_eq_of_decided hdecided
  exact ⟨report, t, asked, hnoting, halike source.noting ▸ hnoting, hcheck, halike source ▸ hcheck⟩

/-- Rules for the departures to CPT that are filed without a number. -/
def unnumberedRules : Snapshot :=
  .ofAirports [{ icao := "EGLL", sids := [{
      point := "CPT"
      constraints := [{ routes := ["CPT L9 KENET"], restrictions := [{ suffixes := ["CHK"] }] }] }] }] .unknown

/-- Such a departure, filed in this case and with this route. -/
def unnumberedPlan (departure route sidName : String) : FlightPlan where
  departure := some departure
  destination := some "EgCc"
  route := some route
  sidName := sidName

theorem any_case_unnumbered :
    (unnumberedPlan "egll" "n0450f350 Cpt/n0440f300 l9 kenet" "#chk").SameButCase
        (unnumberedPlan "EGll" "N0450F350 CPT/N0440F300 L9 KENET" "#Chk") ∧
      (check Snapshot.source.noting (unnumberedPlan "EGll" "N0450F350 CPT/N0440F300 L9 KENET" "#Chk")
          (unnumberedRules, [])).1 = ⟨.success, ["candidate constraint passed"]⟩ ∧
      (check Snapshot.source.noting (unnumberedPlan "EGll" "N0450F350 CPT/N0440F300 L9 KENET" "#Chk")
          (unnumberedRules, [])).2.2 = [.airport "EGLL", .rules "EGLL" "CPT", .now] ∧
      (unnumberedPlan "egll" "cpt 9ß" "CPT3F").SameButCase (unnumberedPlan "egll" "CPT 9ß" "CPT3F") ∧
      (check Snapshot.source (unnumberedPlan "egll" "CPT 9ß" "CPT3F") unnumberedRules).1 =
        .of .badRoute "invalid token in flight plan: 9SS" := by
  have hsame : (unnumberedPlan "egll" "n0450f350 Cpt/n0440f300 l9 kenet" "#chk").SameButCase
      (unnumberedPlan "EGll" "N0450F350 CPT/N0440F300 L9 KENET" "#Chk") := by decide +kernel
  have hsame' : (unnumberedPlan "egll" "cpt 9ß" "CPT3F").SameButCase (unnumberedPlan "egll" "CPT 9ß" "CPT3F") := by
    decide +kernel
  obtain ⟨report, t, asked, hlower, hmixed, -, -⟩ := check_any_case hsame Snapshot.source unnumberedRules
  obtain ⟨report', t', -, -, -, hlower', hmixed'⟩ := check_any_case hsame' Snapshot.source unnumberedRules
  refine ⟨hsame, ?_, ?_, hsame', ?_⟩
  · rw [hmixed, ← congrArg Prod.fst hlower]
    decide +kernel
  · rw [hmixed, ← congrArg (fun answer => answer.2.2) hlower]
    decide +kernel
  · rw [hmixed', ← congrArg Prod.fst hlower']
    decide +kernel

end Checker

end DepartureRules
