import DepartureRules.Rules.Index

/-!
# Look-ups in the index of rules

What is found in an index after a document has been loaded.

* `Register.get?_overlay`: an overlaid register is looked at first;
* `RuleIndex.mem_listed_iff`: a document lists the airports of its records;
* `RuleIndex.contains_load` and `RuleIndex.rules?_load`: a listed airport has the rules of the document and
  any other one those it had;
* `RuleIndex.All.load`: what holds of the rules of a document and of those in an index holds after the document
  is loaded.
-/

namespace DepartureRules
set_option autoImplicit false

namespace Register
variable {α : Type}

/-! ## Names are used once -/

theorem nodup_map_put {entries : List (String × α)} (h : (entries.map (·.1)).Nodup) (name : String)
    (value : α) : ((put name value entries).map (·.1)).Nodup := by
  induction entries with
  | nil => simp [put]
  | cons entry entries ih =>
    obtain ⟨key, old⟩ := entry
    rw [List.map_cons, List.nodup_cons] at h
    simp only [put]
    split
    · rename_i hkey
      subst hkey
      rw [List.map_cons, List.nodup_cons]
      exact h
    · rename_i hkey
      rw [List.map_cons, List.nodup_cons, mem_map_put]
      exact ⟨fun hmem => hmem.elim hkey h.1, ih h.2⟩

theorem nodup_names_set {r : Register α} (h : r.names.Nodup) (name : String) (value : α) :
    (r.set name value).names.Nodup :=
  nodup_map_put h name value

/-! ## Overlaid registers -/

theorem get?_foldl_set (entries : List (String × α)) (h : (entries.map (·.1)).Nodup) (r : Register α)
    (name : String) :
    (entries.foldl (fun r entry => r.set entry.1 entry.2) r).get? name =
      (find name entries).or (r.get? name) := by
  induction entries generalizing r with
  | nil => rfl
  | cons entry entries ih =>
    obtain ⟨key, value⟩ := entry
    rw [List.map_cons, List.nodup_cons] at h
    rw [List.foldl_cons, ih h.2, get?_set, find]
    by_cases hkey : key = name
    · have hnone : find name entries = none := by
        rw [← Option.not_isSome_iff_eq_none, isSome_find_iff, ← hkey]
        exact h.1
      rw [if_pos hkey, if_pos hkey, hnone]
      rfl
    · rw [if_neg hkey, if_neg hkey]

theorem get?_overlay {new : Register α} (h : new.names.Nodup) (r : Register α) (name : String) :
    (r.overlay new).get? name = (new.get? name).or (r.get? name) :=
  get?_foldl_set new.entries h r name

end Register

namespace RuleIndex

/-! ## The index of one document -/

theorem nodup_foldl_merge (airports : List AirportRecord) {index : RuleIndex} (h : index.names.Nodup) :
    (airports.foldl merge index).names.Nodup := by
  induction airports generalizing index with
  | nil => exact h
  | cons airport airports ih => exact ih (Register.nodup_names_set h _ _)

theorem nodup_ofAirports (airports : List AirportRecord) : (ofAirports airports).names.Nodup :=
  nodup_foldl_merge airports List.nodup_nil

theorem mem_names_foldl_merge (airports : List AirportRecord) (index : RuleIndex) (icao : String) :
    icao ∈ (airports.foldl merge index).names ↔
      (∃ airport ∈ airports, airport.icao = icao) ∨ icao ∈ index.names := by
  induction airports generalizing index with
  | nil => simp
  | cons airport airports ih =>
    have hcons : (∃ other ∈ airport :: airports, other.icao = icao) ↔
        icao = airport.icao ∨ ∃ other ∈ airports, other.icao = icao := by
      simp [eq_comm]
    rw [List.foldl_cons, ih, merge, Register.mem_names_set, hcons, or_left_comm, or_assoc]

theorem mem_listed_iff (airports : List AirportRecord) (icao : String) :
    icao ∈ listed airports ↔ ∃ airport ∈ airports, airport.icao = icao := by
  have h := mem_names_foldl_merge airports .empty icao
  rwa [show icao ∈ (Register.empty : RuleIndex).names ↔ False from List.mem_nil_iff icao, or_false] at h

theorem contains_ofAirports_iff (airports : List AirportRecord) (icao : String) :
    (ofAirports airports).contains icao = true ↔ icao ∈ listed airports :=
  Register.contains_iff _ icao

theorem get?_ofAirports_of_not_listed {airports : List AirportRecord} {icao : String}
    (h : icao ∉ listed airports) : (ofAirports airports).get? icao = none := by
  rw [← contains_ofAirports_iff, Register.contains, Option.not_isSome_iff_eq_none] at h
  exact h

/-! ## An index with a document loaded -/

theorem get?_load (index : RuleIndex) (airports : List AirportRecord) (icao : String) :
    (index.load airports).get? icao = ((ofAirports airports).get? icao).or (index.get? icao) :=
  Register.get?_overlay (nodup_ofAirports airports) index icao

theorem contains_load (index : RuleIndex) (airports : List AirportRecord) (icao : String) :
    (index.load airports).contains icao = true ↔ icao ∈ listed airports ∨ index.contains icao = true := by
  rw [← contains_ofAirports_iff, Register.contains, Register.contains, Register.contains, get?_load,
    Option.isSome_or, Bool.or_eq_true]

theorem contains_load_eq_false_iff (index : RuleIndex) (airports : List AirportRecord) (icao : String) :
    (index.load airports).contains icao = false ↔ icao ∉ listed airports ∧ index.contains icao = false := by
  rw [← Bool.not_eq_true, contains_load, not_or, Bool.not_eq_true]

theorem rules?_load_of_listed {airports : List AirportRecord} {icao : String} (h : icao ∈ listed airports)
    (index : RuleIndex) (point : String) :
    (index.load airports).rules? icao point = (ofAirports airports).rules? icao point := by
  rw [← contains_ofAirports_iff, Register.contains, Option.isSome_iff_exists] at h
  obtain ⟨departures, hget⟩ := h
  rw [rules?, rules?, get?_load, hget, Option.some_or]

theorem rules?_load_of_not_listed {airports : List AirportRecord} {icao : String} (h : icao ∉ listed airports)
    (index : RuleIndex) (point : String) :
    (index.load airports).rules? icao point = index.rules? icao point := by
  rw [rules?, rules?, get?_load, get?_ofAirports_of_not_listed h, Option.none_or]

end RuleIndex

/-! ## What holds of all rules -/

variable {P : RuleSet → Prop}

namespace Departures

def All (P : RuleSet → Prop) (departures : Departures) : Prop :=
  ∀ ⦃point rules⦄, departures.get? point = some rules → P rules

theorem All.enter {departures : Departures} {rules : RuleSet} (hrules : P rules) (names : List String)
    (h : departures.All P) : (departures.enter names rules).All P := by
  induction names generalizing departures with
  | nil => exact h
  | cons name names ih =>
    refine ih fun point found hget => ?_
    rw [Register.get?_set] at hget
    split at hget
    · cases hget
      exact hrules
    · exact h hget

theorem All.enterAll {departures : Departures} {records : List SidRecord}
    (hrecords : ∀ record ∈ records, P record.rules) (h : departures.All P) : (departures.enterAll records).All P := by
  induction records generalizing departures with
  | nil => exact h
  | cons record records ih =>
    obtain ⟨hrecord, hrecords⟩ := List.forall_mem_cons.1 hrecords
    exact ih hrecords (h.enter hrecord _)

end Departures

namespace RuleIndex

def All (P : RuleSet → Prop) (index : RuleIndex) : Prop :=
  ∀ ⦃icao departures⦄, index.get? icao = some departures → Departures.All P departures

theorem All.of_rules? {index : RuleIndex} {icao point : String} {rules : RuleSet} (h : index.All P)
    (hrules : index.rules? icao point = some rules) : P rules := by
  obtain ⟨departures, hget, hrules⟩ := Option.bind_eq_some_iff.1 hrules
  exact h hget hrules

theorem All.merge {index : RuleIndex} {airport : AirportRecord} (hairport : ∀ sid ∈ airport.sids, P sid.rules)
    (h : index.All P) : (index.merge airport).All P := by
  intro icao departures hget
  rw [RuleIndex.merge, Register.get?_set] at hget
  split at hget
  · cases hget
    cases hold : index.get? airport.icao with
    | none => exact Departures.All.enterAll hairport nofun
    | some old => exact (h hold).enterAll hairport
  · exact h hget

theorem all_ofAirports {airports : List AirportRecord}
    (hairports : ∀ airport ∈ airports, ∀ sid ∈ airport.sids, P sid.rules) : (ofAirports airports).All P := by
  suffices hall : ∀ index : RuleIndex, index.All P → (airports.foldl RuleIndex.merge index).All P from hall _ nofun
  intro index h
  induction airports generalizing index with
  | nil => exact h
  | cons airport airports ih =>
    obtain ⟨hairport, hairports⟩ := List.forall_mem_cons.1 hairports
    exact ih hairports _ (h.merge hairport)

theorem All.load {index : RuleIndex} {airports : List AirportRecord}
    (hairports : ∀ airport ∈ airports, ∀ sid ∈ airport.sids, P sid.rules) (h : index.All P) :
    (index.load airports).All P := by
  intro icao departures hget
  rw [get?_load, Option.or_eq_some_iff] at hget
  rcases hget with hnew | ⟨-, hold⟩
  · exact all_ofAirports hairports hnew
  · exact h hold

end RuleIndex

end DepartureRules
