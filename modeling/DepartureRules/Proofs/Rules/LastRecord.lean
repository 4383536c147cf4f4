import DepartureRules.Proofs.Rules.Index

/-!
# The record that counts

Records of one document add to each other, and replace what an index held of their airports before. Under a name the
last of them counts.

* `recordsOf` are the departures of an airport over all its records in a document, `lastRecord?` is the last of them
  under a name;
* `rules?_foldl_merge`: while a document is indexed, the last record so far is found;
* `Register.overlay_overlay`: what is overlaid a second time is there already;
* `load_replaces_listed`: what is found in an index after a document.
-/

namespace DepartureRules
set_option autoImplicit false

namespace Register
variable {α : Type}

/-! ## What is there already -/

theorem put_of_find {name : String} {value : α} {entries : List (String × α)} (h : find name entries = some value) :
    put name value entries = entries := by
  induction entries with
  | nil => cases h
  | cons entry entries ih =>
    obtain ⟨key, old⟩ := entry
    rw [find] at h
    rw [put]
    split at h
    · rename_i hkey
      rw [if_pos hkey, ← hkey, Option.some.inj h]
    · rename_i hkey
      rw [if_neg hkey, ih h]

theorem set_of_get? {r : Register α} {name : String} {value : α} (h : r.get? name = some value) :
    r.set name value = r := by
  rw [set, put_of_find h]

theorem foldl_set_of_get? {entries : List (String × α)} {r : Register α}
    (h : ∀ entry ∈ entries, r.get? entry.1 = some entry.2) :
    entries.foldl (fun r entry => r.set entry.1 entry.2) r = r := by
  induction entries with
  | nil => rfl
  | cons entry entries ih =>
    rw [List.forall_mem_cons] at h
    rw [List.foldl_cons, set_of_get? h.1]
    exact ih h.2

theorem find_of_mem {entries : List (String × α)} (h : (entries.map (·.1)).Nodup) {entry : String × α}
    (hmem : entry ∈ entries) : find entry.1 entries = some entry.2 := by
  induction entries with
  | nil => cases hmem
  | cons first entries ih =>
    rw [List.map_cons, List.nodup_cons] at h
    rw [find]
    rcases List.mem_cons.1 hmem with rfl | hmem
    · exact if_pos rfl
    · have hne : first.1 ≠ entry.1 := fun e => h.1 (e ▸ List.mem_map_of_mem hmem)
      rw [if_neg hne]
      exact ih h.2 hmem

theorem overlay_overlay {new : Register α} (h : new.names.Nodup) (r : Register α) :
    (r.overlay new).overlay new = r.overlay new := by
  refine foldl_set_of_get? fun entry hentry => ?_
  rw [get?_overlay h, get?, find_of_mem h hentry]
  rfl

end Register

/-! ## The last record under a name -/

/-- The departures of an airport over all its records in a document, in their order. -/
def recordsOf (airports : List AirportRecord) (icao : String) : List SidRecord :=
  (airports.filter fun airport => airport.icao == icao).flatMap AirportRecord.sids

/-- The last record with the name as its fix or one of its aliases. -/
def lastRecord? (records : List SidRecord) (point : String) : Option SidRecord :=
  records.reverse.find? fun record => record.keys.contains point

theorem lastRecord?_append (records more : List SidRecord) (point : String) :
    lastRecord? (records ++ more) point = (lastRecord? more point).or (lastRecord? records point) := by
  rw [lastRecord?, List.reverse_append, List.find?_append]
  rfl

theorem recordsOf_cons (airport : AirportRecord) (airports : List AirportRecord) (icao : String) :
    recordsOf (airport :: airports) icao =
      (if airport.icao = icao then airport.sids else []) ++ recordsOf airports icao := by
  by_cases h : airport.icao = icao <;> simp [recordsOf, h]

namespace Departures

theorem get?_enter (departures : Departures) (names : List String) (rules : RuleSet) (point : String) :
    (departures.enter names rules).get? point = if point ∈ names then some rules else departures.get? point := by
  induction names generalizing departures with
  | nil => simp [enter]
  | cons name names ih =>
    show (enter (departures.set name rules) names rules).get? point = _
    rw [ih, Register.get?_set]
    by_cases hmem : point ∈ names
    · rw [if_pos hmem, if_pos (List.mem_cons_of_mem _ hmem)]
    · simp only [List.mem_cons, hmem, or_false, if_false, eq_comm (a := point)]

theorem get?_enterAll (departures : Departures) (records : List SidRecord) (point : String) :
    (departures.enterAll records).get? point =
      ((lastRecord? records point).map SidRecord.rules).or (departures.get? point) := by
  induction records generalizing departures with
  | nil => rfl
  | cons record records ih =>
    have hfirst : ((lastRecord? [record] point).map SidRecord.rules).or (departures.get? point) =
        (departures.enter record.keys record.rules).get? point := by
      rw [get?_enter, lastRecord?, List.reverse_singleton, List.find?_singleton]
      by_cases hmem : point ∈ record.keys <;> simp [hmem]
    show ((departures.enter record.keys record.rules).enterAll records).get? point = _
    rw [ih, ← List.singleton_append, lastRecord?_append, Option.map_or, Option.or_assoc, hfirst]

end Departures

namespace RuleIndex

/-! ## A document record by record -/

theorem rules?_merge (index : RuleIndex) (airport : AirportRecord) (icao point : String) :
    (index.merge airport).rules? icao point =
      ((lastRecord? (if airport.icao = icao then airport.sids else []) point).map SidRecord.rules).or
        (index.rules? icao point) := by
  rw [rules?, merge, Register.get?_set]
  by_cases hicao : airport.icao = icao
  · subst hicao
    rw [if_pos rfl, if_pos rfl]
    show (((index.get? airport.icao).getD .empty).enterAll airport.sids).get? point = _
    rw [Departures.get?_enterAll, rules?]
    cases index.get? airport.icao <;> rfl
  · rw [if_neg hicao, if_neg hicao]
    rfl

theorem rules?_foldl_merge (airports : List AirportRecord) (index : RuleIndex) (icao point : String) :
    (airports.foldl merge index).rules? icao point =
      ((lastRecord? (recordsOf airports icao) point).map SidRecord.rules).or (index.rules? icao point) := by
  induction airports generalizing index with
  | nil => rfl
  | cons airport airports ih =>
    rw [List.foldl_cons, ih, rules?_merge, recordsOf_cons, lastRecord?_append, Option.map_or, Option.or_assoc]

theorem rules?_ofAirports (airports : List AirportRecord) (icao point : String) :
    (ofAirports airports).rules? icao point = (lastRecord? (recordsOf airports icao) point).map SidRecord.rules := by
  rw [ofAirports, rules?_foldl_merge]
  exact Option.or_none

/-! ## Documents after documents -/

theorem load_load_self (index : RuleIndex) (airports : List AirportRecord) :
    (index.load airports).load airports = index.load airports :=
  Register.overlay_overlay (nodup_ofAirports airports) index

theorem get?_load_comm {airports others : List AirportRecord} (apart : ∀ icao ∈ listed airports, icao ∉ listed others)
    (index : RuleIndex) (icao : String) :
    ((index.load airports).load others).get? icao = ((index.load others).load airports).get? icao := by
  simp only [get?_load]
  by_cases hlisted : icao ∈ listed airports
  · rw [get?_ofAirports_of_not_listed (apart icao hlisted), Option.none_or, Option.none_or]
  · rw [get?_ofAirports_of_not_listed hlisted, Option.none_or, Option.none_or]

/-- What an index holds after a document. It has the airports that it had and those of the document. At an airport of
the document the last record under a name counts, over all records of the airport, and nothing that the index held of
it before; every other airport keeps what it had. The codes of a document are those of its records, each of them once.
So a document that is indexed again changes nothing, and documents without a common airport can be indexed in either
order. -/
theorem load_replaces_listed (index : RuleIndex) (airports : List AirportRecord) :
    (∀ icao, (index.load airports).contains icao = true ↔
        index.contains icao = true ∨ ∃ airport ∈ airports, airport.icao = icao) ∧
      (∀ icao, (∃ airport ∈ airports, airport.icao = icao) → ∀ point,
        (index.load airports).rules? icao point =
          (lastRecord? (recordsOf airports icao) point).map SidRecord.rules) ∧
      (∀ icao, (¬∃ airport ∈ airports, airport.icao = icao) →
        (index.load airports).get? icao = index.get? icao) ∧
      ((listed airports).Nodup ∧ ∀ icao, icao ∈ listed airports ↔ ∃ airport ∈ airports, airport.icao = icao) ∧
      (index.load airports).load airports = index.load airports ∧
      ∀ others, (∀ airport ∈ airports, ∀ other ∈ others, airport.icao ≠ other.icao) → ∀ icao,
        ((index.load airports).load others).get? icao = ((index.load others).load airports).get? icao := by
  refine ⟨fun icao => ?_, fun icao hlisted point => ?_, fun icao hnot => ?_,
    ⟨nodup_ofAirports airports, mem_listed_iff airports⟩, load_load_self index airports, fun others apart icao => ?_⟩
  · rw [contains_load, mem_listed_iff, or_comm]
  · rw [rules?_load_of_listed ((mem_listed_iff airports icao).2 hlisted), rules?_ofAirports]
  · rw [get?_load, get?_ofAirports_of_not_listed fun h => hnot ((mem_listed_iff airports icao).1 h), Option.none_or]
  · refine get?_load_comm (fun icao hicao hother => ?_) index icao
    obtain ⟨airport, hairport, rfl⟩ := (mem_listed_iff airports icao).1 hicao
    obtain ⟨other, hother, hsame⟩ := (mem_listed_iff others airport.icao).1 hother
    exact apart airport hairport other hother hsame.symm

/-- An airport listed twice and one without departures. The second departure of the first airport has the fix of the
first one among its aliases, and the third has an alias of the first one, twice. -/
def overlapping : List AirportRecord := [
  { icao := "EGLL", sids := [
    { point := "CPT", aliases := ["CHK"], constraints := [{ lowest := some 70 }] },
    { point := "DVR", aliases := ["CPT"], constraints := [{ highest := some 190 }] }] },
  { icao := "EGKK" },
  { icao := "EGLL", sids := [{ point := "BPK", aliases := ["CHK", "CHK"], constraints := [{}, {}] }] }]

/-- An index of one of these airports and another one. -/
def older : RuleIndex :=
  ofAirports [{ icao := "EGLL", sids := [{ point := "MID" }] }, { icao := "EGSS", sids := [{ point := "CLN" }] }]

theorem load_overlapping :
    (older.load overlapping).contains "EGKK" = true ∧
      (older.load overlapping).rules? "EGLL" "CPT" = some ⟨[{ highest := some 190 }], []⟩ ∧
      (older.load overlapping).rules? "EGLL" "CHK" = some ⟨[{}, {}], []⟩ ∧
      (older.rules? "EGLL" "MID" = some {} ∧ (older.load overlapping).rules? "EGLL" "MID" = none) ∧
      (older.load overlapping).get? "EGSS" = older.get? "EGSS" ∧
      (listed overlapping = ["EGLL", "EGKK"] ∧ (listed overlapping).Nodup) ∧
      (older.load overlapping).load overlapping = older.load overlapping ∧
      ((older.load overlapping).load [{ icao := "EGSS" }]).get? "EGLL" =
        ((older.load [{ icao := "EGSS" }]).load overlapping).get? "EGLL" := by
  obtain ⟨hcontains, hlast, hkept, ⟨hnodup, -⟩, hagain, hcomm⟩ := load_replaces_listed older overlapping
  have hlisted : ∃ airport ∈ overlapping, airport.icao = "EGLL" := by decide
  refine ⟨(hcontains "EGKK").2 (.inr (by decide)), ?_, ?_, ⟨by decide, ?_⟩, hkept "EGSS" (by decide),
    ⟨by decide, hnodup⟩, hagain, hcomm _ (by decide) "EGLL"⟩
  · rw [hlast "EGLL" hlisted]
    decide
  · rw [hlast "EGLL" hlisted]
    decide
  · rw [hlast "EGLL" hlisted]
    decide

end RuleIndex

end DepartureRules
