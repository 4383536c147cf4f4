import DepartureRules.Proofs.Json.Restored
import DepartureRules.Proofs.Json.Yielded
import DepartureRules.Rules.Document
import DepartureRules.Rules.Printer

/-!
# Rule documents that are read back

A document that is read holds nothing that could not be written: its numbers are within their limits and its times on
the clock. So it is read back from what is written for it, also where fields are left out that hold the default.

* `Moment.InRange`, `Constraint.InRange` and so on: records that can be written and read;
* `yields_constraint` and so on: what is read is in range;
* `restores_constraint` and so on: what is in range is read back from every written form;
* `documents_restored`: both for whole documents.
-/

namespace DepartureRules
open Json
set_option autoImplicit false

/-! ## Values within their limits -/

structure Moment.InRange (m : Moment) : Prop where
  day : ∀ day ∈ m.day, day ≤ dayLimit
  time : ∀ time ∈ m.time, time.OnClock

structure Alert.InRange (a : Alert) : Prop where
  reference : ∀ reference ∈ a.reference, reference ≤ referenceLimit

structure Restriction.InRange (r : Restriction) : Prop where
  start : ∀ start ∈ r.start, start.InRange
  finish : ∀ finish ∈ r.finish, finish.InRange

structure Constraint.InRange (c : Constraint) : Prop where
  lowest : ∀ lowest ∈ c.lowest, lowest ≤ levelLimit
  highest : ∀ highest ∈ c.highest, highest ≤ levelLimit
  alerts : ∀ alert ∈ c.alerts, alert.InRange
  restrictions : ∀ restriction ∈ c.restrictions, restriction.InRange

structure RuleSet.InRange (s : RuleSet) : Prop where
  constraints : ∀ constraint ∈ s.constraints, constraint.InRange
  restrictions : ∀ restriction ∈ s.restrictions, restriction.InRange

structure SidRecord.InRange (r : SidRecord) : Prop where
  constraints : ∀ constraint ∈ r.constraints, constraint.InRange
  restrictions : ∀ restriction ∈ r.restrictions, restriction.InRange

structure AirportRecord.InRange (r : AirportRecord) : Prop where
  sids : ∀ sid ∈ r.sids, sid.InRange

structure VersionRecord.InRange (v : VersionRecord) : Prop where
  time : v.time.OnClock
  day : v.day ≤ dayLimit

/-! ## Records that are read -/

theorem yields_timeOfDay : Yields TimeOfDay.reader TimeOfDay.OnClock := by
  refine yields_refine fun text time h => ?_
  cases hparse : TimeOfDay.parse text with
  | error e => simp [hparse, Except.toOption] at h
  | ok t =>
    simp only [hparse, Except.toOption, Option.some.injEq] at h
    exact h ▸ TimeOfDay.onClock_of_parse hparse

theorem yields_moment : Yields Moment.reader Moment.InRange :=
  yields_record
    (keeps_cons (yields_natural _).optional (fun _ _ h hday => { h with day := hday }) <|
      keeps_cons yields_timeOfDay.optional (fun _ _ h htime => { h with time := htime }) nofun)
    ⟨nofun, nofun⟩

theorem yields_alert : Yields Alert.reader Alert.InRange :=
  yields_record
    (keeps_cons yields_true (fun _ _ h _ => { h with }) <|
      keeps_cons yields_true (fun _ _ h _ => { h with }) <|
      keeps_cons yields_true (fun _ _ h _ => { h with }) <|
      keeps_cons (yields_natural _).optional (fun _ _ _ hreference => ⟨hreference⟩) nofun)
    ⟨nofun⟩

theorem yields_restriction : Yields Restriction.reader Restriction.InRange :=
  yields_record
    (keeps_cons yields_true (fun _ _ h _ => { h with }) <|
      keeps_cons yields_true (fun _ _ h _ => { h with }) <|
      keeps_cons yields_true (fun _ _ h _ => { h with }) <|
      keeps_cons yields_true (fun _ _ h _ => { h with }) <|
      keeps_cons yields_true (fun _ _ h _ => { h with }) <|
      keeps_cons yields_moment.optional (fun _ _ h hstart => { h with start := hstart }) <|
      keeps_cons yields_moment.optional (fun _ _ h hfinish => { h with finish := hfinish }) nofun)
    ⟨nofun, nofun⟩

theorem yields_constraint : Yields Constraint.reader Constraint.InRange :=
  yields_record
    (keeps_cons (yields_natural _).optional (fun _ _ h hlowest => { h with lowest := hlowest }) <|
      keeps_cons (yields_natural _).optional (fun _ _ h hhighest => { h with highest := hhighest }) <|
      keeps_cons yields_true (fun _ _ h _ => { h with }) <|
      keeps_cons yields_true (fun _ _ h _ => { h with }) <|
      keeps_cons yields_true (fun _ _ h _ => { h with }) <|
      keeps_cons yields_true (fun _ _ h _ => { h with }) <|
      keeps_cons yields_true (fun _ _ h _ => { h with }) <|
      keeps_cons yields_true (fun _ _ h _ => { h with }) <|
      keeps_cons yields_true (fun _ _ h _ => { h with }) <|
      keeps_cons yields_alert.list (fun _ _ h halerts => { h with alerts := halerts }) <|
      keeps_cons yields_restriction.list (fun _ _ h hrestrictions => { h with restrictions := hrestrictions }) nofun)
    ⟨nofun, nofun, nofun, nofun⟩

theorem yields_sidRecord : Yields SidRecord.reader SidRecord.InRange :=
  yields_record
    (keeps_cons yields_true (fun _ _ h _ => { h with }) <|
      keeps_cons yields_true (fun _ _ h _ => { h with }) <|
      keeps_cons yields_constraint.list (fun _ _ h hconstraints => { h with constraints := hconstraints }) <|
      keeps_cons yields_restriction.list (fun _ _ h hrestrictions => { h with restrictions := hrestrictions }) nofun)
    ⟨nofun, nofun⟩

theorem yields_airportRecord : Yields AirportRecord.reader AirportRecord.InRange :=
  yields_record
    (keeps_cons yields_true (fun _ _ h _ => { h with }) <|
      keeps_cons yields_sidRecord.list (fun _ _ _ hsids => ⟨hsids⟩) nofun)
    ⟨nofun⟩

theorem yields_versionRecord : Yields VersionRecord.reader VersionRecord.InRange :=
  yields_record
    (keeps_cons yields_true (fun _ _ h _ => { h with }) <|
      keeps_cons yields_timeOfDay (fun _ _ h htime => { h with time := htime }) <|
      keeps_cons (yields_natural _) (fun _ _ h hday => { h with day := hday }) nofun)
    ⟨by decide, by decide⟩

/-! ## Times of day -/

namespace TimeOfDay
open Text

theorem isAsciiDigit_digitChar (n : Nat) :
    isAsciiDigit (digitChar n) = true ∧ digitValue (digitChar n) = n % 10 := by
  have hall : ∀ k, k < 10 → isAsciiDigit (Char.ofNat ('0'.toNat + k)) = true ∧
      digitValue (Char.ofNat ('0'.toNat + k)) = k := by decide
  exact hall (n % 10) (Nat.mod_lt n (by decide))

theorem twoPlaces_eq {n : Nat} (h : n < 100) : twoPlaces n = [digitChar (n / 10), digitChar n] := by
  have hall : ∀ k, k < 100 → twoPlaces k = [digitChar (k / 10), digitChar k] := by decide +kernel
  exact hall n h

theorem twoDigits_twoPlaces {n : Nat} (h : n < 100) (rest : List Char) :
    twoDigits (twoPlaces n ++ rest) = some (n, rest) := by
  obtain ⟨htens, hvalue⟩ := isAsciiDigit_digitChar (n / 10)
  obtain ⟨hones, hvalue'⟩ := isAsciiDigit_digitChar n
  rw [twoPlaces_eq h]
  simp only [List.cons_append, List.nil_append, twoDigits, htens, hones, Bool.and_self, if_true, hvalue, hvalue',
    Option.some.injEq, Prod.mk.injEq, and_true]
  omega

theorem isBlank_of_mem_twoPlaces {n : Nat} (h : n < 100) : ∀ c ∈ twoPlaces n, isBlank c = false := by
  have hdigit : ∀ k, isBlank (digitChar k) = false := by
    intro k
    have hascii := (isAsciiDigit_digitChar k).1
    simp only [isAsciiDigit, Bool.and_eq_true, decide_eq_true_eq] at hascii
    exact isBlank_eq_false_of_visible (Nat.le_trans (by decide) hascii.1) (hascii.2.trans (by decide))
  rw [twoPlaces_eq h]
  exact List.forall_mem_cons.2 ⟨hdigit _, List.forall_mem_singleton.2 (hdigit _)⟩

theorem trim_eq_self {s : List Char} (h : ∀ c ∈ s, isBlank c = false) : trim s = s := by
  have hdrop : ∀ l : List Char, (∀ c ∈ l, isBlank c = false) → l.dropWhile isBlank = l := by
    intro l hl
    cases l with
    | nil => rfl
    | cons c l => exact List.dropWhile_cons_of_neg (by simp [hl c List.mem_cons_self])
  rw [trim, hdrop s h, dropTrailing, hdrop s.reverse fun c hc => h c (List.mem_reverse.1 hc), List.reverse_reverse]

/-- A time on the clock is read back from its text. -/
theorem parse_toString {t : TimeOfDay} (h : t.OnClock) : parse t.toString = .ok t := by
  have hplaces : t.hour < 100 ∧ t.minute < 100 := by
    unfold OnClock at h
    omega
  have htrim : trim t.toString.toList = twoPlaces t.hour ++ ':' :: (twoPlaces t.minute ++ []) := by
    rw [toString, String.toList_ofList, toChars, List.append_nil]
    refine trim_eq_self (List.forall_mem_append.2 ⟨isBlank_of_mem_twoPlaces hplaces.1, List.forall_mem_cons.2
      ⟨by decide, isBlank_of_mem_twoPlaces hplaces.2⟩⟩)
  simp only [parse, ofChars?, htrim, twoDigits_twoPlaces hplaces.1, twoDigits_twoPlaces hplaces.2, dropColon,
    isSecondsPart, h, decide_true, Bool.and_self, if_true]

end TimeOfDay

/-! ## Records that are written -/

theorem restores_timeOfDay {t : TimeOfDay} (h : t.OnClock) : Restores TimeOfDay.reader TimeOfDay.toValue t :=
  (restores_text t.toString).refine (by rw [TimeOfDay.parse_toString h]; rfl)

theorem restores_direction (d : Direction) : Restores Direction.reader Direction.toValue d :=
  restores_choice (by cases d <;> decide)

theorem restores_texts (texts : List String) : ∀ s ∈ texts, Restores Reader.text .text s :=
  fun s _ => restores_text s

theorem restores_moment {m : Moment} (h : m.InRange) : Restores Moment.reader Moment.toValue m :=
  restores_record rfl (by decide) <|
    .optional (fun day hday => restores_natural (h.day day hday) (by decide)) (fun _ => rfl) rfl <|
    .optional (fun time htime => restores_timeOfDay (h.time time htime)) (fun _ => Value.isDefault_text rfl _) rfl <|
    .nil m

theorem restores_alert {a : Alert} (h : a.InRange) : Restores Alert.reader Alert.toValue a :=
  restores_record rfl (by decide) <|
    .flag rfl <| .flag rfl <|
    .optional (fun note _ => restores_text note) (Value.isDefault_text rfl) rfl <|
    .optional (fun n hn => restores_natural (h.reference n hn) (by decide)) (fun _ => rfl) rfl <|
    .nil a

theorem restores_restriction {r : Restriction} (h : r.InRange) :
    Restores Restriction.reader Restriction.toValue r :=
  restores_record rfl (by decide) <|
    .flag rfl <| .flag rfl <|
    .list (restores_texts _) rfl <| .list (restores_texts _) rfl <| .list (restores_texts _) rfl <|
    .optional (fun start hstart => restores_moment (h.start start hstart)) (fun _ => rfl) rfl <|
    .optional (fun finish hfinish => restores_moment (h.finish finish hfinish)) (fun _ => rfl) rfl <|
    .nil r

theorem restores_constraint {c : Constraint} (h : c.InRange) : Restores Constraint.reader Constraint.toValue c :=
  restores_record rfl (by decide) <|
    .optional (fun lowest hlowest => restores_natural (h.lowest lowest hlowest) (by decide)) (fun _ => rfl) rfl <|
    .optional (fun highest hhighest => restores_natural (h.highest highest hhighest) (by decide)) (fun _ => rfl) rfl <|
    .optional (fun direction _ => restores_direction direction) (fun _ => Value.isDefault_text rfl _) rfl <|
    .list (restores_texts _) rfl <| .list (restores_texts _) rfl <| .list (restores_texts _) rfl <|
    .list (restores_texts _) rfl <| .list (restores_texts _) rfl <| .list (restores_texts _) rfl <|
    .list (fun alert halert => restores_alert (h.alerts alert halert)) rfl <|
    .list (fun r hr => restores_restriction (h.restrictions r hr)) rfl <|
    .nil c

theorem restores_sidRecord {r : SidRecord} (h : r.InRange) : Restores SidRecord.reader SidRecord.toValue r :=
  restores_record rfl (by decide) <|
    .text rfl <|
    .list (restores_texts _) rfl <|
    .list (fun c hc => restores_constraint (h.constraints c hc)) rfl <|
    .list (fun restriction hr => restores_restriction (h.restrictions restriction hr)) rfl <|
    .nil r

theorem restores_airportRecord {r : AirportRecord} (h : r.InRange) :
    Restores AirportRecord.reader AirportRecord.toValue r :=
  restores_record rfl (by decide) <|
    .required (restores_text r.icao) (Value.isDefault_text rfl _) <|
    .list (fun sid hsid => restores_sidRecord (h.sids sid hsid)) rfl <|
    .nil r

theorem restores_versionRecord {v : VersionRecord} (h : v.InRange) :
    Restores VersionRecord.reader VersionRecord.toValue v :=
  restores_record rfl (by decide) <|
    .text rfl <|
    .required (restores_timeOfDay h.time) (Value.isDefault_text rfl _) <|
    .required (restores_natural h.day (by decide)) rfl <|
    .nil v

/-! ## Documents -/

/-- What is read from a text is read from each of its written forms, whichever fields are left out that hold the
default. -/
theorem document_roundTrip {β : Type} {item : Reader β} {write : β → Value} {P : β → Prop} (hyields : Yields item P)
    (hrestores : ∀ b, P b → Restores item write b) {text : String} {b : β} (h : Reader.document item text = .ok b)
    {w : Value} (hw : Abridged (write b) w) :
    Reader.document item w.compact = .ok b ∧ Reader.document item w.pretty = .ok b :=
  have hb := hrestores b (yields_document hyields h)
  ⟨document_restored hb hw (spelled_compactChars w), document_restored hb hw (spelled_prettyChars 0 w)⟩

/-- A document that is accepted holds values within their limits. What is written for it, in the compact and in the
indented form, is read back, and so is every document that leaves out of it, at any depth, fields that hold the default.
The same is true of version documents. -/
theorem documents_restored :
    (∀ text airports, readAirports text = .ok airports →
      (∀ airport ∈ airports, airport.InRange) ∧ readAirports (airportsValue airports).compact = .ok airports ∧
        ∀ w, Abridged (airportsValue airports) w →
          readAirports w.compact = .ok airports ∧ readAirports w.pretty = .ok airports) ∧
      ∀ text version, readVersion text = .ok version →
        version.InRange ∧ readVersion version.toValue.compact = .ok version ∧
          ∀ w, Abridged version.toValue w →
            readVersion w.compact = .ok version ∧ readVersion w.pretty = .ok version := by
  refine ⟨fun text airports h => ?_, fun text version h => ?_⟩
  · have hyields := yields_airportRecord.list
    have hrestores : ∀ airports : List AirportRecord, (∀ airport ∈ airports, airport.InRange) →
        Restores AirportRecord.reader.list airportsValue airports :=
      fun airports hairports => .list fun airport hairport => restores_airportRecord (hairports airport hairport)
    exact ⟨yields_document hyields h, (document_roundTrip hyields hrestores h (.refl _)).1,
      fun w hw => document_roundTrip hyields hrestores h hw⟩
  · have hrestores := fun (version : VersionRecord) => restores_versionRecord (v := version)
    exact ⟨yields_document yields_versionRecord h,
      (document_roundTrip yields_versionRecord hrestores h (.refl _)).1,
      fun w hw => document_roundTrip yields_versionRecord hrestores h hw⟩

/-- An airport that is written as a list of its fields, with entries in another order and one that no record has. -/
def mixedText : String :=
  "[[\"EGLL\", [\x7b\"constraints\": [\x7b\"dir\": \"EVEN\", \"min\": 90, \"alerts\": [[true]]\x7d], \"point\": \"CPT\",
    \"note\": 1.5, \"restrictions\": [\x7b\"start\": \x7b\"time\": \"0630\"\x7d\x7d]\x7d, \x7b\x7d]]]"

def mixedAirports : List AirportRecord :=
  [⟨"EGLL",
    [{ point := "CPT", constraints := [{ lowest := some 90, direction := some .even, alerts := [{ ban := true }] }],
       restrictions := [{ start := some ⟨none, some ⟨6, 30⟩⟩ }] }, {}]⟩]

theorem mixedAirports_restored :
    readAirports mixedText = .ok mixedAirports ∧
      Abridged (airportsValue mixedAirports) (airportsValue mixedAirports).shortest ∧
      readAirports (airportsValue mixedAirports).shortest.compact = .ok mixedAirports ∧
      readVersion "[\"1.2\", \"0630\", 3]" = .ok ⟨"1.2", ⟨6, 30⟩, 3⟩ ∧
      readVersion "\x7b\"api_version\":\"1.2\",\"time\":\"06:30\",\"day\":3\x7d" = .ok ⟨"1.2", ⟨6, 30⟩, 3⟩ :=
  have hread : readAirports mixedText = .ok mixedAirports := by decide +kernel
  have hversion : readVersion "[\"1.2\", \"0630\", 3]" = .ok ⟨"1.2", ⟨6, 30⟩, 3⟩ := by decide +kernel
  ⟨hread, Value.abridged_shortest _, ((documents_restored.1 _ _ hread).2.2 _ (Value.abridged_shortest _)).1, hversion,
    (documents_restored.2 _ _ hversion).2.1⟩

end DepartureRules
