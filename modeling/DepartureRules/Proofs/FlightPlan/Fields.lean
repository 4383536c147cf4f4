import DepartureRules.FlightPlan.Message
import DepartureRules.Proofs.Route.Itinerary
import DepartureRules.Proofs.Text.Respaced

/-!
# The fields of a message

* `splitFirst_joinWith` and `joinWith_splitFirst`: pieces without the separator are told apart in the text that joins
  them, and cutting loses nothing but separators;
* `MessageLayout`: eight fields as they stand in a text, with the blanks around the message;
* `split_text`: the fields of such a text, without the blanks around them, are the fields of the message;
* `exists_layout`: every text whose fields can be told apart is such a text;
* `MessageFields.Tells`: the plan that the fields stand for, and `decode_eq_ok_iff`.
-/

namespace DepartureRules
open Text Route
set_option autoImplicit false

/-! ## Cutting at separators -/

section
variable {separator : Char} {n : Nat}

theorem splitFirst_ne_nil (separator : Char) (n : Nat) (s : List Char) : splitFirst separator n s ≠ [] := by
  fun_cases splitFirst separator n s <;> simp

theorem splitFirst_cons {c : Char} (h : c ≠ separator) (s : List Char) :
    splitFirst separator n (c :: s) = (splitFirst separator n s).modifyHead (c :: ·) := by
  cases n with
  | zero => simp [splitFirst]
  | succ n =>
    rw [splitFirst, if_neg h]
    cases hs : splitFirst separator (n + 1) s with
    | nil => exact absurd hs (splitFirst_ne_nil _ _ _)
    | cons piece pieces => rfl

/-- What holds no separator stays with the first piece. -/
theorem splitFirst_append {front : List Char} (h : separator ∉ front) (s : List Char) :
    splitFirst separator n (front ++ s) = (splitFirst separator n s).modifyHead (front ++ ·) := by
  induction front with
  | nil => exact (congrFun List.modifyHead_id _).symm
  | cons c front ih =>
    rw [List.mem_cons, not_or] at h
    rw [List.cons_append, splitFirst_cons (Ne.symm h.1), ih h.2, List.modifyHead_modifyHead]
    rfl

theorem splitFirst_append_cons {piece : List Char} (h : separator ∉ piece) (s : List Char) :
    splitFirst separator (n + 1) (piece ++ separator :: s) = piece :: splitFirst separator n s := by
  rw [splitFirst_append h, splitFirst, if_pos rfl, List.modifyHead_cons, List.append_nil]

/-- Pieces are told apart again in the text that joins them; only the last one may hold separators. -/
theorem splitFirst_joinWith {pieces : List (List Char)} (h : ∀ piece ∈ pieces, separator ∉ piece)
    (last : List Char) :
    splitFirst separator pieces.length (joinWith [separator] (pieces ++ [last])) = pieces ++ [last] := by
  induction pieces with
  | nil => simp [splitFirst, joinWith]
  | cons piece pieces ih =>
    rw [List.forall_mem_cons] at h
    rw [List.cons_append, joinWith_cons _ _ (by simp), List.append_assoc, List.singleton_append, List.length_cons,
      splitFirst_append_cons h.1, ih h.2]

theorem joinWith_splitFirst (separator : Char) (n : Nat) (s : List Char) :
    joinWith [separator] (splitFirst separator n s) = s := by
  fun_induction splitFirst separator n s with
  | case1 s => rfl
  | case2 n => rfl
  | case3 n s ih =>
    rw [joinWith_cons _ _ (splitFirst_ne_nil _ _ _), ih]
    rfl
  | case4 n c s hc hs ih => exact absurd hs (splitFirst_ne_nil _ _ _)
  | case5 n c s hc piece pieces hs ih =>
    rw [hs] at ih
    rw [← ih]
    cases pieces <;> rfl

/-- Only behind the last cut there may be separators. -/
theorem not_mem_of_mem_dropLast_splitFirst {s piece : List Char}
    (h : piece ∈ (splitFirst separator n s).dropLast) : separator ∉ piece := by
  fun_induction splitFirst separator n s generalizing piece with
  | case1 s => cases h
  | case2 n => cases h
  | case3 n s ih =>
    rw [List.dropLast_cons_of_ne_nil (splitFirst_ne_nil _ _ _)] at h
    rcases List.mem_cons.1 h with rfl | h
    · exact List.not_mem_nil
    · exact ih h
  | case4 n c s hc hs ih => exact absurd hs (splitFirst_ne_nil _ _ _)
  | case5 n c s hc first others hs ih =>
    cases others with
    | nil => cases h
    | cons next others =>
      rw [hs] at ih
      rw [List.dropLast_cons_cons] at h ih
      rcases List.mem_cons.1 h with rfl | h
      · rw [List.mem_cons, not_or]
        exact ⟨Ne.symm hc, ih List.mem_cons_self⟩
      · exact ih (List.mem_cons_of_mem _ h)

end

/-! ## The ends of a message -/

theorem dropBeginning_eq_some_iff {beginning s rest : List Char} :
    dropBeginning beginning s = some rest ↔ s = beginning ++ rest := by
  unfold dropBeginning
  constructor
  · intro h
    split at h
    · rename_i hprefix
      obtain ⟨rest', rfl⟩ := List.isPrefixOf_iff_prefix.1 hprefix
      rw [List.drop_left, Option.some.injEq] at h
      rw [h]
    · cases h
  · rintro rfl
    rw [if_pos (List.isPrefixOf_iff_prefix.2 (List.prefix_append _ _)), List.drop_left]

theorem dropClosing_concat (s : List Char) : dropClosing (s ++ [')']) = s := by
  simp [dropClosing]

theorem dropClosing_of_ne {s : List Char} (h : s.getLast? ≠ some ')') : dropClosing s = s := by
  unfold dropClosing
  split
  · contradiction
  · rfl

/-! ## Fields of a text -/

namespace MessageFields

/-- The fields in the order of a message. -/
def toList (fields : MessageFields) : List (List Char) :=
  [fields.identification, fields.flightRules, fields.aircraftType, fields.equipment, fields.departure, fields.route,
    fields.destination, fields.otherInformation]

/-- The fields that a separator stands behind. -/
def leading (fields : MessageFields) : List (List Char) :=
  [fields.identification, fields.flightRules, fields.aircraftType, fields.equipment, fields.departure, fields.route,
    fields.destination]

def map (f : List Char → List Char) (fields : MessageFields) : MessageFields :=
  ⟨f fields.identification, f fields.flightRules, f fields.aircraftType, f fields.equipment, f fields.departure,
    f fields.route, f fields.destination, f fields.otherInformation⟩

theorem toList_eq (fields : MessageFields) : fields.toList = fields.leading ++ [fields.otherInformation] := rfl

theorem joinWith_leading (fields : MessageFields) (last : List Char) :
    joinWith ['-'] (fields.leading ++ [last]) = joinWith ['-'] fields.leading ++ '-' :: last :=
  joinWith_concat '-' (List.cons_ne_nil _ _) last

theorem splitFirst_leading {fields : MessageFields} (h : ∀ field ∈ fields.leading, '-' ∉ field) (last : List Char) :
    splitFirst '-' 7 (joinWith ['-'] (fields.leading ++ [last])) = fields.leading ++ [last] :=
  splitFirst_joinWith h last

theorem exists_toList_eq {pieces : List (List Char)} (h : pieces.length = 8) :
    ∃ fields : MessageFields, fields.toList = pieces := by
  match pieces, h with
  | [a, b, c, d, e, f, g, i], _ => exact ⟨⟨a, b, c, d, e, f, g, i⟩, rfl⟩

/-- How a message begins. -/
def opening : List Char :=
  ['(', 'F', 'P', 'L', '-']

theorem split_eq_ok_iff {message : String} {fields : MessageFields} :
    split message = .ok fields ↔ ∃ body, trim message.toList = opening ++ body ∧
      (splitFirst '-' 7 (dropClosing body)).map trim = fields.toList := by
  unfold split
  constructor
  · intro h
    split at h
    · cases h
    · rename_i body hbody
      refine ⟨body, dropBeginning_eq_some_iff.1 hbody, ?_⟩
      split at h
      · rename_i hpieces
        cases h
        exact hpieces
      · cases h
  · rintro ⟨body, hbody, hpieces⟩
    rw [show dropBeginning ['(', 'F', 'P', 'L', '-'] (trim message.toList) = some body from
      dropBeginning_eq_some_iff.2 hbody]
    simp only [hpieces, toList]

end MessageFields

/-- Eight fields as they stand in the text of a message, between the blanks before and after it. -/
structure MessageLayout where
  before : List Char
  fields : MessageFields
  /-- A closing bracket stands behind the fields. -/
  closed : Bool
  after : List Char
  blank_before : ∀ c ∈ before, isBlank c = true
  blank_after : ∀ c ∈ after, isBlank c = true
  hyphen_not_mem : ∀ field ∈ fields.leading, '-' ∉ field
  open_end : closed = false → (dropTrailing isBlank fields.otherInformation).getLast? ≠ some ')'

namespace MessageLayout

/-- The text from the opening to the closing bracket. -/
def body (m : MessageLayout) : List Char :=
  MessageFields.opening ++ (joinWith ['-'] m.fields.toList ++ if m.closed then [')'] else [])

def text (m : MessageLayout) : String :=
  String.ofList (m.before ++ m.body ++ m.after)

/-- A closed message without blanks around it. -/
def plain (fields : MessageFields) (hyphen_not_mem : ∀ field ∈ fields.leading, '-' ∉ field) : MessageLayout where
  before := []
  fields := fields
  closed := true
  after := []
  blank_before := List.forall_mem_nil _
  blank_after := List.forall_mem_nil _
  hyphen_not_mem := hyphen_not_mem
  open_end := fun h => absurd h.symm Bool.false_ne_true

theorem text_plain (fields : MessageFields) (hyphen_not_mem : ∀ field ∈ fields.leading, '-' ∉ field) :
    (plain fields hyphen_not_mem).text =
      String.ofList (MessageFields.opening ++ (joinWith ['-'] fields.toList ++ [')'])) := by
  simp [text, body, plain]

theorem dropTrailing_eq_self {s : List Char} (h : ∀ c ∈ s.getLast?, isBlank c = false) :
    dropTrailing isBlank s = s := by
  rw [dropTrailing_eq, List.rdropWhile_eq_self_iff]
  intro hne
  rw [h _ (List.getLast?_eq_some_getLast hne)]
  exact Bool.false_ne_true

theorem trim_dropTrailing (s : List Char) : trim (dropTrailing isBlank s) = trim s := by
  have h : trim ([] ++ dropTrailing isBlank s ++ s.rtakeWhile isBlank) = trim (dropTrailing isBlank s) :=
    trim_append_of_blank (List.forall_mem_nil _) (fun c hc => List.mem_rtakeWhile_imp hc) _
  rw [List.nil_append, dropTrailing_eq, List.rdropWhile_append_rtakeWhile] at h
  exact h.symm

/-- The fields of the text, without the blanks around them, are those of the message. -/
theorem split_text (m : MessageLayout) : MessageFields.split m.text = .ok (m.fields.map trim) := by
  rw [MessageFields.split_eq_ok_iff, text, String.toList_ofList, trim_append_of_blank m.blank_before m.blank_after]
  cases hclosed : m.closed with
  | true =>
    have hbody : trim m.body = m.body := by
      rw [trim_eq_self_iff, body, hclosed, if_pos rfl, ← List.append_assoc]
      refine ⟨fun c hc => ?_, fun c hc => ?_⟩
      · cases Option.mem_def.1 hc
        decide
      · rw [List.getLast?_concat] at hc
        cases Option.mem_def.1 hc
        decide
    refine ⟨joinWith ['-'] m.fields.toList ++ [')'], ?_, ?_⟩
    · rw [hbody, body, hclosed, if_pos rfl]
    · rw [dropClosing_concat, MessageFields.toList_eq]
      exact congrArg (List.map trim) (MessageFields.splitFirst_leading m.hyphen_not_mem _)
  | false =>
    have hlast := m.open_end hclosed
    refine ⟨joinWith ['-'] (m.fields.leading ++ [dropTrailing isBlank m.fields.otherInformation]), ?_, ?_⟩
    · rw [body, hclosed, if_neg Bool.false_ne_true, List.append_nil, MessageFields.toList_eq,
        MessageFields.joinWith_leading, MessageFields.joinWith_leading, ← List.append_assoc, ← List.append_assoc]
      refine trim_append_cons (fun d hd => ?_) (by decide) _
      cases Option.mem_def.1 hd
      decide
    · rw [dropClosing_of_ne]
      · rw [MessageFields.splitFirst_leading m.hyphen_not_mem, List.map_append, List.map_singleton, trim_dropTrailing]
        rfl
      · rw [MessageFields.joinWith_leading, List.getLast?_append, List.getLast?_cons]
        cases hother : (dropTrailing isBlank m.fields.otherInformation).getLast? with
        | none => simp
        | some c => simpa [hother] using hlast

/-- Every text whose fields can be told apart is the text of a layout. -/
theorem exists_layout {message : String} {fields : MessageFields} (h : MessageFields.split message = .ok fields) :
    ∃ m : MessageLayout, m.text = message := by
  obtain ⟨body, hbody, hpieces⟩ := MessageFields.split_eq_ok_iff.1 h
  have hlength : (splitFirst '-' 7 (dropClosing body)).length = 8 := by
    rw [← List.length_map (f := trim), hpieces]
    rfl
  obtain ⟨raw, hraw⟩ := MessageFields.exists_toList_eq hlength
  obtain ⟨before, after, hbefore, hafter, hmessage⟩ := exists_append_trim message.toList
  have hleading : ∀ field ∈ raw.leading, '-' ∉ field := by
    intro field hfield
    refine not_mem_of_mem_dropLast_splitFirst (n := 7) (s := dropClosing body) ?_
    rw [← hraw, MessageFields.toList_eq, List.dropLast_concat]
    exact hfield
  have hjoin : joinWith ['-'] raw.toList = dropClosing body := by rw [hraw, joinWith_splitFirst]
  by_cases hclosed : body.getLast? = some ')'
  · obtain ⟨inner, rfl⟩ := List.getLast?_eq_some_iff.1 hclosed
    rw [dropClosing_concat] at hjoin
    refine ⟨⟨before, raw, true, after, hbefore, hafter, hleading, nofun⟩, ?_⟩
    rw [text, MessageLayout.body, if_pos rfl, hjoin, ← hbody, ← hmessage, String.ofList_toList]
  · rw [dropClosing_of_ne hclosed] at hjoin
    have hother : ∀ c ∈ raw.otherInformation.getLast?, c ∈ body.getLast? := by
      intro c hc
      rw [← hjoin, MessageFields.toList_eq, MessageFields.joinWith_leading, List.getLast?_append, List.getLast?_cons,
        Option.mem_def.1 hc]
      rfl
    have hvisible : ∀ c ∈ body.getLast?, isBlank c = false := by
      intro c hc
      refine isBlank_of_mem_getLast_trim (s := message.toList) ?_
      rw [hbody, List.getLast?_append, Option.mem_def.1 hc]
      rfl
    have hopen : (dropTrailing isBlank raw.otherInformation).getLast? ≠ some ')' := by
      rw [dropTrailing_eq_self fun c hc => hvisible c (hother c hc)]
      exact fun hc => hclosed (hother _ hc)
    refine ⟨⟨before, raw, false, after, hbefore, hafter, hleading, fun _ => hopen⟩, ?_⟩
    rw [text, MessageLayout.body, if_neg Bool.false_ne_true, List.append_nil, hjoin, ← hbody, ← hmessage,
      String.ofList_toList]

end MessageLayout

/-! ## The plan that the fields stand for -/

/-- The fields can be read, and the plan holds what is read from them. -/
inductive MessageFields.Tells (fields : MessageFields) : FiledPlan → Prop
  | intro {designator departure destination : String} {aircraft : AircraftType} {departing arriving : TimeOfDay}
      {speedLevel route : List Char} {cruiseLevel : Int} {weekday : Nat}
      (rules : fields.flightRules ≠ [])
      (designates : readDesignator fields.aircraftType = .ok designator)
      (known : findAircraft designator = .ok aircraft)
      (departs : readAerodrome .departure fields.departure = .ok (departure, departing))
      (flies : readRouteField fields.route = .ok (speedLevel, route))
      (cruises : readCruiseLevel speedLevel = .ok cruiseLevel)
      (arrives : readAerodrome .destination fields.destination = .ok (destination, arriving))
      (dated : readWeekday fields.otherInformation = .ok weekday) :
      Tells fields {
        callsign := String.ofList fields.identification
        aircraft := designator
        departing := ⟨some weekday, some departing⟩
        plan := {
          ifr := fields.flightRules.head? == some 'I'
          departure := some departure
          destination := some destination
          cruiseLevel
          route := some (String.ofList (joinWith [' '] (words route)))
          points := (words route).map String.ofList
          sidName := sidNameOf ((words route).map String.ofList)
          engineType := aircraft.engineType
          aircraftType := aircraft.aircraftType } }

/-- A message is decoded exactly if its fields can be told apart and each of them can be read. -/
theorem decode_eq_ok_iff {message : String} {filed : FiledPlan} :
    FiledPlan.decode message = .ok filed ↔
      ∃ fields, MessageFields.split message = .ok fields ∧ fields.Tells filed := by
  unfold FiledPlan.decode
  constructor
  · intro h
    obtain ⟨fields, hfields, h⟩ := bind_eq_ok.1 h
    refine ⟨fields, hfields, ?_⟩
    split at h
    · cases h
    · rename_i hrules
      obtain ⟨designator, hdesignator, h⟩ := bind_eq_ok.1 h
      obtain ⟨aircraft, haircraft, h⟩ := bind_eq_ok.1 h
      obtain ⟨⟨departure, departing⟩, hdeparture, h⟩ := bind_eq_ok.1 h
      obtain ⟨⟨speedLevel, route⟩, hroute, h⟩ := bind_eq_ok.1 h
      obtain ⟨cruiseLevel, hlevel, h⟩ := bind_eq_ok.1 h
      obtain ⟨⟨destination, arriving⟩, hdestination, h⟩ := bind_eq_ok.1 h
      obtain ⟨weekday, hweekday, h⟩ := bind_eq_ok.1 h
      cases h
      exact .intro (by simpa using hrules) hdesignator haircraft hdeparture hroute hlevel hdestination hweekday
  · rintro ⟨fields, hfields, htells⟩
    cases htells with
    | intro rules designates known departs flies cruises arrives dated =>
      rw [hfields]
      simp [bind, Except.bind, rules, designates, known, departs, flies, cruises, arrives, dated, pure, Except.pure]

end DepartureRules
