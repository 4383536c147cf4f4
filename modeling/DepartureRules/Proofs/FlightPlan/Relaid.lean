import Mathlib.Data.List.Forall2
import DepartureRules.Proofs.FlightPlan.Fields

/-!
# Messages spread over lines

A message may be broken into lines and indented as its sender likes. Its lines are joined before it is decoded, and
each stage of the reading forgets some of the blanks: the joining those around line breaks, the cutting into fields
those around the fields, and the reading of the route and of the last field the lengths of the runs between words.

* `Respaced.dropClosing` and `Respaced.splitFirst`: respaced messages have respaced fields;
* `respaced_joinLines`: to join lines is to respace the runs that hold a line break;
* `MessageFields.Tells.respaced`: the route and the last field tell the same when they are respaced;
* `MessageLayout.Relaid`: how a message may be laid out anew;
* `decode_relaid`: a message on one line is decoded to the same plan however it is laid out.
-/

namespace DepartureRules
open Text
set_option autoImplicit false

/-! ## Fields of respaced messages -/

theorem forall₂_modifyHead {α : Type} {R : α → α → Prop} {f g : α → α} {l l' : List α} (h : List.Forall₂ R l l')
    (hfg : ∀ a b, R a b → R (f a) (g b)) : List.Forall₂ R (l.modifyHead f) (l'.modifyHead g) := by
  cases h with
  | nil => exact .nil
  | cons head rest => exact .cons (hfg _ _ head) rest

namespace Text.Respaced
variable {p : Char → Bool} {s t : List Char}

/-- The same visible character stands at the end of both texts, or none at the end of either. -/
theorem getLast_visible (h : Respaced p s t) :
    t.getLast?.filter (fun c => !isBlank c) = s.getLast?.filter fun c => !isBlank c := by
  have hhead := congrArg List.head? h.reverse.takeWhile_visible
  rwa [List.head?_takeWhile, List.head?_takeWhile, List.head?_reverse, List.head?_reverse] at hhead

theorem dropClosing (h : Respaced p s t) : Respaced p (dropClosing s) (dropClosing t) := by
  have hlast := h.getLast_visible
  by_cases hs : s.getLast? = some ')'
  · obtain ⟨inner, rfl⟩ := List.getLast?_eq_some_iff.1 hs
    have hreverse := h.reverse
    rw [List.reverse_concat] at hreverse
    obtain ⟨inner', ht, htail⟩ := hreverse.cons_left (by decide)
    obtain rfl : t = inner'.reverse ++ [')'] := by rw [← List.reverse_reverse t, ht, List.reverse_cons]
    rw [dropClosing_concat, dropClosing_concat]
    simpa using htail.reverse
  · have ht : t.getLast? ≠ some ')' := by
      intro ht
      rw [ht, show (some ')').filter (fun c => !isBlank c) = some ')' from rfl, eq_comm,
        Option.filter_eq_some_iff] at hlast
      exact hs hlast.1
    rwa [dropClosing_of_ne hs, dropClosing_of_ne ht]

theorem splitFirst (h : Respaced p s t) (n : Nat) :
    List.Forall₂ (Respaced p) (splitFirst '-' n s) (splitFirst '-' n t) := by
  induction h generalizing n with
  | nil => exact List.forall₂_same.2 fun piece _ => .refl piece
  | @keep c s t tail ih =>
    by_cases hc : c = '-'
    · subst hc
      cases n with
      | zero =>
        rw [DepartureRules.splitFirst, DepartureRules.splitFirst]
        exact .cons (.keep _ tail) .nil
      | succ n =>
        rw [DepartureRules.splitFirst, DepartureRules.splitFirst, if_pos rfl, if_pos rfl]
        exact .cons .nil (ih n)
    · rw [splitFirst_cons hc, splitFirst_cons hc]
      exact forall₂_modifyHead (ih n) fun _ _ => .keep c
  | @run gap other s t blank blank' ne_nil' marked _ ih =>
    have hyphen_not_mem : ∀ l : List Char, (∀ c ∈ l, isBlank c = true) → '-' ∉ l :=
      fun l hl hmem => absurd (hl _ hmem) (by decide)
    rw [splitFirst_append (hyphen_not_mem gap blank), splitFirst_append (hyphen_not_mem other blank')]
    exact forall₂_modifyHead (ih n) fun _ _ => .run blank blank' ne_nil' marked

end Text.Respaced

theorem split_respaced {p : Char → Bool} {message message' : String} {fields : MessageFields}
    (hsplit : MessageFields.split message = .ok fields)
    (h : Respaced p (trim message.toList) (trim message'.toList)) :
    ∃ fields', MessageFields.split message' = .ok fields' ∧
      List.Forall₂ (Respaced p) fields.toList fields'.toList := by
  obtain ⟨body, hbody, hpieces⟩ := MessageFields.split_eq_ok_iff.1 hsplit
  rw [hbody] at h
  obtain ⟨body', hbody', hrest⟩ := h.append_left (by decide)
  have hfields := hrest.dropClosing.splitFirst 7
  have htrimmed : List.Forall₂ (Respaced p) ((splitFirst '-' 7 (dropClosing body)).map trim)
      ((splitFirst '-' 7 (dropClosing body')).map trim) :=
    List.forall₂_map_left_iff.2 (List.forall₂_map_right_iff.2 (hfields.imp fun _ _ hpiece => hpiece.trim))
  rw [hpieces] at htrimmed
  obtain ⟨fields', hfields'⟩ := MessageFields.exists_toList_eq htrimmed.length_eq.symm
  rw [← hfields'] at htrimmed
  exact ⟨fields', MessageFields.split_eq_ok_iff.2 ⟨body', hbody', hfields'.symm⟩, htrimmed⟩

/-! ## Joined lines -/

/-- Of two texts with a line break between them, trimming leaves the trimmed texts with a run of blanks between them. -/
theorem trim_append_newLine {line rest : List Char} (hline : trim line ≠ []) (hrest : trim rest ≠ []) :
    ∃ gap, (∀ c ∈ gap, isBlank c = true) ∧ '\n' ∈ gap ∧
      trim (line ++ ['\n'] ++ rest) = trim line ++ (gap ++ trim rest) := by
  obtain ⟨front, back, hfront, hback, heq⟩ := exists_append_trim line
  obtain ⟨front', back', hfront', hback', heq'⟩ := exists_append_trim rest
  refine ⟨back ++ ['\n'] ++ front', ?_, by simp, ?_⟩
  · rw [List.forall_mem_append, List.forall_mem_append, List.forall_mem_singleton]
    exact ⟨⟨hback, by decide⟩, hfront'⟩
  · have hcore : trim (trim line ++ (back ++ ['\n'] ++ front' ++ trim rest)) =
        trim line ++ (back ++ ['\n'] ++ front' ++ trim rest) := by
      refine trim_eq_self_iff.2 ⟨fun c hc => ?_, fun c hc => ?_⟩
      · rw [List.head?_append_of_ne_nil _ hline] at hc
        exact isBlank_of_mem_head_trim hc
      · rw [← List.append_assoc, List.getLast?_append_of_ne_nil _ hrest] at hc
        exact isBlank_of_mem_getLast_trim hc
    have htext : line ++ ['\n'] ++ rest =
        front ++ (trim line ++ (back ++ ['\n'] ++ front' ++ trim rest)) ++ back' := by
      conv_lhs => rw [heq, heq']
      simp only [List.append_assoc]
    rw [htext, trim_append_of_blank hfront hback', hcore]

/-- Lines that are trimmed and joined, the empty ones left out, are the text with its line breaks respaced. -/
theorem respaced_joinWith (lines : List (List Char)) :
    Respaced (· == '\n') (trim (joinWith ['\n'] lines))
      (joinWith [' '] ((lines.map trim).filter fun line => !line.isEmpty)) := by
  induction lines with
  | nil => exact .nil
  | cons line lines ih =>
    by_cases hlines : lines = []
    · subst hlines
      by_cases hline : trim line = [] <;> simp [joinWith, hline, Respaced.refl]
    rw [joinWith_cons _ _ hlines, List.map_cons]
    generalize joinWith ['\n'] lines = rest at ih ⊢
    by_cases hline : trim line = []
    · -- an empty line takes its line break with it
      have hblank : ∀ c ∈ line ++ ['\n'], isBlank c = true :=
        List.forall_mem_append.2 ⟨forall_isBlank_of_trim_eq_nil hline, by decide⟩
      have htrim := trim_append_of_blank hblank (List.forall_mem_nil _) rest
      rw [List.append_nil] at htrim
      rw [htrim, List.filter_cons_of_neg (by simp [hline])]
      exact ih
    rw [List.filter_cons_of_pos (by simpa using hline)]
    have hne : ∀ piece ∈ (lines.map trim).filter (fun line => !line.isEmpty), piece ≠ [] := by simp
    generalize (lines.map trim).filter (fun line => !line.isEmpty) = kept at ih hne ⊢
    cases kept with
    | nil =>
      -- nothing but blanks follows
      have hblank : ∀ c ∈ ['\n'] ++ rest, isBlank c = true :=
        List.forall_mem_append.2 ⟨by decide, forall_isBlank_of_trim_eq_nil (ih.eq_nil_iff.2 rfl)⟩
      have htrim := trim_append_of_blank (List.forall_mem_nil _) hblank line
      rw [List.nil_append, ← List.append_assoc] at htrim
      rw [htrim]
      exact .refl _
    | cons piece pieces =>
      have hrest : trim rest ≠ [] := fun h =>
        joinWith_ne_nil (hne piece List.mem_cons_self) pieces (ih.eq_nil_iff.1 h)
      obtain ⟨gap, hgap, hbreak, htrim⟩ := trim_append_newLine hline hrest
      rw [htrim, joinWith_cons _ _ (List.cons_ne_nil _ _), List.append_assoc]
      exact (Respaced.refl _).append (.run hgap (by decide) (by decide) ⟨_, hbreak, by decide⟩ ih)

/-- Line breaks are all that is respaced when lines are joined. -/
theorem respaced_joinLines (text : String) :
    Respaced (· == '\n') (trim text.toList) (trim (joinLines text).toList) := by
  have h := (respaced_joinWith (splitWhere (· == '\n') text.toList)).trim
  rw [joinWith_splitWhere, trim_trim] at h
  rwa [joinLines, String.toList_ofList]

/-! ## Fields that tell the same -/

theorem isBlank_of_dropWhile_visible {field rest : List Char} {c : Char}
    (h : field.dropWhile (fun c => !isBlank c) = c :: rest) : isBlank c = true := by
  have hhead := List.head?_dropWhile_not (fun c => !isBlank c) field
  rw [h] at hhead
  simpa using hhead

theorem readRouteField_respaced {p : Char → Bool} {field field' speedLevel route : List Char}
    (h : readRouteField field = .ok (speedLevel, route)) (hfield : Respaced p field field') :
    ∃ route', readRouteField field' = .ok (speedLevel, route') ∧ words route' = words route := by
  have hbehind := hfield.dropWhile_visible
  unfold readRouteField at h ⊢
  cases hs : field.dropWhile (fun c => !isBlank c) with
  | nil =>
    rw [hs] at h
    cases h
  | cons c rest =>
    rw [hs] at h hbehind
    cases h
    cases ht : field'.dropWhile (fun c => !isBlank c) with
    | nil =>
      rw [ht] at hbehind
      cases hbehind.eq_nil_iff.2 rfl
    | cons c' rest' =>
      have hc := isBlank_of_dropWhile_visible hs
      have hc' := isBlank_of_dropWhile_visible ht
      refine ⟨rest', by rw [hfield.takeWhile_visible], ?_⟩
      rw [ht] at hbehind
      have hwords := hbehind.words_eq
      rwa [words_cons hc, words_cons hc'] at hwords

/-- The route and the last field tell the same when they are respaced. -/
theorem MessageFields.Tells.respaced {p : Char → Bool} {fields : MessageFields} {filed : FiledPlan}
    {route otherInformation : List Char} (h : fields.Tells filed) (hroute : Respaced p fields.route route)
    (hother : Respaced p fields.otherInformation otherInformation) :
    { fields with route, otherInformation : MessageFields }.Tells filed := by
  cases h with
  | intro rules designates known departs flies cruises arrives dated =>
    obtain ⟨route', hflies, hwords⟩ := readRouteField_respaced flies hroute
    rw [← hwords]
    have hdated : readWeekday otherInformation = readWeekday fields.otherInformation := by
      rw [readWeekday, readWeekday, hother.words_eq]
    exact .intro rules designates known departs hflies cruises arrives (hdated.trans dated)

/-! ## Messages that are laid out anew -/

/-- The second text is the first one with blanks put before and behind it. -/
def Padded (s t : List Char) : Prop :=
  ∃ front back, (∀ c ∈ front, isBlank c = true) ∧ (∀ c ∈ back, isBlank c = true) ∧ t = front ++ s ++ back

/-- The second text is the first one with any runs of blanks replaced by others, and blanks put before and behind it. -/
def Rewrapped (s t : List Char) : Prop :=
  ∃ inner, Respaced (fun _ => true) s inner ∧ Padded inner t

/-- The second layout has the fields of the first one, with blanks put before and behind each of them; in the route
and in the last field any runs of blanks may be replaced. The blanks before and after the message are free. -/
structure MessageLayout.Relaid (m m' : MessageLayout) : Prop where
  closed : m'.closed = m.closed
  identification : Padded m.fields.identification m'.fields.identification
  flightRules : Padded m.fields.flightRules m'.fields.flightRules
  aircraftType : Padded m.fields.aircraftType m'.fields.aircraftType
  equipment : Padded m.fields.equipment m'.fields.equipment
  departure : Padded m.fields.departure m'.fields.departure
  route : Rewrapped m.fields.route m'.fields.route
  destination : Padded m.fields.destination m'.fields.destination
  otherInformation : Rewrapped m.fields.otherInformation m'.fields.otherInformation

theorem Padded.trim_eq {s t : List Char} (h : Padded s t) : trim t = trim s := by
  obtain ⟨front, back, hfront, hback, rfl⟩ := h
  exact trim_append_of_blank hfront hback s

theorem Rewrapped.respaced {s t : List Char} (h : Rewrapped s t) : Respaced (fun _ => true) (trim s) (trim t) := by
  obtain ⟨inner, hinner, hpadded⟩ := h
  rw [hpadded.trim_eq]
  exact hinner.trim

theorem mem_of_mem_trim {s : List Char} {c : Char} (h : c ∈ trim s) : c ∈ s := by
  obtain ⟨front, back, -, -, hs⟩ := exists_append_trim s
  rw [hs]
  exact List.mem_append_left _ (List.mem_append_right _ h)

namespace MessageLayout

theorem mem_text {m : MessageLayout} {field : List Char} {c : Char} (hfield : field ∈ m.fields.toList)
    (hc : c ∈ field) : c ∈ m.text.toList := by
  rw [text, String.toList_ofList, body]
  refine List.mem_append_left _ (List.mem_append_right _ (List.mem_append_right _ (List.mem_append_left _ ?_)))
  exact mem_joinWith hfield hc

theorem Relaid.tells {m m' : MessageLayout} {filed : FiledPlan} (h : m.Relaid m')
    (htells : (m.fields.map trim).Tells filed) : (m'.fields.map trim).Tells filed := by
  have hrelaid := htells.respaced h.route.respaced h.otherInformation.respaced
  have hfields : m'.fields.map trim =
      { m.fields.map trim with
        route := trim m'.fields.route, otherInformation := trim m'.fields.otherInformation } := by
    simp only [MessageFields.map, h.identification.trim_eq, h.flightRules.trim_eq, h.aircraftType.trim_eq,
      h.equipment.trim_eq, h.departure.trim_eq, h.destination.trim_eq]
  rwa [hfields]

end MessageLayout

/-- Joining the lines of a layout leaves the fields as they are that have no line break of their own. -/
theorem MessageLayout.Relaid.joined {m m' : MessageLayout} {joined : MessageFields} (h : m.Relaid m')
    (oneLine : '\n' ∉ m.text.toList)
    (hrespaced : List.Forall₂ (Respaced (· == '\n')) (m'.fields.map trim).toList joined.toList) :
    joined = { m'.fields.map trim with route := joined.route, otherInformation := joined.otherInformation } ∧
      Respaced (· == '\n') (trim m'.fields.route) joined.route ∧
      Respaced (· == '\n') (trim m'.fields.otherInformation) joined.otherInformation := by
  have hkept : ∀ s ∈ m.fields.toList, ∀ t u, Padded s t → Respaced (· == '\n') (trim t) u → u = trim t := by
    intro s hs t u hpadded hu
    refine hu.eq_of_forall fun c hc => ?_
    rw [hpadded.trim_eq] at hc
    exact beq_false_of_ne (ne_of_mem_of_not_mem (MessageLayout.mem_text hs (mem_of_mem_trim hc)) oneLine)
  simp only [MessageFields.toList, MessageFields.map, List.forall₂_cons] at hrespaced
  obtain ⟨hidentification, hflightRules, haircraftType, hequipment, hdeparture, hroute, hdestination, hother, -⟩ :=
    hrespaced
  refine ⟨?_, hroute, hother⟩
  have hidentification := hkept _ (by simp [MessageFields.toList]) _ _ h.identification hidentification
  have hflightRules := hkept _ (by simp [MessageFields.toList]) _ _ h.flightRules hflightRules
  have haircraftType := hkept _ (by simp [MessageFields.toList]) _ _ h.aircraftType haircraftType
  have hequipment := hkept _ (by simp [MessageFields.toList]) _ _ h.equipment hequipment
  have hdeparture := hkept _ (by simp [MessageFields.toList]) _ _ h.departure hdeparture
  have hdestination := hkept _ (by simp [MessageFields.toList]) _ _ h.destination hdestination
  simp only [MessageFields.map, ← hidentification, ← hflightRules, ← haircraftType, ← hequipment, ← hdeparture,
    ← hdestination]

/-- A message on one line has a layout. However it is laid out anew, with blanks and line breaks between the fields and
between the words of the route and of the last field, joining its lines gives a message that is decoded to the same
plan. -/
theorem decode_relaid {text : String} {filed : FiledPlan} (h : FiledPlan.decode text = .ok filed)
    (oneLine : '\n' ∉ text.toList) :
    (∃ layout : MessageLayout, layout.text = text) ∧
      ∀ layout layout' : MessageLayout, layout.text = text → layout.Relaid layout' →
        FiledPlan.decode (joinLines layout'.text) = .ok filed := by
  obtain ⟨fields, hsplit, htells⟩ := decode_eq_ok_iff.1 h
  refine ⟨MessageLayout.exists_layout hsplit, fun layout layout' htext hrelaid => ?_⟩
  subst htext
  rw [layout.split_text] at hsplit
  cases hsplit
  obtain ⟨joined, hjoined, hrespaced⟩ := split_respaced layout'.split_text (respaced_joinLines layout'.text)
  obtain ⟨heq, hroute, hother⟩ := hrelaid.joined oneLine hrespaced
  refine decode_eq_ok_iff.2 ⟨joined, hjoined, ?_⟩
  rw [heq]
  exact (hrelaid.tells htells).respaced hroute hother

/-- A message on one line. -/
def runningLayout : MessageLayout :=
  .plain {
    identification := "BAW123".toList
    flightRules := "IS".toList
    aircraftType := "B738/M".toList
    equipment := "SDE2/LB1".toList
    departure := "EGLL1230".toList
    route := "N0450F350 CPT3F CPT L9 KENET".toList
    destination := "EGCC0045 EGNM".toList
    otherInformation := "PBN/A1-B1 DOF/261019 RMK/TCAS".toList } (by decide)

/-- The same message over several lines. -/
def sprawlingLayout : MessageLayout where
  before := "\n  ".toList
  fields := {
    identification := "\n\tBAW123 ".toList
    flightRules := "IS\n  ".toList
    aircraftType := "B738/M".toList
    equipment := "\n\n SDE2/LB1\r\n".toList
    departure := " EGLL1230\n".toList
    route := "N0450F350\n   CPT3F CPT\t \n\n L9 KENET\n".toList
    destination := "EGCC0045 EGNM\n".toList
    otherInformation := "PBN/A1-B1\n DOF/261019 RMK/TCAS\n".toList }
  closed := true
  after := "\n\n".toList
  blank_before := by decide
  blank_after := by decide
  hyphen_not_mem := by decide
  open_end := by decide

def runningPlan : FiledPlan where
  callsign := "BAW123"
  aircraft := "B738"
  departing := ⟨some 1, some ⟨12, 30⟩⟩
  plan := {
    departure := some "EGLL"
    destination := some "EGCC"
    cruiseLevel := 35000
    route := some "CPT3F CPT L9 KENET"
    points := ["CPT3F", "CPT", "L9", "KENET"]
    sidName := "CPT3F" }

theorem relaid_sprawlingLayout : runningLayout.Relaid sprawlingLayout := by
  have hroute : Respaced (fun _ => true)
      ("N0450F350".toList ++ ([' '] ++ ("CPT3F CPT".toList ++ ([' '] ++ "L9 KENET".toList))))
      ("N0450F350".toList ++ ("\n   ".toList ++ ("CPT3F CPT".toList ++ ("\t \n\n ".toList ++ "L9 KENET".toList)))) :=
    (Respaced.refl _).append <| .run (by decide) (by decide) (by decide) ⟨' ', by decide, rfl⟩ <|
      (Respaced.refl _).append <| .run (by decide) (by decide) (by decide) ⟨' ', by decide, rfl⟩ <| .refl _
  have hother : Respaced (fun _ => true) ("PBN/A1-B1".toList ++ ([' '] ++ "DOF/261019 RMK/TCAS".toList))
      ("PBN/A1-B1".toList ++ ("\n ".toList ++ "DOF/261019 RMK/TCAS".toList)) :=
    (Respaced.refl _).append <| .run (by decide) (by decide) (by decide) ⟨' ', by decide, rfl⟩ <| .refl _
  exact {
    closed := rfl
    identification := ⟨['\n', '\t'], [' '], by decide, by decide, by decide⟩
    flightRules := ⟨[], ['\n', ' ', ' '], by decide, by decide, by decide⟩
    aircraftType := ⟨[], [], by decide, by decide, by decide⟩
    equipment := ⟨['\n', '\n', ' '], ['\r', '\n'], by decide, by decide, by decide⟩
    departure := ⟨[' '], ['\n'], by decide, by decide, by decide⟩
    route := ⟨_, hroute, [], ['\n'], by decide, by decide, by decide⟩
    destination := ⟨[], ['\n'], by decide, by decide, by decide⟩
    otherInformation := ⟨_, hother, [], ['\n'], by decide, by decide, by decide⟩ }

theorem decode_sprawlingLayout :
    runningLayout.text =
        "(FPL-BAW123-IS-B738/M-SDE2/LB1-EGLL1230-N0450F350 CPT3F CPT L9 KENET" ++
          "-EGCC0045 EGNM-PBN/A1-B1 DOF/261019 RMK/TCAS)" ∧
      FiledPlan.decode runningLayout.text = .ok runningPlan ∧ '\n' ∉ runningLayout.text.toList ∧
      runningLayout.Relaid sprawlingLayout ∧ FiledPlan.decode (joinLines sprawlingLayout.text) = .ok runningPlan := by
  have hdecode : FiledPlan.decode runningLayout.text = .ok runningPlan := by decide +kernel
  have oneLine : '\n' ∉ runningLayout.text.toList := by decide +kernel
  exact ⟨by decide +kernel, hdecode, oneLine, relaid_sprawlingLayout,
    (decode_relaid hdecode oneLine).2 _ _ rfl relaid_sprawlingLayout⟩

end DepartureRules
