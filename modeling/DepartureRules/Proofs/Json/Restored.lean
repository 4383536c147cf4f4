import DepartureRules.Proofs.Json.Written
import Mathlib.Data.List.Forall2

/-!
# Values that are read back

A document may leave out the fields that hold what their records have without them. A value is read back from every
written form with any of these fields left out.

* `Abridged` relates a value to those that have such fields left out, at any depth, and `Value.shortest` leaves all of
  them out;
* `Restores` says that a reader gives a value back from all its abridged and written forms;
* `restores_flag`, `restores_natural`, `restores_text`, `restores_choice`, `Restores.refine`, `Restores.optional` and
  `Restores.list`, one for each reader of values;
* `Fills` takes a blank record through its fields to the record that is written, and `restores_record` reads it back.
-/

namespace DepartureRules.Json
set_option autoImplicit false

/-! ## Fields that are left out -/

/-- A field of the name holds what its record has without it. Only the texts for a fix and for the version of the
interface may be left out when they are empty. -/
def Value.isDefault (name : String) : Value → Bool
  | .null => true
  | .flag value => !value
  | .number _ => false
  | .text s => s.isEmpty && (name == "point" || name == "api_version")
  | .list items => items.isEmpty
  | .object _ => false

theorem Value.isDefault_text {name : String} (h : (name == "point" || name == "api_version") = false) (s : String) :
    (Value.text s).isDefault name = false := by
  rw [isDefault, h, Bool.and_false]

/-- Entries of an object with some of those left out that hold the default. -/
inductive AbridgedEntries (abridged : Value → Value → Prop) : List (String × Value) → List (String × Value) → Prop
  | nil : AbridgedEntries abridged [] []
  | keep {name : String} {value value' : Value} {entries entries' : List (String × Value)}
      (head : abridged value value') (tail : AbridgedEntries abridged entries entries') :
      AbridgedEntries abridged ((name, value) :: entries) ((name, value') :: entries')
  | drop {name : String} {value : Value} {entries entries' : List (String × Value)}
      (default : value.isDefault name = true) (tail : AbridgedEntries abridged entries entries') :
      AbridgedEntries abridged ((name, value) :: entries) entries'

/-- The value with some of its fields left out that hold the default, at any depth. -/
inductive Abridged : Value → Value → Prop
  | null : Abridged .null .null
  | flag (value : Bool) : Abridged (.flag value) (.flag value)
  | number (n : Nat) : Abridged (.number n) (.number n)
  | text (s : String) : Abridged (.text s) (.text s)
  | list {items items' : List Value} (h : List.Forall₂ Abridged items items') : Abridged (.list items) (.list items')
  | object {entries entries' : List (String × Value)} (h : AbridgedEntries Abridged entries entries') :
      Abridged (.object entries) (.object entries')

theorem eq_null_of_abridged {v : Value} (h : Abridged v .null) : v = .null := by
  cases h
  rfl

mutual

theorem Abridged.refl : (v : Value) → Abridged v v
  | .null => .null
  | .flag b => .flag b
  | .number n => .number n
  | .text s => .text s
  | .list items => .list (abridgedItems_refl items)
  | .object entries => .object (abridgedEntries_refl entries)

theorem abridgedItems_refl : (items : List Value) → List.Forall₂ Abridged items items
  | [] => .nil
  | item :: items => .cons (Abridged.refl item) (abridgedItems_refl items)

theorem abridgedEntries_refl : (entries : List (String × Value)) → AbridgedEntries Abridged entries entries
  | [] => .nil
  | (_, value) :: entries => .keep (Abridged.refl value) (abridgedEntries_refl entries)

end

namespace Value

mutual

/-- The value without all the fields that hold the default. -/
def shortest : Value → Value
  | .list items => .list (shortestItems items)
  | .object entries => .object (shortestEntries entries)
  | other => other

def shortestItems : List Value → List Value
  | [] => []
  | item :: items => item.shortest :: shortestItems items

def shortestEntries : List (String × Value) → List (String × Value)
  | [] => []
  | (name, value) :: entries =>
    if value.isDefault name then shortestEntries entries else (name, value.shortest) :: shortestEntries entries

end

mutual

theorem abridged_shortest : (v : Value) → Abridged v v.shortest
  | .null => .null
  | .flag b => .flag b
  | .number n => .number n
  | .text s => .text s
  | .list items => .list (abridged_shortestItems items)
  | .object entries => .object (abridged_shortestEntries entries)

theorem abridged_shortestItems : (items : List Value) → List.Forall₂ Abridged items (shortestItems items)
  | [] => .nil
  | item :: items => .cons (abridged_shortest item) (abridged_shortestItems items)

theorem abridged_shortestEntries :
    (entries : List (String × Value)) → AbridgedEntries Abridged entries (shortestEntries entries)
  | [] => .nil
  | (name, value) :: entries => by
    rw [shortestEntries]
    split
    · rename_i hdefault
      exact .drop hdefault (abridged_shortestEntries entries)
    · exact .keep (abridged_shortest value) (abridged_shortestEntries entries)

end

end Value

/-! ## Blanks and separators -/

section
variable {c : Char} {gap s : List Char}

theorem dropBlanks_gap (hgap : Gap gap) (hc : isJsonBlank c = false) : dropBlanks (gap ++ c :: s) = c :: s := by
  induction gap with
  | nil => exact dropBlanks_cons hc s
  | cons d gap ih =>
    rw [Gap, List.forall_mem_cons] at hgap
    rw [List.cons_append, dropBlanks, List.dropWhile_cons_of_pos hgap.1]
    exact ih hgap.2

theorem ends_gap (hgap : Gap gap) (hc : c ∈ [',', ']', '\x7d']) : Ends (gap ++ c :: s) := by
  rintro d hd
  cases gap with
  | nil =>
    obtain rfl : c = d := Option.some.inj hd
    exact List.mem_append_left [' ', '\n', '\t', '\r'] hc
  | cons b gap =>
    obtain rfl : b = d := Option.some.inj hd
    have hb := hgap b List.mem_cons_self
    simp only [isJsonBlank, Bool.or_eq_true, decide_eq_true_eq] at hb
    simp only [List.mem_cons]
    tauto

theorem nextPart_closed {close : Char} (hgap : Gap gap) (hclose : isJsonBlank close = false) (first : Bool) :
    nextPart close first (gap ++ close :: s) = .ok (.closed s) := by
  rw [nextPart, dropBlanks_gap hgap hclose]
  exact if_pos rfl

theorem nextPart_more {close : Char} {gap' : List Char} (first : Bool) (hgap : Gap gap) (hgap' : Gap gap')
    (hc : isJsonBlank c = false) (hne : c ≠ close) (hcomma : ',' ≠ close) :
    nextPart close first (gap ++ (separator first ++ (gap' ++ c :: s))) = .ok (.more (c :: s)) := by
  cases first with
  | true =>
    have hboth : Gap (gap ++ gap') := fun d hd => (List.mem_append.1 hd).elim (hgap d) (hgap' d)
    rw [separator, if_pos rfl, List.nil_append, ← List.append_assoc, nextPart, dropBlanks_gap hboth hc]
    simp [hne]
  | false =>
    have hblank : isJsonBlank ',' = false := by decide
    rw [separator, if_neg Bool.false_ne_true, List.singleton_append, nextPart, dropBlanks_gap hgap hblank]
    simp [hcomma, dropBlanks_gap hgap' hc, hne]

end

/-! ## Single values -/

/-- The reader gives the value back from every written form of what is written for it, with any blanks before it and
with any fields left out that hold the default. -/
structure Restores {β : Type} (item : Reader β) (write : β → Value) (b : β) : Prop where
  read : ∀ {w : Value} {s gap rest : List Char}, Abridged (write b) w → Spelled w s → Gap gap → Ends rest →
    item (gap ++ (s ++ rest)) = .ok (b, rest)

theorem restores_flag (b : Bool) : Restores Reader.flag .flag b := by
  refine ⟨fun {w s gap rest} hw hs hgap hrest => ?_⟩
  cases hw
  cases hs with
  | yes => simp [Reader.flag, dropBlanks_gap hgap (c := 't') rfl, literal, Except.map]
  | no => simp [Reader.flag, dropBlanks_gap hgap (c := 'f') rfl, literal, Except.map]

theorem restores_natural {limit n : Nat} (hn : n ≤ limit) (hlimit : limit ≤ significandLimit) :
    Restores (Reader.natural limit) .number n := by
  refine ⟨fun {w s gap rest} hw hs hgap hrest => ?_⟩
  cases hw
  cases hs
  have hread := readNumber_decimal (hn.trans hlimit) hrest
  cases hdigits : decimal n with
  | nil => exact absurd hdigits Nat.toDigits_ne_nil
  | cons c ds =>
    have hc : Text.isAsciiDigit c = true := isAsciiDigit_of_mem_decimal (hdigits ▸ List.mem_cons_self)
    have hsign : c ≠ '-' := by
      rintro rfl
      cases hc
    obtain ⟨d, t, hd, hblank, -, -⟩ := (Spelled.number n).exists_cons
    rw [hdigits] at hread hd
    obtain ⟨rfl, rfl⟩ := List.cons.inj hd
    rw [List.cons_append] at hread ⊢
    simp [Reader.natural, dropBlanks_gap hgap hblank, hsign, hc, hread, Reader.bounded, hn]

theorem restores_text (b : String) : Restores Reader.text .text b := by
  refine ⟨fun {w s gap rest} hw hs hgap hrest => ?_⟩
  cases hw
  cases hs
  simp [Reader.text, quotedString, dropBlanks_gap hgap (c := '"') rfl, stringBody_flatMap_escaped, Except.map]

theorem restores_choice {β : Type} {names : List (String × β)} {name : β → String} {b : β}
    (hname : names.find? (fun entry => entry.1 == name b) = some (name b, b)) :
    Restores (Reader.choice names) (fun b => .text (name b)) b := by
  refine ⟨fun {w s gap rest} hw hs hgap hrest => ?_⟩
  cases hw
  cases hs
  simp [Reader.choice, quotedString, dropBlanks_gap hgap (c := '"') rfl, stringBody_flatMap_escaped, Reader.named,
    hname, Except.map]

section
variable {β γ : Type} {item : Reader β} {write : β → Value}

theorem Restores.refine {accept : β → Option γ} {name : γ → β} {c : γ} (h : Restores item write (name c))
    (haccept : accept (name c) = some c) : Restores (item.refine accept) (fun c => write (name c)) c := by
  refine ⟨fun {w s gap rest} hw hs hgap hrest => ?_⟩
  simp only [Reader.refine, h.read hw hs hgap hrest, haccept]

theorem Restores.optional {o : Option β} (h : ∀ b ∈ o, Restores item write b) (hnull : ∀ b, write b ≠ .null) :
    Restores item.optional (Value.ofOption write) o := by
  refine ⟨fun {w s gap rest} hw hs hgap hrest => ?_⟩
  cases o with
  | none =>
    cases hw
    cases hs
    simp [Reader.optional, dropBlanks_gap hgap (c := 'n') rfl, literal, Except.map]
  | some b =>
    have hread := (h b rfl).read hw hs gap_nil hrest
    obtain ⟨c, t, rfl, hblank, -, hnil⟩ := hs.exists_cons
    have hc : c ≠ 'n' := fun hc => hnull b (eq_null_of_abridged (hnil hc ▸ hw))
    rw [List.nil_append, List.cons_append] at hread
    simp [Reader.optional, dropBlanks_gap hgap hblank, hc, hread, Except.map]

/-! ## Lists -/

theorem SpelledItems.ends {items : List Value} {s : List Char} (h : SpelledItems Spelled false items s)
    (rest : List Char) : Ends (s ++ rest) := by
  cases h with
  | nil hgap =>
    rw [List.append_assoc]
    exact ends_gap hgap (by decide)
  | cons hgap =>
    rw [List.append_assoc]
    exact ends_gap hgap (by decide)

theorem SpelledItems.length_lt {first : Bool} {items : List Value} {s : List Char}
    (h : SpelledItems Spelled first items s) : items.length < s.length := by
  induction items generalizing first s with
  | nil =>
    cases h
    simp
  | cons item items ih =>
    cases h with
    | cons hgap hgap' head tail =>
      obtain ⟨c, t, rfl, -⟩ := head.exists_cons
      have := ih tail
      simp only [List.length_cons, List.length_append]
      omega

theorem items_spelled {bs : List β} {ws : List Value}
    (h : List.Forall₂ (fun b w => Restores item write b ∧ Abridged (write b) w) bs ws) {first : Bool} {s : List Char}
    (hs : SpelledItems Spelled first ws s) (rest : List Char) {fuel : Nat} (hfuel : ws.length ≤ fuel) :
    Reader.items item (fuel + 1) first (s ++ rest) = .ok (bs, rest) := by
  induction h generalizing first s fuel with
  | nil =>
    cases hs with
    | nil hgap => rw [List.append_assoc, List.singleton_append, Reader.items, nextPart_closed hgap rfl]
  | cons hb _ ih =>
    obtain ⟨fuel, rfl⟩ := Nat.exists_eq_add_one_of_ne_zero (Nat.ne_zero_of_lt hfuel)
    cases hs with
    | cons hgap hgap' head tail =>
      have hread := hb.1.read hb.2 head gap_nil (tail.ends rest)
      obtain ⟨c, s, rfl, hblank, hclose, -⟩ := head.exists_cons
      have hne : c ≠ ']' := by
        rintro rfl
        exact hclose (by decide)
      simp only [List.append_assoc, List.cons_append, List.nil_append] at hread ⊢
      rw [Reader.items, nextPart_more first hgap hgap' hblank hne (by decide)]
      simp only [hread, ih tail (Nat.le_of_succ_le_succ hfuel)]

theorem Restores.list {bs : List β} (h : ∀ b ∈ bs, Restores item write b) :
    Restores item.list (Value.ofList write) bs := by
  refine ⟨fun {w s gap rest} hw hs hgap hrest => ?_⟩
  cases hw with
  | @list _ ws hws =>
    cases hs with
    | @list _ s hs =>
      have hitems : List.Forall₂ (fun b w => Restores item write b ∧ Abridged (write b) w) bs ws := by
        rw [List.forall₂_map_left_iff] at hws
        exact (List.forall₂_and_left _ _).2 ⟨h, hws⟩
      have hlength := hs.length_lt
      rw [List.cons_append, Reader.list, dropBlanks_gap hgap rfl]
      exact items_spelled hitems hs rest (by rw [List.length_append]; omega)

end

/-! ## Records -/

section
variable {α β : Type} {field : RecordField α} {done fields all : List (RecordField α)} {draft next a : α}
  {entries ws : List (String × Value)} {s : List Char}

/-- The fields take the draft to the record `a` along the entries that are written for it. Each field reads the next
draft from the entry in its place, and an entry that may be left out changes nothing and is not asked for. -/
inductive Fills : List (RecordField α) → α → List (String × Value) → α → Prop
  | nil (a : α) : Fills [] a [] a
  | cons {field : RecordField α} {fields : List (RecordField α)} {draft next a : α} {value : Value}
      {entries : List (String × Value)} (reads : Restores (field.read draft) (fun _ => value) next)
      (omits : value.isDefault field.name = true → field.required = false ∧ next = draft)
      (tail : Fills fields next entries a) : Fills (field :: fields) draft ((field.name, value) :: entries) a

theorem SpelledEntries.ends (h : SpelledEntries Spelled false entries s) (rest : List Char) : Ends (s ++ rest) := by
  cases h with
  | nil hgap =>
    rw [List.append_assoc]
    exact ends_gap hgap (by decide)
  | cons hgap =>
    rw [List.append_assoc]
    exact ends_gap hgap (by decide)

theorem SpelledEntries.length_lt {first : Bool} (h : SpelledEntries Spelled first entries s) :
    entries.length < s.length := by
  induction entries generalizing first s with
  | nil =>
    cases h
    simp
  | cons entry entries ih =>
    cases h with
    | cons hgap hgap' hgap'' head tail =>
      have := ih tail
      simp only [List.length_cons, List.length_append]
      omega

/-- The names seen so far are those of fields that are done, the required ones among them. -/
structure Seen (done : List (RecordField α)) (seen : List String) : Prop where
  known : ∀ name ∈ seen, name ∈ done.map (·.name)
  required : ∀ field ∈ done, field.required = true → field.name ∈ seen

theorem seen_nil : Seen ([] : List (RecordField α)) [] :=
  ⟨nofun, nofun⟩

theorem Seen.drop {seen : List String} (h : Seen done seen) (hrequired : field.required = false) :
    Seen (done ++ [field]) seen where
  known name hname := by
    rw [List.map_append]
    exact List.mem_append_left _ (h.known name hname)
  required other hother hrequired' := by
    rcases List.mem_append.1 hother with hother | hother
    · exact h.required other hother hrequired'
    · rw [List.mem_singleton.1 hother, hrequired] at hrequired'
      cases hrequired'

theorem Seen.keep {seen : List String} (h : Seen done seen) : Seen (done ++ [field]) (field.name :: seen) where
  known name hname := by
    rw [List.map_append]
    rcases List.mem_cons.1 hname with rfl | hname
    · exact List.mem_append_right _ List.mem_cons_self
    · exact List.mem_append_left _ (h.known name hname)
  required other hother hrequired := by
    rcases List.mem_append.1 hother with hother | hother
    · exact List.mem_cons_of_mem _ (h.required other hother hrequired)
    · rw [List.mem_singleton.1 hother]
      exact List.mem_cons_self

theorem Seen.complete {seen : List String} (h : Seen done seen) :
    (done.all fun field => !field.required || seen.contains field.name) = true := by
  simp only [List.all_eq_true, Bool.or_eq_true, Bool.not_eq_true', List.contains_iff_mem]
  intro field hfield
  cases hrequired : field.required with
  | false => exact .inl rfl
  | true => exact .inr (h.required field hfield hrequired)

/-- The names of the fields differ, so a field is not taken for one that is done. -/
theorem not_mem_of_nodup (hnodup : ((done ++ field :: fields).map (·.name)).Nodup) :
    ∀ other ∈ done, other.name ≠ field.name := by
  intro other hother hname
  rw [List.map_append, List.map_cons] at hnodup
  exact (List.nodup_append.1 hnodup).2.2 _ (List.mem_map_of_mem hother) _ List.mem_cons_self hname

theorem find?_field (hnodup : ((done ++ field :: fields).map (·.name)).Nodup) :
    (done ++ field :: fields).find? (fun other => other.name == field.name) = some field := by
  have hnone : done.find? (fun other => other.name == field.name) = none :=
    List.find?_eq_none.2 fun other hother => by simpa using not_mem_of_nodup hnodup other hother
  simp [List.find?_append, hnone]

theorem Seen.not_mem {seen : List String} (h : Seen done seen)
    (hnodup : ((done ++ field :: fields).map (·.name)).Nodup) : field.name ∉ seen := by
  intro hmem
  obtain ⟨other, hother, hname⟩ := List.mem_map.1 (h.known _ hmem)
  exact not_mem_of_nodup hnodup other hother hname

theorem colon_cons (s : List Char) : colon (':' :: s) = .ok s := rfl

theorem entries_spelled (done : List (RecordField α)) (h : Fills fields draft entries a)
    (hws : AbridgedEntries Abridged entries ws) (hnodup : ((done ++ fields).map (·.name)).Nodup)
    {seen : List String} (hseen : Seen done seen) {first : Bool}
    (hs : SpelledEntries Spelled first ws s) (rest : List Char) {fuel : Nat} (hfuel : ws.length ≤ fuel) :
    Reader.entries (done ++ fields) (fuel + 1) first seen draft (s ++ rest) = .ok (a, rest) := by
  induction h generalizing done seen first s fuel ws with
  | nil a =>
    cases hws
    cases hs with
    | nil hgap =>
      rw [List.append_assoc, List.singleton_append, Reader.entries, nextPart_closed hgap rfl, List.append_nil]
      exact if_pos hseen.complete
  | @cons field fields draft next a value entries reads omits tail ih =>
    have hassoc : done ++ field :: fields = (done ++ [field]) ++ fields := by simp
    have hnodup' := hnodup
    rw [hassoc] at hnodup'
    cases hws with
    | drop hdefault hws =>
      obtain ⟨hrequired, rfl⟩ := omits hdefault
      rw [hassoc]
      exact ih _ hws hnodup' (hseen.drop hrequired) hs hfuel
    | keep hvalue hws =>
      obtain ⟨fuel, rfl⟩ := Nat.exists_eq_add_one_of_ne_zero (Nat.ne_zero_of_lt hfuel)
      cases hs with
      | cons hgap hgap' hgap'' head htail =>
        have hread := reads.read hvalue head hgap'' (htail.ends rest)
        have hrest := ih _ hws hnodup' hseen.keep htail (Nat.le_of_succ_le_succ hfuel)
        have hnew : seen.contains field.name = false := by simpa using hseen.not_mem hnodup
        rw [← hassoc] at hrest
        simp only [quotedString, List.append_assoc, List.cons_append, List.nil_append] at hread ⊢
        rw [Reader.entries, nextPart_more first hgap hgap' (by decide) (by decide) (by decide)]
        simp only [openName, if_true, stringBody_flatMap_escaped, String.ofList_toList, find?_field hnodup, hnew,
          Bool.false_eq_true, if_false, colon_cons, hread, hrest]

/-- A record is read back from its entries. -/
theorem restores_record {toValue : α → Value} (hvalue : toValue a = .object entries)
    (hnodup : (fields.map (·.name)).Nodup) (h : Fills fields draft entries a) :
    Restores (Reader.record fields draft) toValue a := by
  refine ⟨fun {w s gap rest} hw hs hgap hrest => ?_⟩
  rw [hvalue] at hw
  cases hw with
  | object hws =>
    cases hs with
    | @object _ s hs =>
      have hlength := hs.length_lt
      have hbrace : isJsonBlank '\x7b' = false := by decide
      rw [List.cons_append, Reader.record]
      simp only [dropBlanks_gap hgap hbrace, if_true]
      exact entries_spelled [] h hws hnodup seen_nil hs rest (by rw [List.length_append]; omega)

/-! ## Fields -/

variable {item : Reader β} {write : β → Value} {name : String} {needed : Bool} {put : α → β → α} {b : β}

theorem Fills.entry (h : Restores item write b)
    (omits : (write b).isDefault name = true → needed = false ∧ put draft b = draft)
    (tail : Fills fields (put draft b) entries a) :
    Fills (.of name needed item put :: fields) draft ((name, write b) :: entries) a := by
  refine .cons ⟨fun hw hs hgap hrest => ?_⟩ omits tail
  simp only [RecordField.of, h.read hw hs hgap hrest, Except.map]

theorem Fills.required (h : Restores item write b) (hwrite : (write b).isDefault name = false)
    (tail : Fills fields (put draft b) entries a) :
    Fills (.of name needed item put :: fields) draft ((name, write b) :: entries) a :=
  .entry h (fun hdefault => nomatch hwrite.symm.trans hdefault) tail

theorem Fills.text {put : α → String → α} {s : String} (hput : put draft "" = draft)
    (tail : Fills fields (put draft s) entries a) :
    Fills (.of name false Reader.text put :: fields) draft ((name, .text s) :: entries) a := by
  refine .entry (restores_text s) (fun hdefault => ⟨rfl, ?_⟩) tail
  obtain rfl : s = "" := String.isEmpty_iff.1 (Bool.and_eq_true_iff.1 hdefault).1
  exact hput

theorem Fills.flag {put : α → Bool → α} {b : Bool} (hput : put draft false = draft)
    (tail : Fills fields (put draft b) entries a) :
    Fills (.of name false Reader.flag put :: fields) draft ((name, .flag b) :: entries) a := by
  refine .entry (restores_flag b) (fun hdefault => ⟨rfl, ?_⟩) tail
  cases b with
  | false => exact hput
  | true => cases hdefault

theorem Fills.optional {put : α → Option β → α} {o : Option β} (h : ∀ b ∈ o, Restores item write b)
    (hwrite : ∀ b, (write b).isDefault name = false) (hput : put draft none = draft)
    (tail : Fills fields (put draft o) entries a) :
    Fills (.of name false item.optional put :: fields) draft ((name, .ofOption write o) :: entries) a := by
  have hnull : ∀ b, write b ≠ .null := by
    intro b hb
    have hdefault := hwrite b
    rw [hb] at hdefault
    cases hdefault
  refine .entry (Restores.optional h hnull) (fun hdefault => ⟨rfl, ?_⟩) tail
  cases o with
  | none => exact hput
  | some b => cases (hwrite b).symm.trans hdefault

theorem Fills.list {put : α → List β → α} {bs : List β} (h : ∀ b ∈ bs, Restores item write b)
    (hput : put draft [] = draft) (tail : Fills fields (put draft bs) entries a) :
    Fills (.of name false item.list put :: fields) draft ((name, .ofList write bs) :: entries) a := by
  refine .entry (Restores.list h) (fun hdefault => ⟨rfl, ?_⟩) tail
  cases bs with
  | nil => exact hput
  | cons b bs => cases hdefault

end

/-! ## Documents -/

theorem document_restored {β : Type} {item : Reader β} {write : β → Value} {b : β} (h : Restores item write b)
    {w : Value} (hw : Abridged (write b) w) {s : List Char} (hs : Spelled w s) :
    Reader.document item (String.ofList s) = .ok b := by
  have hread : item ([] ++ (s ++ [])) = .ok (b, []) := h.read hw hs gap_nil nofun
  rw [List.nil_append, List.append_nil] at hread
  rw [Reader.document, String.toList_ofList, hread]
  rfl

end DepartureRules.Json
