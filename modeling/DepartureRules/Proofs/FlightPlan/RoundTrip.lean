import DepartureRules.Proofs.Aircraft.Search
import DepartureRules.Proofs.FlightPlan.Fields
import DepartureRules.Proofs.Guarded.Basic
import DepartureRules.Proofs.Route.Outlines
import DepartureRules.Proofs.Rules.RoundTrip

/-!
# Messages that are written and decoded

A message is written from what its sender fills in. Decoding finds each part again: hyphens tell the fields apart, and
within a field the parts are told apart by their number of characters, by a slash, by a blank or by their being digits.

* `places`, `TimeOfDay.fourDigits` and `Date.sixDigits` write the numbers, times and dates of a message;
* `Speed` and `Level`: what a message may give as speed and level;
* `MessageParts`: what the sender fills in, with `MessageParts.text`, the message, and `MessageParts.filed`, the plan;
* `readDesignator_trim`, `readAerodrome_trim`, `readRouteField_trim` and `readWeekday_of_datedBy`: the parts of one
  field;
* `decode_text`: the message is decoded to the plan.
-/

namespace DepartureRules
open Text
set_option autoImplicit false

/-! ## Signs -/

/-- A visible character of ASCII that does not part fields. -/
def IsSign (c : Char) : Prop :=
  0x21 ≤ c.toNat ∧ c.toNat ≤ 0x7E ∧ c ≠ '-'

instance (c : Char) : Decidable (IsSign c) :=
  inferInstanceAs (Decidable (_ ∧ _))

theorem IsSign.isBlank {c : Char} (h : IsSign c) : isBlank c = false :=
  isBlank_eq_false_of_visible h.1 h.2.1

theorem isSign_of_isAsciiDigit {c : Char} (h : isAsciiDigit c = true) : IsSign c := by
  simp only [isAsciiDigit, Bool.and_eq_true, decide_eq_true_eq] at h
  have hzero : '0'.toNat = 48 := rfl
  have hnine : '9'.toNat = 57 := rfl
  refine ⟨by omega, by omega, ?_⟩
  rintro rfl
  exact absurd h.1 (by decide)

theorem isSign_of_letter {c : Char} (h : isUpperLetter c = true ∨ isLowerLetter c = true) : IsSign c := by
  simp only [isUpperLetter, isLowerLetter, Bool.and_eq_true, decide_eq_true_eq] at h
  have hcodes : 65 ≤ c.toNat ∧ c.toNat ≤ 90 ∨ 97 ≤ c.toNat ∧ c.toNat ≤ 122 := h
  refine ⟨by omega, by omega, ?_⟩
  rintro rfl
  exact absurd hcodes (by decide)

theorem hyphen_not_mem_of_isSign {s : List Char} (h : ∀ c ∈ s, IsSign c) : '-' ∉ s :=
  fun hmem => (h _ hmem).2.2 rfl

theorem cutBytes_of_isSign {head : List Char} (h : ∀ c ∈ head, IsSign c) (rest : List Char) :
    cutBytes head.length (head ++ rest) = some (head, rest) := by
  have hlength : Guarded.byteLength head = head.length := by
    induction head with
    | nil => rfl
    | cons c head ih =>
      rw [List.forall_mem_cons] at h
      have hsize : c.utf8Size = 1 := Char.utf8Size_eq_one_iff.2 (UInt32.le_iff_toNat_le.2 (by
        have := h.1.2.1
        change c.toNat ≤ 127
        omega))
      rw [Guarded.byteLength, ih h.2, hsize, List.length_cons, Nat.add_comm]
  rw [← hlength, Guarded.cutBytes_append]

/-! ## Numbers in a given number of places -/

/-- The last digits of a number, as many as there are places. -/
def places : Nat → Nat → List Char
  | 0, _ => []
  | k + 1, n => places k (n / 10) ++ [digitChar n]

theorem length_places (k n : Nat) : (places k n).length = k := by
  induction k generalizing n with
  | zero => rfl
  | succ k ih => rw [places, List.length_append, ih, List.length_singleton]

theorem isAsciiDigit_of_mem_places {k n : Nat} : ∀ c ∈ places k n, isAsciiDigit c = true := by
  induction k generalizing n with
  | zero => exact List.forall_mem_nil _
  | succ k ih =>
    rw [places, List.forall_mem_append, List.forall_mem_singleton]
    exact ⟨ih, (TimeOfDay.isAsciiDigit_digitChar n).1⟩

theorem isSign_of_mem_places {k n : Nat} : ∀ c ∈ places k n, IsSign c :=
  fun c hc => isSign_of_isAsciiDigit (isAsciiDigit_of_mem_places c hc)

theorem numeral_places (k n : Nat) : numeral (places k n) = n % 10 ^ k := by
  induction k generalizing n with
  | zero => exact (Nat.mod_one n).symm
  | succ k ih =>
    rw [places, numeral_concat, ih, (TimeOfDay.isAsciiDigit_digitChar n).2, Nat.pow_succ', Nat.mod_mul]
    omega

theorem numeral_places_of_lt {k n : Nat} (h : n < 10 ^ k) : numeral (places k n) = n := by
  rw [numeral_places, Nat.mod_eq_of_lt h]

/-- The digits of a time of day, without a colon. -/
def TimeOfDay.fourDigits (t : TimeOfDay) : List Char :=
  places 2 t.hour ++ places 2 t.minute

/-- The digits of a date: year, month and day. -/
def Date.sixDigits (d : Date) : List Char :=
  places 2 (d.year % 100) ++ (places 2 d.month ++ places 2 d.day)

theorem Date.length_sixDigits (d : Date) : d.sixDigits.length = 6 := by
  rw [sixDigits, List.length_append, List.length_append, length_places, length_places, length_places]

theorem Date.isSign_sixDigits (d : Date) : ∀ c ∈ d.sixDigits, IsSign c := by
  rw [sixDigits, List.forall_mem_append, List.forall_mem_append]
  exact ⟨isSign_of_mem_places, isSign_of_mem_places, isSign_of_mem_places⟩

theorem TimeOfDay.length_fourDigits (t : TimeOfDay) : t.fourDigits.length = 4 := by
  rw [fourDigits, List.length_append, length_places, length_places]

theorem TimeOfDay.isSign_fourDigits (t : TimeOfDay) : ∀ c ∈ t.fourDigits, IsSign c :=
  List.forall_mem_append.2 ⟨isSign_of_mem_places, isSign_of_mem_places⟩

theorem twoDigits_places {n : Nat} (h : n < 100) (rest : List Char) :
    TimeOfDay.twoDigits (places 2 n ++ rest) = some (n, rest) := by
  rw [show places 2 n = TimeOfDay.twoPlaces n from (TimeOfDay.twoPlaces_eq h).symm, TimeOfDay.twoDigits_twoPlaces h]

theorem TimeOfDay.parse_fourDigits {t : TimeOfDay} (h : t.OnClock) : parse (String.ofList t.fourDigits) = .ok t := by
  have hplaces : t.hour < 100 ∧ t.minute < 100 := by
    unfold OnClock at h
    omega
  have htrim : trim (String.ofList t.fourDigits).toList = places 2 t.hour ++ (places 2 t.minute ++ []) := by
    rw [String.toList_ofList, List.append_nil, fourDigits]
    exact trim_eq_self (List.forall_mem_append.2
      ⟨fun c hc => (isSign_of_mem_places c hc).isBlank, fun c hc => (isSign_of_mem_places c hc).isBlank⟩)
  have hcolon : dropColon (places 2 t.minute ++ []) = places 2 t.minute ++ [] := by
    unfold dropColon
    split
    · rename_i rest hhead
      have hdigit : isAsciiDigit ':' = true := isAsciiDigit_of_mem_places (k := 2) (n := t.minute) ':' (by
        rw [← List.append_nil (places 2 t.minute), hhead]
        exact List.mem_cons_self)
      exact absurd hdigit (by decide)
    · rfl
  simp only [parse, ofChars?, htrim, twoDigits_places hplaces.1, hcolon, twoDigits_places hplaces.2, isSecondsPart, h,
    decide_true, Bool.and_self, if_true]

theorem Date.IsReal.bounds {d : Date} (h : d.IsReal) : d.month ≤ 12 ∧ d.day ≤ 31 := by
  obtain ⟨hfirst, hlast⟩ := h
  unfold daysInMonth at hlast
  split at hlast
  all_goals first | omega | (split at hlast <;> omega)

theorem Date.ofSixDigits?_sixDigits {d : Date} (h : d.IsReal) (hyear : 1970 ≤ d.year ∧ d.year ≤ 2069) :
    ofSixDigits? d.sixDigits = some d := by
  obtain ⟨hmonth, hday⟩ := h.bounds
  have hdigits : d.sixDigits.all isAsciiDigit = true := by
    rw [List.all_eq_true, sixDigits, List.forall_mem_append, List.forall_mem_append]
    exact ⟨isAsciiDigit_of_mem_places, isAsciiDigit_of_mem_places, isAsciiDigit_of_mem_places⟩
  have hcentury : yearOfTwoDigits (d.year % 100) = d.year := by
    unfold yearOfTwoDigits
    split <;> omega
  have hread : Date.mk (yearOfTwoDigits (numeral (places 2 (d.year % 100)))) (numeral (places 2 d.month))
      (numeral (places 2 d.day)) = d := by
    rw [numeral_places_of_lt (by omega), numeral_places_of_lt (by omega), numeral_places_of_lt (by omega), hcentury]
  have hshape : ofSixDigits? d.sixDigits =
      if d.sixDigits.all isAsciiDigit then
        let date := Date.mk (yearOfTwoDigits (numeral (places 2 (d.year % 100)))) (numeral (places 2 d.month))
          (numeral (places 2 d.day))
        if date.IsReal then some date else none
      else none := rfl
  rw [hshape, if_pos hdigits, hread]
  exact if_pos h

/-! ## Speeds and levels -/

/-- A speed: a Mach number in hundredths, or knots, or kilometres per hour. -/
inductive Speed
  | mach (hundredths : Fin 1000)
  | knots (speed : Fin 10000)
  | kilometres (speed : Fin 10000)
  deriving DecidableEq, Repr

def Speed.text : Speed → List Char
  | .mach hundredths => 'M' :: places 3 hundredths
  | .knots speed => 'N' :: places 4 speed
  | .kilometres speed => 'K' :: places 4 speed

/-- A flight level or an altitude in hundreds of feet. -/
inductive Level
  | flightLevel (hundreds : Fin 1000)
  | altitude (hundreds : Fin 1000)
  deriving DecidableEq, Repr

def Level.hundreds : Level → Nat
  | .flightLevel hundreds => hundreds
  | .altitude hundreds => hundreds

def Level.letter : Level → Char
  | .flightLevel _ => 'F'
  | .altitude _ => 'A'

def Level.text (level : Level) : List Char :=
  level.letter :: places 3 level.hundreds

theorem Level.hundreds_lt (level : Level) : level.hundreds < 1000 := by
  cases level with
  | flightLevel hundreds => exact hundreds.isLt
  | altitude hundreds => exact hundreds.isLt

theorem Speed.isSign (speed : Speed) : ∀ c ∈ speed.text, IsSign c := by
  cases speed <;> exact List.forall_mem_cons.2 ⟨by decide, isSign_of_mem_places⟩

theorem Level.isSign (level : Level) : ∀ c ∈ level.text, IsSign c := by
  have hletter : IsSign level.letter := by
    cases level with
    | flightLevel _ => exact (by decide : IsSign 'F')
    | altitude _ => exact (by decide : IsSign 'A')
  exact List.forall_mem_cons.2 ⟨hletter, isSign_of_mem_places⟩

theorem fits_digits (k n : Nat) : Lexical.fits (Lexical.digits k) (places k n) = true := by
  have hfits : ∀ word : List Char, (∀ c ∈ word, isAsciiDigit c = true) →
      Lexical.fits (Lexical.digits word.length) word = true := by
    intro word hword
    induction word with
    | nil => rfl
    | cons c word ih =>
      rw [List.forall_mem_cons] at hword
      exact Bool.and_eq_true_iff.2 ⟨isDecimalDigit_of_isAsciiDigit hword.1, ih hword.2⟩
  have h := hfits (places k n) isAsciiDigit_of_mem_places
  rwa [length_places] at h

theorem Speed.fits (speed : Speed) : Lexical.fitsAny Lexical.speeds speed.text = true := by
  cases speed with
  | mach n => simp [Lexical.fitsAny, Lexical.speeds, Lexical.exactly, text, Lexical.fits, fits_digits]
  | knots n => simp [Lexical.fitsAny, Lexical.speeds, Lexical.oneOf, text, Lexical.fits, fits_digits]
  | kilometres n => simp [Lexical.fitsAny, Lexical.speeds, Lexical.oneOf, text, Lexical.fits, fits_digits]

theorem Level.fits (level : Level) :
    Lexical.fitsAny [Lexical.oneOf ['F', 'A'] ++ Lexical.digits 3] level.text = true := by
  cases level <;> simp [Lexical.fitsAny, Lexical.oneOf, text, letter, Lexical.fits, fits_digits]

theorem readCruiseLevel_append (speed : Speed) (level : Level) :
    readCruiseLevel (speed.text ++ level.text) = .ok (100 * level.hundreds) := by
  have hfits : Lexical.fitsAny cruiseLevels (speed.text ++ level.text) = true :=
    Lexical.fitsAny_followedBy_iff.2 ⟨_, _, rfl, speed.fits, level.fits⟩
  have hdrop : (speed.text ++ level.text).drop ((speed.text ++ level.text).length - 3) = places 3 level.hundreds := by
    rw [Level.text, List.append_cons, List.length_append, length_places, Nat.add_sub_cancel, List.drop_left]
  have hdigits : (places 3 level.hundreds).all isAsciiDigit = true := List.all_eq_true.2 isAsciiDigit_of_mem_places
  rw [readCruiseLevel, hdrop, hfits, hdigits]
  simp [numeral_places_of_lt (show level.hundreds < 10 ^ 3 from level.hundreds_lt), Int.mul_comm]

/-! ## Fields that are read -/

/-- A code of four letters. -/
def IsCode (code : String) : Prop :=
  code.toList.length = 4 ∧ ∀ c ∈ code.toList, isUpperLetter c = true ∨ isLowerLetter c = true

instance (code : String) : Decidable (IsCode code) :=
  inferInstanceAs (Decidable (_ ∧ _))

theorem IsCode.hyphen_not_mem {code : String} (h : IsCode code) : '-' ∉ code.toList :=
  hyphen_not_mem_of_isSign fun c hc => isSign_of_letter (h.2 c hc)

theorem readAerodrome_trim {code : String} {t : TimeOfDay} (hcode : IsCode code) (ht : t.OnClock)
    (name : MessageField) (rest : List Char) :
    readAerodrome name (trim (code.toList ++ t.fourDigits ++ rest)) = .ok (code, t) := by
  have hletters : ∀ c ∈ code.toList, IsSign c := fun c hc => isSign_of_letter (hcode.2 c hc)
  have hne : code.toList ++ t.fourDigits ≠ [] := by
    refine List.ne_nil_of_length_pos ?_
    rw [List.length_append, hcode.1]
    omega
  have hvisible : ∀ c ∈ code.toList ++ t.fourDigits, isBlank c = false :=
    List.forall_mem_append.2 ⟨fun c hc => (hletters c hc).isBlank, fun c hc => (t.isSign_fourDigits c hc).isBlank⟩
  rw [trim_append_of_visible hne hvisible, List.append_assoc]
  have hcut := cutBytes_of_isSign hletters (t.fourDigits ++ dropTrailing isBlank rest)
  have hcut' := cutBytes_of_isSign t.isSign_fourDigits (dropTrailing isBlank rest)
  rw [hcode.1] at hcut
  rw [t.length_fourDigits] at hcut'
  simp only [readAerodrome, hcut, hcut', TimeOfDay.parse_fourDigits ht, String.ofList_toList]

/-- The designator of a type has no slash and does not begin with a digit. -/
theorem designator_of_mem_table : ∀ entry ∈ AircraftType.table.toList,
    (∀ c ∈ entry.designator.toList, IsSign c ∧ c ≠ '/') ∧ entry.designator.toList ≠ [] ∧
      entry.designator.toList.dropWhile isAsciiDigit = entry.designator.toList := by
  decide +kernel

theorem readDesignator_trim {count : List Char} {aircraft : AircraftType}
    (hcount : ∀ c ∈ count, isAsciiDigit c = true) (known : aircraft ∈ AircraftType.table) (wake : List Char) :
    readDesignator (trim (count ++ aircraft.designator.toList ++ '/' :: wake)) = .ok aircraft.designator := by
  obtain ⟨hsigns, hne, hletter⟩ := designator_of_mem_table _ (Array.mem_toList_iff.2 known)
  have hvisible : ∀ c ∈ count ++ aircraft.designator.toList, isBlank c = false :=
    List.forall_mem_append.2
      ⟨fun c hc => (isSign_of_isAsciiDigit (hcount c hc)).isBlank, fun c hc => (hsigns c hc).1.isBlank⟩
  have hslash : ∀ c ∈ count ++ aircraft.designator.toList, (c != '/') = true := by
    rw [List.forall_mem_append]
    refine ⟨fun c hc => ?_, fun c hc => bne_iff_ne.2 (hsigns c hc).2⟩
    rw [bne_iff_ne]
    rintro rfl
    exact absurd (hcount _ hc) (by decide)
  rw [trim_append_cons (fun d hd => hvisible d (List.mem_of_mem_head? hd)) (by decide)]
  generalize dropTrailing isBlank wake = wake
  have htake : (count ++ aircraft.designator.toList ++ '/' :: wake).takeWhile (· != '/') =
      count ++ aircraft.designator.toList := by
    rw [List.takeWhile_append_of_pos hslash, List.takeWhile_cons_of_neg (by simp), List.append_nil]
  have hdrop : (count ++ aircraft.designator.toList).dropWhile isAsciiDigit = aircraft.designator.toList := by
    rw [List.dropWhile_append_of_pos hcount, hletter]
  have hcontains : (count ++ aircraft.designator.toList ++ '/' :: wake).contains '/' = true := by simp
  have hempty : aircraft.designator.toList.isEmpty = false := by simpa using hne
  rw [readDesignator, htake, hdrop, hcontains, hempty, String.ofList_toList]
  rfl

theorem findAircraft_of_mem_table {aircraft : AircraftType} (known : aircraft ∈ AircraftType.table) :
    findAircraft aircraft.designator = .ok aircraft := by
  rw [findAircraft, AircraftType.lookup_eq_some_iff.2 ⟨known, rfl⟩]

theorem readRouteField_trim {head route : List Char} (hhead : ∀ c ∈ head, isBlank c = false) (hne : head ≠ [])
    (hroute : words route ≠ []) :
    ∃ route', readRouteField (trim (head ++ ' ' :: route)) = .ok (head, route') ∧ words route' = words route := by
  have hpieces : dropTrailing isBlank (' ' :: route) ++ (' ' :: route).rtakeWhile isBlank = ' ' :: route :=
    List.rdropWhile_append_rtakeWhile
  have hback : ∀ c ∈ (' ' :: route).rtakeWhile isBlank, isBlank c = true := fun c hc => List.mem_rtakeWhile_imp hc
  rw [trim_append_of_visible hne hhead]
  cases hkept : dropTrailing isBlank (' ' :: route) with
  | nil =>
    rw [hkept] at hpieces
    have hblank := words_append_blank hback []
    rw [hpieces, words_cons (by decide)] at hblank
    exact absurd hblank hroute
  | cons c route' =>
    rw [hkept, List.cons_append, List.cons.injEq] at hpieces
    obtain ⟨rfl, hpieces⟩ := hpieces
    have hvisible : ∀ c ∈ head, (!isBlank c) = true := fun c hc => by rw [hhead c hc]; rfl
    refine ⟨route', ?_, by rw [← hpieces, words_append_blank hback]⟩
    rw [readRouteField, List.takeWhile_append_of_pos hvisible, List.dropWhile_append_of_pos hvisible,
      List.takeWhile_cons_of_neg (by decide), List.dropWhile_cons_of_neg (by decide), List.append_nil]

/-- The first item of the text that gives a date of flight gives this date. -/
def DatedBy (other : List Char) (date : Date) : Prop :=
  ∃ before rest after, words other = before ++ (['D', 'O', 'F', '/'] ++ (date.sixDigits ++ rest)) :: after ∧
    ∀ item ∈ before, ¬['D', 'O', 'F', '/'] <+: item

theorem readWeekday_of_datedBy {other : List Char} {date : Date} (h : DatedBy other date) (hreal : date.IsReal)
    (hyear : 1970 ≤ date.year ∧ date.year ≤ 2069) : readWeekday other = .ok date.weekday := by
  obtain ⟨before, rest, after, hwords, hbefore⟩ := h
  have hnone : before.findSome? (fun item => dropBeginning ['D', 'O', 'F', '/'] item) = none := by
    rw [List.findSome?_eq_none_iff]
    intro item hitem
    exact if_neg fun hprefix => hbefore item hitem (List.isPrefixOf_iff_prefix.1 hprefix)
  have hitem : dropBeginning ['D', 'O', 'F', '/'] (['D', 'O', 'F', '/'] ++ (date.sixDigits ++ rest)) =
      some (date.sixDigits ++ rest) := dropBeginning_eq_some_iff.2 rfl
  have hfind : (words other).findSome? (fun item => dropBeginning ['D', 'O', 'F', '/'] item) =
      some (date.sixDigits ++ rest) := by
    rw [hwords, List.findSome?_append, hnone, Option.none_or, List.findSome?_cons, hitem]
  have hdigits := cutBytes_of_isSign date.isSign_sixDigits rest
  rw [date.length_sixDigits] at hdigits
  simp only [readWeekday, hfind, hdigits, Date.ofSixDigits?_sixDigits hreal hyear]

/-! ## Whole messages -/

/-- A field of free text: no hyphen, and no blanks around it. -/
def IsField (s : String) : Prop :=
  '-' ∉ s.toList ∧ trim s.toList = s.toList

instance (s : String) : Decidable (IsField s) :=
  inferInstanceAs (Decidable (_ ∧ _))

/-- A word of a route. -/
def IsRouteWord (word : String) : Prop :=
  word.toList ≠ [] ∧ ∀ c ∈ word.toList, isBlank c = false ∧ c ≠ '-'

instance (word : String) : Decidable (IsRouteWord word) :=
  inferInstanceAs (Decidable (_ ∧ _))

/-- What the sender of a message fills in. -/
structure MessageParts where
  callsign : String
  flightRules : String
  /-- The digits of the number of aircraft, if it is given. -/
  count : String := ""
  aircraft : AircraftType
  /-- The text behind the slash. -/
  wake : String
  equipment : String
  departure : String
  departing : TimeOfDay
  speed : Speed
  level : Level
  /-- The words of the route. -/
  route : List String
  destination : String
  elapsed : TimeOfDay
  /-- What follows the time in the field of the destination. -/
  alternates : String := ""
  otherInformation : String
  date : Date
  callsign_field : IsField callsign
  flightRules_field : IsField flightRules
  flightRules_ne : flightRules ≠ ""
  count_digits : ∀ c ∈ count.toList, isAsciiDigit c = true
  aircraft_known : aircraft ∈ AircraftType.table
  wake_field : '-' ∉ wake.toList
  equipment_field : IsField equipment
  departure_code : IsCode departure
  departing_onClock : departing.OnClock
  route_ne : route ≠ []
  route_words : ∀ word ∈ route, IsRouteWord word
  destination_code : IsCode destination
  elapsed_onClock : elapsed.OnClock
  alternates_field : '-' ∉ alternates.toList
  date_real : date.IsReal
  date_year : 1970 ≤ date.year ∧ date.year ≤ 2069
  dated : DatedBy otherInformation.toList date

namespace MessageParts

def fields (m : MessageParts) : MessageFields where
  identification := m.callsign.toList
  flightRules := m.flightRules.toList
  aircraftType := m.count.toList ++ m.aircraft.designator.toList ++ '/' :: m.wake.toList
  equipment := m.equipment.toList
  departure := m.departure.toList ++ m.departing.fourDigits
  route := m.speed.text ++ m.level.text ++ ' ' :: joinWith [' '] (m.route.map String.toList)
  destination := m.destination.toList ++ m.elapsed.fourDigits ++ m.alternates.toList
  otherInformation := m.otherInformation.toList

/-- The message: `(FPL-`, the fields with a hyphen between two of them, and a closing bracket. -/
def text (m : MessageParts) : String :=
  String.ofList ("(FPL-".toList ++ joinWith ['-'] m.fields.toList ++ [')'])

/-- The plan that is filed. -/
def filed (m : MessageParts) : FiledPlan where
  callsign := m.callsign
  aircraft := m.aircraft.designator
  departing := ⟨some m.date.weekday, some m.departing⟩
  plan := {
    ifr := m.flightRules.toList.head? == some 'I'
    departure := some m.departure
    destination := some m.destination
    cruiseLevel := 100 * m.level.hundreds
    route := some (String.ofList (joinWith [' '] (m.route.map String.toList)))
    points := m.route
    sidName := if m.route.head? = some "DCT" then "" else m.route.headD ""
    engineType := m.aircraft.engineType
    aircraftType := m.aircraft.aircraftType }

variable (m : MessageParts)

theorem words_route : words (joinWith [' '] (m.route.map String.toList)) = m.route.map String.toList := by
  refine words_joinWith fun word hword => ?_
  obtain ⟨text, htext, rfl⟩ := List.mem_map.1 hword
  exact ⟨(m.route_words text htext).1, fun c hc => ((m.route_words text htext).2 c hc).1⟩

theorem hyphen_not_mem_route : '-' ∉ joinWith [' '] (m.route.map String.toList) := by
  have hwords : ∀ piece ∈ m.route.map String.toList, ∀ c ∈ piece, c ≠ '-' := by
    intro piece hpiece c hc
    obtain ⟨word, hword, rfl⟩ := List.mem_map.1 hpiece
    exact ((m.route_words word hword).2 c hc).2
  exact fun hmem => forall_mem_joinWith (by decide) hwords _ hmem rfl

theorem hyphen_not_mem_leading : ∀ field ∈ m.fields.leading, '-' ∉ field := by
  have hcount := hyphen_not_mem_of_isSign fun c hc => isSign_of_isAsciiDigit (m.count_digits c hc)
  have hdesignator := hyphen_not_mem_of_isSign fun c hc =>
    ((designator_of_mem_table _ (Array.mem_toList_iff.2 m.aircraft_known)).1 c hc).1
  have hdeparting := hyphen_not_mem_of_isSign m.departing.isSign_fourDigits
  have hspeed := hyphen_not_mem_of_isSign m.speed.isSign
  have hlevel := hyphen_not_mem_of_isSign m.level.isSign
  have helapsed := hyphen_not_mem_of_isSign m.elapsed.isSign_fourDigits
  have haircraft : '-' ∉ m.fields.aircraftType := by simp [fields, hcount, hdesignator, m.wake_field]
  have hdeparture : '-' ∉ m.fields.departure := by simp [fields, m.departure_code.hyphen_not_mem, hdeparting]
  have hroute : '-' ∉ m.fields.route := by simp [fields, hspeed, hlevel, m.hyphen_not_mem_route]
  have hdestination : '-' ∉ m.fields.destination := by
    simp [fields, m.destination_code.hyphen_not_mem, helapsed, m.alternates_field]
  intro field hfield
  simp only [MessageFields.leading, List.mem_cons, List.not_mem_nil, or_false] at hfield
  rcases hfield with rfl | rfl | rfl | rfl | rfl | rfl | rfl
  · exact m.callsign_field.1
  · exact m.flightRules_field.1
  · exact haircraft
  · exact m.equipment_field.1
  · exact hdeparture
  · exact hroute
  · exact hdestination

theorem text_eq : m.text = (MessageLayout.plain m.fields m.hyphen_not_mem_leading).text := by
  have hopening : "(FPL-".toList = MessageFields.opening := by decide
  rw [MessageLayout.text_plain, ← hopening, ← List.append_assoc]
  rfl

theorem sidNameOf_route :
    sidNameOf m.route = if m.route.head? = some "DCT" then "" else m.route.headD "" := by
  cases m.route with
  | nil => rfl
  | cons word words => simp [sidNameOf]

theorem tells : (m.fields.map trim).Tells m.filed := by
  have hspeed : ∀ c ∈ m.speed.text ++ m.level.text, isBlank c = false :=
    List.forall_mem_append.2 ⟨fun c hc => (m.speed.isSign c hc).isBlank, fun c hc => (m.level.isSign c hc).isBlank⟩
  have hne : m.speed.text ++ m.level.text ≠ [] := List.append_ne_nil_of_right_ne_nil _ (List.cons_ne_nil _ _)
  have hwords : words (joinWith [' '] (m.route.map String.toList)) ≠ [] := by
    rw [m.words_route]
    simpa using m.route_ne
  obtain ⟨route, hroute, heq⟩ := readRouteField_trim hspeed hne hwords
  rw [m.words_route] at heq
  have hpoints : (m.route.map String.toList).map String.ofList = m.route := by simp
  have hdeparture := readAerodrome_trim m.departure_code m.departing_onClock .departure []
  rw [List.append_nil] at hdeparture
  have hdated : DatedBy (trim m.otherInformation.toList) m.date := by
    rw [DatedBy, words_trim]
    exact m.dated
  have hcallsign : String.ofList (m.fields.map trim).identification = m.callsign := by
    rw [MessageFields.map, fields, m.callsign_field.2, String.ofList_toList]
  have hflightRules : (m.fields.map trim).flightRules = m.flightRules.toList := m.flightRules_field.2
  have hrules : (m.fields.map trim).flightRules ≠ [] := by
    rw [hflightRules]
    simpa using m.flightRules_ne
  have htells : (m.fields.map trim).Tells _ :=
    .intro hrules (readDesignator_trim m.count_digits m.aircraft_known m.wake.toList)
      (findAircraft_of_mem_table m.aircraft_known) hdeparture hroute (readCruiseLevel_append m.speed m.level)
      (readAerodrome_trim m.destination_code m.elapsed_onClock .destination m.alternates.toList)
      (readWeekday_of_datedBy hdated m.date_real m.date_year)
  rw [hcallsign, hflightRules, heq, hpoints, m.sidNameOf_route] at htells
  exact htells

end MessageParts

/-- A message that is written from its parts is decoded to the plan that they stand for. -/
theorem decode_text (m : MessageParts) : FiledPlan.decode m.text = .ok m.filed := by
  rw [m.text_eq]
  exact decode_eq_ok_iff.2 ⟨_, (MessageLayout.plain _ _).split_text, m.tells⟩

/-- Two aircraft of a type with digits in its name; a remark with a hyphen and a bracket, and two dates of flight. -/
def trainingParts : MessageParts where
  callsign := "GABCD"
  flightRules := "VG"
  count := "2"
  aircraft := ⟨"PA28", 'P', 'L'⟩
  wake := "L"
  equipment := "S/C"
  departure := "EGKB"
  departing := ⟨9, 0⟩
  speed := .knots 110
  level := .altitude 30
  route := ["DCT", "SAM", "DCT"]
  destination := "EGHI"
  elapsed := ⟨1, 0⟩
  alternates := " EGKA"
  otherInformation := "RMK/A-B) DOF/260101 DOF/991231"
  date := ⟨2026, 1, 1⟩
  callsign_field := by decide
  flightRules_field := by decide
  flightRules_ne := by decide
  count_digits := by decide
  aircraft_known := by decide +kernel
  wake_field := by decide
  equipment_field := by decide
  departure_code := by decide
  departing_onClock := by decide
  route_ne := by decide
  route_words := by decide
  destination_code := by decide
  elapsed_onClock := by decide
  alternates_field := by decide
  date_real := by decide
  date_year := by decide
  dated := ⟨["RMK/A-B)".toList], [], ["DOF/991231".toList], by decide, by decide⟩

theorem decode_trainingParts :
    trainingParts.text =
        "(FPL-GABCD-VG-2PA28/L-S/C-EGKB0900-N0110A030 DCT SAM DCT-EGHI0100 EGKA-RMK/A-B) DOF/260101 DOF/991231)" ∧
      FiledPlan.decode trainingParts.text = .ok {
        callsign := "GABCD"
        aircraft := "PA28"
        departing := ⟨some 4, some ⟨9, 0⟩⟩
        plan := {
          ifr := false
          departure := some "EGKB"
          destination := some "EGHI"
          cruiseLevel := 3000
          route := some "DCT SAM DCT"
          points := ["DCT", "SAM", "DCT"]
          engineType := 'P' } } :=
  ⟨by decide +kernel, (decode_text trainingParts).trans (congrArg Except.ok (by decide +kernel))⟩

end DepartureRules
