import DepartureRules.Text.Blank
import DepartureRules.Text.DecimalDigit
import DepartureRules.Text.Quoted

/-!
# Times of day

A time of day has a resolution of one minute. The module holds

* `TimeOfDay` with `minutes`, the minutes since midnight, and `compare`, by hour and then by minute;
* `parse`, which reads `HH:MM`, `HH:MM:SS` and `HHMM` and drops the seconds;
* `toString`, which writes `HH:MM`.

`24:00` is read as the end of the day. A `TimeOfDay` that was not read may hold any two numbers.
-/

namespace DepartureRules
open Text
set_option autoImplicit false

/-- An hour and a minute. -/
structure TimeOfDay where
  hour : Nat
  minute : Nat
  deriving DecidableEq, Repr, Inhabited

namespace TimeOfDay

/-- The minutes since midnight. -/
def minutes (t : TimeOfDay) : Nat :=
  t.hour * 60 + t.minute

/-- The order by hour and then by minute. -/
def compare (a b : TimeOfDay) : Ordering :=
  (Ord.compare a.hour b.hour).then (Ord.compare a.minute b.minute)

/-- A time on the clock: an hour up to 23 with a minute up to 59, or the end of the day. -/
def OnClock (t : TimeOfDay) : Prop :=
  t.hour ≤ 23 ∧ t.minute ≤ 59 ∨ t.hour = 24 ∧ t.minute = 0

instance (t : TimeOfDay) : Decidable t.OnClock :=
  inferInstanceAs (Decidable (_ ∨ _))

/-! ## Reading -/

/-- A text that is no time of day, without the blanks around it. -/
structure ParseError where
  text : String
  deriving DecidableEq, Repr

/-- The text of the error. -/
def ParseError.message (e : ParseError) : String :=
  "invalid time of day: " ++ quoted e.text

/-- Takes a number of two ASCII digits from the head of a text. -/
def twoDigits : List Char → Option (Nat × List Char)
  | a :: b :: rest =>
    if isAsciiDigit a && isAsciiDigit b then some (10 * digitValue a + digitValue b, rest) else none
  | _ => none

/-- A text without the colon at its head, if there is one. -/
def dropColon : List Char → List Char
  | ':' :: rest => rest
  | other => other

/-- What may follow the minutes: nothing, or a colon and seconds up to 59. -/
def isSecondsPart : List Char → Bool
  | [] => true
  | ':' :: rest =>
    match twoDigits rest with
    | some (seconds, []) => seconds ≤ 59
    | _ => false
  | _ => false

/-- Reads a time of day that has no blanks around it. -/
def ofChars? (s : List Char) : Option TimeOfDay :=
  match twoDigits s with
  | none => none
  | some (hour, rest) =>
    match twoDigits (dropColon rest) with
    | none => none
    | some (minute, rest) =>
      if isSecondsPart rest && decide (OnClock ⟨hour, minute⟩) then some ⟨hour, minute⟩ else none

/-- Reads a time of day. -/
def parse (s : String) : Except ParseError TimeOfDay :=
  match ofChars? (trim s.toList) with
  | some t => .ok t
  | none => .error ⟨trimmed s⟩

/-! ## Writing -/

/-- A number with at least two digits. -/
def twoPlaces (n : Nat) : List Char :=
  if n < 10 then ['0', digitChar n] else Nat.toDigits 10 n

/-- Hour and minute with a colon between them. -/
def toChars (t : TimeOfDay) : List Char :=
  twoPlaces t.hour ++ ':' :: twoPlaces t.minute

/-- A time of day as it is written in documents and reports. -/
def toString (t : TimeOfDay) : String :=
  String.ofList t.toChars

/-! ## Facts -/

theorem onClock_of_ofChars? {s : List Char} {t : TimeOfDay} (h : ofChars? s = some t) :
    t.OnClock := by
  unfold ofChars? at h
  split at h
  · simp at h
  · split at h
    · simp at h
    · split at h
      · rename_i hcond
        simp only [Bool.and_eq_true, decide_eq_true_eq] at hcond
        rw [← Option.some.inj h]
        exact hcond.2
      · simp at h

theorem onClock_of_parse {s : String} {t : TimeOfDay} (h : parse s = .ok t) : t.OnClock := by
  unfold parse at h
  split at h
  · rename_i hread
    rw [← Except.ok.inj h]
    exact onClock_of_ofChars? hread
  · simp at h

end TimeOfDay

end DepartureRules
