import DepartureRules.Outcome
import DepartureRules.Rules.Basic
import DepartureRules.Rules.Window

/-!
# Verdicts of restriction lists

A list of restrictions is closed: its first clause that applies decides, and when none applies the list
fails. The empty list passes.

* `Restriction.applies`, the conditions of a clause: its window, its suffixes and its type codes;
* `verdict`, the verdict of a list, with the note that explains a failing one;
* `suggestions`, the departures that a list suggests instead.
-/

namespace DepartureRules
set_option autoImplicit false

/-- What the clauses of a restriction list are looked at with. -/
structure Circumstances where
  now : Moment
  /-- The last part of the name of the filed departure. -/
  suffix : String
  engineType : Char
  aircraftType : Char
  deriving DecidableEq, Repr

/-- The verdict of a restriction list. -/
structure Verdict where
  outcome : Outcome
  /-- The deciding clause clears a failing verdict on the whole departure. -/
  clearsSid : Bool
  note : Option String
  deriving DecidableEq, Repr

/-- The list does not stop the plan. -/
def Verdict.passed (v : Verdict) : Bool :=
  v.outcome == .success

/-- The text ends in the other one. -/
def endsIn (text ending : String) : Bool :=
  ending.toList.isSuffixOf text.toList

/-- The text begins with the other one. -/
def beginsWith (text beginning : String) : Bool :=
  beginning.toList.isPrefixOf text.toList

namespace Restriction

/-- The window of a clause is open. A clause without two ends has no window. -/
def windowOpen (r : Restriction) (now : Moment) : Bool :=
  match r.start, r.finish with
  | some start, some finish => Window.contains start finish now
  | _, _ => true

/-- The suffix of the departure ends in one of those of the clause, if it names any. -/
def suffixAdmitted (r : Restriction) (suffix : String) : Bool :=
  r.suffixes.isEmpty || r.suffixes.any fun ending => endsIn suffix ending

/-- One of the two type codes is among those of the clause, if it names any. -/
def typeAdmitted (r : Restriction) (engineType aircraftType : Char) : Bool :=
  r.types.isEmpty ||
    r.types.any fun code => code == engineType.toString || code == aircraftType.toString

/-- Every condition of the clause holds. -/
def applies (r : Restriction) (c : Circumstances) : Bool :=
  r.windowOpen c.now && r.suffixAdmitted c.suffix && r.typeAdmitted c.engineType c.aircraftType

end Restriction

/-- The verdict of a restriction list. -/
def verdict (restrictions : List Restriction) (c : Circumstances) : Verdict :=
  if restrictions.isEmpty then ⟨.success, false, none⟩
  else
    match restrictions.find? fun r => r.applies c with
    | none => ⟨.conditionFail, false, some "no conditions match"⟩
    | some r =>
      if r.banned then ⟨.conditionBan, false, some "banned condition matches"⟩
      else ⟨.success, r.clearsSid, none⟩

/-- The note on the departures that a restriction list suggests, if it suggests any. -/
def suggestions (restrictions : List Restriction) : Option String :=
  let names := restrictions.flatMap fun r => r.alternatives
  if names.isEmpty then none
  else some ("alternatives exist (" ++ ", ".intercalate names ++ ")")

end DepartureRules
