import DepartureRules.Text.UppercaseTable

/-!
# Uppercase

The full Unicode uppercase mapping, character by character:

* `upperChars c`, the uppercase form of one character, one to three characters long;
* `upper` on character lists and `uppercased` on strings.

On ASCII the mapping moves `a` to `z` and leaves the rest. Some characters outside ASCII have an ASCII
uppercase form: `ß` becomes `SS`, `ı` becomes `I`.
-/

namespace DepartureRules.Text
set_option autoImplicit false

/-- One of the letters `A` to `Z`. -/
def isUpperLetter (c : Char) : Bool :=
  'A'.toNat ≤ c.toNat && c.toNat ≤ 'Z'.toNat

/-- One of the letters `a` to `z`. -/
def isLowerLetter (c : Char) : Bool :=
  'a'.toNat ≤ c.toNat && c.toNat ≤ 'z'.toNat

/-- The uppercase form of a character outside ASCII, looked up in the tables. -/
def upperBeyondAscii (c : Char) : List Char :=
  match caseExpansions.find? fun entry => entry.1 == c.toNat with
  | some entry => entry.2.map Char.ofNat
  | none =>
    match caseRuns.find? fun run => run.holds c.toNat with
    | some run => [Char.ofNat (c.toNat + run.shift).toNat]
    | none => [c]

/-- The uppercase form of one character. -/
def upperChars (c : Char) : List Char :=
  if isLowerLetter c then [Char.ofNat (c.toNat - 32)]
  else if c.toNat < 128 then [c]
  else upperBeyondAscii c

/-- The uppercase form of a text. -/
def upper (s : List Char) : List Char :=
  s.flatMap upperChars

/-- The uppercase form of a string. -/
def uppercased (s : String) : String :=
  String.ofList (upper s.toList)

theorem upper_cons (c : Char) (s : List Char) : upper (c :: s) = upperChars c ++ upper s := rfl

@[simp] theorem toList_uppercased (s : String) : (uppercased s).toList = upper s.toList := by
  simp [uppercased]

example : upperChars 'ß' = ['S', 'S'] ∧ upperChars 'ı' = ['I'] := by decide

end DepartureRules.Text
