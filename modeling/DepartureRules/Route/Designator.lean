import DepartureRules.Text.Blank
import DepartureRules.Text.DecimalDigit
import DepartureRules.Text.Uppercase

/-!
# Names of departures

The name of a filed departure holds the fix where it ends and the letter of its variant: `CPT3F` leads to
`CPT` and is the variant `F`. A leading `#` has no meaning. At London Heathrow `CHK` names the departures to
`CPT` that are filed without a number.
-/

namespace DepartureRules
open Text
set_option autoImplicit false

/-- The fix and the variant of a departure. -/
structure SidDesignator where
  point : String
  suffix : String
  deriving DecidableEq, Repr, Inhabited

namespace SidDesignator

/-- A name without the sign at its head that has no meaning. -/
def dropHash : List Char → List Char
  | '#' :: name => name
  | name => name

/-- The name in the form in which it is compared: in uppercase, without blanks around it. -/
def normalName (name : String) : List Char :=
  dropHash (upper (trim name.toList))

/-- Reads the name of a departure that is filed at `origin`. -/
def parse (name origin : String) : SidDesignator :=
  let letters := normalName name
  match letters.getLast? with
  | none => ⟨"", ""⟩
  | some last =>
    if origin = "EGLL" ∧ letters = ['C', 'H', 'K'] then ⟨"CPT", "CHK"⟩
    else ⟨String.ofList (letters.takeWhile fun c => !isAsciiDigit c), last.toString⟩

end SidDesignator

end DepartureRules
