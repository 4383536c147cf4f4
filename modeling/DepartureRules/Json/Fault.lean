/-!
# Faults of a document

What can be wrong with a document that is read from left to right. The first fault met decides.
-/

namespace DepartureRules.Json
set_option autoImplicit false

/-- The kind of the first fault of a document. -/
inductive Fault
  /-- The text is not well formed, or goes on after the document. -/
  | malformed
  /-- The text ends before the document does. -/
  | ended
  /-- The text is well formed so far, but its value is not the expected one. -/
  | mismatched
  deriving DecidableEq, Repr, Inhabited

end DepartureRules.Json
