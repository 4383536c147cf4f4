import DepartureRules.Text.Blank

/-!
# Route patterns

A route pattern is a text of elements, each separated from the next by one blank. The element `*` stands
for any element of a route.

* `fits` compares elements with the head of a route; what follows in the route does not matter;
* `matchesRoute` compares a pattern with a route. The pattern `*` matches every route. An anchored
  pattern is compared from the first place where its first element stands literally in the route.

`fits_append` says that a longer route still fits.
-/

namespace DepartureRules
open Text
set_option autoImplicit false

namespace Pattern

/-- The elements of a pattern. -/
def elements (pattern : String) : List String :=
  piecesAt ' ' pattern

/-- Each element is the wildcard or the element of the route in its place. -/
def fits : List String → List String → Bool
  | [], _ => true
  | _ :: _, [] => false
  | element :: elements, item :: route => (element == "*" || element == item) && fits elements route

/-- The route from the first place where an element stands in it. -/
def anchor (element : String) (route : List String) : List String :=
  route.dropWhile fun item => item != element

/-- The pattern matches the route. -/
def matchesRoute (pattern : String) (route : List String) (anchored : Bool) : Bool :=
  if pattern = "*" then true
  else
    match elements pattern with
    | [] => true
    | first :: others =>
      fits (first :: others) (if anchored then anchor first route else route)

/-! ## Facts -/

theorem elements_ne_nil (pattern : String) : elements pattern ≠ [] := by
  simp [elements, piecesAt, splitWhere_ne_nil]

@[simp] theorem fits_nil (route : List String) : fits [] route = true := by
  cases route <;> rfl

theorem fits_append {elements route : List String} (h : fits elements route = true)
    (more : List String) : fits elements (route ++ more) = true := by
  induction elements generalizing route with
  | nil => simp
  | cons element elements ih =>
    cases route with
    | nil => simp [fits] at h
    | cons item route =>
      simp only [fits, Bool.and_eq_true] at h
      simp only [List.cons_append, fits, Bool.and_eq_true]
      exact ⟨h.1, ih h.2⟩

theorem anchor_nil (element : String) : anchor element [] = [] := rfl

theorem anchor_append {element : String} {skipped : List String} (h : ∀ s ∈ skipped, s ≠ element)
    (route : List String) : anchor element (skipped ++ route) = anchor element route := by
  induction skipped with
  | nil => rfl
  | cons s skipped ih =>
    have hs : s ≠ element := h s List.mem_cons_self
    simp only [anchor, List.cons_append, List.dropWhile_cons]
    simp only [bne_iff_ne, ne_eq, hs, not_false_eq_true, if_true]
    exact ih fun t ht => h t (List.mem_cons_of_mem _ ht)

end Pattern

end DepartureRules
