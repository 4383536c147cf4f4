import DepartureRules.Selection.Pattern

/-!
# The meaning of route patterns

Which routes a pattern matches, said without the way it is compared with them.

* `Pattern.Splits`: the elements of a pattern, and `splits_iff_eq_elements` says that there is one row of them;
* `Pattern.Covers`: a route is covered place by place, and `fits_iff_covers`;
* `Pattern.CoversFromFirst`: it is covered from the first place where the first element stands, and
  `fits_anchor_iff` says that an anchored pattern looks at no other place;
* `matchesRoute_meaning` puts this together, with what more elements before and behind a route change.
-/

namespace DepartureRules.Pattern
open Text
set_option autoImplicit false

/-! ## Elements -/

/-- The pattern is these elements with one blank between two of them, and no element holds a blank. -/
structure Splits (pattern : String) (elements : List String) : Prop where
  ne_nil : elements ≠ []
  plain : ∀ element ∈ elements, ' ' ∉ element.toList
  joined : " ".intercalate elements = pattern

/-- The library's name for it, with the library's lemmas. -/
theorem splitWhere_eq {α : Type} (p : α → Bool) (l : List α) : splitWhere p l = l.splitOnP p := by
  induction l with
  | nil => rfl
  | cons a l ih =>
    rw [List.splitOnP_cons_eq_if_modifyHead, splitWhere, ih]
    split
    · rfl
    · cases h : l.splitOnP p with
      | nil => exact absurd h (List.splitOnP_ne_nil p l)
      | cons piece pieces => rfl

theorem map_toList_elements (pattern : String) :
    (elements pattern).map String.toList = pattern.toList.splitOn ' ' := by
  rw [elements, piecesAt, splitWhere_eq, ← List.splitOn_eq_splitOnP, List.map_map]
  simp

theorem splits_elements (pattern : String) : Splits pattern (elements pattern) where
  ne_nil := elements_ne_nil pattern
  plain := by
    intro element helement hblank
    obtain ⟨piece, hpiece, rfl⟩ := List.mem_map.1 helement
    rw [String.toList_ofList] at hblank
    exact absurd (not_mem_of_mem_splitWhere hpiece hblank) (by decide)
  joined := by
    rw [← String.toList_inj, String.toList_intercalate, map_toList_elements]
    exact List.intercalate_splitOn ' '

/-- A pattern has one row of elements, the empty ones between two blanks included. -/
theorem splits_iff_eq_elements {pattern : String} {row : List String} :
    Splits pattern row ↔ row = elements pattern := by
  constructor
  · intro h
    have hplain : ∀ piece ∈ row.map String.toList, ' ' ∉ piece := List.forall_mem_map.2 h.plain
    have hpieces : (elements pattern).map String.toList = row.map String.toList := by
      rw [map_toList_elements, ← h.joined, String.toList_intercalate]
      exact List.splitOn_intercalate ' ' hplain (by simpa using h.ne_nil)
    exact ((List.map_inj_right fun _ _ => String.toList_inj.1).1 hpieces).symm
  · rintro rfl
    exact splits_elements pattern

/-! ## Covered routes -/

/-- The route has a place for every element, and each element is the wildcard or stands in its place. -/
def Covers (elements route : List String) : Prop :=
  elements.length ≤ route.length ∧
    ∀ (i : Nat) (element item : String),
      elements[i]? = some element → route[i]? = some item → element = "*" ∨ element = item

/-- The first element stands in the route, and from the first such place on the route is covered. -/
def CoversFromFirst (first : String) (others route : List String) : Prop :=
  ∃ skipped rest, route = skipped ++ first :: rest ∧ first ∉ skipped ∧ Covers (first :: others) (first :: rest)

theorem covers_cons_iff {element item : String} {elements route : List String} :
    Covers (element :: elements) (item :: route) ↔ (element = "*" ∨ element = item) ∧ Covers elements route := by
  constructor
  · rintro ⟨hlength, hplace⟩
    exact ⟨hplace 0 element item rfl rfl, Nat.le_of_succ_le_succ hlength, fun i => hplace (i + 1)⟩
  · rintro ⟨hfirst, hlength, hplace⟩
    refine ⟨Nat.succ_le_succ hlength, fun i => ?_⟩
    cases i with
    | zero =>
      rintro _ _ ⟨⟩ ⟨⟩
      exact hfirst
    | succ i => exact hplace i

theorem fits_iff_covers {elements route : List String} : fits elements route = true ↔ Covers elements route := by
  induction elements generalizing route with
  | nil => simp [Covers]
  | cons element elements ih =>
    cases route with
    | nil => simp [fits, Covers]
    | cons item route => simp only [fits, covers_cons_iff, Bool.and_eq_true, Bool.or_eq_true, beq_iff_eq, ih]

/-! ## Anchors -/

theorem anchor_append_cons {first : String} {skipped : List String} (h : first ∉ skipped) (rest : List String) :
    anchor first (skipped ++ first :: rest) = first :: rest := by
  rw [anchor_append fun s hs => ne_of_mem_of_not_mem hs h, anchor, List.dropWhile_cons_of_neg (by simp)]

theorem anchor_of_not_mem {first : String} {route : List String} (h : first ∉ route) : anchor first route = [] := by
  have hend := anchor_append (fun s hs => ne_of_mem_of_not_mem hs h) []
  rwa [List.append_nil, anchor_nil] at hend

/-- An anchored pattern is compared at the first place of its first element only. -/
theorem fits_anchor_iff {first : String} {others route : List String} :
    fits (first :: others) (anchor first route) = true ↔ CoversFromFirst first others route := by
  by_cases h : first ∈ route
  · obtain ⟨skipped, rest, hroute, hskipped⟩ := List.eq_append_cons_of_mem h
    rw [hroute, anchor_append_cons hskipped, fits_iff_covers]
    constructor
    · exact fun hcovers => ⟨skipped, rest, rfl, hskipped, hcovers⟩
    · rintro ⟨skipped', rest', hsame, hskipped', hcovers⟩
      -- the first place is one place
      have hanchor := congrArg (anchor first) hsame
      rw [anchor_append_cons hskipped, anchor_append_cons hskipped'] at hanchor
      rwa [hanchor]
  · rw [anchor_of_not_mem h]
    constructor
    · exact nofun
    · rintro ⟨skipped, rest, rfl, -, -⟩
      exact absurd (by simp) h

theorem anchor_append_of_mem {first : String} {route : List String} (h : first ∈ route) (more : List String) :
    anchor first (route ++ more) = anchor first route ++ more := by
  obtain ⟨skipped, rest, rfl, hskipped⟩ := List.eq_append_cons_of_mem h
  rw [List.append_assoc, List.cons_append, anchor_append_cons hskipped, anchor_append_cons hskipped, List.cons_append]

/-! ## Patterns -/

theorem matchesRoute_star (route : List String) (anchored : Bool) : matchesRoute "*" route anchored = true :=
  if_pos rfl

theorem matchesRoute_of_elements {pattern first : String} {others : List String} (hstar : pattern ≠ "*")
    (h : elements pattern = first :: others) (route : List String) (anchored : Bool) :
    matchesRoute pattern route anchored = fits (first :: others) (if anchored then anchor first route else route) := by
  rw [matchesRoute, if_neg hstar, h]

/-- A route that goes on matches all the same. -/
theorem matchesRoute_append {pattern : String} {route : List String} {anchored : Bool}
    (h : matchesRoute pattern route anchored = true) (more : List String) :
    matchesRoute pattern (route ++ more) anchored = true := by
  by_cases hstar : pattern = "*"
  · rw [hstar, matchesRoute_star]
  · obtain ⟨first, others, helements⟩ := List.exists_cons_of_ne_nil (elements_ne_nil pattern)
    rw [matchesRoute_of_elements hstar helements] at h ⊢
    cases anchored with
    | false => exact fits_append h more
    | true =>
      have hmem : first ∈ route := by
        obtain ⟨skipped, rest, rfl, -, -⟩ := fits_anchor_iff.1 h
        simp
      rw [if_pos rfl, anchor_append_of_mem hmem]
      exact fits_append h more

/-- A pattern has one row of elements. A pattern other than `*` matches a route that they cover, and an anchored one a
route that they cover from the first place where the first of them stands; `*` matches every route. More elements
behind a route leave it matched, and elements before it that are not the first of the pattern change nothing for an
anchored one. -/
theorem matchesRoute_meaning (pattern : String) :
    ∃ first others, (∀ row, Splits pattern row ↔ row = first :: others) ∧
      (pattern ≠ "*" → ∀ route,
        (matchesRoute pattern route false = true ↔ Covers (first :: others) route) ∧
          (matchesRoute pattern route true = true ↔ CoversFromFirst first others route)) ∧
      (pattern = "*" → ∀ route anchored, matchesRoute pattern route anchored = true) ∧
      (∀ route more anchored, matchesRoute pattern route anchored = true →
        matchesRoute pattern (route ++ more) anchored = true) ∧
      ∀ skipped route, (∀ item ∈ skipped, item ≠ first) →
        matchesRoute pattern (skipped ++ route) true = matchesRoute pattern route true := by
  obtain ⟨first, others, helements⟩ := List.exists_cons_of_ne_nil (elements_ne_nil pattern)
  refine ⟨first, others, fun row => ?_, fun hstar route => ⟨?_, ?_⟩, ?_,
    fun route more anchored h => matchesRoute_append h more, fun skipped route hskipped => ?_⟩
  · rw [← helements]
    exact splits_iff_eq_elements
  · rw [matchesRoute_of_elements hstar helements]
    exact fits_iff_covers
  · rw [matchesRoute_of_elements hstar helements]
    exact fits_anchor_iff
  · rintro rfl
    exact matchesRoute_star
  · by_cases hstar : pattern = "*"
    · rw [hstar, matchesRoute_star, matchesRoute_star]
    · rw [matchesRoute_of_elements hstar helements, matchesRoute_of_elements hstar helements, if_pos rfl, if_pos rfl,
        anchor_append hskipped]

/-- A pattern with a wildcard between two points, anchored behind the name of the departure. -/
theorem matchesRoute_cptWal :
    Splits "CPT * WAL" ["CPT", "*", "WAL"] ∧
      matchesRoute "CPT * WAL" (["CPT3F"] ++ ["CPT", "L9", "WAL"]) true = true ∧
      matchesRoute "CPT * WAL" ["CPT3F", "CPT", "CPT", "L9", "WAL"] true = false ∧
      matchesRoute "CPT * WAL" (["CPT", "L9", "WAL"] ++ ["KENET"]) false = true ∧ matchesRoute "*" [] true = true := by
  obtain ⟨first, others, hsplits, hmeaning, -, happend, hbefore⟩ := matchesRoute_meaning "CPT * WAL"
  have hrow : Splits "CPT * WAL" ["CPT", "*", "WAL"] := splits_iff_eq_elements.2 (by decide)
  obtain ⟨rfl, rfl⟩ := List.cons.inj ((hsplits _).1 hrow)
  have hcovers : Covers ["CPT", "*", "WAL"] ["CPT", "L9", "WAL"] := fits_iff_covers.1 (by decide)
  have hplain : matchesRoute "CPT * WAL" ["CPT", "L9", "WAL"] false = true := (hmeaning (by decide) _).1.2 hcovers
  obtain ⟨-, -, -, -, hstar, -⟩ := matchesRoute_meaning "*"
  refine ⟨hrow, ?_, ?_, happend _ _ _ hplain, hstar rfl [] true⟩
  · rw [hbefore _ _ (by decide), (hmeaning (by decide) _).2]
    exact ⟨[], ["L9", "WAL"], rfl, List.not_mem_nil, hcovers⟩
  · -- the pattern is not tried again at the second place of its first element
    rw [← Bool.not_eq_true, (hmeaning (by decide) _).2, ← fits_anchor_iff]
    decide

/-- Two blanks hold an empty element between them, which stands in no filed route. -/
example : elements "CPT  WAL" = ["CPT", "", "WAL"] ∧ matchesRoute "CPT  WAL" ["CPT", "WAL"] true = false := by
  decide

end DepartureRules.Pattern
