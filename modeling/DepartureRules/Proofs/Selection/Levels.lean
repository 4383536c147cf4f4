import Mathlib.Algebra.Ring.Parity
import Mathlib.Logic.Basic
import DepartureRules.Proofs.Selection.Requirements

/-!
# Levels that a constraint is open at

Which levels pass the two checks that look at the requested level, in feet and without divisions that truncate.

* `Direction.Uses`: the levels of a direction, in thousands of feet, and `opens_iff_uses`: they are the ones that the
  check of the parity lets through;
* `not_uses_both`, `uses_odd_or_even` and `uses_alternate`: how the levels of the two directions lie to one another;
* `levels_pass_iff` says which levels pass for a constraint, and what this means for its direction.
-/

namespace DepartureRules
set_option autoImplicit false

/-! ## The levels of a direction -/

/-- The levels of a direction in thousands of feet. Up to 41 they have its parity, and above every fourth level is
one. -/
def Direction.Uses : Direction → Nat → Prop
  | .odd, level => level ≤ 41 ∧ Odd level ∨ ∃ n, level = 45 + 4 * n
  | .even, level => level ≤ 41 ∧ Even level ∨ ∃ n, level = 43 + 4 * n

/-- Every fourth level from the first one on has one remainder by four. -/
theorem exists_eq_add_four_mul_iff {first level : Nat} :
    (∃ n, level = first + 4 * n) ↔ first ≤ level ∧ level % 4 = first % 4 := by
  constructor
  · rintro ⟨n, rfl⟩
    omega
  · intro h
    exact ⟨(level - first) / 4, by omega⟩

theorem uses_odd_iff {level : Nat} :
    Direction.odd.Uses level ↔ level ≤ 41 ∧ level % 2 = 1 ∨ 45 ≤ level ∧ level % 4 = 1 := by
  rw [Direction.Uses, Nat.odd_iff, exists_eq_add_four_mul_iff]

theorem uses_even_iff {level : Nat} :
    Direction.even.Uses level ↔ level ≤ 41 ∧ level % 2 = 0 ∨ 43 ≤ level ∧ level % 4 = 3 := by
  rw [Direction.Uses, Nat.even_iff, exists_eq_add_four_mul_iff]

/-- The remainders are taken from above the last level that has its neighbours, so both formulas agree there. -/
theorem opens_iff_uses (direction : Direction) (level : Nat) :
    direction.Opens (level : Int) ↔ direction.Uses level := by
  have hlow : ((level : Int).tmod 2) = (level % 2 : Nat) := rfl
  have hhigh (h : 41 < level) : (2 + (level : Int) - 41).tmod 4 = ((level - 39) % 4 : Nat) := by
    rw [show 2 + (level : Int) - 41 = ((level - 39 : Nat) : Int) by omega]
    rfl
  have hsplit : direction.Opens (level : Int) ↔
      (level ≤ 41 → (level % 2 : Nat) = direction.parity) ∧
        (41 < level → ((level - 39) % 4 : Nat) = direction.parity * 2) := by
    rw [opens_iff_parity, hlow]
    refine and_congr (imp_congr_left (by omega)) ⟨fun h habove => ?_, fun h habove => ?_⟩
    · rw [← hhigh habove]
      exact h (by omega)
    · rw [hhigh (by omega)]
      exact h (by omega)
  rw [hsplit]
  cases direction with
  | odd =>
    rw [uses_odd_iff]
    simp only [Direction.parity]
    omega
  | even =>
    rw [uses_even_iff]
    simp only [Direction.parity]
    omega

/-! ## Two directions -/

theorem not_uses_both (level : Nat) : ¬(Direction.odd.Uses level ∧ Direction.even.Uses level) := by
  rw [uses_odd_iff, uses_even_iff]
  omega

theorem uses_odd_or_even {level : Nat} (h : level ≤ 41) :
    Xor (Direction.odd.Uses level) (Direction.even.Uses level) := by
  rw [uses_odd_iff, uses_even_iff, xor_iff_iff_not]
  omega

/-- Above the last level that has its neighbours every other level is used. -/
theorem uses_above_iff {level : Nat} (h : 41 < level) :
    Direction.odd.Uses level ∨ Direction.even.Uses level ↔ ∃ n, level = 43 + 2 * n := by
  rw [uses_odd_iff, uses_even_iff]
  constructor
  · intro huses
    exact ⟨(level - 43) / 2, by omega⟩
  · rintro ⟨n, rfl⟩
    omega

/-- The levels that are used there belong to the two directions in turn. -/
theorem uses_alternate (n : Nat) :
    (Direction.even.Uses (43 + 2 * n) ↔ Even n) ∧ (Direction.odd.Uses (43 + 2 * n) ↔ Odd n) := by
  rw [uses_odd_iff, uses_even_iff, Nat.even_iff, Nat.odd_iff]
  omega

/-! ## The two checks -/

/-- A departure of which nothing is known but the level. -/
def Departure.atLevel (cruiseLevel : Int) : Departure :=
  ⟨{}, "", "", [], [], cruiseLevel, ⟨.unknown, "", 'J', 'L'⟩⟩

theorem answer_eq_ok_iff {c : Constraint} {d : Departure} {q : Requirement} :
    Requirement.answer c d q = .ok (q.remarks d) ↔ q.Met c d := by
  rw [Requirement.answer]
  split <;> simp [*]

theorem checkLevelBlock_eq_pass_iff (c : Constraint) (feet : Nat) :
    checkLevelBlock c feet = pass ↔
      (∀ lowest ∈ c.lowest, 100 * lowest ≤ feet) ∧ ∀ highest ∈ c.highest, feet / 100 ≤ highest := by
  have hlevel : (feet : Int).tdiv 100 = (feet / 100 : Nat) := rfl
  have hmet : checkLevelBlock c feet = pass ↔ Requirement.levelBlock.Met c (.atLevel feet) := by
    rw [← answer_eq_ok_iff, ← checkLevelBlock_eq]
    rfl
  rw [hmet, Requirement.Met, show (Departure.atLevel feet).cruiseLevel = feet from rfl, hlevel]
  refine and_congr (forall₂_congr fun lowest _ => ?_) (forall₂_congr fun highest _ => ?_)
  · omega
  · omega

theorem checkLevelParity_eq_pass_iff (c : Constraint) (feet : Nat) :
    checkLevelParity c feet = pass ↔ 1000 ∣ feet ∧ ∀ direction ∈ c.direction, direction.Uses (feet / 1000) := by
  have hlevel : (feet : Int).tdiv 1000 = (feet / 1000 : Nat) := rfl
  have hmet : checkLevelParity c feet = pass ↔ Requirement.levelParity.Met c (.atLevel feet) := by
    rw [← answer_eq_ok_iff, ← checkLevelParity_eq]
    rfl
  rw [hmet, Requirement.Met, show (Departure.atLevel feet).cruiseLevel = feet from rfl, hlevel]
  refine and_congr (by omega) (forall₂_congr fun direction _ => ?_)
  exact opens_iff_uses direction _

/-- A level passes for the direction instead of the one that the constraint has. -/
def Constraint.PassesFor (c : Constraint) (direction : Direction) (feet : Nat) : Prop :=
  checkLevelParity { c with direction := some direction } feet = pass

theorem passesFor_iff {c : Constraint} {direction : Direction} {feet : Nat} :
    c.PassesFor direction feet ↔ 1000 ∣ feet ∧ direction.Uses (feet / 1000) := by
  rw [Constraint.PassesFor, checkLevelParity_eq_pass_iff]
  simp

/-- A level passes both checks when it is a whole number of thousands of feet between the bounds of the constraint and
is used in its direction. No level passes for both directions, every whole thousand up to 41000 ft passes for exactly
one, and above every other thousand from 43000 ft on passes, for the two directions in turn. -/
theorem levels_pass_iff (c : Constraint) (feet : Nat) :
    (checkLevelBlock c feet = pass ∧ checkLevelParity c feet = pass ↔
        1000 ∣ feet ∧ (∀ lowest ∈ c.lowest, 100 * lowest ≤ feet) ∧ (∀ highest ∈ c.highest, feet ≤ 100 * highest) ∧
          ∀ direction ∈ c.direction, direction.Uses (feet / 1000)) ∧
      ¬(c.PassesFor .odd feet ∧ c.PassesFor .even feet) ∧
      (1000 ∣ feet → feet ≤ 41000 → Xor (c.PassesFor .odd feet) (c.PassesFor .even feet)) ∧
      (41000 < feet → (c.PassesFor .odd feet ∨ c.PassesFor .even feet ↔ ∃ n, feet = 43000 + 2000 * n)) ∧
      ∀ n, feet = 43000 + 2000 * n → (c.PassesFor .even feet ↔ Even n) ∧ (c.PassesFor .odd feet ↔ Odd n) := by
  refine ⟨?_, ?_, fun hwhole hlow => ?_, fun habove => ?_, ?_⟩
  · rw [checkLevelBlock_eq_pass_iff, checkLevelParity_eq_pass_iff]
    constructor
    · rintro ⟨⟨hlowest, hhighest⟩, hwhole, huses⟩
      -- only a whole number of hundreds lets the truncated level be compared in feet
      exact ⟨hwhole, hlowest, fun highest h => by have := hhighest highest h; omega, huses⟩
    · rintro ⟨hwhole, hlowest, hhighest, huses⟩
      exact ⟨⟨hlowest, fun highest h => by have := hhighest highest h; omega⟩, hwhole, huses⟩
  · rw [passesFor_iff, passesFor_iff]
    exact fun h => not_uses_both _ ⟨h.1.2, h.2.2⟩
  · rw [passesFor_iff, passesFor_iff]
    have hlevel : feet / 1000 ≤ 41 := by omega
    simpa only [hwhole, true_and] using uses_odd_or_even hlevel
  · rw [passesFor_iff, passesFor_iff, ← and_or_left]
    constructor
    · rintro ⟨hwhole, huses⟩
      obtain ⟨n, hn⟩ := (uses_above_iff (by omega)).1 huses
      exact ⟨n, by omega⟩
    · rintro ⟨n, rfl⟩
      exact ⟨by omega, (uses_above_iff (by omega)).2 ⟨n, by omega⟩⟩
  · rintro n rfl
    have hwhole : 1000 ∣ 43000 + 2000 * n := by omega
    have hlevel : (43000 + 2000 * n) / 1000 = 43 + 2 * n := by omega
    simpa only [passesFor_iff, hwhole, hlevel, true_and] using uses_alternate n

/-- Odd levels between two bounds, the upper one above the last thousand that has its neighbours. -/
def upperBand : Constraint where
  lowest := some 290
  highest := some 450
  direction := some .odd

/-- The upper bound itself passes, though 41 and not 43 is the odd level before it. -/
theorem levels_upperBand :
    (checkLevelBlock upperBand (45000 : Nat) = pass ∧ checkLevelParity upperBand (45000 : Nat) = pass) ∧
      ¬(checkLevelBlock upperBand (43000 : Nat) = pass ∧ checkLevelParity upperBand (43000 : Nat) = pass) ∧
      Xor (upperBand.PassesFor .odd 41000) (upperBand.PassesFor .even 41000) ∧
      (upperBand.PassesFor .odd 43000 ∨ upperBand.PassesFor .even 43000) ∧
      upperBand.PassesFor .even 43000 ∧ upperBand.PassesFor .odd 45000 := by
  have habove : ∃ n, 43000 = 43000 + 2000 * n := ⟨0, rfl⟩
  refine ⟨(levels_pass_iff upperBand 45000).1.2 ⟨by decide, by simp [upperBand], by simp [upperBand], ?_⟩, ?_,
    (levels_pass_iff upperBand 41000).2.2.1 (by decide) (by decide),
    ((levels_pass_iff upperBand 43000).2.2.2.1 (by decide)).2 habove,
    ((levels_pass_iff upperBand 43000).2.2.2.2 0 rfl).1.2 (by decide),
    ((levels_pass_iff upperBand 45000).2.2.2.2 1 rfl).2.2 (by decide)⟩
  · rintro _ ⟨⟩
    exact .inr ⟨0, rfl⟩
  · intro hpass
    have huses := ((levels_pass_iff upperBand 43000).1.1 hpass).2.2.2 .odd rfl
    exact absurd (uses_odd_iff.1 huses) (by decide)

end DepartureRules
