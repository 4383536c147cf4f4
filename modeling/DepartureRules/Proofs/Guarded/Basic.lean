import DepartureRules.FlightPlan.Message

/-!
# Operations that may have no result

Texts are cut at bytes, rows are looked at by position and numbers have a width. Where such an operation has no result
it gives a fault. The functions of this directory do what those of the same names do elsewhere with operations of this
kind, and are proved to give the same results and no fault.

* `Guarded.Fault` and `Guarded α`, a fault or a result;
* `behind` cuts a text, `item` and `write` work on a row, `unsigned`, `signed32`, `quotient` and `remainder` on numbers;
* `behind_append`, `signed32_eq` and so on say when there is a result.
-/

namespace DepartureRules
set_option autoImplicit false

/-- Why an operation has no result. -/
inductive Guarded.Fault
  /-- A text is cut inside a character or behind its end. -/
  | cut
  /-- There is nothing at a position. -/
  | position
  /-- A number does not fit its width. -/
  | width
  | zeroDivisor
  deriving DecidableEq, Repr, Inhabited

abbrev Guarded (α : Type) : Type :=
  Except Guarded.Fault α

namespace Guarded
variable {α β : Type}

@[simp] theorem ok_bind {ε : Type} (a : α) (next : α → Except ε β) : (Except.ok a >>= next) = next a := rfl

@[simp] theorem pure_eq_ok (a : α) : (pure a : Guarded α) = .ok a := rfl

/-! ## Texts -/

def byteLength : List Char → Nat
  | [] => 0
  | c :: s => c.utf8Size + byteLength s

/-- The text behind a number of bytes. -/
def behind (s : List Char) (bytes : Nat) : Guarded (List Char) :=
  match cutBytes bytes s with
  | some (_, rest) => .ok rest
  | none => .error .cut

theorem cutBytes_append (head rest : List Char) : cutBytes (byteLength head) (head ++ rest) = some (head, rest) := by
  induction head with
  | nil =>
    cases rest <;> simp [byteLength, cutBytes]
  | cons c head ih =>
    have hpos := c.utf8Size_pos
    obtain ⟨n, hn⟩ : ∃ n, byteLength (c :: head) = n + 1 := by
      refine ⟨byteLength (c :: head) - 1, ?_⟩
      simp only [byteLength]
      omega
    have hrest : n + 1 - c.utf8Size = byteLength head := by
      rw [← hn]
      simp [byteLength]
    have hle : c.utf8Size ≤ n + 1 := by
      rw [← hn]
      simp [byteLength]
    rw [hn, List.cons_append, cutBytes, if_pos hle, hrest, ih]
    rfl

/-- A text may be cut where one of its parts ends. -/
theorem behind_append (head rest : List Char) : behind (head ++ rest) (byteLength head) = .ok rest := by
  rw [behind, cutBytes_append]

/-! ## Rows -/

/-- What is at a position. -/
def item (items : List α) (n : Nat) : Guarded α :=
  match items[n]? with
  | some a => .ok a
  | none => .error .position

/-- The row with something else at a position. -/
def write (items : List α) (n : Nat) (a : α) : Guarded (List α) :=
  if n < items.length then .ok (items.set n a) else .error .position

@[simp] theorem item_zero (a : α) (items : List α) : item (a :: items) 0 = .ok a := rfl

@[simp] theorem item_one (a b : α) (items : List α) : item (a :: b :: items) 1 = .ok b := rfl

theorem anyM_ok {p : α → Guarded Bool} {q : α → Bool} {items : List α} (h : ∀ a ∈ items, p a = .ok (q a)) :
    items.anyM p = .ok (items.any q) := by
  induction items with
  | nil => rfl
  | cons a items ih =>
    rw [List.forall_mem_cons] at h
    rw [List.anyM, h.1, ok_bind, List.any_cons, ih h.2]
    cases q a <;> rfl

theorem findM?_ok {p : α → Guarded Bool} {q : α → Bool} {items : List α} (h : ∀ a ∈ items, p a = .ok (q a)) :
    items.findM? p = .ok (items.find? q) := by
  induction items with
  | nil => rfl
  | cons a items ih =>
    rw [List.forall_mem_cons] at h
    rw [List.findM?, h.1, ok_bind, List.find?_cons, ih h.2]
    cases q a <;> rfl

theorem mapM_ok {f : α → Guarded β} {g : α → β} {items : List α} (h : ∀ a ∈ items, f a = .ok (g a)) :
    items.mapM f = .ok (items.map g) := by
  induction items with
  | nil => rfl
  | cons a items ih =>
    rw [List.forall_mem_cons] at h
    rw [List.mapM_cons, h.1, ok_bind, ih h.2, ok_bind]
    rfl

/-! ## Numbers -/

/-- A number without a sign. The limit is 256 for one byte and 65536 for two. -/
def unsigned (limit n : Nat) : Guarded Nat :=
  if n < limit then .ok n else .error .width

/-- The number fits 32 bits with a sign. -/
def Fits32 (n : Int) : Prop :=
  -2147483648 ≤ n ∧ n ≤ 2147483647

instance (n : Int) : Decidable (Fits32 n) :=
  inferInstanceAs (Decidable (_ ∧ _))

def signed32 (n : Int) : Guarded Int :=
  if Fits32 n then .ok n else .error .width

def quotient (a b : Int) : Guarded Int :=
  if b = 0 then .error .zeroDivisor else signed32 (a.tdiv b)

/-- The remainder is found with the quotient. -/
def remainder (a b : Int) : Guarded Int := do
  let _ ← quotient a b
  return a.tmod b

theorem unsigned_eq {limit n : Nat} (h : n < limit) : unsigned limit n = .ok n :=
  if_pos h

theorem signed32_eq {n : Int} (h : Fits32 n) : signed32 n = .ok n :=
  if_pos h

theorem fits32_tdiv {a b : Int} (ha : Fits32 a) (hb : 0 < b) : Fits32 (a.tdiv b) := by
  unfold Fits32 at ha ⊢
  have habs := Int.natAbs_tdiv_le_natAbs a b
  rcases Int.le_total 0 a with hsign | hsign
  · have hnonneg := Int.tdiv_nonneg hsign (Int.le_of_lt hb)
    omega
  · have hneg : a.tdiv b = -((-a).tdiv b) := by
      rw [Int.neg_tdiv, Int.neg_neg]
    have hnonneg := Int.tdiv_nonneg (Int.neg_nonneg_of_nonpos hsign) (Int.le_of_lt hb)
    omega

/-- Division by a positive number keeps the width. -/
theorem quotient_eq {a b : Int} (ha : Fits32 a) (hb : 0 < b) : quotient a b = .ok (a.tdiv b) := by
  have hb' : b ≠ 0 := by omega
  rw [quotient, if_neg hb', signed32_eq (fits32_tdiv ha hb)]

theorem remainder_eq {a b : Int} (ha : Fits32 a) (hb : 0 < b) : remainder a b = .ok (a.tmod b) := by
  rw [remainder, quotient_eq ha hb]
  rfl

end Guarded

end DepartureRules
