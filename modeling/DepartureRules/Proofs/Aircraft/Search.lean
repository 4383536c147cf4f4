import Mathlib.Data.String.Basic
import DepartureRules.Aircraft

/-!
# Finding aircraft types

Binary search finds what is listed and nothing else, as the designators of the table rise.

* `Rising`: each designator comes before those of the later entries, in the order of their characters;
* `Rising.lt_iff` and `Rising.eq_iff`: so designators compare as the positions of their entries do;
* `search_of_rising`: an entry between the bounds of a search is found by its designator;
* `lookup_eq_some_iff` and `scan_eq_some_iff`: binary search and the walk through the table find the listed entry;
* `lookup_exact` puts this together.
-/

namespace DepartureRules.AircraftType
set_option autoImplicit false

variable {entries : Array AircraftType} {designator : String} {entry : AircraftType}

/-! ## Tables of rising designators -/

/-- The designators of the entries rise. -/
def Rising (entries : Array AircraftType) : Prop :=
  entries.toList.Pairwise fun earlier later => earlier.designator < later.designator

theorem Rising.lt_iff (h : Rising entries) {i j : Nat} (hi : i < entries.size) (hj : j < entries.size) :
    entries[i].designator < entries[j].designator ↔ i < j := by
  have hlt {i j : Nat} (hj : j < entries.size) (hij : i < j) : entries[i].designator < entries[j].designator :=
    List.pairwise_iff_getElem.1 h i j (hij.trans hj) hj hij
  refine ⟨fun hless => ?_, hlt hj⟩
  rcases Nat.lt_trichotomy i j with hij | rfl | hji
  · exact hij
  · exact absurd hless (lt_irrefl _)
  · exact absurd hless (hlt hi hji).asymm

theorem Rising.eq_iff (h : Rising entries) {i j : Nat} (hi : i < entries.size) (hj : j < entries.size) :
    entries[i].designator = entries[j].designator ↔ i = j := by
  refine ⟨fun heq => ?_, fun hij => by subst hij; rfl⟩
  have hij : ¬i < j := fun hij => ((h.lt_iff hi hj).2 hij).ne heq
  have hji : ¬j < i := fun hji => ((h.lt_iff hj hi).2 hji).ne heq.symm
  omega

/-- It is enough to compare neighbours. -/
theorem rising_of_isChain
    (h : entries.toList.IsChain fun earlier later => earlier.designator < later.designator) : Rising entries := by
  have htrans : IsTrans AircraftType fun earlier later => earlier.designator < later.designator :=
    ⟨fun _ _ _ => lt_trans⟩
  exact List.isChain_iff_pairwise.1 h

theorem rising_table : Rising table :=
  rising_of_isChain (by decide +kernel)

/-! ## Binary search -/

theorem mem_of_search {low high : Nat} {hhigh : high ≤ entries.size}
    (h : search entries designator low high hhigh = some entry) : entry ∈ entries := by
  fun_induction search entries designator low high hhigh with
  | case1 low high hhigh hlow middle found heq =>
    rw [← Option.some.inj h]
    exact Array.getElem_mem _
  | case2 low high hhigh hlow middle found hne hlt ih => exact ih h
  | case3 low high hhigh hlow middle found hne hlt ih => exact ih h
  | case4 => cases h

/-- An entry between the bounds is found. The order of the designators tells in which half of the table it lies. -/
theorem search_of_rising (h : Rising entries) {low high i : Nat} {hhigh : high ≤ entries.size} (hlow : low ≤ i)
    (hi : i < high) (hd : entries[i].designator = designator) :
    search entries designator low high hhigh = some entries[i] := by
  fun_induction search entries designator low high hhigh with
  | case1 low high hhigh hbounds middle found heq =>
    obtain rfl : middle = i := (h.eq_iff (by omega) (by omega)).1 (heq.trans hd.symm)
    rfl
  | case2 low high hhigh hbounds middle found hne hsmaller ih =>
    have hbehind : middle < i := (h.lt_iff (by omega) (by omega)).1 (hd ▸ hsmaller)
    exact ih hbehind hi hd
  | case3 low high hhigh hbounds middle found hne hnot ih =>
    have hother : middle ≠ i := fun heq => hne (((h.eq_iff (by omega) (by omega)).2 heq).trans hd)
    have hupto : ¬middle < i := fun hlt => hnot (hd ▸ (h.lt_iff (by omega) (by omega)).2 hlt)
    have hbefore : i < middle := by omega
    exact ih hlow hbefore hd
  | case4 low high hhigh hnone => exact absurd (hlow.trans_lt hi) hnone

/-! ## The table -/

theorem lookup_eq_some_iff : lookup designator = some entry ↔ entry ∈ table ∧ entry.designator = designator := by
  constructor
  · intro h
    exact ⟨mem_of_search h, designator_of_search h⟩
  · rintro ⟨hmem, hd⟩
    obtain ⟨i, hi, rfl⟩ := Array.mem_iff_getElem.1 hmem
    exact search_of_rising rising_table (Nat.zero_le i) hi hd

/-- A designator is listed once, so the first entry that has it is the only one. -/
theorem scan_eq_some_iff : scan designator = some entry ↔ entry ∈ table ∧ entry.designator = designator := by
  have hfound {e : AircraftType} (h : scan designator = some e) : e ∈ table ∧ e.designator = designator := by
    have hfits := Array.find?_some h
    exact ⟨Array.mem_of_find?_eq_some h, beq_iff_eq.1 hfits⟩
  refine ⟨hfound, fun ⟨hmem, hd⟩ => ?_⟩
  cases hscan : scan designator with
  | none =>
    have hnone : ∀ e ∈ table, ¬(e.designator == designator) = true := Array.find?_eq_none.1 hscan
    exact absurd (beq_iff_eq.2 hd) (hnone entry hmem)
  | some first =>
    have hlookup : lookup designator = some first := lookup_eq_some_iff.2 (hfound hscan)
    rw [← hlookup]
    exact lookup_eq_some_iff.2 ⟨hmem, hd⟩

/-- Binary search in the table finds what a walk through it finds. For every text this is the entry with exactly this
designator, if there is one. -/
theorem lookup_exact (designator : String) :
    lookup designator = scan designator ∧
      (∀ entry, lookup designator = some entry ↔ entry ∈ table ∧ entry.designator = designator) ∧
      ((lookup designator).isSome ↔ ∃ entry ∈ table, entry.designator = designator) := by
  refine ⟨Option.ext fun entry => ?_, fun entry => lookup_eq_some_iff, ?_⟩
  · rw [lookup_eq_some_iff, scan_eq_some_iff]
  · simp only [Option.isSome_iff_exists, lookup_eq_some_iff]

end DepartureRules.AircraftType
