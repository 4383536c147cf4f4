/-!
# Aircraft types

The type designators that a flight plan may name, with the codes that type restrictions are written
against: the engine (`J`et, `T`urboprop, `P`iston, `E`lectric) and the kind of aircraft (`L`andplane,
`H`elicopter, `T`ilt-wing).

* `table` lists the types by rising designator;
* `lookup` finds one by binary search, `scan` by going through the table.
-/

namespace DepartureRules
set_option autoImplicit false

/-- A type designator and its codes. -/
structure AircraftType where
  designator : String
  engineType : Char
  aircraftType : Char
  deriving DecidableEq, Repr, Inhabited

namespace AircraftType

/-- The known types by rising designator. -/
def table : Array AircraftType := #[
    ⟨"A124", 'J', 'L'⟩, ⟨"A139", 'T', 'H'⟩, ⟨"A19N", 'J', 'L'⟩, ⟨"A20N", 'J', 'L'⟩,
    ⟨"A21N", 'J', 'L'⟩, ⟨"A306", 'J', 'L'⟩, ⟨"A310", 'J', 'L'⟩, ⟨"A318", 'J', 'L'⟩,
    ⟨"A319", 'J', 'L'⟩, ⟨"A320", 'J', 'L'⟩, ⟨"A321", 'J', 'L'⟩, ⟨"A332", 'J', 'L'⟩,
    ⟨"A333", 'J', 'L'⟩, ⟨"A338", 'J', 'L'⟩, ⟨"A339", 'J', 'L'⟩, ⟨"A342", 'J', 'L'⟩,
    ⟨"A343", 'J', 'L'⟩, ⟨"A345", 'J', 'L'⟩, ⟨"A346", 'J', 'L'⟩, ⟨"A359", 'J', 'L'⟩,
    ⟨"A35K", 'J', 'L'⟩, ⟨"A388", 'J', 'L'⟩, ⟨"AS50", 'T', 'H'⟩, ⟨"AT43", 'T', 'L'⟩,
    ⟨"AT45", 'T', 'L'⟩, ⟨"AT72", 'T', 'L'⟩, ⟨"AT75", 'T', 'L'⟩, ⟨"AT76", 'T', 'L'⟩,
    ⟨"B190", 'T', 'L'⟩, ⟨"B350", 'T', 'L'⟩, ⟨"B38M", 'J', 'L'⟩, ⟨"B39M", 'J', 'L'⟩,
    ⟨"B712", 'J', 'L'⟩, ⟨"B733", 'J', 'L'⟩, ⟨"B734", 'J', 'L'⟩, ⟨"B735", 'J', 'L'⟩,
    ⟨"B736", 'J', 'L'⟩, ⟨"B737", 'J', 'L'⟩, ⟨"B738", 'J', 'L'⟩, ⟨"B739", 'J', 'L'⟩,
    ⟨"B744", 'J', 'L'⟩, ⟨"B748", 'J', 'L'⟩, ⟨"B752", 'J', 'L'⟩, ⟨"B753", 'J', 'L'⟩,
    ⟨"B762", 'J', 'L'⟩, ⟨"B763", 'J', 'L'⟩, ⟨"B764", 'J', 'L'⟩, ⟨"B772", 'J', 'L'⟩,
    ⟨"B77L", 'J', 'L'⟩, ⟨"B77W", 'J', 'L'⟩, ⟨"B788", 'J', 'L'⟩, ⟨"B789", 'J', 'L'⟩,
    ⟨"B78X", 'J', 'L'⟩, ⟨"BCS1", 'J', 'L'⟩, ⟨"BCS3", 'J', 'L'⟩, ⟨"BE20", 'T', 'L'⟩,
    ⟨"BE36", 'P', 'L'⟩, ⟨"BE58", 'P', 'L'⟩, ⟨"C130", 'T', 'L'⟩, ⟨"C152", 'P', 'L'⟩,
    ⟨"C172", 'P', 'L'⟩, ⟨"C182", 'P', 'L'⟩, ⟨"C208", 'T', 'L'⟩, ⟨"C25A", 'J', 'L'⟩,
    ⟨"C25B", 'J', 'L'⟩, ⟨"C510", 'J', 'L'⟩, ⟨"C525", 'J', 'L'⟩, ⟨"C56X", 'J', 'L'⟩,
    ⟨"C68A", 'J', 'L'⟩, ⟨"C700", 'J', 'L'⟩, ⟨"CL35", 'J', 'L'⟩, ⟨"CL60", 'J', 'L'⟩,
    ⟨"CRJ2", 'J', 'L'⟩, ⟨"CRJ7", 'J', 'L'⟩, ⟨"CRJ9", 'J', 'L'⟩, ⟨"CRJX", 'J', 'L'⟩,
    ⟨"DA40", 'P', 'L'⟩, ⟨"DA42", 'P', 'L'⟩, ⟨"DH8A", 'T', 'L'⟩, ⟨"DH8B", 'T', 'L'⟩,
    ⟨"DH8C", 'T', 'L'⟩, ⟨"DH8D", 'T', 'L'⟩, ⟨"DHC6", 'T', 'L'⟩, ⟨"E135", 'J', 'L'⟩,
    ⟨"E145", 'J', 'L'⟩, ⟨"E170", 'J', 'L'⟩, ⟨"E175", 'J', 'L'⟩, ⟨"E190", 'J', 'L'⟩,
    ⟨"E195", 'J', 'L'⟩, ⟨"E290", 'J', 'L'⟩, ⟨"E295", 'J', 'L'⟩, ⟨"E35L", 'J', 'L'⟩,
    ⟨"E545", 'J', 'L'⟩, ⟨"E550", 'J', 'L'⟩, ⟨"E55P", 'J', 'L'⟩, ⟨"EC35", 'T', 'H'⟩,
    ⟨"EC45", 'T', 'H'⟩, ⟨"F2TH", 'J', 'L'⟩, ⟨"F900", 'J', 'L'⟩, ⟨"FA7X", 'J', 'L'⟩,
    ⟨"FA8X", 'J', 'L'⟩, ⟨"G280", 'J', 'L'⟩, ⟨"GL5T", 'J', 'L'⟩, ⟨"GL7T", 'J', 'L'⟩,
    ⟨"GLEX", 'J', 'L'⟩, ⟨"GLF4", 'J', 'L'⟩, ⟨"GLF5", 'J', 'L'⟩, ⟨"GLF6", 'J', 'L'⟩,
    ⟨"H25B", 'J', 'L'⟩, ⟨"JS41", 'T', 'L'⟩, ⟨"LJ45", 'J', 'L'⟩, ⟨"LJ75", 'J', 'L'⟩,
    ⟨"P28A", 'P', 'L'⟩, ⟨"P28R", 'P', 'L'⟩, ⟨"P46T", 'T', 'L'⟩, ⟨"PA28", 'P', 'L'⟩,
    ⟨"PA31", 'P', 'L'⟩, ⟨"PA34", 'P', 'L'⟩, ⟨"PA46", 'P', 'L'⟩, ⟨"PC12", 'T', 'L'⟩,
    ⟨"PC24", 'J', 'L'⟩, ⟨"R44", 'P', 'H'⟩, ⟨"SF34", 'T', 'L'⟩, ⟨"SR20", 'P', 'L'⟩,
    ⟨"SR22", 'P', 'L'⟩, ⟨"SW4", 'T', 'L'⟩, ⟨"TBM7", 'T', 'L'⟩, ⟨"TBM8", 'T', 'L'⟩,
    ⟨"TBM9", 'T', 'L'⟩, ⟨"V22", 'T', 'T'⟩, ⟨"VELI", 'E', 'L'⟩
  ]

/-- Looks for a designator among the entries from `low` up to, but not including, `high`. -/
def search (entries : Array AircraftType) (designator : String) (low high : Nat)
    (hhigh : high ≤ entries.size) : Option AircraftType :=
  if hlow : low < high then
    let middle := low + (high - low) / 2
    let entry := entries[middle]
    if entry.designator = designator then some entry
    else if entry.designator < designator then search entries designator (middle + 1) high hhigh
    else search entries designator low middle (by omega)
  else none
termination_by high - low

/-- The type of a designator. -/
def lookup (designator : String) : Option AircraftType :=
  search table designator 0 table.size (Nat.le_refl _)

/-- The first entry of a designator. -/
def scan (designator : String) : Option AircraftType :=
  table.find? fun entry => entry.designator == designator

/-- What is found has the designator that was looked for. -/
theorem designator_of_search {entries : Array AircraftType} {designator : String} {low high : Nat}
    {hhigh : high ≤ entries.size} {entry : AircraftType}
    (h : search entries designator low high hhigh = some entry) : entry.designator = designator := by
  fun_induction search entries designator low high hhigh with
  | case1 low high hhigh hlow middle found heq =>
    rw [← Option.some.inj h]
    exact heq
  | case2 low high hhigh hlow middle found hne hlt ih => exact ih h
  | case3 low high hhigh hlow middle found hne hlt ih => exact ih h
  | case4 => simp at h

end AircraftType

end DepartureRules
