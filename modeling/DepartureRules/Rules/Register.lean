/-!
# Registers

A register keeps values under names, one value under a name, in the order in which the names were first
entered. `get?_set` says what a look-up finds after an entry, and `mem_names_set` which names there are.
-/

namespace DepartureRules
set_option autoImplicit false

/-- Values under names. -/
structure Register (α : Type) where
  entries : List (String × α)
  deriving Repr, Inhabited

namespace Register
variable {α β : Type}

/-- The register without values. -/
def empty : Register α :=
  ⟨[]⟩

/-- The value of the first entry under a name. -/
def find (name : String) : List (String × α) → Option α
  | [] => none
  | (key, value) :: entries => if key = name then some value else find name entries

/-- The entries with a value put under a name, in the place of the value there or at the end. -/
def put (name : String) (value : α) : List (String × α) → List (String × α)
  | [] => [(name, value)]
  | (key, old) :: entries =>
    if key = name then (name, value) :: entries else (key, old) :: put name value entries

/-- The value under a name. -/
def get? (r : Register α) (name : String) : Option α :=
  find name r.entries

/-- The register with a value put under a name. -/
def set (r : Register α) (name : String) (value : α) : Register α :=
  ⟨put name value r.entries⟩

/-- The names in use. -/
def names (r : Register α) : List String :=
  r.entries.map (·.1)

/-- There is a value under the name. -/
def contains (r : Register α) (name : String) : Bool :=
  (r.get? name).isSome

/-- The register with all values of another one put under their names. -/
def overlay (r new : Register α) : Register α :=
  new.entries.foldl (fun r entry => r.set entry.1 entry.2) r

/-! ## Look-ups -/

theorem find_put (name key : String) (value : α) (entries : List (String × α)) :
    find key (put name value entries) = if name = key then some value else find key entries := by
  induction entries with
  | nil => simp [put, find]
  | cons entry entries ih =>
    obtain ⟨other, old⟩ := entry
    simp only [put]
    split
    · rename_i h
      subst h
      simp only [find]
      split <;> rfl
    · rename_i h
      simp only [find, ih]
      split
      · rename_i hkey
        split
        · rename_i hname
          exact absurd (hkey.trans hname.symm) h
        · rfl
      · rfl

theorem get?_set (r : Register α) (name key : String) (value : α) :
    (r.set name value).get? key = if name = key then some value else r.get? key :=
  find_put name key value r.entries

theorem mem_map_put (name key : String) (value : α) (entries : List (String × α)) :
    key ∈ (put name value entries).map (·.1) ↔ key = name ∨ key ∈ entries.map (·.1) := by
  induction entries with
  | nil => simp [put]
  | cons entry entries ih =>
    obtain ⟨other, old⟩ := entry
    simp only [put]
    split
    · rename_i h
      subst h
      simp
    · simp only [List.map_cons, List.mem_cons, ih]
      exact or_left_comm

theorem mem_names_set (r : Register α) (name key : String) (value : α) :
    key ∈ (r.set name value).names ↔ key = name ∨ key ∈ r.names :=
  mem_map_put name key value r.entries

theorem isSome_find_iff (name : String) (entries : List (String × α)) :
    (find name entries).isSome = true ↔ name ∈ entries.map (·.1) := by
  induction entries with
  | nil => simp [find]
  | cons entry entries ih =>
    obtain ⟨key, value⟩ := entry
    simp only [find, List.map_cons, List.mem_cons]
    split
    · rename_i h
      simp [h]
    · rename_i h
      rw [ih]
      exact ⟨Or.inr, fun hm => hm.resolve_left fun e => h e.symm⟩

theorem contains_iff (r : Register α) (name : String) :
    r.contains name = true ↔ name ∈ r.names :=
  isSome_find_iff name r.entries

end Register

end DepartureRules
