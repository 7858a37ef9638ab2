/-!
# `AppMetadata.Table`: values by name, in order of first mention

A table keeps its names in the order in which they were first entered; a
value entered later under a known name takes the place of the old one.

The main statements are `lookup_put_self` and `lookup_put_of_ne`.
-/

set_option autoImplicit false

namespace AppMetadata

/-- Values by name. -/
abbrev Table (α : Type) := List (String × α)

namespace Table

variable {α : Type}

/-- Enters `value` under `name`. -/
def put (name : String) (value : α) : Table α → Table α
  | [] => [(name, value)]
  | (known, old) :: entries =>
    if known = name then (name, value) :: entries else (known, old) :: put name value entries

/-- The values in order. -/
def values (table : Table α) : List α :=
  table.map (·.2)

/-- The names in order. -/
def names (table : Table α) : List String :=
  table.map (·.1)

/-- What is entered under a name is found under it. -/
theorem lookup_put_self (name : String) (value : α) (table : Table α) :
    (put name value table).lookup name = some value := by
  induction table with
  | nil => simp [put]
  | cons entry entries ih =>
    obtain ⟨known, old⟩ := entry
    unfold put
    split
    · simp
    · next h =>
      have h' : (name == known) = false := by simpa using fun e : name = known => h e.symm
      simp [List.lookup_cons, h', ih]

/-- The other names keep their values. -/
theorem lookup_put_of_ne {name other : String} (h : other ≠ name) (value : α)
    (table : Table α) : (put name value table).lookup other = table.lookup other := by
  induction table with
  | nil =>
    have h' : (other == name) = false := by simpa using h
    simp [put, List.lookup_cons, h']
  | cons entry entries ih =>
    obtain ⟨known, old⟩ := entry
    unfold put
    split
    · next hk =>
      have h' : (other == name) = false := by simpa using h
      subst hk
      simp [List.lookup_cons, h']
    · simp [List.lookup_cons, ih]

end Table

end AppMetadata
