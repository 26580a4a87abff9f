import ApiBindings.Registry.Basic
import Mathlib.Data.List.Basic

/-!
# Tables of names

Next to its collections a registry may have tables: one for each collection, which leads from a name to the
position of its entity, and one for the base types, which leads from a name to its scalar.  They differ where
something is named twice.  A table of positions keeps the first position of a name (`namePositions`), and the
table of base types keeps the last scalar (`Registry.baseTypeTable`).

The look-ups of `ApiBindings.Registry` search the collections themselves, and find what they would find through
the tables of positions (`find?_eq_bind_namePositions`).
-/

namespace ApiBindings

set_option autoImplicit false

/-- The positions of the names of a list; of a name that stands twice, the first. -/
def namePositions (names : List String) : Std.HashMap String Nat :=
  names.zipIdx.foldl (fun table entry => table.insertIfNew entry.1 entry.2) ∅

/-- The base types with their scalars; of a name that stands twice, the last. -/
def Registry.baseTypeTable (registry : Registry) : Std.HashMap String String :=
  Std.HashMap.ofList (registry.baseTypes.map fun row => (row.name, row.target))

/-- Entries that give way to earlier ones are found where there is no earlier one. -/
theorem getElem?_foldl_insertIfNew {β : Type} (entries : List (String × β))
    (table : Std.HashMap String β) (name : String) :
    (entries.foldl (fun table entry => table.insertIfNew entry.1 entry.2) table)[name]? =
      table[name]?.or (entries.lookup name) := by
  induction entries generalizing table with
  | nil => simp
  | cons entry entries ih =>
      obtain ⟨key, value⟩ := entry
      rw [List.foldl_cons, ih, Std.HashMap.getElem?_insertIfNew, List.lookup_cons]
      by_cases same : key = name
      · subst same
        by_cases known : key ∈ table <;> simp [known]
      · have missed : (key == name) = false := beq_false_of_ne same
        have missed' : (name == key) = false := beq_false_of_ne (Ne.symm same)
        simp [missed, missed']

theorem lookup_zipIdx (names : List String) (start : Nat) (name : String) :
    (names.zipIdx start).lookup name = (names.findIdx? (· == name)).map (· + start) := by
  induction names generalizing start with
  | nil => rfl
  | cons first names ih =>
      rw [List.zipIdx_cons, List.lookup_cons, List.findIdx?_cons]
      by_cases same : name = first
      · simp [same]
      · have missed : (name == first) = false := beq_false_of_ne same
        have missed' : (first == name) = false := beq_false_of_ne (Ne.symm same)
        rw [missed, missed', ih]
        simp [Function.comp_def, Nat.add_comm, Nat.add_left_comm]

theorem getElem?_namePositions (names : List String) (name : String) :
    (namePositions names)[name]? = names.findIdx? (· == name) := by
  rw [namePositions, getElem?_foldl_insertIfNew, lookup_zipIdx]
  simp

/-- **Searching a list by name finds what stands at the position that the table gives.** -/
theorem find?_eq_bind_namePositions {ε : Type} (nameOf : ε → String) (entities : List ε)
    (name : String) : entities.find? (nameOf · == name) =
      (namePositions (entities.map nameOf))[name]?.bind fun position => entities[position]? := by
  rw [getElem?_namePositions, List.findIdx?_map, List.find?_eq_bind_findIdx?_getElem?]
  rfl

end ApiBindings
