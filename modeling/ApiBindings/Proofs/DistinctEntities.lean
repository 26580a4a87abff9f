import ApiBindings.Proofs.ExactRegistry

/-!
# Names inside a built registry

What a document must be like is said of its rows; what is emitted is made from entities.  The entities of a
well-formed document have distinct names in their collection, and so have the values, the members and the
parameters of one entity (`Registry.Distinct`).
-/

namespace ApiBindings

set_option autoImplicit false

/-- A registry whose names can be told apart, in each of its collections and inside each of its entities. -/
structure Registry.Distinct (registry : Registry) : Prop where
  constants : (registry.constants.map (·.name)).Nodup
  enums : (registry.enums.map (·.name)).Nodup
  structs : (registry.structs.map (·.name)).Nodup
  unions : (registry.unions.map (·.name)).Nodup
  handles : (registry.handles.map (·.name)).Nodup
  funcPointers : (registry.funcPointers.map (·.name)).Nodup
  commands : (registry.commands.map (·.name)).Nodup
  values : ∀ enumeration ∈ registry.enums, (enumeration.values.map (·.name)).Nodup
  members : ∀ aggregate ∈ registry.structs ++ registry.unions, (aggregate.members.map (·.name)).Nodup
  /-- A member has one element at least. -/
  counts : ∀ aggregate ∈ registry.structs ++ registry.unions, ∀ m ∈ aggregate.members, 1 ≤ m.count
  pointerParams : ∀ pointer ∈ registry.funcPointers, (pointer.params.map (·.name)).Nodup
  commandParams : ∀ command ∈ registry.commands, (command.params.map (·.name)).Nodup

theorem AggregateRow.map_name_entity (row : AggregateRow) :
    row.entity.members.map (·.name) = row.members.map (·.name) := by
  rw [entity, List.map_map]
  rfl

theorem AggregateRow.one_le_count (row : AggregateRow) : ∀ m ∈ row.entity.members, 1 ≤ m.count := by
  intro m mem
  obtain ⟨row, -, rfl⟩ := List.mem_map.mp mem
  exact Nat.le_max_left 1 row.count.toNat

namespace Document

variable {document : Document}

theorem exists_row_of_mem_aggregates {aggregate : Aggregate}
    (mem : aggregate ∈ document.registry.structs ++ document.registry.unions) :
    ∃ row ∈ document.structs ++ document.unions, row.entity = aggregate := by
  rwa [registry, ← List.map_append, List.mem_map] at mem

theorem WellFormed.distinct (sound : document.WellFormed) : document.registry.Distinct where
  constants := sound.exactLookups.constants.named ▸ (sound.names .constants).distinct
  enums := sound.exactLookups.enums.named ▸ (sound.names .enums).distinct
  structs := sound.exactLookups.structs.named ▸ (sound.names .structs).distinct
  unions := sound.exactLookups.unions.named ▸ (sound.names .unions).distinct
  handles := sound.exactLookups.handles.named ▸ (sound.names .handles).distinct
  funcPointers := sound.exactLookups.funcPointers.named ▸ (sound.names .funcPointers).distinct
  commands := sound.exactLookups.commands.named ▸ (sound.names .commands).distinct
  values := by
    intro enumeration mem
    obtain ⟨row, rowMem, rfl⟩ := List.mem_map.mp mem
    exact (sound.rows.enumerants row rowMem).distinct
  members := by
    intro aggregate mem
    obtain ⟨row, rowMem, rfl⟩ := exists_row_of_mem_aggregates mem
    rw [row.map_name_entity]
    exact (sound.rows.members row rowMem).distinct
  counts := by
    intro aggregate mem
    obtain ⟨row, -, rfl⟩ := exists_row_of_mem_aggregates mem
    exact row.one_le_count
  pointerParams := by
    intro pointer mem
    obtain ⟨row, rowMem, rfl⟩ := List.mem_map.mp mem
    exact (sound.rows.params row (List.mem_append_left _ rowMem)).distinct
  commandParams := by
    intro command mem
    obtain ⟨row, rowMem, rfl⟩ := List.mem_map.mp mem
    exact (sound.rows.params row (List.mem_append_right _ rowMem)).distinct

/-- The registry of a build has distinct names. -/
theorem distinct_of_build {registry : Registry} (built : document.build = .ok registry) :
    registry.Distinct := by
  obtain ⟨sound, rfl⟩ := build_eq_ok_iff.mp built
  exact sound.distinct

end Document

end ApiBindings
