import Mathlib.Data.List.Nodup
import Mathlib.Data.List.Perm.Subperm
import TypeSchema.Classification

/-!
# Type graphs — the types that a graph knows

A graph knows a type iff it has a descriptor for it (`knows_iff_describe?`), iff the type is among
its `ids` (`mem_ids_iff`).  There are no more different known types than types (`length_le_size`).
-/

namespace TypeSchema.TypeGraph

theorem knows_iff {g : TypeGraph} {ty : TypeId} : g.knows ty ↔ ty.index < g.size := by
  simp [knows]

/-- The known types are the described ones. -/
theorem knows_iff_describe? {g : TypeGraph} {ty : TypeId} :
    g.knows ty ↔ ∃ d, g.describe? ty = some d := by
  rw [knows_iff, describe?, ← Option.isSome_iff_exists]
  simp [size]

theorem not_knows_iff {g : TypeGraph} {ty : TypeId} : ¬ g.knows ty ↔ g.describe? ty = none := by
  rw [knows_iff_describe?, not_exists, Option.eq_none_iff_forall_ne_some]

theorem mem_ids_iff {g : TypeGraph} {ty : TypeId} : ty ∈ g.ids ↔ g.knows ty := by
  rw [knows_iff]
  simp only [ids, List.mem_map, List.mem_range]
  exact ⟨fun ⟨i, hi, he⟩ => he ▸ hi, fun h => ⟨ty.index, h, rfl⟩⟩

theorem nodup_ids (g : TypeGraph) : g.ids.Nodup :=
  List.Nodup.map (fun _ _ h => TypeId.mk.inj h) List.nodup_range

theorem length_ids (g : TypeGraph) : g.ids.length = g.size := by simp [ids]

/-- There are no more different known types than types. -/
theorem length_le_size {g : TypeGraph} {tys : List TypeId} (nodup : tys.Nodup)
    (known : ∀ ty ∈ tys, g.knows ty) : tys.length ≤ g.size := by
  rw [← g.length_ids]
  exact (List.Nodup.subperm nodup fun ty hty => mem_ids_iff.2 (known ty hty)).length_le

/-! ### Changes of a descriptor -/

/-- A change of one type shows in its description alone. -/
theorem describe?_modify (g : TypeGraph) (ty : TypeId) (f : TypeDescriptor → TypeDescriptor)
    (ty' : TypeId) : (g.modify ty f).describe? ty' =
      if ty' = ty then (g.describe? ty).map f else g.describe? ty' := by
  simp only [describe?, modify, Array.getElem?_modify]
  by_cases h : ty' = ty
  · simp [h]
  · have : ty.index ≠ ty'.index := fun e => h (by cases ty; cases ty'; simp_all)
    simp [this, h]

@[simp] theorem size_modify (g : TypeGraph) (ty : TypeId) (f : TypeDescriptor → TypeDescriptor) :
    (g.modify ty f).size = g.size := by
  simp [modify, size]

/-! ### Classes -/

/-- Only a nullable shape is classified as nullable. -/
theorem classify_eq_nullable_iff {g : TypeGraph} {shape : Shape} {inner : TypeId} :
    g.classify shape = .nullable inner ↔ shape = .nullable inner := by
  cases shape with
  | nullable i => simp [classify]
  | scalar kind => simp [classify]
  | enumeration e => simp [classify]
  | pair key value => simp [classify]
  | array element =>
    simp only [classify]
    split
    · simp
    · split <;> simp
  | collection kind args =>
    simp only [classify]
    split <;> simp
  | object o =>
    simp only [classify]
    split <;> simp

/-- Only an enumeration is classified as one. -/
theorem classify_eq_enumeration_iff {g : TypeGraph} {shape : Shape} {e : Enumeration} :
    g.classify shape = .enumeration e ↔ shape = .enumeration e := by
  cases shape with
  | enumeration e' => simp [classify]
  | scalar kind => simp [classify]
  | nullable inner => simp [classify]
  | pair key value => simp [classify]
  | array element =>
    simp only [classify]
    split
    · simp
    · split <;> simp
  | collection kind args =>
    simp only [classify]
    split <;> simp
  | object o =>
    simp only [classify]
    split <;> simp

/-- What is expanded as an object with fields is an object. -/
theorem shape_of_classify_eq_object {g : TypeGraph} {shape : Shape} {o : ObjectShape}
    (h : g.classify shape = .object (some o)) : shape = .object o := by
  cases shape with
  | object o' =>
    simp only [classify] at h
    split at h
    · cases h
    · cases h
    · cases h; rfl
  | array element =>
    simp only [classify] at h
    split at h
    · cases h
    · split at h <;> cases h
  | collection kind args =>
    simp only [classify] at h
    split at h <;> cases h
  | scalar kind => cases h
  | nullable inner => cases h
  | enumeration e => cases h
  | pair key value => cases h

end TypeSchema.TypeGraph
