import TypeSchema.Proofs.Graph.Known
import TypeSchema.Proofs.Registry

/-!
# Type graphs — the index of identities

A graph keeps its types twice: the descriptors by number, and the numbers by identity.  `g.Indexed`
says that the two are inverse to each other.  Adding a type enters its identity (`find?_add`), and a
change of a descriptor leaves what is entered (`find?_modify`); so a graph stays indexed if the
identity that is added is new, as interning sees to (`Indexed.intern`), and if the change keeps the
identity (`Indexed.modify`).

What is found in an indexed graph is what has the identity, so no two types have the same one.
-/

namespace TypeSchema.TypeGraph

variable {g : TypeGraph}

/-! ### What is added and what is changed -/

theorem describe?_add (g : TypeGraph) (d : TypeDescriptor) (ty : TypeId) :
    (g.add d).describe? ty = if ty.index = g.size then some d else g.describe? ty :=
  Array.getElem?_push

@[simp] theorem size_add (g : TypeGraph) (d : TypeDescriptor) : (g.add d).size = g.size + 1 := by
  simp [add, size]

/-- The index finds a new type at once, in place of an older one of its identity. -/
@[simp] theorem find?_add (g : TypeGraph) (d : TypeDescriptor) (i : String) :
    (g.add d).find? i = if i = d.identity then some ⟨g.size⟩ else g.find? i :=
  SortedMap.get?_insert ..

/-- **Interning enters one identity**: the one that is asked for, under the type that is given. -/
theorem find?_intern (g : TypeGraph) (d : TypeDescriptor) (i : String) :
    (g.intern d).2.find? i = if i = d.identity then some (g.intern d).1 else g.find? i := by
  unfold TypeGraph.intern
  cases found : g.find? d.identity with
  | some ty =>
    by_cases same : i = d.identity
    · simp [same, found]
    · simp [same]
  | none => exact find?_add g d i

/-- A change of a descriptor leaves what is entered. -/
@[simp] theorem find?_modify (g : TypeGraph) (ty : TypeId) (f : TypeDescriptor → TypeDescriptor)
    (i : String) : (g.modify ty f).find? i = g.find? i := rfl

/-- A change of a descriptor that keeps the identity changes no identity. -/
theorem identity?_modify {f : TypeDescriptor → TypeDescriptor}
    (identity : ∀ d, (f d).identity = d.identity) (ty ty' : TypeId) :
    (g.modify ty f).identity? ty' = g.identity? ty' := by
  simp only [TypeGraph.identity?, describe?_modify]
  split
  · next same => simp [same, Function.comp_def, identity]
  · rfl

/-- A type that is described after interning was there, or is the one that is new. -/
theorem describe?_intern (g : TypeGraph) (d : TypeDescriptor) (ty : TypeId) :
    (g.intern d).2.describe? ty = g.describe? ty ∨
      g.describe? ty = none ∧ (g.intern d).1 = ty ∧ (g.intern d).2.describe? ty = some d := by
  unfold TypeGraph.intern
  cases g.find? d.identity with
  | some ty' => exact .inl rfl
  | none =>
    simp only [describe?_add]
    by_cases new : ty.index = g.size
    · have unknown : g.describe? ty = none :=
        not_knows_iff.1 fun known => Nat.ne_of_lt (knows_iff.1 known) new
      exact .inr ⟨unknown, by rw [← new], if_pos new⟩
    · exact .inl (if_neg new)

/-! ### Indexed graphs -/

/-- What is entered under an identity is the type that has it: identities and types are inverse to
each other. -/
def Indexed (g : TypeGraph) : Prop :=
  ∀ i ty, g.byIdentity.get? i = some ty ↔ g.identity? ty = some i

/-- The index finds a type exactly under its identity. -/
theorem Indexed.find?_eq_some_iff (h : g.Indexed) {i : String} {ty : TypeId} :
    g.find? i = some ty ↔ g.identity? ty = some i :=
  h i ty

/-- An identity is entered for one type at most. -/
theorem Indexed.distinct (h : g.Indexed) : g.Distinct := fun ty ty' i hi hi' =>
  Option.some.inj (((h i ty).2 hi).symm.trans ((h i ty').2 hi'))

/-- The index finds nothing exactly where no type has the identity. -/
theorem Indexed.find?_eq_none_iff (h : g.Indexed) {i : String} :
    g.find? i = none ↔ ∀ ty, g.identity? ty ≠ some i := by
  simp only [Option.eq_none_iff_forall_ne_some, ne_eq, h.find?_eq_some_iff]

/-- The empty graph has an empty index. -/
theorem indexed_empty : empty.Indexed := fun i ty => by
  have absent : empty.byIdentity.get? i = none := rfl
  rw [absent]
  simp [identity?, describe?, empty]

/-- The number of a type that is added is new. -/
theorem identity?_size (g : TypeGraph) : g.identity? ⟨g.size⟩ = none := by
  simp [identity?, describe?, size]

/-- **A type that is added is entered**: a graph without its identity stays indexed. -/
theorem Indexed.add (h : g.Indexed) {d : TypeDescriptor} (new : g.find? d.identity = none) :
    (g.add d).Indexed := by
  intro i ty
  change (g.add d).find? i = some ty ↔ _
  rw [find?_add, identity?, describe?_add]
  have fresh : ty.index = g.size ↔ ty = ⟨g.size⟩ := by cases ty; simp
  by_cases added : ty.index = g.size
  · have unknown : ¬ g.find? i = some ty := fun found => by
      rw [h.find?_eq_some_iff, fresh.1 added, identity?_size] at found
      cases found
    by_cases same : i = d.identity
    · simp [same, fresh.1 added]
    · simp [same, added, unknown, Ne.symm same]
  · have other : ¬ (⟨g.size⟩ : TypeId) = ty := fun e => added (fresh.2 e.symm)
    rw [if_neg added]
    by_cases same : i = d.identity
    · have absent := h.find?_eq_none_iff.1 new ty
      simp only [same, if_true, Option.some.injEq, other, false_iff]
      exact absent
    · rw [if_neg same]
      exact h i ty

/-- **Interning keeps a graph indexed.** -/
theorem Indexed.intern (h : g.Indexed) (d : TypeDescriptor) : (g.intern d).2.Indexed := by
  unfold TypeGraph.intern
  cases found : g.find? d.identity with
  | some ty => exact h
  | none => exact h.add found

/-- **A change that keeps the identity of a descriptor** keeps a graph indexed. -/
theorem Indexed.modify (h : g.Indexed) {f : TypeDescriptor → TypeDescriptor}
    (identity : ∀ d, (f d).identity = d.identity) (ty : TypeId) : (g.modify ty f).Indexed := by
  intro i ty'
  change (g.modify ty f).find? i = some ty' ↔ _
  rw [find?_modify, identity?_modify identity]
  exact h i ty'

/-- The type that interning gives has the identity that was asked for. -/
theorem Indexed.identity?_intern (h : g.Indexed) (d : TypeDescriptor) :
    (g.intern d).2.identity? (g.intern d).1 = some d.identity := by
  refine (h.intern d).find?_eq_some_iff.1 ?_
  rw [find?_intern, if_pos rfl]

/-! ### Given types -/

/-- The graph of some types, in this order. -/
def ofTypes (types : Array TypeDescriptor) : TypeGraph where
  types
  byIdentity := .ofList (types.toList.zipIdx.map fun e => (e.1.identity, ⟨e.2⟩))

@[simp] theorem describe?_ofTypes (types : Array TypeDescriptor) (ty : TypeId) :
    (ofTypes types).describe? ty = types[ty.index]? := rfl

/-- **The graph of types with different identities** is indexed. -/
theorem indexed_ofTypes {types : Array TypeDescriptor}
    (nodup : (types.toList.map (·.identity)).Nodup) : (ofTypes types).Indexed := by
  have keys : (types.toList.zipIdx.map fun e => (e.1.identity, (⟨e.2⟩ : TypeId))).map (·.1) =
      types.toList.map (·.identity) := by
    rw [List.map_map, show (Prod.fst ∘ fun e => (e.1.identity, (⟨e.2⟩ : TypeId))) =
      TypeDescriptor.identity ∘ Prod.fst from rfl, ← List.map_map, List.zipIdx_map_fst]
  rintro i ⟨n⟩
  rw [← SortedMap.mem_toList_iff]
  change _ ∈ (SortedMap.ofList _).toList ↔ _
  rw [SortedMap.mem_toList_ofList_iff (keys ▸ nodup), identity?, Option.map_eq_some_iff]
  simp only [List.mem_map, Prod.exists, List.mem_zipIdx_iff_getElem?, Prod.mk.injEq, describe?,
    TypeId.mk.injEq, ofTypes, Array.getElem?_toList]
  constructor
  · rintro ⟨d, _, hd, rfl, rfl⟩
    exact ⟨d, hd, rfl⟩
  · rintro ⟨d, hd, rfl⟩
    exact ⟨d, n, hd, rfl, rfl⟩

/-- Types with different identities make a graph that keeps them apart. -/
theorem Distinct.ofTypes {types : Array TypeDescriptor}
    (nodup : (types.toList.map (·.identity)).Nodup) : (ofTypes types).Distinct :=
  (indexed_ofTypes nodup).distinct

end TypeSchema.TypeGraph
