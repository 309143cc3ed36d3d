import TypeSchema.Proofs.Generation.Step
import TypeSchema.Proofs.Graph.Index

/-!
# Type graphs — what the operations build

`Built g` says that `g` comes from the graph without types by operations on types that it knows.
Such a graph is closed: shapes mention known types only, and the generic arguments of a type are
older than the type (`Built.wellFormed`), because a type gets its arguments when it is added and
keeps them.  So the bases of identifiers always end (`WellFormed.exists_baseIdTo`).
-/

namespace TypeSchema

/-- The types that a shape mentions. -/
def Shape.mentioned : Shape → List TypeId
  | .scalar _ | .enumeration _ => []
  | .nullable inner => [inner]
  | .array element => [element]
  | .collection _ args => args
  | .pair key value => [key, value]
  | .object o => o.fields.map (·.type) ++ o.capabilities.flatMap fun
      | .sequence element => [element]
      | .map key value => [key, value]

/-- The type of the elements or of the values. -/
def CollectionContent.part : CollectionContent → TypeId
  | .sequence element => element
  | .map value => value

namespace TypeGraph

/-- The graphs that operations on known types lead to. -/
inductive Built : TypeGraph → Prop where
  | empty : Built .empty
  | scalar {g : TypeGraph} (h : Built g) (kind : ScalarKind) : Built (g.scalar kind).2
  | nullable {g : TypeGraph} (h : Built g) {inner : TypeId} (known : g.knows inner) :
      Built (g.nullable inner).2
  | array {g : TypeGraph} (h : Built g) {element : TypeId} (known : g.knows element) :
      Built (g.array element).2
  | collection {g : TypeGraph} (h : Built g) (kind : CollectionKind) {args : List TypeId}
      (known : ∀ arg ∈ args, g.knows arg) : Built (g.collection kind args).2
  | pair {g : TypeGraph} (h : Built g) {key value : TypeId} (knownKey : g.knows key)
      (knownValue : g.knows value) : Built (g.pair key value).2
  | declare {g : TypeGraph} (h : Built g) (qualified : String) : Built (g.declare qualified).2
  | declareGeneric {g : TypeGraph} (h : Built g) (qualified : String) {args : List TypeId}
      (known : ∀ arg ∈ args, g.knows arg) : Built (g.declareGeneric qualified args).2
  | define {g : TypeGraph} (h : Built g) {ty : TypeId} (known : g.knows ty) {shape : Shape}
      (mentioned : ∀ part ∈ shape.mentioned, g.knows part) : Built (g.define ty shape)
  | setConstraints {g : TypeGraph} (h : Built g) {ty : TypeId} (known : g.knows ty)
      (constraints : List Constraint) : Built (g.setConstraints ty constraints)
  | setExample {g : TypeGraph} (h : Built g) {ty : TypeId} (known : g.knows ty) (v : Json) :
      Built (g.setExample ty v)
  | rename {g : TypeGraph} (h : Built g) {ty : TypeId} (known : g.knows ty) (name : String) :
      Built (g.rename ty name)

/-! ### Well-formed graphs -/

/-- A descriptor that the type `index` of a graph with `size` types may have: its generic arguments
are older than the type, and its shape mentions types of the graph. -/
structure Admits (size index : Nat) (d : TypeDescriptor) : Prop where
  older : ∀ arg ∈ d.genericArgs, arg.index < index
  closed : ∀ part ∈ d.shape.mentioned, part.index < size

/-- Every descriptor is one that its type may have. -/
def WellFormed (g : TypeGraph) : Prop :=
  ∀ ty d, g.describe? ty = some d → Admits g.size ty.index d

/-- A new type keeps a graph well formed if what it mentions is known. -/
theorem WellFormed.add {g : TypeGraph} (h : g.WellFormed) {d : TypeDescriptor}
    (args : ∀ arg ∈ d.genericArgs, g.knows arg)
    (mentioned : ∀ part ∈ d.shape.mentioned, g.knows part) : (g.add d).WellFormed := by
  intro ty d' hd
  rw [describe?_add] at hd
  rw [size_add]
  split at hd
  · next hidx =>
    cases hd
    refine ⟨fun arg ha => ?_, fun part hp => ?_⟩
    · rw [hidx]; exact knows_iff.1 (args arg ha)
    · exact Nat.lt_succ_of_lt (knows_iff.1 (mentioned part hp))
  · have had := h ty d' hd
    exact ⟨had.older, fun part hp => Nat.lt_succ_of_lt (had.closed part hp)⟩

/-- So does interning it. -/
theorem WellFormed.intern {g : TypeGraph} (h : g.WellFormed) {d : TypeDescriptor}
    (args : ∀ arg ∈ d.genericArgs, g.knows arg)
    (mentioned : ∀ part ∈ d.shape.mentioned, g.knows part) : (g.intern d).2.WellFormed := by
  unfold TypeGraph.intern
  cases g.find? d.identity with
  | some ty => exact h
  | none => exact h.add args mentioned

/-- So does a change of a type that keeps its arguments and mentions known types. -/
theorem WellFormed.modify {g : TypeGraph} (h : g.WellFormed) {ty : TypeId}
    {f : TypeDescriptor → TypeDescriptor} (args : ∀ d, (f d).genericArgs = d.genericArgs)
    (mentioned : ∀ d, g.describe? ty = some d →
      ∀ part ∈ (f d).shape.mentioned, g.knows part) :
    (g.modify ty f).WellFormed := by
  intro ty' d' hd
  rw [size_modify]
  rw [describe?_modify] at hd
  split at hd
  · next he =>
    obtain ⟨d, hold, rfl⟩ := Option.map_eq_some_iff.1 hd
    have had := h ty d hold
    exact ⟨fun arg ha => he ▸ had.older arg (args d ▸ ha),
      fun part hp => knows_iff.1 (mentioned d hold part hp)⟩
  · exact h ty' d' hd

/-- **The operations build well-formed graphs.** -/
theorem Built.wellFormed {g : TypeGraph} (h : g.Built) : g.WellFormed := by
  have kept : ∀ {g : TypeGraph}, g.WellFormed → ∀ {ty d}, g.describe? ty = some d →
      ∀ part ∈ d.shape.mentioned, g.knows part :=
    fun hg _ _ hd part hp => knows_iff.2 ((hg _ _ hd).closed part hp)
  induction h with
  | empty => intro ty d hd; simp [describe?, TypeGraph.empty] at hd
  | scalar _ kind ih => exact ih.intern (by simp) (by simp [Shape.mentioned])
  | nullable _ known ih => exact ih.intern (by simpa using known) (by simpa [Shape.mentioned])
  | array _ known ih => exact ih.intern (by simpa using known) (by simpa [Shape.mentioned])
  | collection _ kind known ih => exact ih.intern known known
  | pair _ knownKey knownValue ih =>
    exact ih.intern (by simp [knownKey, knownValue])
      (by simp [Shape.mentioned, knownKey, knownValue])
  | declare _ qualified ih => exact ih.intern (by simp) (by simp [Shape.mentioned])
  | declareGeneric _ qualified known ih => exact ih.intern known (by simp [Shape.mentioned])
  | define _ _ mentioned ih => exact ih.modify (fun _ => rfl) fun _ _ => mentioned
  | setConstraints _ _ _ ih => exact ih.modify (fun _ => rfl) fun _ => kept ih
  | setExample _ _ _ ih => exact ih.modify (fun _ => rfl) fun _ => kept ih
  | rename _ _ _ ih => exact ih.modify (fun _ => rfl) fun _ => kept ih

/-! ### Identifiers -/

/-- The base of a type's identifier nests as deep as the type has older types, at most. -/
theorem WellFormed.exists_baseIdTo {g : TypeGraph} (h : g.WellFormed) :
    ∀ {levels : Nat} {ty : TypeId}, g.knows ty → ty.index < levels →
      ∃ base, g.baseIdTo levels ty = .ok base := by
  intro levels
  induction levels with
  | zero => intro ty _ hlt; omega
  | succ levels ih =>
    intro ty hk hlt
    obtain ⟨d, hd⟩ := knows_iff_describe?.1 hk
    have bases : ∀ args : List TypeId, (∀ arg ∈ args, arg.index < ty.index) →
        ∃ bases, args.mapM (g.baseIdTo levels) = .ok bases := by
      intro args
      induction args with
      | nil => exact fun _ => ⟨[], rfl⟩
      | cons arg rest iha =>
        intro hargs
        have harg := hargs arg List.mem_cons_self
        have hknown : g.knows arg := knows_iff.2 (Nat.lt_trans harg (knows_iff.1 hk))
        obtain ⟨base, hbase⟩ := ih hknown (by omega)
        obtain ⟨more, hmore⟩ := iha fun a ha => hargs a (List.mem_cons_of_mem _ ha)
        exact ⟨_, mapM_cons_ok_iff.2 ⟨base, more, hbase, hmore, rfl⟩⟩
    obtain ⟨bs, hbs⟩ := bases d.genericArgs (h ty d hd).older
    simp only [baseIdTo, hd, hbs]
    split <;> exact ⟨_, rfl⟩

/-- In a well-formed graph every known type can be given an identifier. -/
theorem WellFormed.exists_assign {g : TypeGraph} (h : g.WellFormed) {ty : TypeId}
    (known : g.knows ty) (r : Registry) :
    ∃ id r' events, r.assign g ty = .ok (id, r', events) := by
  obtain ⟨d, hd⟩ := knows_iff_describe?.1 known
  obtain ⟨base, hbase⟩ : ∃ base, g.baseId ty = .ok base :=
    h.exists_baseIdTo known (Nat.lt_succ_of_lt (knows_iff.1 known))
  simp only [Registry.assign, hd, hbase]
  cases r.lookup? d.identity with
  | some id => exact ⟨_, _, _, rfl⟩
  | none => exact ⟨_, _, _, rfl⟩

/-! ### Parts -/

/-- What is found as the content of a shape is mentioned by it. -/
theorem mem_mentioned_of_collectionContent {g : TypeGraph} {shape : Shape}
    {content : CollectionContent} (h : g.collectionContent shape = some content) :
    content.part ∈ shape.mentioned := by
  have seq : ∀ {element}, g.sequenceOf element = some content → content = .sequence element := by
    intro element h
    unfold sequenceOf at h
    split at h <;> cases h
    rfl
  have map : ∀ {key value}, g.mapOf key value = some content → content = .map value := by
    intro key value h
    unfold mapOf at h
    split at h <;> cases h
    rfl
  unfold collectionContent at h
  split at h
  · rw [seq h]; simp [Shape.mentioned, CollectionContent.part]
  · split at h
    · rw [map h]; simp [Shape.mentioned, CollectionContent.part]
    · cases h
  · split at h
    · rw [seq h]; simp [Shape.mentioned, CollectionContent.part]
    · cases h
  · next o =>
    rw [Option.or_eq_some_iff] at h
    have hcap : ∃ c ∈ o.capabilities, g.offeredMap c = some content ∨
        g.offeredSequence c = some content := by
      rcases h with h | ⟨-, h⟩
      · obtain ⟨c, hc, hoff⟩ := List.exists_of_findSome?_eq_some h
        exact ⟨c, hc, .inl hoff⟩
      · obtain ⟨c, hc, hoff⟩ := List.exists_of_findSome?_eq_some h
        exact ⟨c, hc, .inr hoff⟩
    obtain ⟨c, hc, hoff⟩ := hcap
    refine List.mem_append_right _ (List.mem_flatMap.2 ⟨c, hc, ?_⟩)
    cases c with
    | sequence element =>
      rcases hoff with hoff | hoff
      · cases hoff
      · rw [seq hoff]; simp [CollectionContent.part]
    | map key value =>
      rcases hoff with hoff | hoff
      · rw [map hoff]; simp [CollectionContent.part]
      · cases hoff
  · cases h

end TypeGraph

theorem mem_of_mem_sortedFields {o : ObjectShape} {f : Field} (h : f ∈ sortedFields o) :
    f ∈ o.fields := List.mem_mergeSort.1 h

theorem mem_of_mem_keptFields {limit? : Option Nat} {fields : List Field} {f : Field}
    (h : f ∈ (keptFields limit? fields).1) : f ∈ fields := by
  unfold keptFields at h
  split at h
  · split at h
    · exact List.mem_of_mem_take h
    · exact h
  · exact h

/-- What a shape holds, be it a collection, an object or nothing, is mentioned by it. -/
theorem TypeGraph.mem_mentioned_of_content {g : TypeGraph} {shape : Shape} {cls : Classification}
    {limit? : Option Nat} {part : TypeId × Option Field}
    (h : (match g.collectionContent shape with
      | some (.sequence element) => Classification.sequence element
      | some (.map value) => .map value
      | none => match shape with
        | .object o => .object (some o)
        | _ => .object none) = cls) (hp : part ∈ cls.parts limit?) :
    part.1 ∈ shape.mentioned := by
  cases hcc : g.collectionContent shape with
  | some content =>
    have hm := mem_mentioned_of_collectionContent hcc
    cases content <;> simp only [hcc] at h <;> subst h <;>
      simp only [Classification.parts, List.mem_singleton] at hp <;> subst hp <;> exact hm
  | none =>
    simp only [hcc] at h
    cases shape with
    | object o =>
      subst h
      simp only [Classification.parts, List.mem_map] at hp
      obtain ⟨f, hf, rfl⟩ := hp
      have hfield := mem_of_mem_sortedFields (mem_of_mem_keptFields hf)
      exact List.mem_append_left _ (List.mem_map.2 ⟨f, hfield, rfl⟩)
    | _ => subst h; simp [Classification.parts] at hp

/-- The parts of a type are mentioned by its shape. -/
theorem TypeGraph.mem_mentioned_of_mem_parts {g : TypeGraph} {shape : Shape} {limit? : Option Nat}
    {part : TypeId × Option Field} (h : part ∈ (g.classify shape).parts limit?) :
    part.1 ∈ shape.mentioned := by
  cases shape with
  | scalar kind => simp [classify, Classification.parts] at h
  | nullable inner => simp [classify, Classification.parts] at h
  | enumeration e => simp [classify, Classification.parts] at h
  | pair key value =>
    simp only [classify, Classification.parts, List.mem_cons, List.not_mem_nil, or_false] at h
    rcases h with rfl | rfl <;> simp [Shape.mentioned]
  | array element =>
    simp only [classify] at h
    split at h
    · simp [Classification.parts] at h
    · exact mem_mentioned_of_content rfl h
  | collection kind args => exact mem_mentioned_of_content rfl h
  | object o => exact mem_mentioned_of_content rfl h

end TypeSchema
