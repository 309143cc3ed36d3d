import TypeSchema.Proofs.Generation.Grounding
import TypeSchema.Proofs.Graph.Known
import TypeSchema.Proofs.Schema.Nullable

/-!
# Generation — null is admitted where the type says so

The node of a nullable wrapper admits null and that of any other type does not, whatever is around
or inside (`TypeGraph.NullDue`), and this stays so: when an object is built the nodes of its fields
lie below the node that is decorated.

Fields of one name are added in the order of their declaration, so the property is that of the last
one among those that are kept (`Generator.keptField?`).  If none is dropped this is the last one
that is declared (`Generator.keptField?_of_complete`).

`generate_null` says so of a generated schema, for its root and for the properties of every object
that is expanded in it.
-/

namespace TypeSchema

open Build

variable {gen : Generator} {g : TypeGraph}

/-! ### The fields that count -/

/-- The field that the property of an object is built from: the last one of the name that is
kept. -/
def Generator.keptField? (gen : Generator) (o : ObjectShape) (name : String) : Option Field :=
  ((keptFields gen.config.memberThreshold? (sortedFields o)).1.filter (·.name = name)).getLast?

/-- Sorting leaves the fields of one name in the order of their declaration. -/
theorem filter_sortedFields (o : ObjectShape) (name : String) :
    (sortedFields o).filter (·.name = name) = o.fields.filter (·.name = name) := by
  have perm : (sortedFields o).Perm o.fields := List.mergeSort_perm _ _
  have names : ∀ f ∈ o.fields.filter (·.name = name), f.name = name := fun f hf => by
    simpa using (List.mem_filter.1 hf).2
  -- the fields of the name are in any order of names
  have sublist : List.Sublist (o.fields.filter (·.name = name)) (sortedFields o) := by
    refine List.sublist_mergeSort (fun a b c hab hbc => ?_) (fun a b => ?_) ?_
      List.filter_sublist
    · simp only [decide_eq_true_eq] at hab hbc ⊢
      exact String.le_trans hab hbc
    · simpa using String.le_total a.name b.name
    · refine List.pairwise_of_forall_mem_list fun a ha b hb => ?_
      simp [names a ha, names b hb]
  have filtered := sublist.filter (·.name = name)
  simp only [List.filter_filter, Bool.and_self] at filtered
  exact (filtered.eq_of_length (perm.filter _).length_eq.symm).symm

/-- If no field is dropped the last one that is declared counts. -/
theorem Generator.keptField?_of_complete {o : ObjectShape}
    (complete : (keptFields gen.config.memberThreshold? (sortedFields o)).2 = none)
    (name : String) : gen.keptField? o name = (o.fields.filter (·.name = name)).getLast? := by
  have all : (keptFields gen.config.memberThreshold? (sortedFields o)).1 = sortedFields o := by
    cases hl : gen.config.memberThreshold? with
    | none => rfl
    | some limit =>
      rw [hl] at complete
      simp only [keptFields] at complete ⊢
      split at complete
      · cases complete
      · next within => rw [if_neg within]
  rw [keptField?, all, filter_sortedFields]

/-- The property of a name is the node of the field that counts. -/
theorem properties_objectNode (gen : Generator) (o : ObjectShape) (i : String) (ids : List NodeId)
    (name : String) : (objectNode gen o i ids).properties.get? name =
      ((((keptFields gen.config.memberThreshold? (sortedFields o)).1.zip ids).filter
        (·.1.name = name)).getLast?).map (·.2) := by
  have properties : (objectNode gen o i ids).properties = SortedMap.ofList
      (((keptFields gen.config.memberThreshold? (sortedFields o)).1.zip ids).map
        fun q => (q.1.name, q.2)) := SchemaNode.properties_withFields _ _
  rw [properties, SortedMap.get?_ofList, List.filter_map, List.getLast?_map, Option.map_map]
  rfl

/-! ### What is due -/

/-- The type is a nullable wrapper. -/
def TypeGraph.IsNullable (g : TypeGraph) (ty : TypeId) : Prop :=
  ∃ inner, g.shape? ty = some (.nullable inner)

/-- Whether a known type is nullable is read off its class. -/
theorem TypeGraph.isNullable_iff {ty : TypeId} {d : TypeDescriptor}
    (known : g.describe? ty = some d) :
    g.IsNullable ty ↔ ∃ inner, g.classify d.shape = .nullable inner := by
  simp [IsNullable, shape?, known, classify_eq_nullable_iff]

theorem TypeGraph.not_isNullable {ty : TypeId} {d : TypeDescriptor}
    (known : g.describe? ty = some d) (cls : ∀ inner, g.classify d.shape ≠ .nullable inner) :
    ¬ g.IsNullable ty := by
  intro nullable
  obtain ⟨inner, hinner⟩ := (isNullable_iff known).1 nullable
  exact cls inner hinner

/-- The node admits null if the type is a nullable wrapper, and does not if it is not. -/
structure TypeGraph.NullDue (g : TypeGraph) (enc : NullEncoding) (a : Arena) (id : NodeId)
    (ty : TypeId) : Prop where
  nullable : g.IsNullable ty → a.AdmitsNull enc id
  plain : ¬ g.IsNullable ty → a.WithoutNull id

/-- The properties are those of an object that holds the identifier: there is one for each of its
fields that count, and it admits null if the type of the field is a nullable wrapper. -/
def Generator.ObjectDue (gen : Generator) (g : TypeGraph) (r : Registry) (a : Arena) (i : String)
    (properties : SortedMap NodeId) : Prop :=
  ∃ ty o, g.HasClass ty (.object (some o)) ∧ g.Holds r ty i ∧
    ∀ name, Option.Rel (fun f c => g.NullDue gen.config.nullEncoding a c f.type)
      (gen.keptField? o name) (properties.get? name)

/-- The properties of all objects that are expanded are as they are due. -/
def Generator.ObjectsDue (gen : Generator) (g : TypeGraph) (r : Registry) (a : Arena) : Prop :=
  ∀ j n i, a.get? j = some n → n.identifier? = some i → gen.ObjectDue g r a i n.properties

section

variable {enc : NullEncoding} {a a' : Arena} {r r' : Registry} {id : NodeId} {ty : TypeId}

/-- Whatever is due, the node admits null as the encoding has it or not at all. -/
theorem TypeGraph.NullDue.either (h : g.NullDue enc a id ty) :
    a.AdmitsNull enc id ∨ a.WithoutNull id := by
  by_cases nullable : g.IsNullable ty
  · exact .inl (h.nullable nullable)
  · exact .inr (h.plain nullable)

theorem TypeGraph.NullDue.mono (ground : a.Grounded) (h : g.NullDue enc a id ty)
    (kept : ∀ j n, j.index ≤ id.index → a.get? j = some n → a'.get? j = some n) :
    g.NullDue enc a' id ty :=
  ⟨fun nullable => (h.nullable nullable).mono ground kept,
    fun plain => (h.plain plain).mono fun n hn => kept id n (Nat.le_refl _) hn⟩

theorem Generator.ObjectDue.mono (ground : a.Grounded) {i : String}
    {properties : SortedMap NodeId} (h : gen.ObjectDue g r a i properties) (grows : r.Grows r')
    (kept : ∀ name c, properties.get? name = some c → ∀ j n, j.index ≤ c.index →
      a.get? j = some n → a'.get? j = some n) : gen.ObjectDue g r' a' i properties := by
  obtain ⟨ty, o, cls, holds, due⟩ := h
  refine ⟨ty, o, cls, holds.mono grows, fun name => ?_⟩
  have rel := due name
  generalize gen.keptField? o name = f? at rel ⊢
  cases hc : properties.get? name with
  | none => rw [hc] at rel; cases rel with | none => exact .none
  | some c =>
    rw [hc] at rel
    cases rel with
    | some due => exact .some (due.mono ground (kept name c hc))

/-- A node is added whose properties, if it is an object, are as they are due. -/
theorem Generator.ObjectsDue.push (ground : a.Grounded) (h : gen.ObjectsDue g r a) {n : SchemaNode}
    (due : ∀ i, n.identifier? = some i → gen.ObjectDue g r a i n.properties) :
    gen.ObjectsDue g r (a.push n).2 := by
  intro j m i hm hi
  have before : gen.ObjectDue g r a i m.properties := by
    rw [Arena.get?_push] at hm
    split at hm
    · cases hm; exact due i hi
    · exact h j m i hm hi
  exact before.mono ground (.refl r) fun _ _ _ _ _ _ hn => Arena.keeps_push a n hn

/-- Decorating the last node, or a stand-in, changes no property of an object. -/
theorem Generator.ObjectsDue.dressed (ground : a.Grounded) {id' : NodeId}
    (outer : a.Outermost id) (h : gen.ObjectsDue g r a) (hd : Dressed a id a' id') :
    gen.ObjectsDue g r a' := by
  intro j n i hn hi
  rcases Arena.origin_of_dressed hd hn with ⟨m, hm, properties, identifier⟩ | none
  · rw [← properties]
    refine (h j m i hm (identifier.trans hi)).mono ground (.refl r) fun name c hc k l hk hl => ?_
    -- a property was added before its object
    have below : c.index < j.index := ground.backward j m hm c <|
      SchemaNode.mem_edges_of_mem_children <| by
        simp only [SchemaNode.children, List.mem_append, List.mem_map]
        exact .inl (.inl (.inl ⟨(name, c), SortedMap.mem_toList_iff.2 hc, rfl⟩))
    rcases outer with last | shared
    · have inside := Arena.lt_size_of_get? hm
      exact Arena.get?_dressed_below hd (by omega) hl
    · exact (Arena.Keeps.dressed hd (.refl a) (.inr shared)).1 hl
  · rw [none] at hi
    cases hi

end

/-! ### States -/

/-- What is known of a state in which nothing is about to change. -/
structure Traversal.NullSound (gen : Generator) (g : TypeGraph) (t : Traversal) : Prop where
  rests : t.RestsOn t.arena
  ground : t.arena.Grounded
  encoded : t.arena.Encoded gen.config.nullEncoding
  objects : gen.ObjectsDue g t.registry t.arena

/-- What is built for a type from such a state: the node that is due, among nodes of which the same
is known. -/
structure Traversal.NullBuilt (gen : Generator) (g : TypeGraph) (t : Traversal) (id : NodeId)
    (due : Arena → NodeId → Prop) : Prop where
  encoded : t.arena.Encoded gen.config.nullEncoding
  objects : gen.ObjectsDue g t.registry t.arena
  due : due t.arena id

namespace Traversal

variable {t t' : Traversal} {id id' : NodeId} {due : Arena → NodeId → Prop}

/-- A traversal begins with no node that could admit null. -/
theorem nullSound_begin (gen : Generator) (g : TypeGraph) (w : Workspace) :
    (w.begin gen).NullSound gen g :=
  ⟨.begin w gen, Arena.grounded_empty, Arena.encoded_empty, fun j n i h => by
    simp [Workspace.begin, Arena.get?] at h⟩

/-- A change of anything that no node is in. -/
theorem NullSound.of_eq (h : t.NullSound gen g) (ha : t'.arena = t.arena)
    (hi : t'.identifiers = t.identifiers) (hp : t'.guard.placeholders = t.guard.placeholders)
    (grows : t.registry.Grows t'.registry) : t'.NullSound gen g := by
  refine ⟨(h.rests.of_eq ha hi hp).here, ha ▸ h.ground, ha ▸ h.encoded, ha ▸ ?_⟩
  exact fun j n i hn hi => (h.objects j n i hn hi).mono h.ground grows fun _ _ _ _ _ _ hn => hn

/-- A node that is neither null nor a union and that expands no object. -/
theorem NullSound.pushed (h : t.NullSound gen g) {n : SchemaNode} (single : n.IsSingle)
    (unflagged : n.nullable = false) (identifier : n.identifier? = none) :
    (t.pushed n).NullBuilt gen g ⟨t.arena.size⟩ Arena.WithoutNull :=
  ⟨h.encoded.push single unflagged, h.objects.push h.ground (fun i hi => by
    rw [identifier] at hi; cases hi), Arena.withoutNull_push _ single unflagged⟩

/-- A bare node of its own does not admit null. -/
theorem NullSound.pushedMadeOf (h : t.NullSound gen g) {n : SchemaNode} {ids : List NodeId}
    (made : n.IsMadeOf none ids) (bare : n.IsBare) :
    (t.pushed n).NullBuilt gen g ⟨t.arena.size⟩ Arena.WithoutNull :=
  h.pushed (SchemaNode.isSingle_of_primitive made.primitive) bare.nullable made.identifier

/-- The node of an object whose properties are as they are due, as its component and once more to
be used. -/
theorem NullSound.pushedTwice (h : t.NullSound gen g) {n : SchemaNode} {i : String}
    {ids : List NodeId} (made : n.IsMadeOf (some i) ids) (bare : n.IsBare)
    (inside : ∀ c ∈ ids, c.index < t.arena.size)
    (due : gen.ObjectDue g t.registry t.arena i n.properties) :
    ((t.pushed n).pushed n).NullBuilt gen g ⟨t.arena.size + 1⟩ Arena.WithoutNull := by
  have single := SchemaNode.isSingle_of_primitive made.primitive
  have identifier : ∀ i', n.identifier? = some i' → i' = i := fun i' hi =>
    Option.some.inj (hi.symm.trans made.identifier)
  have ground := h.ground.pushMadeOf made bare inside
  have due' : gen.ObjectDue g t.registry (t.arena.push n).2 i n.properties :=
    due.mono h.ground (.refl _) fun _ _ _ _ _ _ hn => Arena.keeps_push t.arena _ hn
  have component : gen.ObjectsDue g t.registry (t.arena.push n).2 :=
    h.objects.push h.ground fun i' hi => identifier i' hi ▸ due
  have last := Arena.withoutNull_push (t.arena.push n).2 single bare.nullable
  rw [Arena.size_push] at last
  exact ⟨(h.encoded.push single bare.nullable).push single bare.nullable,
    component.push ground fun i' hi => identifier i' hi ▸ due', last⟩

/-- A placeholder does not admit null. -/
theorem NullSound.cut (h : t.NullSound gen g) (v : Visit) (reason : CutReason) :
    (t.cut v reason).2.NullBuilt gen g (t.cut v reason).1 Arena.WithoutNull := by
  have shared := (h.rests.afterCut v reason).2
  cases hl : t.guard.placeholders.lookup (v.type, reason) with
  | some id =>
    rw [cut_of_lookup hl] at shared ⊢
    exact ⟨h.encoded, h.objects, h.encoded.withoutNull shared⟩
  | none =>
    obtain ⟨hid, arena⟩ := cut_of_lookup_none hl
    have registry : (t.cut v reason).2.registry = t.registry := by rw [cut_eq]
    have pushed := h.pushed (n := { kind := .placeholder ⟨v.typeName, v.identifier?, reason⟩ })
      (SchemaNode.isSingle_of_isShared rfl) rfl rfl
    rw [hid]
    exact ⟨arena ▸ pushed.encoded, by rw [arena, registry]; exact pushed.objects,
      arena ▸ pushed.due⟩

/-! ### Decorations -/

theorem setExample_null {v : Json} (h : setExample id v t = .ok () t')
    (encoded : t.arena.Encoded gen.config.nullEncoding) (without : t.arena.WithoutNull id) :
    t'.arena.Encoded gen.config.nullEncoding ∧ t'.arena.WithoutNull id := by
  cases h
  by_cases hs : t.arena.isShared id
  · simp only [hs, if_true]
    exact ⟨encoded, without⟩
  · simp only [hs]
    obtain ⟨n, hn, unflagged, single⟩ := without
    exact ⟨encoded.modify fun n hn => hn.of_same rfl rfl, { n with example? := some v },
      by simp [Arena.get?_modify, hn], unflagged, single.notNull, single.notUnion⟩

/-- Constraints do not make a node admit null. -/
theorem annotate_null {patterns : PatternCheck} {member : String} {constraints : List Constraint}
    (h : annotate patterns id member constraints t = .ok id' t')
    (encoded : t.arena.Encoded gen.config.nullEncoding) (without : t.arena.WithoutNull id) :
    t'.arena.Encoded gen.config.nullEncoding ∧ t'.arena.WithoutNull id' := by
  cases h
  exact ⟨encoded.annotate _ _ _, without.annotate _ _ _⟩

/-- Nor do those of a field, with its example. -/
theorem annotateField_null {patterns : PatternCheck} {field? : Option Field}
    (h : annotateField patterns id field? t = .ok id' t')
    (encoded : t.arena.Encoded gen.config.nullEncoding) (without : t.arena.WithoutNull id) :
    t'.arena.Encoded gen.config.nullEncoding ∧ t'.arena.WithoutNull id' := by
  cases field? with
  | none => cases h; exact ⟨encoded, without⟩
  | some f =>
    obtain ⟨id₁, t₁, ha, hr⟩ := bind_ok_iff.1 h
    obtain ⟨encoded₁, without₁⟩ := annotate_null ha encoded without
    cases he : f.example? with
    | none => simp only [he] at hr; cases hr; exact ⟨encoded₁, without₁⟩
    | some v =>
      simp only [he] at hr
      obtain ⟨_, t₂, hs, hp⟩ := bind_ok_iff.1 hr
      cases hp
      exact setExample_null hs encoded₁ without₁

/-- A node without null has none after it was decorated. -/
theorem decorate_null {d : TypeDescriptor} {field? : Option Field}
    (h : decorate gen d field? id t = .ok id' t')
    (encoded : t.arena.Encoded gen.config.nullEncoding) (without : t.arena.WithoutNull id) :
    t'.arena.Encoded gen.config.nullEncoding ∧ t'.arena.WithoutNull id' := by
  obtain ⟨id₁, t₁, ha, hr⟩ := bind_ok_iff.1 h
  obtain ⟨id₂, t₂, hf, hn⟩ := bind_ok_iff.1 hr
  obtain ⟨encoded₁, without₁⟩ := annotate_null ha encoded without
  obtain ⟨encoded₂, without₂⟩ := annotateField_null hf encoded₁ without₁
  cases hn
  exact ⟨encoded₂.clearNullFlag, without₂.clearNullFlag⟩

/-- A node around which there is a nullable wrapper admits null, whether it did so before or not. -/
theorem wrapNull_null {d : TypeDescriptor} (h : wrapNull gen d id t = .ok id' t')
    (ground : t.arena.Grounded) (encoded : t.arena.Encoded gen.config.nullEncoding)
    (either : t.arena.AdmitsNull gen.config.nullEncoding id ∨ t.arena.WithoutNull id) :
    t'.arena.Encoded gen.config.nullEncoding ∧
      t'.arena.AdmitsNull gen.config.nullEncoding id' := by
  obtain ⟨id₁, t₁, ha, hn⟩ := bind_ok_iff.1 h
  cases ha
  cases hn
  refine ⟨(encoded.annotate _ _ _).admitNull, Arena.AdmitsNull.applyNull ?_⟩
  exact either.imp (·.annotate _ _ _ ground encoded) (·.annotate _ _ _)

end Traversal

/-! ### Steps -/

/-- What is built from a sound state is as it is due. -/
def Descent.BuildsNull (gen : Generator) (g : TypeGraph) (descend : Descent) : Prop :=
  ∀ ty field? t id t', descend ty field? t = .ok id t' → t.NullSound gen g →
    t'.NullBuilt gen g id fun a id => g.NullDue gen.config.nullEncoding a id ty

section

variable {levels : Nat} {ty : TypeId} {d : TypeDescriptor} {t t' : Traversal} {id : NodeId}

/-- The state after a type was built is sound again. -/
theorem Traversal.NullBuilt.sound {field? : Option Field} {due : Arena → NodeId → Prop}
    (h : t'.NullBuilt gen g id due) (built : nodeFor gen g levels ty field? t = .ok id t')
    (ht : t.NullSound gen g) : t'.NullSound gen g :=
  ⟨(nodeFor_settled built ht.rests).rests,
    (nodeFor_grounded _ _ _ _ _ _ built ht.rests ht.ground).arena, h.encoded, h.objects⟩

/-- The nodes of some parts are due for their types. -/
theorem Visits.null {parts : List (TypeId × Option Field)} {ids : List NodeId}
    (h : Visits (nodeFor gen g levels) parts t ids t')
    (step : (nodeFor gen g levels).BuildsNull gen g) (ht : t.NullSound gen g) :
    t'.NullSound gen g ∧ ids.length = parts.length ∧
      ∀ q ∈ parts.zip ids, g.NullDue gen.config.nullEncoding t'.arena q.2 q.1.1 := by
  induction h with
  | nil => exact ⟨ht, rfl, fun q hq => by cases hq⟩
  | @cons _ _ _ _ t₁ t₂ id _ head tail ih =>
    have built := step _ _ _ _ _ head ht
    have sound := built.sound head ht
    obtain ⟨sound', length, due⟩ := ih sound
    refine ⟨sound', by simp [length], fun q hq => ?_⟩
    rcases List.mem_cons.1 hq with rfl | hq
    · have keeps := tail.keeps (nodeFor_spares levels) sound.rests
      exact built.due.mono sound.ground fun _ _ _ hn => keeps hn
    · exact due q hq

/-- The properties of an object are due, if the nodes of its fields are. -/
theorem objectDue_objectNode {o : ObjectShape} {r : Registry} {a : Arena} {i : String}
    {ids : List NodeId} (cls : g.HasClass ty (.object (some o))) (holds : g.Holds r ty i)
    (length : ids.length = (keptFields gen.config.memberThreshold? (sortedFields o)).1.length)
    (due : ∀ q ∈ (keptFields gen.config.memberThreshold? (sortedFields o)).1.zip ids,
      g.NullDue gen.config.nullEncoding a q.2 q.1.type) :
    gen.ObjectDue g r a i (objectNode gen o i ids).properties := by
  refine ⟨ty, o, cls, holds, fun name => ?_⟩
  have fields := List.map_fst_zip (Nat.le_of_eq length.symm)
  have kept : gen.keptField? o name =
      ((((keptFields gen.config.memberThreshold? (sortedFields o)).1.zip ids).filter
        (·.1.name = name)).getLast?).map (·.1) := by
    unfold Generator.keptField?
    conv_lhs => rw [← fields]
    rw [List.filter_map, List.getLast?_map]
    rfl
  rw [kept, properties_objectNode]
  cases hq : (((keptFields gen.config.memberThreshold? (sortedFields o)).1.zip ids).filter
      (·.1.name = name)).getLast? with
  | none => exact .none
  | some q => exact .some (due q (List.mem_filter.1 (List.mem_of_getLast? hq)).1)

/-- An expansion builds a node without null, given that building its parts is sound. -/
theorem Expansion.null {cls : Classification} (known : g.HasClass ty cls)
    (h : Expansion gen g (nodeFor gen g levels) ty d cls t id t')
    (step : (nodeFor gen g levels).BuildsNull gen g) (ht : t.NullSound gen g) :
    t'.NullBuilt gen g id Arena.WithoutNull := by
  cases h with
  | @leaf _ _ n events node =>
    have reported : (t.reported events).NullSound gen g := ht.of_eq rfl rfl rfl (.refl _)
    exact reported.pushedMadeOf (SchemaNode.isMadeOf_leafNode? node) (.of_leafNode? node)
  | cut _ _ => exact ht.cut _ _
  | @collection _ _ t₁ ids n _ parts node _ =>
    have opened : (t.opened ty).NullSound gen g := ht.of_eq rfl rfl rfl (.refl _)
    have pushed := (parts.null step opened).1.pushedMadeOf
      (SchemaNode.isMadeOf_collectionNode? node) (.of_collectionNode? node)
    exact ⟨pushed.encoded, pushed.objects, pushed.due⟩
  | @reference o _ i r events _ assigned _ =>
    have claimed : (t.claimed ty i r events).NullSound gen g :=
      ht.of_eq rfl rfl rfl (Registry.assign_spec assigned).1
    exact claimed.pushed (SchemaNode.isSingle_of_isShared rfl) rfl rfl
  | @cutObject o _ i r events _ assigned _ _ =>
    have claimed : (t.claimed ty i r events).NullSound gen g :=
      ht.of_eq rfl rfl rfl (Registry.assign_spec assigned).1
    exact claimed.cut _ _
  | @object o _ t₁ i r events ids assigned _ _ parts _ =>
    obtain ⟨grows, holds⟩ := Registry.assign_spec assigned
    have opened : (((t.claimed ty i r events).opened ty).reported
        (objectEvents gen d o)).NullSound gen g := ht.of_eq rfl rfl rfl grows
    obtain ⟨sound, length, due⟩ := parts.null step opened
    have object : gen.ObjectDue g t₁.registry t₁.arena i (objectNode gen o i ids).properties := by
      refine objectDue_objectNode known (holds.mono parts.returns.1.registry) ?_ fun q hq => ?_
      · simpa [Classification.parts] using length
      · refine due ((q.1.type, some q.1), q.2) ?_
        simp only [Classification.parts, List.zip_map_left]
        exact List.mem_map.2 ⟨q, hq, rfl⟩
    have inside := (parts.grounded (nodeFor_grounded levels) opened.rests opened.ground).2
    have twice := sound.pushedTwice (SchemaNode.isMadeOf_objectNode gen o i ids)
      (.of_objectNode gen o i ids) inside object
    exact ⟨twice.encoded, twice.objects, twice.due⟩

/-- Decoration leaves the properties of objects as they are due. -/
theorem Traversal.NullBuilt.objects_decorated {id' : NodeId} {due : Arena → NodeId → Prop}
    (h : t.NullBuilt gen g id due) (grounded : t.Grounded id) (hd : Decorated t id t' id') :
    gen.ObjectsDue g t'.registry t'.arena := by
  have registry : t'.registry = t.registry := by
    obtain ⟨-, _, hr⟩ := hd
    rw [hr]
  rw [registry]
  exact h.objects.dressed grounded.arena grounded.outermost hd.dressed

/-- What is decorated for a type that is not a nullable wrapper. -/
theorem Traversal.NullBuilt.decorated {id' : NodeId} {field? : Option Field}
    (h : t.NullBuilt gen g id Arena.WithoutNull) (grounded : t.Grounded id)
    (finish : decorate gen d field? id t = .ok id' t') (plain : ¬ g.IsNullable ty) :
    t'.NullBuilt gen g id' fun a id => g.NullDue gen.config.nullEncoding a id ty := by
  obtain ⟨encoded, without⟩ := decorate_null finish h.encoded h.due
  exact ⟨encoded, h.objects_decorated grounded (decorate_decorated finish),
    fun nullable => absurd nullable plain, fun _ => without⟩

/-- A step builds a node that admits null if that is due to its type, and else does not. -/
theorem Step.null {field? : Option Field} (known : g.describe? ty = some d)
    (h : Step gen g (nodeFor gen g levels) ty field? d t id t')
    (step : (nodeFor gen g levels).BuildsNull gen g) (ht : t.NullSound gen g) :
    t'.NullBuilt gen g id fun a id => g.NullDue gen.config.nullEncoding a id ty := by
  cases h with
  | @wrapped inner _ _ _ _ _ cls part finish =>
    have built := step _ _ _ _ _ part ht
    have grounded := nodeFor_grounded _ _ _ _ _ _ part ht.rests ht.ground
    obtain ⟨encoded, admits⟩ :=
      Traversal.wrapNull_null finish grounded.arena built.encoded built.due.either
    exact ⟨encoded, built.objects_decorated grounded (wrapNull_decorated finish), fun _ => admits,
      fun plain => absurd ((TypeGraph.isNullable_iff known).2 ⟨inner, cls⟩) plain⟩
  | @overridden o _ _ _ _ overridable finish =>
    have plain : ¬ g.IsNullable ty := TypeGraph.not_isNullable known fun inner cls => by
      rw [cls] at overridable
      cases overridable
    have made := SchemaNode.isMadeOf_override o
    have bare := SchemaNode.IsBare.of_override o
    have grounded : (t.pushed o.node).Grounded ⟨t.arena.size⟩ :=
      .pushed (ht.ground.pushMadeOf made bare fun c hc => by cases hc)
    exact (ht.pushedMadeOf made bare).decorated grounded finish plain
  | @expanded _ t₀ _ _ _ _ cls overrideless expansion finish =>
    have looked := overrideFor_none overrideless
    have sound : t₀.NullSound gen g := ht.of_eq (by rw [looked]) (by rw [looked]) (by rw [looked])
      (by rw [looked]; exact .refl _)
    have grounded := expansion.grounded (nodeFor_grounded levels) sound.rests sound.ground
    exact (expansion.null ⟨d, known, rfl⟩ step sound).decorated grounded finish
      (TypeGraph.not_isNullable known cls)

end

/-- **The node of a type is as it is due**, at every number of levels. -/
theorem nodeFor_null (levels : Nat) : (nodeFor gen g levels).BuildsNull gen g :=
  fun ty field? t id t' h => nodeFor_descent
    (P := fun ty _ t id t' => t.NullSound gen g →
      t'.NullBuilt gen g id fun a id => g.NullDue gen.config.nullEncoding a id ty)
    (fun _ step _ _ _ _ _ _ known hs ht => hs.null known step ht) levels ty field? t id t' h

/-! ### Generations -/

/-- **Null is admitted exactly where the type says so**: a generated schema has nothing that only
the other encoding uses, its root admits null iff its type is a nullable wrapper, and so does each
property of each object that is expanded in it, for the type of the field that counts. -/
theorem generate_null {root : TypeId} {w w' : Workspace} {s : GeneratedSchema}
    (h : generate gen g root w = .ok s w') :
    s.arena.All gen.config.nullEncoding.Allows ∧
      g.NullDue gen.config.nullEncoding s.arena s.root root ∧
      gen.ObjectsDue g w'.registry s.arena := by
  obtain ⟨t, hn, hs, rfl⟩ := generate_ok h
  have built := nodeFor_null _ _ _ _ _ _ hn (Traversal.nullSound_begin gen g w)
  have arena : s.arena = t.arena := by rw [hs]
  rw [arena]
  exact ⟨built.encoded.imp fun _ hn => hn.allowed, built.due, built.objects⟩

/-- An object with two fields of one name, of which only the first is nullable, and a nullable
wrapper twice around it. -/
def TypeGraph.repeatedField : TypeGraph := .ofTypes #[
  { identity := "String", name := "String", shape := .scalar .string },
  { identity := "String?", name := "String?", shape := .nullable ⟨0⟩ },
  { identity := "A", name := "A",
    shape := .object { fields := [{ name := "x", type := ⟨1⟩ }, { name := "x", type := ⟨0⟩ }] } },
  { identity := "A?", name := "A?", shape := .nullable ⟨2⟩ },
  { identity := "A??", name := "A??", shape := .nullable ⟨3⟩ }]

/-- Two wrappers around each other admit null once. -/
theorem generate_null_repeatedField :
    ∃ s w', generate (.plain {}) .repeatedField ⟨4⟩ {} = .ok s w' ∧
      (∀ j n, s.arena.get? j = some n → n.nullable = false) ∧ s.arena.AdmitsNull .union s.root ∧
      Generator.ObjectsDue (.plain {}) .repeatedField w'.registry s.arena := by
  have computed : Work.value? (do
      let s ← generate (.plain {}) .repeatedField ⟨4⟩
      return (s.arena.size, (← get).throttled)) {} = some (8, 0) := by cbv
  obtain ⟨s, w', hs, -⟩ := Work.ok_of_reading computed
  obtain ⟨allowed, root, objects⟩ := generate_null hs
  exact ⟨s, w', hs, allowed, root.nullable ⟨⟨3⟩, rfl⟩, objects⟩

theorem TypeGraph.hasClass_repeatedField {ty : TypeId} {o : ObjectShape}
    (h : TypeGraph.repeatedField.HasClass ty (.object (some o))) :
    o.fields = [{ name := "x", type := ⟨1⟩ }, { name := "x", type := ⟨0⟩ }] := by
  obtain ⟨d, known, cls⟩ := h
  obtain ⟨index⟩ := ty
  rcases index with _ | _ | _ | _ | _ | index
  all_goals cases known
  all_goals cases cls
  rfl

/-- With room for one field the first one counts, and not the last one that is declared. -/
theorem not_generate_null :
    ¬ ∀ (gen : Generator) (g : TypeGraph) (root : TypeId) (s : GeneratedSchema) (w' : Workspace),
      generate gen g root {} = .ok s w' →
      ∀ j n i, s.arena.get? j = some n → n.identifier? = some i →
        ∃ ty o, g.HasClass ty (.object (some o)) ∧ g.Holds w'.registry ty i ∧
          ∀ name c f, n.properties.get? name = some c →
            (o.fields.filter (·.name = name)).getLast? = some f →
            g.NullDue gen.config.nullEncoding s.arena c f.type := by
  intro h
  have computed : Work.value? (do
      let s ← generate (.plain { memberThreshold? := some 1 }) .repeatedField ⟨2⟩
      return ((s.arena.get? ⟨3⟩).map fun n => (n.identifier?, n.properties.get? "x"),
        (s.arena.get? ⟨2⟩).map (·.kind))) {} =
      some (some (some "A", some ⟨2⟩), some (.anyOf [⟨0⟩, ⟨1⟩])) := by cbv
  obtain ⟨s, w', hs, hread⟩ := Work.ok_of_reading computed
  obtain ⟨hobject, hproperty⟩ := Prod.mk.inj hread
  obtain ⟨n, hn, hn'⟩ := Option.map_eq_some_iff.1 hobject
  obtain ⟨identifier, property⟩ := Prod.mk.inj hn'
  obtain ⟨m, hm, kind⟩ := Option.map_eq_some_iff.1 hproperty
  obtain ⟨ty, o, cls, -, due⟩ := h _ _ _ s w' hs ⟨3⟩ n "A" hn identifier
  -- the last field that is declared is not nullable, but its property is a union
  have last : (o.fields.filter (·.name = "x")).getLast? = some { name := "x", type := ⟨0⟩ } := by
    rw [TypeGraph.hasClass_repeatedField cls]
    rfl
  have plain : ¬ TypeGraph.repeatedField.IsNullable ⟨0⟩ := by
    rintro ⟨_, hshape⟩
    cases hshape
  obtain ⟨m', hm', -, single⟩ := (due "x" _ _ property last).plain plain
  cases hm.symm.trans hm'
  exact (single.notUnion _).1 kind

end TypeSchema
