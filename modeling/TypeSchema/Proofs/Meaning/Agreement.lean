import TypeSchema.Proofs.Generation.Links
import TypeSchema.Proofs.Graph.Built
import TypeSchema.Proofs.Meaning.Describes

/-!
# Meaning — a schema accepts the values of the type it describes

Under a configuration that leaves nothing out (`Generator.Faithful`), and for a graph without
constraints (`TypeGraph.Unconstrained`), a node that describes a type is rendered as a schema that
accepts just the values of the type (`Describes.agrees`).

A field, an element or an entry is smaller than the value around it, and a reference leads to the
fields of an object, so the proof is by induction on the size of the value.  Only null is added
around a value of the same size, and the schema around it is larger: inside, the proof is by
induction on what the node describes.
-/

namespace TypeSchema

/-- Nothing is left out, renamed or replaced, and null is an alternative of its own. -/
structure Generator.Faithful (gen : Generator) : Prop where
  version : gen.config.version = .v31
  mode : gen.config.enumMode = .string
  naming : gen.config.enumNaming = .preserve
  renamer : gen.config.enumRenamer? = none
  literals : gen.config.enumThreshold = 0
  fields : gen.config.memberThreshold? = none
  overrides : gen.overrides = SortedMap.empty

/-- No type and no field has constraints, the fields of an object have different names, and every
enumeration has a member. -/
structure TypeGraph.Unconstrained (g : TypeGraph) : Prop where
  types : ∀ ty d, g.describe? ty = some d → d.constraints = []
  fields : ∀ ty o, g.shape? ty = some (.object o) → ∀ f ∈ o.fields, f.constraints = []
  names : ∀ ty o, g.shape? ty = some (.object o) → (o.fields.map (·.name)).Nodup
  members : ∀ ty e, g.shape? ty = some (.enumeration e) → e.members ≠ []

namespace SchemaNode

variable {accepts : NodeId → Json → Prop} {v : Json}

/-- A node without children is fitted by its literals. -/
theorem fits_leaf_iff {n : SchemaNode} (properties : n.properties = {}) (required : n.required = {})
    (items : n.items? = none) (additional : n.additional? = none) :
    n.Fits accepts v ↔ n.enumValues = [] ∨ v ∈ n.enumValues := by
  refine ⟨fun h => h.literal, fun h => ⟨h, ?_, ?_, ?_, ?_⟩⟩
  · intro _ _ _ _ hc; rw [properties] at hc; cases hc
  · intro _ _ _ hname; rw [required] at hname; cases hname
  · intro _ _ _ hc; rw [items] at hc; cases hc
  · intro _ _ _ hc; rw [additional] at hc; cases hc

theorem fits_ofPrimitive (p : PrimitiveType) (format? : Option String) :
    (SchemaNode.ofPrimitive p format?).Fits accepts v :=
  (fits_leaf_iff rfl rfl rfl rfl).2 (.inl rfl)

theorem fits_array_iff {c : NodeId} {items : List Json} :
    { SchemaNode.ofPrimitive .array with items? := some c }.Fits accepts (.array items) ↔
      ∀ x ∈ items, accepts c x := by
  refine ⟨fun h => h.items items rfl c rfl, fun h => ⟨.inl rfl, ?_, ?_, ?_, ?_⟩⟩
  · intro _ hv; cases hv
  · intro _ hv; cases hv
  · intro vs hv c' hc; cases hv; cases hc; exact h
  · intro _ hv; cases hv

theorem fits_map_iff {c : NodeId} {fields : List (String × Json)} :
    { SchemaNode.ofPrimitive .object with additional? := some c }.Fits accepts (.object fields) ↔
      ∀ e ∈ fields, accepts c e.2 := by
  constructor
  · intro h e he
    exact h.additional fields rfl c rfl e he List.not_mem_nil
  · refine fun h => ⟨.inl rfl, ?_, ?_, ?_, ?_⟩
    · intro _ _ _ _ hc; cases hc
    · intro _ _ _ hname; cases hname
    · intro _ hv; cases hv
    · intro fs hv c' hc e he _; cases hv; cases hc; exact h e he

/-- An object without a schema for other fields is fitted by way of its properties. -/
theorem fits_object_iff {n : SchemaNode} (literals : n.enumValues = [])
    (additional : n.additional? = none) {fields : List (String × Json)} :
    n.Fits accepts (.object fields) ↔
      (∀ e ∈ n.properties.toList, ∀ x, SortedMap.lookup e.1 fields = some x → accepts e.2 x) ∧
        ∀ name ∈ n.required.keys, (SortedMap.lookup name fields).isSome := by
  constructor
  · exact fun h => ⟨fun e he => h.properties fields rfl e.1 e.2 he, h.required fields rfl⟩
  · refine fun h => ⟨.inl literals, ?_, ?_, ?_, ?_⟩
    · intro fs hv name c hc; cases hv; exact h.1 (name, c) hc
    · intro fs hv; cases hv; exact h.2
    · intro _ hv; cases hv
    · intro _ _ _ hc; rw [additional] at hc; cases hc

/-- An entry of a map is fitted by way of its key and its value. -/
theorem fits_pair_iff {key value : NodeId} {fields : List (String × Json)} :
    { SchemaNode.ofPrimitive .object with
        properties := .ofList [("key", key), ("value", value)]
        required := .ofList [("key", ()), ("value", ())] }.Fits accepts (.object fields) ↔
      ((∀ x, SortedMap.lookup "key" fields = some x → accepts key x) ∧
        ∀ x, SortedMap.lookup "value" fields = some x → accepts value x) ∧
      (SortedMap.lookup "key" fields).isSome ∧ (SortedMap.lookup "value" fields).isSome := by
  have properties : ∀ e, e ∈ (SortedMap.ofList [("key", key), ("value", value)]).toList ↔
      e = ("key", key) ∨ e = ("value", value) := fun e => by
    rw [SortedMap.mem_toList_ofList_iff (by simp)]
    simp
  have names : ∀ name, name ∈ (SortedMap.ofList [("key", ()), ("value", ())]).keys ↔
      name = "key" ∨ name = "value" := fun name => by
    simp [SortedMap.mem_keys_iff, SortedMap.ofList, SortedMap.contains_iff, or_comm]
  rw [fits_object_iff rfl rfl]
  simp only [properties, names, forall_eq_or_imp, forall_eq]

/-! ### Fields -/

theorem withFields_eq (n : SchemaNode) (l : List (Field × NodeId)) :
    n.withFields l = { n with
      properties := (n.withFields l).properties, required := (n.withFields l).required } := by
  induction l generalizing n with
  | nil => rfl
  | cons p rest ih => exact ih _

theorem properties_withFields (p : PrimitiveType) (l : List (Field × NodeId)) :
    ((SchemaNode.ofPrimitive p).withFields l).properties =
      SortedMap.ofList (l.map fun q => (q.1.name, q.2)) := by
  have fold : ∀ (n : SchemaNode) (l : List (Field × NodeId)), (n.withFields l).properties =
      (l.map fun q => (q.1.name, q.2)).foldl (fun m e => m.insert e.1 e.2) n.properties := by
    intro n l
    induction l generalizing n with
    | nil => rfl
    | cons q rest ih => exact ih _
  exact fold _ l

/-- The properties of an object are its fields by name. -/
theorem mem_properties_withFields {l : List (Field × NodeId)}
    (nodup : (l.map (·.1.name)).Nodup) {p : PrimitiveType} {e : String × NodeId} :
    e ∈ ((SchemaNode.ofPrimitive p).withFields l).properties.toList ↔
      ∃ f, (f, e.2) ∈ l ∧ f.name = e.1 := by
  have hnodup : ((l.map fun q => (q.1.name, q.2)).map (·.1)).Nodup := by
    rwa [List.map_map]
  rw [properties_withFields, SortedMap.mem_toList_ofList_iff hnodup, List.mem_map]
  constructor
  · rintro ⟨⟨f, c⟩, hm, rfl⟩
    exact ⟨f, hm, rfl⟩
  · rintro ⟨f, hm, hname⟩
    exact ⟨(f, e.2), hm, Prod.ext hname rfl⟩

/-- The names that an object requires are those of its required fields. -/
theorem mem_required_withFields {l : List (Field × NodeId)} {p : PrimitiveType} {name : String} :
    name ∈ ((SchemaNode.ofPrimitive p).withFields l).required.keys ↔
      ∃ q ∈ l, q.1.required ∧ q.1.name = name := by
  -- the fields are added one by one, to any node
  have fold : ∀ (n : SchemaNode) (l : List (Field × NodeId)),
      (n.withFields l).required.contains name ↔
        n.required.contains name ∨ ∃ q ∈ l, q.1.required ∧ q.1.name = name := by
    intro n l
    induction l generalizing n with
    | nil => simp [withFields]
    | cons q rest ih =>
      refine (ih _).trans ?_
      simp only [List.mem_cons, exists_eq_or_imp]
      by_cases hr : q.1.required
      · simp only [hr, if_true, SortedMap.contains_insert, Bool.or_eq_true, beq_iff_eq, true_and]
        rw [eq_comm (a := name), or_assoc, or_left_comm]
      · simp [hr]
  rw [SortedMap.mem_keys_iff, fold]
  exact or_iff_right fun h => Bool.false_ne_true h

/-- A node made from fields is fitted field by field. -/
theorem fits_withFields_iff {l : List (Field × NodeId)} (nodup : (l.map (·.1.name)).Nodup)
    {identifier? : Option String} {fields : List (String × Json)} :
    { (SchemaNode.ofPrimitive .object).withFields l with identifier? }.Fits accepts
        (.object fields) ↔
      (∀ q ∈ l, ∀ x, SortedMap.lookup q.1.name fields = some x → accepts q.2 x) ∧
        ∀ q ∈ l, q.1.required → (SortedMap.lookup q.1.name fields).isSome := by
  rw [fits_object_iff (by rw [withFields_eq]; rfl) (by rw [withFields_eq]; rfl)]
  refine and_congr ⟨fun h q hq x hx => ?_, fun h e he x hx => ?_⟩
    ⟨fun h q hq hr => ?_, fun h name hn => ?_⟩
  · exact h (q.1.name, q.2) ((mem_properties_withFields nodup).2 ⟨q.1, hq, rfl⟩) x hx
  · obtain ⟨f, hm, hname⟩ := (mem_properties_withFields nodup).1 he
    exact h (f, e.2) hm x (by rw [hname]; exact hx)
  · exact h q.1.name (mem_required_withFields.2 ⟨q, hq, hr, rfl⟩)
  · obtain ⟨q, hq, hr, rfl⟩ := mem_required_withFields.1 hn
    exact h q hq hr

end SchemaNode

/-- The node of an object has all its fields. -/
theorem objectNode_of_faithful {gen : Generator} (faithful : gen.Faithful) (o : ObjectShape)
    (identifier : String) (ids : List NodeId) : objectNode gen o identifier ids =
      { (SchemaNode.ofPrimitive .object).withFields ((sortedFields o).zip ids) with
        identifier? := some identifier } := by
  simp only [objectNode, keptFields, faithful.fields]
  rw [SchemaNode.withFields_eq]
  rfl

theorem ScalarKind.exists_node_eq (kind : ScalarKind) :
    ∃ format?, kind.node = .ofPrimitive kind.primitive format? := by
  unfold node primitive
  cases kind.mapping? with
  | none => exact ⟨_, rfl⟩
  | some p => exact ⟨_, rfl⟩

/-- A faithful generator writes all members of an enumeration, by their names. -/
theorem encode_of_faithful {gen : Generator} (faithful : gen.Faithful) (typeName : String)
    (e : Enumeration) : gen.config.enumEncoding.encode typeName e =
      ({ SchemaNode.ofPrimitive .string with
          enumValues := e.members.map fun m => .string m.name }, []) := by
  have hrename : ∀ name, gen.config.enumEncoding.rename name = name := by
    intro name
    simp only [Config.enumEncoding, EnumEncoding.rename, faithful.renamer, faithful.naming]
    rfl
  have hmode : gen.config.enumEncoding.mode = .string := faithful.mode
  have hthreshold : gen.config.enumEncoding.threshold = 0 := faithful.literals
  simp [EnumEncoding.encode, EnumEncoding.complete, EnumEncoding.truncate, hmode, hthreshold,
    hrename]

/-- A leaf is fitted by the values of its class. -/
theorem leafNode?_fits {gen : Generator} (faithful : gen.Faithful) {d : TypeDescriptor}
    {cls : Classification} (members : ∀ e, cls = .enumeration e → e.members ≠ [])
    {n : SchemaNode} {events : List DiagnosticEvent} (h : leafNode? gen d cls = some (n, events)) :
    ∃ p, n.kind = .primitive p ∧ ∀ (accepts : NodeId → Json → Prop)
      (inhabits : Json → TypeId → Prop) (v : Json),
        p.Admits v ∧ n.Fits accepts v ↔ cls.Admits inhabits v := by
  cases cls with
  | scalar kind =>
    obtain ⟨format?, hnode⟩ := kind.exists_node_eq
    cases h
    exact ⟨kind.primitive, by rw [hnode]; rfl, fun _ _ _ =>
      and_iff_left (by rw [hnode]; exact SchemaNode.fits_ofPrimitive _ _)⟩
  | bytes =>
    cases h
    exact ⟨.string, rfl, fun _ _ _ => and_iff_left (SchemaNode.fits_ofPrimitive _ _)⟩
  | enumeration e =>
    simp only [leafNode?, encode_of_faithful faithful] at h
    cases h
    refine ⟨.string, rfl, fun accepts inhabits v => ?_⟩
    rw [SchemaNode.fits_leaf_iff rfl rfl rfl rfl]
    have hne : e.members.map (fun m => Json.string m.name) ≠ [] := by
      simpa using members e rfl
    simp only [hne, false_or, List.mem_map, Classification.Admits]
    constructor
    · rintro ⟨-, m, hm, rfl⟩
      exact ⟨m, hm, rfl⟩
    · rintro ⟨m, hm, rfl⟩
      exact ⟨trivial, m, hm, rfl⟩
  | object o? =>
    cases o? with
    | none =>
      cases h
      exact ⟨.object, rfl, fun _ _ _ => and_iff_left (SchemaNode.fits_ofPrimitive _ _)⟩
    | some o => cases h
  | _ => cases h

/-! ### Agreement on one value -/

/-- The schema is right about the value: its answers settle, and for the value being one of the
type. -/
def SchemaDocument.Agrees (d : SchemaDocument) (bound : BoundReading) (g : TypeGraph) (s : Json)
    (ty : TypeId) (v : Json) : Prop :=
  Settles (fun levels => d.Satisfies bound levels s v) (g.Inhabits v ty)

theorem Json.sizeOf_lt_item {items : List Json} {x : Json} (h : x ∈ items) :
    sizeOf x < sizeOf (Json.array items) := by
  have := List.sizeOf_lt_of_mem h
  simp only [Json.array.sizeOf_spec]
  omega

theorem Json.sizeOf_lt_field {fields : List (String × Json)} {e : String × Json}
    (h : e ∈ fields) : sizeOf e.2 < sizeOf (Json.object fields) := by
  have := List.sizeOf_lt_of_mem h
  have : sizeOf e = 1 + sizeOf e.1 + sizeOf e.2 := rfl
  simp only [Json.object.sizeOf_spec]
  omega

theorem Json.sizeOf_lt_lookup {fields : List (String × Json)} {key : String} {x : Json}
    (h : SortedMap.lookup key fields = some x) : sizeOf x < sizeOf (Json.object fields) :=
  Json.sizeOf_lt_field (SortedMap.mem_of_lookup h)

namespace Arena

/-- Children come before parents, and no node has bounds. -/
structure Readable (a : Arena) : Prop where
  ranked : a.Ranked
  bare : a.All fun n => n.keywords = {}

variable {gen : Generator} {g : TypeGraph} {d : SchemaDocument} {bound : BoundReading}
  {a : Arena} {id : NodeId} {ty : TypeId} {v : Json}

/-- What the schema of a node of a primitive type accepts. -/
theorem Readable.satisfies_primitive (ha : a.Readable) {n : SchemaNode} {p : PrimitiveType}
    (shows : a.Shows id n) (kind : n.kind = .primitive p) (levels : Nat) :
    d.Satisfies bound (levels + 1) (a.render id) v ↔
      p.Admits v ∧ n.Fits (fun c => d.Satisfies bound levels (a.render c)) v := by
  obtain ⟨n', hn', halike⟩ := shows
  rw [ha.ranked.render_eq hn', SchemaNode.satisfies_primitive (ha.bare id n' hn')
    (halike.kind_eq.trans kind), halike.fits_iff]

/-- **A leaf node accepts the values of its type.** -/
theorem Readable.agrees_leaf (ha : a.Readable) (faithful : gen.Faithful)
    (plain : g.Unconstrained) {desc : TypeDescriptor} {n : SchemaNode}
    {events : List DiagnosticEvent} (known : g.describe? ty = some desc)
    (node : leafNode? gen desc (g.classify desc.shape) = some (n, events))
    (shows : a.Shows id n) : d.Agrees bound g (a.render id) ty v := by
  have members : ∀ e, g.classify desc.shape = .enumeration e → e.members ≠ [] := by
    intro e he
    refine plain.members ty e ?_
    rw [TypeGraph.shape?, known, Option.map_some, TypeGraph.classify_eq_enumeration_iff.1 he]
  obtain ⟨p, kind, hfits⟩ := leafNode?_fits faithful members node
  refine Settles.succ (p := fun _ => g.Inhabits v ty) (.of_iff fun _ => Iff.rfl) fun levels => ?_
  rw [ha.satisfies_primitive shows kind, TypeGraph.inhabits_iff ⟨desc, known, rfl⟩]
  exact hfits _ _ _

/-- A schema is right about a value if it is so about the values of its primitive type, and the
type has no others. -/
theorem Readable.agrees_of_fits (ha : a.Readable) {n : SchemaNode} {p : PrimitiveType}
    {cls : Classification} (shows : a.Shows id n) (kind : n.kind = .primitive p)
    (known : g.HasClass ty cls) (only : cls.Admits g.Inhabits v → p.Admits v)
    (fits : p.Admits v → Settles (fun levels => n.Fits
      (fun c => d.Satisfies bound levels (a.render c)) v) (cls.Admits g.Inhabits v)) :
    d.Agrees bound g (a.render id) ty v := by
  refine Settles.succ ?_ (ha.satisfies_primitive shows kind)
  rw [TypeGraph.inhabits_iff known]
  by_cases hp : p.Admits v
  · exact (fits hp).congr (fun _ => and_iff_right hp) Iff.rfl
  · exact .of_iff fun _ => iff_of_false (fun h => hp h.1) fun h => hp (only h)

/-- A sequence, a map or an entry of a map, of whose parts the schemas are right about smaller
values. -/
theorem Readable.agrees_collection (ha : a.Readable) {cls : Classification} {ids : List NodeId}
    {n : SchemaNode} {limit? : Option Nat} (known : g.HasClass ty cls)
    (node : cls.collectionNode? ids = some n) (shows : a.Shows id n)
    (parts : ∀ p ∈ (cls.parts limit?).zip ids, ∀ x, sizeOf x < sizeOf v →
      d.Agrees bound g (a.render p.2) p.1.1 x) : d.Agrees bound g (a.render id) ty v := by
  unfold Classification.collectionNode? at node
  split at node
  case h_1 element items =>
    cases node
    refine ha.agrees_of_fits shows rfl known (fun ⟨vs, hv, _⟩ => hv ▸ trivial) fun hp => ?_
    obtain ⟨vs, rfl⟩ := PrimitiveType.admits_array_iff.1 hp
    have each : Settles (fun m => ∀ x ∈ vs, d.Satisfies bound m (a.render items) x)
        (∀ x ∈ vs, g.Inhabits x element) :=
      .forall_mem fun x hx => parts _ List.mem_cons_self x (Json.sizeOf_lt_item hx)
    exact each.congr (fun m => SchemaNode.fits_array_iff) (by simp [Classification.Admits])
  case h_2 value values =>
    cases node
    refine ha.agrees_of_fits shows rfl known (fun ⟨vs, hv, _⟩ => hv ▸ trivial) fun hp => ?_
    obtain ⟨fields, rfl⟩ := PrimitiveType.admits_object_iff.1 hp
    have each : Settles (fun m => ∀ e ∈ fields, d.Satisfies bound m (a.render values) e.2)
        (∀ e ∈ fields, g.Inhabits e.2 value) :=
      .forall_mem fun e he => parts _ List.mem_cons_self e.2 (Json.sizeOf_lt_field he)
    exact each.congr (fun m => SchemaNode.fits_map_iff) (by simp [Classification.Admits])
  case h_3 key value keyNode valueNode =>
    cases node
    refine ha.agrees_of_fits shows rfl known (fun ⟨vs, hv, _⟩ => hv ▸ trivial) fun hp => ?_
    obtain ⟨fields, rfl⟩ := PrimitiveType.admits_object_iff.1 hp
    have part : ∀ name child part, ((part, none), child) ∈
        ((Classification.pair key value).parts limit?).zip [keyNode, valueNode] →
        Settles (fun m => ∀ x, SortedMap.lookup name fields = some x →
            d.Satisfies bound m (a.render child) x)
          (∀ x, SortedMap.lookup name fields = some x → g.Inhabits x part) :=
      fun _ _ _ hm => .forall_eq_some fun x hx => parts _ hm x (Json.sizeOf_lt_lookup hx)
    have hkey := part "key" keyNode key List.mem_cons_self
    have hvalue := part "value" valueNode value
      (List.mem_cons_of_mem _ List.mem_cons_self)
    have required : Settles (fun _ => (SortedMap.lookup "key" fields).isSome ∧
        (SortedMap.lookup "value" fields).isSome) ((SortedMap.lookup "key" fields).isSome ∧
          (SortedMap.lookup "value" fields).isSome) := .of_iff fun _ => Iff.rfl
    refine ((hkey.and hvalue).and required).congr (fun m => SchemaNode.fits_pair_iff) ?_
    cases hk : SortedMap.lookup "key" fields <;>
      cases hv : SortedMap.lookup "value" fields <;> simp [Classification.Admits, hk, hv]
  case h_4 => cases node

/-- An object, of whose fields the schemas are right about smaller values. -/
theorem Readable.agrees_object (ha : a.Readable) (faithful : gen.Faithful)
    (plain : g.Unconstrained) {o : ObjectShape} {identifier : String} {ids : List NodeId}
    (known : g.HasClass ty (.object (some o)))
    (length : ids.length =
      ((Classification.object (some o)).parts gen.config.memberThreshold?).length)
    (shows : a.Shows id (objectNode gen o identifier ids))
    (parts : ∀ p ∈ ((Classification.object (some o)).parts gen.config.memberThreshold?).zip ids,
      ∀ x, sizeOf x < sizeOf v → d.Agrees bound g (a.render p.2) p.1.1 x) :
    d.Agrees bound g (a.render id) ty v := by
  have hfields : (keptFields gen.config.memberThreshold? (sortedFields o)).1 = sortedFields o := by
    simp [keptFields, faithful.fields]
  simp only [Classification.parts, hfields, List.length_map] at length parts
  have perm : (sortedFields o).Perm o.fields := List.mergeSort_perm _ _
  have hfst : ((sortedFields o).zip ids).map (·.1) = sortedFields o :=
    List.map_fst_zip (Nat.le_of_eq length.symm)
  have nodup : (((sortedFields o).zip ids).map (·.1.name)).Nodup := by
    obtain ⟨desc, hdesc, hcls⟩ := known
    have hshape : g.shape? ty = some (.object o) := by
      rw [TypeGraph.shape?, hdesc, Option.map_some, TypeGraph.shape_of_classify_eq_object hcls]
    have hnames : ((sortedFields o).map (·.name)).Nodup :=
      (perm.map _).nodup_iff.2 (plain.names ty o hshape)
    rwa [← hfst, List.map_map] at hnames
  -- every field of the object has its node
  have fieldwise : ∀ {P : Field → Prop},
      (∀ f ∈ o.fields, P f) ↔ ∀ q ∈ (sortedFields o).zip ids, P q.1 := by
    intro P
    refine ⟨fun h q hq => h q.1 (perm.mem_iff.1 (List.of_mem_zip hq).1), fun h f hf => ?_⟩
    have hm : f ∈ ((sortedFields o).zip ids).map (·.1) := by rw [hfst]; exact perm.mem_iff.2 hf
    obtain ⟨q, hq, rfl⟩ := List.mem_map.1 hm
    exact h q hq
  rw [objectNode_of_faithful faithful] at shows
  have kind : ((SchemaNode.ofPrimitive .object).withFields ((sortedFields o).zip ids)).kind =
      .primitive .object := by rw [SchemaNode.withFields_eq]; rfl
  have admitted : (Classification.object (some o)).Admits g.Inhabits v →
      PrimitiveType.object.Admits v := by
    rintro ⟨vs, rfl, -⟩
    trivial
  refine ha.agrees_of_fits shows kind known admitted fun hp => ?_
  obtain ⟨fields, rfl⟩ := PrimitiveType.admits_object_iff.1 hp
  have each : Settles
      (fun m => ∀ q ∈ (sortedFields o).zip ids, ∀ x, SortedMap.lookup q.1.name fields = some x →
        d.Satisfies bound m (a.render q.2) x)
      (∀ q ∈ (sortedFields o).zip ids, ∀ x, SortedMap.lookup q.1.name fields = some x →
        g.Inhabits x q.1.type) := by
    refine .forall_mem fun q hq => .forall_eq_some fun x hx => ?_
    exact parts ((q.1.type, some q.1), q.2)
      (by rw [List.zip_map_left]; exact List.mem_map.2 ⟨q, hq, rfl⟩) x (Json.sizeOf_lt_lookup hx)
  have required : Settles
      (fun _ => ∀ q ∈ (sortedFields o).zip ids,
        q.1.required → (SortedMap.lookup q.1.name fields).isSome)
      (∀ q ∈ (sortedFields o).zip ids,
        q.1.required → (SortedMap.lookup q.1.name fields).isSome) := .of_iff fun _ => Iff.rfl
  refine (each.and required).congr (fun m => SchemaNode.fits_withFields_iff nodup) ?_
  simp only [Classification.Admits, Json.object.injEq, exists_eq_left', fieldwise]

/-! ### Null -/

/-- **A union with null accepts null and what the wrapped type's node accepts.** -/
theorem Readable.agrees_nullable (ha : a.Readable) {part null : NodeId} {inner : TypeId}
    (known : g.HasClass ty (.nullable inner)) (shows : a.Shows id { kind := .anyOf [part, null] })
    (none : a.Shows null { kind := .null }) (value : d.Agrees bound g (a.render part) inner v) :
    d.Agrees bound g (a.render id) ty v := by
  have leaf : ∀ {kind accepts}, ({ kind } : SchemaNode).Fits accepts v :=
    (SchemaNode.fits_leaf_iff rfl rfl rfl rfl).2 (.inl rfl)
  obtain ⟨n, hn, hlike⟩ := shows
  obtain ⟨n₀, hn₀, hlike₀⟩ := none
  have hnull : Settles (fun m => d.Satisfies bound m (a.render null) v) (v = .null) := by
    refine Settles.succ (p := fun _ => v = .null) (.of_iff fun _ => Iff.rfl) fun m => ?_
    rw [ha.ranked.render_eq hn₀, SchemaNode.satisfies_null (ha.bare _ _ hn₀) hlike₀.kind_eq,
      hlike₀.fits_iff]
    exact and_iff_left leaf
  refine Settles.succ ((hnull.or value).congr (fun _ => Iff.rfl) (TypeGraph.inhabits_iff known))
    fun m => ?_
  rw [ha.ranked.render_eq hn, SchemaNode.satisfies_anyOf (ha.bare _ _ hn) hlike.kind_eq,
    hlike.fits_iff, and_iff_left leaf]
  simp [or_comm]

/-- A type that admits null twice has the values of the type that admits it once. -/
theorem agrees_again {s : Json} {inner innermost : TypeId} (known : g.HasClass ty (.nullable inner))
    (twice : g.HasClass inner (.nullable innermost)) (value : d.Agrees bound g s inner v) :
    d.Agrees bound g s ty v := by
  refine value.congr (fun _ => Iff.rfl) ?_
  rw [TypeGraph.inhabits_iff known]
  refine or_iff_right_of_imp ?_
  rintro rfl
  exact .null twice

end Arena

/-! ### Agreement on all values -/

/-- The JSON value is the schema of a node that describes the type and stands for itself. -/
def Json.Describes (gen : Generator) (g : TypeGraph) (R : String → TypeId → Prop) (s : Json)
    (ty : TypeId) : Prop :=
  ∃ (a : Arena) (node : NodeId), a.Readable ∧ ¬ a.isShared node ∧ a.Describes gen g R node ty ∧
    (s = a.render node ∨ ∃ v, s = Json.withDefault "example" v (a.render node))

/-- Every component that `R` gives a type to is there and describes it. -/
def SchemaDocument.Resolves (d : SchemaDocument) (gen : Generator) (g : TypeGraph)
    (R : String → TypeId → Prop) : Prop :=
  ∀ i ty, R i ty → ∃ s, d.components.get? i = some s ∧ s.Describes gen g R ty

section

variable {gen : Generator} {g : TypeGraph} {R : String → TypeId → Prop} {d : SchemaDocument}
  {bound : BoundReading}

/-- **The schema of a node that describes a type is right about every value.** -/
theorem Arena.Describes.agrees (faithful : gen.Faithful) (plain : g.Unconstrained)
    (resolves : d.Resolves gen g R) {a : Arena} (ha : a.Readable) {id : NodeId} {ty : TypeId}
    (h : a.Describes gen g R id ty) (v : Json) : d.Agrees bound g (a.render id) ty v := by
  -- smaller values first; among values of one size, what the node describes
  induction hsize : sizeOf v using Nat.strongRecOn generalizing v a id ty with
  | _ size smaller =>
    subst hsize
    induction h with
    | leaf known node shows => exact ha.agrees_leaf faithful plain known node shows
    | collection known node shows parts =>
      exact ha.agrees_collection known node shows fun p hp x hx =>
        smaller _ hx ha (parts p hp) x rfl
    | object known length shows parts =>
      exact ha.agrees_object faithful plain known length shows fun p hp x hx =>
        smaller _ hx ha (parts p hp) x rfl
    | @pointed id ty o n identifier known node points noted =>
      obtain ⟨s, hs, a', node', ha', own, hdesc, hsup⟩ := resolves identifier ty noted
      -- the component is the node of an object, whose fields have smaller values
      have hobject : d.Agrees bound g (a'.render node') ty v := by
        cases hdesc with
        | leaf known' node _ =>
          obtain ⟨desc, hdesc, hcls⟩ := known
          obtain rfl := Option.some.inj (hdesc.symm.trans known')
          rw [hcls] at node
          cases node
        | collection known' node _ _ => cases known.unique known'; cases node
        | object known' length shows parts =>
          exact ha'.agrees_object faithful plain known' length shows fun p hp x hx =>
            smaller _ hx ha' (parts p hp) x rfl
        | pointed _ node points _ =>
          refine absurd (Arena.isShared_iff.2 ⟨_, node, ?_⟩) own
          rcases points with ⟨r, hr, -⟩ | ⟨p, hp, -⟩
          · simp [SchemaNode.isShared, hr]
          · simp [SchemaNode.isShared, hp]
        | nullable known' _ _ _ => cases known.unique known'
        | again known' _ _ => cases known.unique known'
      refine Settles.succ hobject fun m => ?_
      rw [ha.ranked.render_eq node, SchemaNode.satisfies_pointed points]
      simp only [hs, Option.some.injEq, exists_eq_left']
      rcases hsup with rfl | ⟨x, rfl⟩
      · exact Iff.rfl
      · exact SchemaDocument.satisfies_withDefault
    | nullable known shows none _ ih => exact ha.agrees_nullable known shows none ih
    | again known twice _ ih => exact agrees_again known twice ih

/-- A component that describes a type is right about every value. -/
theorem Json.Describes.agrees (faithful : gen.Faithful) (plain : g.Unconstrained)
    (resolves : d.Resolves gen g R) {s : Json} {ty : TypeId} (h : s.Describes gen g R ty)
    (v : Json) : d.Agrees bound g s ty v := by
  obtain ⟨a, node, ha, -, hdesc, hsup⟩ := h
  have hnode : d.Agrees bound g (a.render node) ty v := hdesc.agrees faithful plain resolves ha v
  rcases hsup with rfl | ⟨x, rfl⟩
  · exact hnode
  · exact hnode.congr (fun _ => SchemaDocument.satisfies_withDefault) Iff.rfl

end

end TypeSchema
