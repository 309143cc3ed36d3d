import TypeSchema.Proofs.Generation.Described
import TypeSchema.Proofs.Schema.Path

/-!
# Generation — the nodes that are added

An expansion that is not cut off adds nodes of a primitive type, made from the nodes of the parts:
none for a leaf or an override, those of its parts for a collection and those of its fields for an
object.  Only the node of an object names a component.  `n.IsMadeOf identifier? ids` says so, in one
form for all of them.  None of them is decorated when it is added (`IsBare`).
-/

namespace TypeSchema

/-- The node has a primitive type, expands the component if there is one, and has only these nodes
below it. -/
structure SchemaNode.IsMadeOf (n : SchemaNode) (identifier? : Option String) (ids : List NodeId) :
    Prop where
  primitive : ∃ p, n.kind = .primitive p
  identifier : n.identifier? = identifier?
  children : ∀ c ∈ n.children, c ∈ ids

namespace SchemaNode

theorem isMadeOf_ofPrimitive (p : PrimitiveType) (format? : Option String) :
    (ofPrimitive p format?).IsMadeOf none [] := ⟨⟨p, rfl⟩, rfl, fun _ h => h⟩

theorem isMadeOf_override (o : ScalarOverride) : o.node.IsMadeOf none [] :=
  isMadeOf_ofPrimitive _ _

/-- A leaf node is made of nothing. -/
theorem isMadeOf_leafNode? {gen : Generator} {d : TypeDescriptor} {cls : Classification}
    {n : SchemaNode} {events : List DiagnosticEvent} (h : leafNode? gen d cls = some (n, events)) :
    n.IsMadeOf none [] := by
  obtain ⟨p, _, _, _, rfl, -⟩ := isPartless_leafNode? h
  exact ⟨⟨p, rfl⟩, rfl, fun _ h => h⟩

/-- A collection's node is made of the nodes of its parts. -/
theorem isMadeOf_collectionNode? {cls : Classification} {ids : List NodeId} {n : SchemaNode}
    (h : cls.collectionNode? ids = some n) : n.IsMadeOf none ids := by
  refine ⟨(isPlain_collectionNode? h).1, ?_, (collectionNode?_children h).2⟩
  unfold Classification.collectionNode? at h
  split at h <;> cases h <;> rfl

/-- An object's node is made of the nodes of its fields and bears its identifier. -/
theorem isMadeOf_objectNode (gen : Generator) (o : ObjectShape) (i : String) (ids : List NodeId) :
    (objectNode gen o i ids).IsMadeOf (some i) ids :=
  ⟨(isPlain_objectNode gen o i ids).1, rfl, (objectNode_children gen o i ids).2⟩

namespace IsMadeOf

variable {n : SchemaNode} {identifier? : Option String} {ids : List NodeId}

theorem not_isShared (h : n.IsMadeOf identifier? ids) : ¬ n.isShared := by
  obtain ⟨⟨p, kind⟩, -, -⟩ := h
  simp [isShared, kind]

/-- What such a node encloses is among what it is made of. -/
theorem mem_inner (h : n.IsMadeOf identifier? ids) {c : NodeId} (hc : c ∈ n.inner) : c ∈ ids :=
  h.children c (n.children_eq ▸ List.mem_append_left n.beside hc)

theorem beside_eq (h : n.IsMadeOf identifier? ids) : n.beside = [] := by
  obtain ⟨⟨p, kind⟩, -, -⟩ := h
  simp [beside, kind]

/-- It is placed if what it is made of is placed one step further down. -/
theorem placed (h : n.IsMadeOf identifier? ids) {a : Arena} {limit k : Nat} {names : List String}
    {id : NodeId} (node : a.get? id = some n) (within : k ≤ limit)
    (parts : ∀ c ∈ ids, a.Placed limit (k + 1) (identifier?.toList ++ names) c) :
    a.Placed limit k names id := by
  obtain ⟨p, kind⟩ := h.primitive
  refine .intro node within (fun p hp => ?_) (fun c hc => ?_) fun c hc => ?_
  · rw [kind] at hp; cases hp
  · rw [h.identifier]; exact parts c (h.mem_inner hc)
  · rw [h.beside_eq] at hc; cases hc

end IsMadeOf

/-! ### Nodes without decoration -/

/-- The node is as an expansion adds it: it has no keywords, no flag for null and no example, and
requires only properties that it has. -/
structure IsBare (n : SchemaNode) : Prop where
  nullable : n.nullable = false
  keywords : n.keywords = {}
  example? : n.example? = none
  required : ∀ name, n.required.contains name → n.properties.contains name

namespace IsBare

/-- A node without required properties. -/
theorem of_fields {n : SchemaNode} (nullable : n.nullable = false) (keywords : n.keywords = {})
    (example? : n.example? = none) (required : n.required = {}) : n.IsBare :=
  ⟨nullable, keywords, example?, fun name h => by rw [required] at h; cases h⟩

/-- A node that has nothing but its kind. -/
theorem of_kind (kind : NodeKind) : ({ kind } : SchemaNode).IsBare := .of_fields rfl rfl rfl rfl

theorem of_ofPrimitive (p : PrimitiveType) (format? : Option String) :
    (ofPrimitive p format?).IsBare := .of_fields rfl rfl rfl rfl

theorem of_override (o : ScalarOverride) : o.node.IsBare := of_ofPrimitive _ _

/-- A leaf node is bare. -/
theorem of_leafNode? {gen : Generator} {d : TypeDescriptor} {cls : Classification}
    {n : SchemaNode} {events : List DiagnosticEvent} (h : leafNode? gen d cls = some (n, events)) :
    n.IsBare := by
  obtain ⟨_, _, _, _, rfl, -⟩ := isPartless_leafNode? h
  exact .of_fields rfl rfl rfl rfl

/-- A collection's node is bare. -/
theorem of_collectionNode? {cls : Classification} {ids : List NodeId} {n : SchemaNode}
    (h : cls.collectionNode? ids = some n) : n.IsBare := by
  unfold Classification.collectionNode? at h
  split at h
  case h_1 | h_2 => cases h; exact .of_fields rfl rfl rfl rfl
  case h_3 key value keyNode valueNode =>
    cases h
    refine ⟨rfl, rfl, rfl, fun name hname => ?_⟩
    simpa [SortedMap.ofList, SortedMap.contains_iff] using hname
  case h_4 => cases h

/-- Adding fields adds the properties that it requires. -/
theorem of_withFields {n : SchemaNode} (h : n.IsBare) (fields : List (Field × NodeId)) :
    (n.withFields fields).IsBare := by
  induction fields generalizing n with
  | nil => exact h
  | cons p rest ih =>
    refine ih ⟨h.nullable, h.keywords, h.example?, fun name hname => ?_⟩
    simp only [SortedMap.contains_insert, Bool.or_eq_true, beq_iff_eq]
    by_cases hr : p.1.required
    · simp only [hr, if_true, SortedMap.contains_insert, Bool.or_eq_true, beq_iff_eq] at hname
      exact hname.imp_right (h.required name)
    · simp only [hr] at hname
      exact .inr (h.required name hname)

/-- An object's node is bare, its identifier apart. -/
theorem of_objectNode (gen : Generator) (o : ObjectShape) (i : String) (ids : List NodeId) :
    (objectNode gen o i ids).IsBare := by
  have bare := (of_ofPrimitive .object none).of_withFields
    ((keptFields gen.config.memberThreshold? (sortedFields o)).1.zip ids)
  exact ⟨bare.nullable, bare.keywords, bare.example?, bare.required⟩

end IsBare

end SchemaNode

end TypeSchema
