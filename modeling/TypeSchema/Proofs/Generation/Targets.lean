import Mathlib
import TypeSchema.Proofs.Generation.Described
import TypeSchema.Proofs.Generation.Placeholders
import TypeSchema.Proofs.Generation.Resolution

/-!
# Documents — what placeholders refer to

Each placeholder in a document is the rendering of one that some generation of the run gave out, so
it stands for a type that was cut off there.  If that type is an object its placeholder refers to
the component of the identifier that the object holds.  If it is a collection the placeholder refers
to nothing, also where the collection has a component because it is a root.

`Collected.Traced` follows the components back to the generations while a document is built;
`generateDocument_placeholders` reads it off the document.
-/

namespace TypeSchema

variable {gen : Generator} {g : TypeGraph}

/-! ### Schemas in components -/

/-- An example adds no stand-in. -/
theorem Json.HasSchema.of_withDefault {schema : List (String × Json)}
    (standIn : Json.IsStandIn schema) {v j : Json}
    (h : (Json.withDefault "example" v j).HasSchema schema) :
    j.HasSchema schema ∨ ∃ fields, j = .object fields ∧ Json.IsStandIn fields := by
  cases j with
  | object fields =>
    simp only [Json.withDefault] at h
    split at h
    · exact .inl h
    · have other : ∀ {key x}, key ≠ "example" →
          (key, x) ∈ SortedMap.insertEntry "example" v fields → (key, x) ∈ fields :=
        fun hk hm => (SortedMap.mem_insertEntry hm).resolve_left fun e => hk (congrArg Prod.fst e)
      cases h with
      | here =>
        obtain ⟨⟨key, x⟩, he, hkey⟩ := standIn
        have notExample : key ≠ "example" := by rcases hkey with rfl | rfl <;> decide
        exact .inr ⟨fields, rfl, (key, x), other notExample he, hkey⟩
      | keyword h inside inner => exact .inl (.keyword (other inside.1 h) inside inner)
      | property h member inner => exact .inl (.property (other (by decide) h) member inner)
  | _ => exact .inl h

/-- A stand-in in the schema of a node that stands for itself is the rendering of one. -/
theorem GeneratedSchema.Supplies.isShared_of_hasSchema {s : GeneratedSchema} {node : NodeId}
    {j : Json} (h : s.Supplies node j) (literals : s.arena.All SchemaNode.AtomicLiterals)
    (own : ¬ s.arena.isShared node) {schema : List (String × Json)}
    (standIn : Json.IsStandIn schema) (has : j.HasSchema schema) :
    ∃ k n, s.arena.get? k = some n ∧ n.isShared ∧ s.arena.render k = .object schema := by
  rcases h with rfl | ⟨v, rfl⟩
  · exact Arena.isShared_of_hasSchema literals standIn has
  · rcases has.of_withDefault standIn with has | ⟨fields, rendered, standIn'⟩
    · exact Arena.isShared_of_hasSchema literals standIn has
    · exact absurd standIn' (s.arena.not_isStandIn_render literals own rendered)

/-- The literals of a schema are atoms, and its root and its components stand for themselves. -/
structure GeneratedSchema.SelfStanding (s : GeneratedSchema) : Prop where
  literals : s.arena.All SchemaNode.AtomicLiterals
  root : ¬ s.arena.isShared s.root
  expanded : ∀ i node, s.identifiers.get? i = some node → ¬ s.arena.isShared node

/-- The root and the components of a generated schema stand for themselves. -/
theorem generate_selfStanding {root : TypeId} {w w' : Workspace} {s : GeneratedSchema}
    (h : generate gen g root w = .ok s w') : s.SelfStanding := by
  have objects := (generate_keywords h).2
  obtain ⟨t, hn, hs, -⟩ := generate_ok h
  have room : 0 < (w.begin gen).guard.maxDepth :=
    Nat.lt_of_lt_of_le Nat.one_pos (Nat.le_max_left ..)
  have own := nodeFor_own hn rfl room fun _ => rfl
  refine ⟨?_, ?_, fun i node hi => ?_⟩
  · rw [hs]
    exact (nodeFor_linked hn (Traversal.linked_begin g w gen)).literals
  · rw [hs]
    exact own.not_isShared
  · obtain ⟨n, hn, kind, -⟩ := objects i node hi
    rw [Arena.isShared_eq hn]
    simp [SchemaNode.isShared, kind]

/-! ### Following components back -/

/-- In the generation the node is given out for the type when that is cut off for the reason. -/
abbrev Call.StandsFor (gen : Generator) (g : TypeGraph) (call : Call) :
    TypeId → CutReason → NodeId → Prop :=
  TypeSchema.StandsFor gen g call.type call.before

/-- What is known of the generations so far and of the components that they gave, when the registry
is `r`. -/
structure Collected.Traced (gen : Generator) (g : TypeGraph) (r : Registry) (c : Collected)
    (calls : List Call) : Prop where
  stands : ∀ call ∈ calls, call.schema.StandsOnce g r (call.StandsFor gen g)
  literals : ∀ call ∈ calls, call.schema.arena.All SchemaNode.AtomicLiterals
  origin : ∀ key j, c.components.get? key = some j → ∃ call ∈ calls, ∃ node,
    ¬ call.schema.arena.isShared node ∧ call.schema.Supplies node j

namespace Collected.Traced

theorem start (r : Registry) : Traced gen g r {} [] := by
  refine ⟨fun call h => (List.not_mem_nil h).elim, fun call h => (List.not_mem_nil h).elim,
    fun key j h => ?_⟩
  simp [EmptyCollection.emptyCollection] at h

/-- What comes from an earlier generation comes from one of more generations. -/
theorem added {r r' : Registry} {c c' : Collected} {calls : List Call} {call : Call} {id : String}
    (h : c.Traced gen g r calls) (grows : r.Grows r')
    (stands : call.schema.StandsOnce g r' (call.StandsFor gen g))
    (selfStanding : call.schema.SelfStanding) {pending : SortedMap TypeId}
    (ha : Added call.schema id { c with pending } c') : c'.Traced gen g r' (calls ++ [call]) := by
  have last : call ∈ calls ++ [call] := List.mem_append_right _ (List.mem_singleton.2 rfl)
  refine ⟨List.forall_mem_append.2 ⟨fun old hold => (h.stands old hold).mono grows, ?_⟩,
    List.forall_mem_append.2 ⟨h.literals, ?_⟩, fun key j hj => ?_⟩
  · exact List.forall_mem_singleton.2 stands
  · exact List.forall_mem_singleton.2 selfStanding.literals
  · -- the component is that of the new type, was there before, or was expanded on the way
    by_cases hkey : key = id
    · obtain ⟨j', hj', supplies⟩ := ha.own
      obtain rfl : j = j' := Option.some.inj (hj.symm.trans (hkey ▸ hj'))
      exact ⟨call, last, _, selfStanding.root, supplies⟩
    · rcases ha.origin key j hkey hj with old | ⟨node, hnode, supplies⟩
      · obtain ⟨old, hold, node, own, supplies⟩ := h.origin key j old
        exact ⟨old, List.mem_append_left _ hold, node, own, supplies⟩
      · exact ⟨call, last, node, selfStanding.expanded key node hnode, supplies⟩

/-- **Every call keeps the components traced** to the nodes that supply them. -/
theorem invariant (gen : Generator) (g : TypeGraph) (roots : List TypeId) :
    CallInvariant gen g roots fun calls c w => c.Traced gen g w.registry calls where
  add _ assigned _ _ generated hr ha h := by
    obtain ⟨events, hassign⟩ := assignId_ok assigned
    have grows := (Registry.assign_spec hassign).1.trans (generate_linked generated).1
    rw [hr]
    exact h.added grows (generate_standsFor generated) (generate_selfStanding generated) ha
  skip _ _ h := ⟨h.stands, h.literals, h.origin⟩

end Collected.Traced

/-! ### Documents -/

/-- Only a placeholder is rendered with an `x-placeholder`. -/
theorem SchemaNode.isPlaceholder_of_render {n : SchemaNode} (shared : n.isShared)
    {child : NodeId → Json} {schema : List (String × Json)}
    (rendered : n.render child = .object schema) {v : Json}
    (h : ("x-placeholder", v) ∈ schema) : ∃ p, n.kind = .placeholder p := by
  unfold render at rendered
  cases hk : n.kind with
  | placeholder p => exact ⟨p, rfl⟩
  | reference r =>
    simp only [hk] at rendered
    have key := congrArg Prod.fst (List.mem_singleton.1 (Json.mem_of_ofFields rendered h))
    exact absurd key (by simp)
  | primitive _ | null | anyOf _ | oneOf _ | allOf _ => simp [isShared, hk] at shared

/-- Some component of the document has a schema with just these fields. -/
def SchemaDocument.HasSchema (d : SchemaDocument) (schema : List (String × Json)) : Prop :=
  ∃ key j, d.components.get? key = some j ∧ j.HasSchema schema

/-- The fields are those of a placeholder that the generation gave out for the type. -/
def Call.Cuts (gen : Generator) (g : TypeGraph) (call : Call) (x : TypeId)
    (schema : List (String × Json)) : Prop :=
  ∃ reason j, call.StandsFor gen g x reason j ∧ call.schema.arena.render j = .object schema

/-- What the placeholder of a type says, when the registry is `r`: it has the name of the type, and
refers to the identifier that the type holds if that is an object, and to nothing if it is a
collection. -/
structure Json.PointsAt (g : TypeGraph) (r : Registry) (x : TypeId)
    (schema : List (String × Json)) : Prop where
  named : ∃ d reason, g.describe? x = some d ∧ ("x-placeholder", Json.ofFields
    [("type", .string d.name), ("reason", .string (CutReason.name reason))]) ∈ schema
  target : ((∃ o, g.HasClass x (.object (some o))) ∧ (∃ id, g.Holds r x id) ∧
      ∀ id, ("$ref", componentRef id) ∈ schema ↔ g.Holds r x id) ∨
    ((∃ cls, g.HasClass x cls ∧ cls.isCollection) ∧ ∀ id, ("$ref", componentRef id) ∉ schema)

/-- A placeholder says its type and its reason, and refers to its component if it has one. -/
theorem Arena.IsCut.mem_render {a : Arena} {j : NodeId} {p : Placeholder} (h : a.IsCut j p)
    {schema : List (String × Json)} (rendered : a.render j = .object schema) :
    ("x-placeholder", Json.ofFields
        [("type", .string p.typeName), ("reason", .string p.reason.name)]) ∈ schema ∧
      ∀ id, ("$ref", componentRef id) ∈ schema ↔ p.identifier? = some id := by
  rw [Arena.render_of_isShared h rfl fun _ => .null] at rendered
  simp only [SchemaNode.render] at rendered
  have mem := fun e => Json.mem_ofFields_iff (e := e)
    (by cases p.identifier? <;> simp [Json.optionalField]) rendered
  refine ⟨(mem _).2 List.mem_cons_self, fun id => ?_⟩
  rw [mem, List.mem_cons, Json.mem_optionalField, Option.map_eq_some_iff]
  constructor
  · rintro (field | ⟨-, id', hid, href⟩)
    · exact absurd (congrArg Prod.fst field) (by simp)
    · exact componentRef_injective href ▸ hid
  · exact fun hid => .inr ⟨rfl, id, hid, rfl⟩

/-- What stands for a type is rendered as the placeholder of that type. -/
theorem StandsIn.pointsAt {r : Registry} {x : TypeId} {p : Placeholder} (h : StandsIn g r x p)
    {a : Arena} {j : NodeId} (cut : a.IsCut j p) {schema : List (String × Json)}
    (rendered : a.render j = .object schema) : Json.PointsAt g r x schema := by
  obtain ⟨named, ref⟩ := cut.mem_render rendered
  cases h with
  | @object d o i reason known cls holds =>
    refine ⟨⟨d, reason, known, named⟩, .inl ⟨⟨o, d, known, cls⟩, ⟨i, holds⟩, fun id => ?_⟩⟩
    rw [ref]
    exact ⟨fun hid => Option.some.inj hid ▸ holds, fun hid => congrArg some (holds.id_eq hid)⟩
  | @collection d reason known cls =>
    refine ⟨⟨d, reason, known, named⟩, .inr ⟨⟨_, ⟨d, known, rfl⟩, cls⟩, fun id hid => ?_⟩⟩
    cases (ref id).1 hid

/-- A placeholder that a generation gave out says what the placeholder of its type says. -/
theorem Call.Cuts.pointsAt {call : Call} {r : Registry} {x : TypeId} {schema : List (String × Json)}
    (h : call.Cuts gen g x schema)
    (stands : call.schema.StandsOnce g r (call.StandsFor gen g)) : Json.PointsAt g r x schema := by
  obtain ⟨reason, j, cut, rendered⟩ := h
  obtain ⟨p, isCut, -, standsIn⟩ := stands.placeholder x reason j cut
  exact standsIn.pointsAt isCut rendered

/-- Each placeholder in a component was given out by a generation. -/
theorem Collected.Traced.cuts {r : Registry} {c : Collected} {calls : List Call}
    (h : c.Traced gen g r calls) {key : String} {j : Json}
    (component : c.components.get? key = some j) {schema : List (String × Json)}
    (has : j.HasSchema schema) {v : Json} (placed : ("x-placeholder", v) ∈ schema) :
    ∃ call ∈ calls, ∃ x, call.Cuts gen g x schema := by
  obtain ⟨call, hcall, node, own, supplies⟩ := h.origin key j component
  obtain ⟨k, n, hn, shared, rendered⟩ :=
    supplies.isShared_of_hasSchema (h.literals call hcall) own ⟨_, placed, .inr rfl⟩ has
  obtain ⟨p, kind⟩ := SchemaNode.isPlaceholder_of_render shared
    ((Arena.render_of_isShared hn shared fun _ => .null).symm.trans rendered) placed
  obtain ⟨x, stands⟩ := (h.stands call hcall).exists_type k n p hn kind
  exact ⟨call, hcall, x, p.reason, k, stands, rendered⟩

/-- The generations of a document and what they give are traced. -/
theorem generateDocument_traced {roots : List TypeId} {w w' : Workspace} {d : SchemaDocument}
    (h : generateDocument gen g roots w = .ok d w') :
    ∃ (c : Collected) (calls : List Call), c.Traced gen g w'.registry calls ∧
      d.components = c.components ∧ (∀ call ∈ calls, call.Made gen g) ∧
      DocumentRun gen g roots w (calls.map Call.schema) d w' := by
  obtain ⟨outcomes, run⟩ := generateDocument_ok_iff.1 h
  obtain ⟨named, calls, c, known, rfl, rfl, ends, traced⟩ :=
    run.ends (Collected.Traced.invariant gen g roots) (.start w.registry)
  exact ⟨c, calls, traced, rfl, ends.made, run⟩

/-- **What placeholders refer to.**  Each placeholder in a document is one that a generation of the
run gave out for a type that was cut off.  Wherever a type was cut off, its placeholder refers to
the component of the identifier that the type holds at the end if the type is an object; if it is a
sequence, a map or an entry of a map the placeholder refers to nothing, whatever the type holds. -/
theorem generateDocument_placeholders {roots : List TypeId} {w w' : Workspace}
    {d : SchemaDocument} (h : generateDocument gen g roots w = .ok d w') :
    ∃ calls : List Call, DocumentRun gen g roots w (calls.map Call.schema) d w' ∧
      (∀ call ∈ calls, call.Made gen g) ∧
      (∀ schema, d.HasSchema schema → (∃ v, ("x-placeholder", v) ∈ schema) →
        ∃ call ∈ calls, ∃ x, call.Cuts gen g x schema) ∧
      ∀ call ∈ calls, ∀ x schema, call.Cuts gen g x schema →
        Json.PointsAt g w'.registry x schema := by
  obtain ⟨c, calls, traced, components, made, run⟩ := generateDocument_traced h
  refine ⟨calls, run, made, fun schema has standIn => ?_, fun call hcall x schema cuts => ?_⟩
  · obtain ⟨key, j, hj, has⟩ := has
    obtain ⟨v, hv⟩ := standIn
    exact traced.cuts (components ▸ hj) has hv
  · exact cuts.pointsAt (traced.stands call hcall)

/-- An object with a list of itself. -/
def TypeGraph.selfListed : TypeGraph := .ofTypes #[
  { identity := "B", name := "B", shape := .object {
      fields := [{ name := "xs", type := ⟨1⟩ }] } },
  { identity := "B[]", name := "Array", genericArgs := [⟨0⟩], shape := .array ⟨0⟩ }]

/-- The placeholder of the object inside of itself. -/
def cutObject : List (String × Json) :=
  [("$ref", componentRef "B"),
    ("x-placeholder", .object [("reason", .string "cycle"), ("type", .string "B")])]

/-- The placeholder of the list inside of itself. -/
def cutList : List (String × Json) :=
  [("x-placeholder", .object [("reason", .string "cycle"), ("type", .string "Array")])]

/-- The schema of the list that is cut has no `$ref`. -/
theorem cutList_silent (id : String) : ("$ref", componentRef id) ∉ cutList := by simp [cutList]

/-- With both types as roots each of them is cut off in its own component, and the list holds an
identifier, too. -/
theorem selfListed_document : ∃ d w,
    generateDocument (.plain { synthesizeExamples := false }) .selfListed [⟨0⟩, ⟨1⟩] {} = .ok d w ∧
      d.HasSchema cutObject ∧ d.HasSchema cutList ∧
      TypeGraph.selfListed.Holds w.registry ⟨1⟩ "Array«B»" := by
  have computed : Work.value? (do
      let d ← generateDocument (.plain { synthesizeExamples := false }) .selfListed [⟨0⟩, ⟨1⟩]
      return (d.components.get? "B", d.components.get? "Array«B»",
        (← get).registry.lookup? "B[]")) {} =
      some (some (.object [("properties", .object [("xs", .object
            [("items", .object cutObject), ("type", .string "array")])]),
          ("type", .string "object"), ("x-schema-id", .string "B")]),
        some (.object [("items", .object [("properties", .object [("xs", .object cutList)]),
            ("type", .string "object"), ("x-schema-id", .string "B")]),
          ("type", .string "array")]),
        some "Array«B»") := by cbv
  obtain ⟨d, w, hd, hread⟩ := Work.ok_of_reading computed
  obtain ⟨object, hread⟩ := Prod.mk.inj hread
  obtain ⟨list, held⟩ := Prod.mk.inj hread
  refine ⟨d, w, hd, ⟨"B", _, object, ?_⟩, ⟨"Array«B»", _, list, ?_⟩, _, rfl, held⟩
  · exact .property List.mem_cons_self List.mem_cons_self
      (.keyword List.mem_cons_self (by decide) .here)
  · exact .keyword List.mem_cons_self (by decide)
      (.property List.mem_cons_self List.mem_cons_self .here)

/-- Of the two types only the list can have the placeholder that refers to nothing. -/
theorem Json.PointsAt.eq_list {r : Registry} {x : TypeId}
    (h : Json.PointsAt .selfListed r x cutList) : x = ⟨1⟩ := by
  rcases h.target with ⟨-, ⟨id, holds⟩, ref⟩ | ⟨⟨cls, ⟨d, known, hcls⟩, collection⟩, -⟩
  · exact absurd ((ref id).2 holds) (cutList_silent id)
  · obtain ⟨i⟩ := x
    match i with
    | 0 => cases known; subst hcls; cases collection
    | 1 => rfl
    | i + 2 => simp [TypeGraph.selfListed] at known

/-- The object's placeholder refers to its component, and the list's refers to nothing, although the
list holds an identifier. -/
theorem generateDocument_placeholders_selfListed :
    ∃ (d : SchemaDocument) (w : Workspace) (calls : List Call),
      DocumentRun (.plain { synthesizeExamples := false }) .selfListed [⟨0⟩, ⟨1⟩] {}
        (calls.map Call.schema) d w ∧
      d.HasSchema cutObject ∧ ("$ref", componentRef "B") ∈ cutObject ∧ d.HasSchema cutList ∧
      (∃ call ∈ calls, call.Cuts (.plain { synthesizeExamples := false }) .selfListed ⟨1⟩ cutList) ∧
      TypeGraph.selfListed.Holds w.registry ⟨1⟩ "Array«B»" ∧
      ∀ id, ("$ref", componentRef id) ∉ cutList := by
  obtain ⟨d, w, hd, object, list, held⟩ := selfListed_document
  obtain ⟨calls, run, -, given, points⟩ := generateDocument_placeholders hd
  obtain ⟨call, hcall, x, cuts⟩ := given cutList list ⟨_, List.mem_cons_self⟩
  obtain rfl := (points call hcall x cutList cuts).eq_list
  exact ⟨d, w, calls, run, object, List.mem_cons_self, list, ⟨call, hcall, cuts⟩, held,
    cutList_silent⟩

/-- A placeholder in a document may stand for a type that holds an identifier, and not refer to the
component. -/
theorem not_generateDocument_placeholders :
    ¬ ∀ (gen : Generator) (g : TypeGraph) (roots : List TypeId) (d : SchemaDocument)
        (w : Workspace) (calls : List Call),
      DocumentRun gen g roots {} (calls.map Call.schema) d w →
      ∀ call ∈ calls, ∀ x schema, call.Cuts gen g x schema → d.HasSchema schema →
        ∀ id, g.Holds w.registry x id → ("$ref", componentRef id) ∈ schema := by
  intro refers
  obtain ⟨d, w, hd, -, ⟨key, j, hj, has⟩, held⟩ := selfListed_document
  obtain ⟨c, calls, traced, components, -, run⟩ := generateDocument_traced hd
  obtain ⟨call, hcall, x, cuts⟩ := traced.cuts (components ▸ hj) has List.mem_cons_self
  obtain rfl := (cuts.pointsAt (traced.stands call hcall)).eq_list
  exact cutList_silent _
    (refers _ _ _ d w calls run call hcall ⟨1⟩ cutList cuts ⟨key, j, hj, has⟩ _ held)

end TypeSchema
