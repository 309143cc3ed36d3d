import TypeSchema.Proofs.Generation.Bounds
import TypeSchema.Proofs.Generation.Examples
import TypeSchema.Proofs.Generation.Members
import TypeSchema.Proofs.Schema.Exampled

/-!
# Generation — what becomes of the examples of fields

A field with an example gives it to the node of its type, under nullable wrappers if there are any.
The example is lost where three things come together: the type is a collection or an object, its
node is a stand-in because it is open, too deep or expanded already, and neither the type nor the
field has constraints, for which there would be a node around the stand-in
(`TypeGraph.DropsExample`).

`nodeFor_keepsExample` says so of the node that is built, and `generate_fieldExamples` of what is
rendered: the example is shown, or nothing is and the property is no more than a stand-in.
-/

namespace TypeSchema

open Build

variable {gen : Generator} {g : TypeGraph}

/-- The type with this descriptor is what nullable wrappers are around. -/
inductive TypeGraph.Unwraps (g : TypeGraph) : TypeId → TypeDescriptor → Prop where
  | bare {ty : TypeId} {d : TypeDescriptor} (known : g.describe? ty = some d)
      (cls : ∀ inner, g.classify d.shape ≠ .nullable inner) : Unwraps g ty d
  | wrapped {ty inner : TypeId} {w d : TypeDescriptor} (known : g.describe? ty = some w)
      (cls : g.classify w.shape = .nullable inner) (inside : Unwraps g inner d) : Unwraps g ty d

/-- A type that may get a stand-in. -/
def Classification.IsComposite (cls : Classification) : Prop :=
  cls.isCollection ∨ ∃ o, cls = .object (some o)

/-- The example of the field would be lost on a stand-in. -/
structure TypeGraph.DropsExample (g : TypeGraph) (d : TypeDescriptor) (f : Field) : Prop where
  composite : (g.classify d.shape).IsComposite
  type : d.constraints = []
  field : f.constraints = []

/-- The example of the field is on the node for its type, or it was lost. -/
def TypeGraph.ExampleDue (g : TypeGraph) (a : Arena) (id : NodeId) (ty : TypeId) (f : Field) :
    Prop :=
  ∀ v, f.example? = some v → ∃ d, g.Unwraps ty d ∧ a.KeepsExample v (g.DropsExample d f) id

/-! ### Building the node of a field -/

namespace Traversal

variable {t t' : Traversal} {id id' : NodeId} {n : SchemaNode} {v : Json} {why : Prop}

/-- An example is set on a node that stands for itself, and lost on a stand-in. -/
theorem setExample_bears (h : setExample id v t = .ok () t') (hn : t.arena.get? id = some n)
    (single : n.IsSingle) (lost : n.isShared → why) : t'.arena.BearsExample v why id := by
  cases h
  by_cases shared : t.arena.isShared id
  · simp only [if_pos shared]
    rw [Arena.isShared_eq hn] at shared
    exact .lost (.bare hn shared) (lost shared)
  · simp only [if_neg shared]
    refine .own (n := { n with example? := some v }) ?_ ?_ ⟨single.notNull, single.notUnion⟩ rfl
    · rw [Arena.get?_modify, if_pos rfl, hn, Option.map_some]
    · rwa [Arena.isShared_eq hn] at shared

/-- Constraints come before the example. -/
theorem decorate_bears {d : TypeDescriptor} {f : Field} (given : f.example? = some v)
    (h : decorate gen d (some f) id t = .ok id' t') (hn : t.arena.get? id = some n)
    (single : n.IsSingle) (lost : n.isShared → d.constraints = [] → f.constraints = [] → why) :
    t'.arena.BearsExample v why id' := by
  obtain ⟨id₁, t₁, ofType, h⟩ := bind_ok_iff.1 h
  obtain ⟨id₂, t₂, annotated, cleared⟩ := bind_ok_iff.1 h
  obtain ⟨id₃, t₃, ofField, h⟩ := bind_ok_iff.1 annotated
  simp only [given] at h
  obtain ⟨_, t₄, set, last⟩ := bind_ok_iff.1 h
  cases ofType
  cases ofField
  cases last
  cases cleared
  obtain ⟨n₁, hn₁, single₁, shared₁⟩ :=
    Arena.annotate_single hn single gen.patterns d.name d.constraints
  obtain ⟨n₂, hn₂, single₂, shared₂⟩ :=
    Arena.annotate_single hn₁ single₁ gen.patterns f.name f.constraints
  refine (setExample_bears set hn₂ single₂ fun shared => ?_).clearNullFlag
  obtain ⟨shared, field⟩ := shared₂ shared
  obtain ⟨shared, type⟩ := shared₁ shared
  exact lost shared type field

/-- A nullable type keeps the example of the node it wraps, or hides it where it is due to. -/
theorem wrapNull_keepsExample {w : TypeDescriptor} (h : wrapNull gen w id t = .ok id' t')
    (keeps : t.arena.KeepsExample v why id) : t'.arena.KeepsExample v why id' := by
  obtain ⟨id₁, t₁, annotated, admitted⟩ := bind_ok_iff.1 h
  cases annotated
  cases admitted
  exact (Arena.KeepsExample.annotate keeps _ w.name w.constraints).admitNull _

end Traversal

section

variable {levels : Nat} {ty : TypeId} {d : TypeDescriptor} {t t' : Traversal} {id : NodeId}

/-- The node of a type that is expanded is neither null nor a union, and a stand-in only for a
collection or an object. -/
theorem Expansion.single {descend : Descent} {cls : Classification}
    (h : Expansion gen g descend ty d cls t id t') (ht : t.RestsOn t.arena) :
    ∃ n, t'.arena.get? id = some n ∧ n.IsSingle ∧ (n.isShared → cls.IsComposite) := by
  have pushed : ∀ {a : Arena} {n : SchemaNode} {i? : Option String} {ids : List NodeId},
      n.IsMadeOf i? ids → ∃ m, (a.push n).2.get? ⟨a.size⟩ = some m ∧ m.IsSingle ∧
        (m.isShared → cls.IsComposite) :=
    fun made => ⟨_, Arena.get?_push_self _ _, SchemaNode.isSingle_of_primitive made.primitive,
      fun shared => absurd shared made.not_isShared⟩
  have standIn : ∀ {a : Arena} {id : NodeId}, a.isShared id → cls.IsComposite →
      ∃ m, a.get? id = some m ∧ m.IsSingle ∧ (m.isShared → cls.IsComposite) := by
    intro a id shared composite
    obtain ⟨m, hm, hs⟩ := Arena.isShared_iff.1 shared
    exact ⟨m, hm, SchemaNode.isSingle_of_isShared hs, fun _ => composite⟩
  cases h with
  | leaf node => exact pushed (SchemaNode.isMadeOf_leafNode? node)
  | cut collection _ => exact standIn (ht.afterCut _ _).2 (.inl collection)
  | collection _ _ node _ => exact pushed (SchemaNode.isMadeOf_collectionNode? node)
  | reference _ _ =>
    exact standIn (Arena.isShared_iff.2 ⟨_, Arena.get?_push_self _ _, rfl⟩) (.inr ⟨_, rfl⟩)
  | @cutObject o _ i r events _ _ _ _ =>
    have claimed : (t.claimed ty i r events).RestsOn t.arena := ht.of_eq rfl rfl rfl
    exact standIn (claimed.afterCut _ _).2 (.inr ⟨o, rfl⟩)
  | @object o _ t₁ i _ _ ids _ _ _ _ _ =>
    have made := SchemaNode.isMadeOf_objectNode gen o i ids
    exact ⟨_, t₁.arena.get?_push_push_self _ _, SchemaNode.isSingle_of_primitive made.primitive,
      fun shared => absurd shared made.not_isShared⟩

/-- A step keeps a field's example where it is due, given that the descent does. -/
theorem Step.keepsExample {f : Field} (known : g.describe? ty = some d)
    (h : Step gen g (nodeFor gen g levels) ty (some f) d t id t')
    (step : ∀ ty field? t id t', nodeFor gen g levels ty field? t = .ok id t' → t.Quiet g →
      ∀ f, field? = some f → g.ExampleDue t'.arena id ty f)
    (ht : t.Quiet g) : g.ExampleDue t'.arena id ty f := by
  intro v given
  cases h with
  | wrapped cls part finish =>
    obtain ⟨d', inside, keeps⟩ := step _ _ _ _ _ part ht f rfl v given
    exact ⟨d', .wrapped known cls inside, Traversal.wrapNull_keepsExample finish keeps⟩
  | @overridden o _ _ _ _ overridable finish =>
    have made := SchemaNode.isMadeOf_override o
    refine ⟨d, .bare known fun inner cls => ?_, .alone ?_⟩
    · rw [cls] at overridable
      cases overridable
    · exact Traversal.decorate_bears given finish (t.arena.get?_push_self o.node)
        (SchemaNode.isSingle_of_primitive made.primitive)
        fun shared => absurd shared made.not_isShared
  | @expanded _ t₀ _ _ _ _ cls overrideless expansion finish =>
    have rests : t₀.RestsOn t₀.arena := by
      rw [overrideFor_none overrideless]
      exact ht.rests.of_eq rfl rfl rfl
    obtain ⟨n, hn, single, composite⟩ := expansion.single rests
    exact ⟨d, .bare known cls, .alone <| Traversal.decorate_bears given finish hn single
      fun shared type field => ⟨composite shared, type, field⟩⟩

/-- **The example of a field is on the node that is built for it**, or it was lost on a stand-in. -/
theorem nodeFor_keepsExample {f : Field} (h : nodeFor gen g levels ty (some f) t = .ok id t')
    (ht : t.Quiet g) : g.ExampleDue t'.arena id ty f :=
  nodeFor_descent (P := fun ty field? t id t' => t.Quiet g →
      ∀ f, field? = some f → g.ExampleDue t'.arena id ty f)
    (fun _ step _ _ _ _ _ _ known hs ht _ role => by
      cases role
      exact hs.keepsExample known step ht)
    levels ty (some f) t id t' h ht f rfl

end

/-- The examples of fields are on their nodes, or were lost. -/
theorem fieldInvariant_exampleDue (gen : Generator) (g : TypeGraph) :
    gen.FieldInvariant g fun a id f => g.ExampleDue a id f.type f := by
  refine ⟨fun built ht => nodeFor_keepsExample built ht, fun ground due kept v given => ?_⟩
  obtain ⟨d, unwraps, keeps⟩ := due v given
  exact ⟨d, unwraps, Arena.KeepsExample.stays ground keeps kept⟩

/-! ### Rendering -/

/-- The example of a schema, or else the one of what there is beside null. -/
def Json.shownExample? (j : Json) : Option Json :=
  (j.get? "example").or
    (match j.get? "anyOf" with
    | some (.array [part, _]) => part.get? "example"
    | _ => none)

namespace SchemaNode

variable {n : SchemaNode}

/-- A node that stands for itself is rendered with its example. -/
theorem get?_example_own (own : ¬ n.isShared) (child : NodeId → Json) :
    (n.render child).get? "example" = n.example? := by
  cases given : n.example? with
  | none => exact get?_example_render given child
  | some v =>
    obtain ⟨key, arg, hkey, rendered⟩ := exists_render_own own child
    rw [rendered]
    refine (Json.get?_ofFields (n.nodup_keys child hkey arg)).2 (List.mem_cons_of_mem _ ?_)
    simp [keywordFields, Json.mem_optionalField, given]

/-- A stand-in is rendered without an example. -/
theorem get?_example_of_isShared (shared : n.isShared) (child : NodeId → Json) :
    (n.render child).get? "example" = none := by
  unfold render
  cases kind : n.kind with
  | placeholder p =>
    exact Json.get?_ofFields_eq_none fun v hv => by simp [Json.mem_optionalField] at hv
  | reference r => exact Json.get?_ofFields_eq_none fun v hv => by simp at hv
  | primitive _ | null | anyOf _ | oneOf _ | allOf _ => simp [isShared, kind] at shared

/-- Only a union has alternatives. -/
theorem get?_anyOf_render (other : ∀ ids, n.kind ≠ .anyOf ids) (child : NodeId → Json) :
    (n.render child).get? "anyOf" = none := by
  have union : "anyOf" ∈ ["type", "anyOf", "oneOf", "allOf"] := by simp
  have own : ∀ key arg, key ≠ "anyOf" →
      (Json.ofFields ((key, arg) :: n.keywordFields child)).get? "anyOf" = none := by
    intro key arg hkey
    -- no keyword is called like the field of a union
    have keywords := (List.nodup_cons.1 (n.nodup_keys child union arg)).1
    refine Json.get?_ofFields_eq_none fun v hv => ?_
    rcases List.mem_cons.1 hv with e | hm
    · exact hkey (congrArg Prod.fst e).symm
    · exact keywords (List.mem_map.2 ⟨_, hm, rfl⟩)
  unfold render
  cases kind : n.kind with
  | anyOf ids => exact absurd kind (other ids)
  | primitive p => exact own "type" _ (by decide)
  | null => exact own "type" _ (by decide)
  | oneOf ids => exact own "oneOf" _ (by decide)
  | allOf ids => exact own "allOf" _ (by decide)
  | placeholder p =>
    exact Json.get?_ofFields_eq_none fun v hv => by simp [Json.mem_optionalField] at hv
  | reference r => exact Json.get?_ofFields_eq_none fun v hv => by simp at hv

end SchemaNode

namespace Arena

variable {a : Arena} {id : NodeId} {v : Json} {why : Prop}

/-- A node that is no union shows its own example. -/
theorem shownExample?_of_single {n : SchemaNode} (ranked : a.Ranked) (hn : a.get? id = some n)
    (single : n.IsSingle) : (a.render id).shownExample? = (a.render id).get? "example" := by
  have alone : (a.render id).get? "anyOf" = none := by
    rw [ranked.render_eq hn]
    exact SchemaNode.get?_anyOf_render (fun ids => (single.notUnion ids).1) _
  rw [Json.shownExample?, alone, Option.or_none]

/-- A node that hides its example is rendered without one. -/
theorem Veils.get?_example (ranked : a.Ranked) (h : a.Veils id) :
    (a.render id).get? "example" = none := by
  cases h with
  | bare standIn shared =>
    rw [ranked.render_eq standIn]
    exact SchemaNode.get?_example_of_isShared shared _
  | around node _ none _ _ =>
    rw [ranked.render_eq node]
    exact SchemaNode.get?_example_render none _

/-- What is said of a node, or of what there is beside null, is said of the example that is
shown. -/
theorem OrBeside.shownExample? {P : NodeId → Prop} {e? : Option Json} (ranked : a.Ranked)
    (h : a.OrBeside P id) (single : ∀ id, P id → ∃ n, a.get? id = some n ∧ n.IsSingle)
    (given : ∀ id, P id → (a.render id).get? "example" = e?) :
    (a.render id).shownExample? = e? := by
  cases h with
  | alone part =>
    obtain ⟨n, hn, hsingle⟩ := single id part
    rw [shownExample?_of_single ranked hn hsingle, given id part]
  | @beside part null n node kind none hpart _ =>
    have whole : (a.render id).get? "example" = Option.none := by
      rw [ranked.render_eq node]
      exact SchemaNode.get?_example_render none _
    have beside : (a.render id).get? "anyOf" = some (.array [a.render part, a.render null]) := by
      rw [ranked.render_eq node]
      exact SchemaNode.get?_kind (by simp) (by simp only [SchemaNode.render, kind]; rfl)
    rw [Json.shownExample?, whole, beside, Option.none_or]
    exact given part hpart

/-- **The example is shown, or it was lost**: then none is shown. -/
theorem KeepsExample.shows (ranked : a.Ranked) (h : a.KeepsExample v why id) :
    (a.render id).shownExample? = some v ∨
      (why ∧ a.OrBeside a.Veils id ∧ (a.render id).shownExample? = none) := by
  -- the two cases are the same on a node and beside null
  have split : a.OrBeside (fun id => ∃ n, a.get? id = some n ∧ ¬ n.isShared ∧ n.IsSingle ∧
      n.example? = some v) id ∨ why ∧ a.OrBeside a.Veils id := by
    cases h with
    | alone part =>
      cases part with
      | own node own single given => exact .inl (.alone ⟨_, node, own, single, given⟩)
      | lost veils because => exact .inr ⟨because, .alone veils⟩
    | beside node kind none part null =>
      cases part with
      | own node' own single given =>
        exact .inl (.beside node kind none ⟨_, node', own, single, given⟩ null)
      | lost veils because => exact .inr ⟨because, .beside node kind none veils null⟩
  refine split.imp (fun own => ?_) fun ⟨because, veils⟩ => ⟨because, veils, ?_⟩
  · refine own.shownExample? ranked (fun id ⟨n, hn, _, single, _⟩ => ⟨n, hn, single⟩) ?_
    rintro id ⟨n, hn, own, -, given⟩
    rw [ranked.render_eq hn, SchemaNode.get?_example_own own, given]
  · exact veils.shownExample? ranked (fun _ h => h.single) fun _ h => h.get?_example ranked

end Arena

/-! ### Generations -/

/-- The names of fields that are kept are different if those of all fields are. -/
theorem Generator.keptField?_of_nodup {o : ObjectShape} (nodup : (o.fields.map (·.name)).Nodup)
    {f : Field} (hf : f ∈ gen.keptFields o) : gen.keptField? o f.name = some f := by
  have sublist : (gen.keptFields o).Sublist (sortedFields o) := by
    rcases gen.keptFields_cases o with ⟨limit, -, kept⟩ | ⟨-, kept⟩
    · rw [Generator.keptFields, kept]
      exact List.take_sublist _ _
    · rw [Generator.keptFields, kept]
  have sorted : ((sortedFields o).map (·.name)).Nodup :=
    ((List.mergeSort_perm o.fields _).map (·.name)).nodup_iff.2 nodup
  have names : ((gen.keptFields o).map (·.name)).Nodup := sorted.sublist (sublist.map _)
  have mem : f ∈ (gen.keptFields o).filter (·.name = f.name) := by simp [hf]
  cases last : ((gen.keptFields o).filter (·.name = f.name)).getLast? with
  | none =>
    rw [List.getLast?_eq_none_iff.1 last] at mem
    cases mem
  | some f' =>
    obtain ⟨hf', same⟩ := List.mem_filter.1 (List.mem_of_getLast? last)
    have same : f'.name = f.name := by simpa using same
    rw [keptField?]
    exact last.trans (congrArg some (List.inj_on_of_nodup_map names hf' hf same))

/-- **What becomes of the examples of fields**: in an object that is expanded and whose fields have
different names, the property of a field that has an example shows it.  If it does not it shows
none: it is a stand-in, or around one, for a collection or an object, and neither the type nor the
field has constraints. -/
theorem generate_fieldExamples {root : TypeId} {w w' : Workspace} {s : GeneratedSchema}
    (h : generate gen g root w = .ok s w') {j : NodeId} {n : SchemaNode} {i : String}
    (hn : s.arena.get? j = some n) (identifier : n.identifier? = some i) :
    ∃ ty o, g.HasClass ty (.object (some o)) ∧ g.Holds w'.registry ty i ∧
      ((o.fields.map (·.name)).Nodup → ∀ f ∈ gen.keptFields o, ∀ v, f.example? = some v →
        ∃ c d, n.properties.get? f.name = some c ∧ g.Unwraps f.type d ∧
          ((s.arena.render c).shownExample? = some v ∨
            g.DropsExample d f ∧ s.arena.OrBeside s.arena.Veils c ∧
              (s.arena.render c).shownExample? = none)) := by
  obtain ⟨ground, made⟩ := generate_made (fieldInvariant_exampleDue gen g) h
  obtain ⟨ty, o, cls, holds, due⟩ := (made j n i hn identifier).property
  refine ⟨ty, o, cls, holds, fun nodup f hf v given => ?_⟩
  have rel := due f.name
  rw [Generator.keptField?_of_nodup nodup hf] at rel
  cases hc : n.properties.get? f.name with
  | none => rw [hc] at rel; cases rel
  | some c =>
    rw [hc] at rel
    cases rel with
    | some due =>
      obtain ⟨d, unwraps, keeps⟩ := due v given
      exact ⟨c, d, rfl, unwraps, Arena.KeepsExample.shows ground.ranked keeps⟩

/-- The next one of a chain of texts. -/
def Field.next : Field :=
  { name := "next", type := ⟨1⟩, example? := some (.object [("text", .string "b")]) }

/-- The text of one. -/
def Field.text : Field := { name := "text", type := ⟨0⟩, example? := some (.string "b") }

/-- A chain of texts. -/
def TypeGraph.textChain : TypeGraph := .ofTypes #[
  { identity := "String", name := "String", shape := .scalar .string },
  { identity := "A", name := "A", shape := .object { fields := [.next, .text] } }]

theorem TypeGraph.hasClass_textChain {ty : TypeId} {o : ObjectShape}
    (h : TypeGraph.textChain.HasClass ty (.object (some o))) : o.fields = [.next, .text] := by
  obtain ⟨d, known, cls⟩ := h
  obtain ⟨index⟩ := ty
  rcases index with _ | _ | index
  all_goals cases known
  all_goals cases cls
  rfl

theorem TypeGraph.nodup_textChain {ty : TypeId} {o : ObjectShape}
    (h : TypeGraph.textChain.HasClass ty (.object (some o))) : (o.fields.map (·.name)).Nodup := by
  rw [hasClass_textChain h]
  decide

/-- Without a limit all fields are kept. -/
theorem Generator.mem_keptFields_of_unlimited (unlimited : gen.config.memberThreshold? = none)
    {o : ObjectShape} {f : Field} : f ∈ gen.keptFields o ↔ f ∈ o.fields := by
  rw [keptFields, unlimited]
  exact (List.mergeSort_perm o.fields _).mem_iff

/-- A text is no stand-in: its field shows the example. -/
theorem generate_fieldExamples_textChain :
    ∃ s w' n c, generate (.plain {}) .textChain ⟨1⟩ {} = .ok s w' ∧ s.arena.get? s.root = some n ∧
      n.properties.get? "text" = some c ∧
      (s.arena.render c).shownExample? = some (.string "b") := by
  have computed : Work.value? (do
      let s ← generate (.plain {}) .textChain ⟨1⟩
      return (s.arena.get? s.root).map (·.identifier?)) {} = some (some (some "A")) := by cbv
  obtain ⟨s, w', hs, hread⟩ := Work.ok_of_reading computed
  obtain ⟨n, hn, identifier⟩ := Option.map_eq_some_iff.1 hread
  obtain ⟨ty, o, cls, -, shown⟩ := generate_fieldExamples hs hn identifier
  have declared : .text ∈ o.fields := by simp [TypeGraph.hasClass_textChain cls]
  obtain ⟨c, d, hc, unwraps, shows | ⟨dropped, -⟩⟩ := shown (TypeGraph.nodup_textChain cls) _
    ((Generator.mem_keptFields_of_unlimited rfl).2 declared) _ rfl
  · exact ⟨s, w', n, c, hs, hn, hc, shows⟩
  · -- a text is neither a collection nor an object
    exfalso
    have composite := dropped.composite
    cases unwraps with
    | bare known _ =>
      cases known
      rcases composite with collection | ⟨_, object⟩
      · cases collection
      · cases object
    | wrapped known cls _ =>
      cases known
      cases cls

/-- The chain refers to itself, and the example of the field that does is lost. -/
theorem not_generate_fieldExamples :
    ¬ ∀ (gen : Generator) (g : TypeGraph) (root : TypeId) (s : GeneratedSchema) (w' : Workspace),
      generate gen g root {} = .ok s w' →
      ∀ j n i, s.arena.get? j = some n → n.identifier? = some i →
        ∃ ty o, g.HasClass ty (.object (some o)) ∧ g.Holds w'.registry ty i ∧
          ((o.fields.map (·.name)).Nodup → ∀ f ∈ gen.keptFields o, ∀ v, f.example? = some v →
            ∃ c, n.properties.get? f.name = some c ∧
              (s.arena.render c).shownExample? = some v) := by
  intro h
  have computed : Work.value? (do
      let s ← generate (.plain {}) .textChain ⟨1⟩
      return (s.arena.get? s.root).map fun n => (n.identifier?, (n.properties.get? "next").map
        fun c => (s.arena.render c).shownExample?)) {} =
      some (some (some "A", some none)) := by cbv
  obtain ⟨s, w', hs, hread⟩ := Work.ok_of_reading computed
  obtain ⟨n, hn, hn'⟩ := Option.map_eq_some_iff.1 hread
  obtain ⟨identifier, hread⟩ := Prod.mk.inj hn'
  obtain ⟨c, hc, nothing⟩ := Option.map_eq_some_iff.1 hread
  obtain ⟨ty, o, cls, -, all⟩ := h _ _ _ s w' hs s.root n "A" hn identifier
  have declared : .next ∈ o.fields := by simp [TypeGraph.hasClass_textChain cls]
  obtain ⟨c', hc', shown⟩ := all (TypeGraph.nodup_textChain cls) _
    ((Generator.mem_keptFields_of_unlimited rfl).2 declared) _ rfl
  cases hc.symm.trans hc'
  rw [nothing] at shown
  cases shown

end TypeSchema
