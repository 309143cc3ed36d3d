import TypeSchema.Proofs.Generation.Actions
import TypeSchema.Proofs.Generation.Lockstep
import TypeSchema.Proofs.Generation.Pushes
import TypeSchema.Proofs.Generation.Views
import TypeSchema.Proofs.Meaning.Keywords

/-!
# Documents — examples are only examples

A component gets its example after its schema is there, so a generator that wants other examples, or
none, builds the same schemas (`generate_withExamples`).  What a component is rendered from has no
example of its own: neither a recorded component, nor the node of a type that is generated without
being a field (`generate_exampleless`).  So the example of a component is the one it gets
(`Generator.component_example`), and is gone where none is wanted.

`generateDocument_withExamples`: two generators that differ in what they want of examples build the
same documents, their examples aside.
-/

namespace TypeSchema

open Build

/-! ### Values without a field -/

/-- The value without a field. -/
def Json.without (key : String) : Json → Json
  | object fields => object (fields.filter (·.1 ≠ key))
  | j => j

/-- The document without the examples of its components. -/
def SchemaDocument.withoutExamples (d : SchemaDocument) : SchemaDocument :=
  { d with components := d.components.mapValues (Json.without "example") }

/-- No component has an example. -/
def SchemaDocument.Exampleless (d : SchemaDocument) : Prop :=
  ∀ id j, d.components.get? id = some j → j.get? "example" = none

namespace Json

/-- An entry under a key does not show in what stands under the other keys. -/
theorem filter_insertEntry (key : String) (v : Json) (l : List (String × Json)) :
    (SortedMap.insertEntry key v l).filter (·.1 ≠ key) = l.filter (·.1 ≠ key) := by
  induction l with
  | nil => simp [SortedMap.insertEntry]
  | cons e rest ih =>
    simp only [SortedMap.insertEntry]
    split
    · simp
    · split
      · next same => simp [same]
      · simp only [List.filter_cons, ih]

/-- An entry that is added under a key does not show in the object without that key. -/
theorem without_withDefault (key : String) (v j : Json) :
    (withDefault key v j).without key = j.without key := by
  cases j with
  | object fields =>
    simp only [withDefault]
    split
    · rfl
    · simp only [without, filter_insertEntry]
  | _ => rfl

theorem get?_ofFields_eq_none {key : String} {l : List (String × Json)}
    (h : ∀ v, (key, v) ∉ l) : (ofFields l).get? key = none :=
  Option.eq_none_iff_forall_ne_some.2 fun v hv =>
    h v (SortedMap.mem_of_mem_ofList (SortedMap.mem_toList_iff.2 hv))

/-- A field that is set to a default has it, if it had none. -/
theorem get?_withDefault_self {key : String} {fields : List (String × Json)}
    (h : (object fields).get? key = none) (v : Json) :
    (withDefault key v (object fields)).get? key = some v := by
  have free : ¬ (SortedMap.lookup key fields).isSome := by
    rw [show SortedMap.lookup key fields = none from h]
    exact Bool.false_ne_true
  rw [withDefault, if_neg free, get?, SortedMap.lookup_insertEntry, if_pos rfl]

end Json

/-! ### Nodes without an example -/

/-- Every node is rendered as an object. -/
theorem SchemaNode.exists_render_eq (n : SchemaNode) (child : NodeId → Json) :
    ∃ fields, n.render child = .object fields := by
  unfold render
  split <;> exact ⟨_, rfl⟩

/-- A node without an example is rendered without one. -/
theorem SchemaNode.get?_example_render {n : SchemaNode} (h : n.example? = none)
    (child : NodeId → Json) : (n.render child).get? "example" = none := by
  have own : ∀ (key : String) (arg : Json), key ≠ "example" →
      (Json.ofFields ((key, arg) :: n.keywordFields child)).get? "example" = none := by
    intro key arg hkey
    refine Json.get?_ofFields_eq_none fun v hv => ?_
    rcases List.mem_cons.1 hv with e | hm
    · exact hkey (congrArg Prod.fst e).symm
    · simp only [keywordFields, numberField, List.mem_append, Json.mem_optionalField, h] at hm
      rcases n.lengthKeys_cases with e | e <;> simp [e] at hm
  unfold render
  cases n.kind with
  | primitive p => exact own "type" _ (by decide)
  | null => exact own "type" _ (by decide)
  | anyOf ids => exact own "anyOf" _ (by decide)
  | oneOf ids => exact own "oneOf" _ (by decide)
  | allOf ids => exact own "allOf" _ (by decide)
  | placeholder p =>
    exact Json.get?_ofFields_eq_none fun v hv => by simp [Json.mem_optionalField] at hv
  | reference r => exact Json.get?_ofFields_eq_none fun v hv => by simp at hv

namespace Arena

/-- The node stands for itself and has no example. -/
def Exampleless (a : Arena) (id : NodeId) : Prop :=
  ∃ n, a.get? id = some n ∧ ¬ n.isShared ∧ n.example? = none

variable {a : Arena} {id : NodeId}

/-- A new node of its own that has no example is without one. -/
theorem exampleless_push (a : Arena) {n : SchemaNode} (own : ¬ n.isShared)
    (bare : n.example? = none) : (a.push n).2.Exampleless ⟨a.size⟩ :=
  ⟨n, get?_push_self a n, own, bare⟩

namespace Exampleless

theorem not_isShared (h : a.Exampleless id) : ¬ a.isShared id := by
  obtain ⟨n, hn, own, -⟩ := h
  rwa [isShared_eq hn]

/-- Nor has it one after a change that keeps what it is and its example. -/
theorem modify (h : a.Exampleless id) {f : SchemaNode → SchemaNode}
    (hf : ∀ n, (f n).isShared = n.isShared ∧ (f n).example? = n.example?) :
    (a.modify id f).Exampleless id := by
  obtain ⟨n, hn, own, bare⟩ := h
  exact ⟨f n, by rw [get?_modify, if_pos rfl, hn, Option.map_some], (hf n).1 ▸ own,
    (hf n).2.trans bare⟩

theorem keeps {a' : Arena} (h : a.Exampleless id) (keeps : a.Keeps a') : a'.Exampleless id :=
  let ⟨n, hn, own, bare⟩ := h
  ⟨n, keeps hn, own, bare⟩

/-- Constraints give no example: they add to the node or put it into a conjunction. -/
theorem annotate (h : a.Exampleless id) (patterns : PatternCheck) (member : String)
    (constraints : List Constraint) :
    (a.annotate patterns id member constraints).2.1.Exampleless
      (a.annotate patterns id member constraints).1 := by
  obtain ⟨n, hn, own, bare⟩ := h
  obtain ⟨same, hn'⟩ := annotate_own hn own patterns member constraints
  rw [same]
  exact ⟨_, hn', own, bare⟩

/-- Neither encoding of null gives an example. -/
theorem applyNull (h : a.Exampleless id) (encoding : NullEncoding) (nullable : Bool) :
    (a.applyNull encoding id nullable).2.Exampleless (a.applyNull encoding id nullable).1 := by
  have unshared := h.not_isShared
  cases nullable with
  | false =>
    simp only [Arena.applyNull, clearNullFlag, unshared]
    exact h.modify fun n => ⟨rfl, rfl⟩
  | true =>
    simp only [Arena.applyNull, if_true, admitNull]
    cases encoding with
    | flag =>
      simp only [unshared]
      exact h.modify fun n => ⟨rfl, rfl⟩
    | union =>
      cases a.alternatives? id with
      | none => exact exampleless_push _ (by simp [SchemaNode.isShared]) rfl
      | some ids =>
        by_cases there : ids.any a.isNull
        · simp only [there, if_true]
          exact h
        · simp only [there]
          refine (h.keeps (keeps_push a { kind := .null })).modify fun n => ?_
          unfold addAlternative
          split <;> simp_all [SchemaNode.isShared]

end Exampleless

end Arena

/-! ### Types that are no field -/

section

variable {gen : Generator} {g : TypeGraph}

theorem annotate_exampleless {patterns : PatternCheck} {id id' : NodeId} {member : String}
    {constraints : List Constraint} {t t' : Traversal} (hn : t.arena.Exampleless id)
    (h : annotate patterns id member constraints t = .ok id' t') : t'.arena.Exampleless id' := by
  cases h
  exact hn.annotate patterns member constraints

theorem applyNull_exampleless {encoding : NullEncoding} {id id' : NodeId} {nullable : Bool}
    {t t' : Traversal} (hn : t.arena.Exampleless id)
    (h : applyNull encoding id nullable t = .ok id' t') : t'.arena.Exampleless id' := by
  cases h
  exact hn.applyNull encoding nullable

/-- Away from fields no type gets an example. -/
theorem decorate_exampleless {d : TypeDescriptor} {id id' : NodeId} {t t' : Traversal}
    (hn : t.arena.Exampleless id) (h : decorate gen d none id t = .ok id' t') :
    t'.arena.Exampleless id' := by
  obtain ⟨id₁, t₁, annotated, h⟩ := bind_ok_iff.1 h
  obtain ⟨id₂, t₂, unused, cleared⟩ := bind_ok_iff.1 h
  cases unused
  exact applyNull_exampleless (annotate_exampleless hn annotated) cleared

/-- Nor does a nullable type. -/
theorem wrapNull_exampleless {d : TypeDescriptor} {id id' : NodeId} {t t' : Traversal}
    (hn : t.arena.Exampleless id) (h : wrapNull gen d id t = .ok id' t') :
    t'.arena.Exampleless id' := by
  obtain ⟨id₁, t₁, annotated, admitted⟩ := bind_ok_iff.1 h
  exact applyNull_exampleless (annotate_exampleless hn annotated) admitted

/-- While nothing is open or recorded, an expansion gives a new node. -/
theorem Expansion.exampleless {descend : Descent} {ty : TypeId} {d : TypeDescriptor}
    {cls : Classification} {t t' : Traversal} {id : NodeId}
    (h : Expansion gen g descend ty d cls t id t') (opens : ∀ ty, t.guard.cutReason? ty = none)
    (fresh : ∀ i, t.identifiers.get? i = none) : t'.arena.Exampleless id := by
  cases h with
  | leaf node =>
    exact Arena.exampleless_push _ (SchemaNode.isMadeOf_leafNode? node).not_isShared
      (SchemaNode.IsBare.of_leafNode? node).example?
  | cut _ closed => rw [opens] at closed; cases closed
  | collection _ _ node _ =>
    exact Arena.exampleless_push _ (SchemaNode.isMadeOf_collectionNode? node).not_isShared
      (SchemaNode.IsBare.of_collectionNode? node).example?
  | reference _ expanded => rw [fresh] at expanded; cases expanded
  | cutObject _ _ closed => rw [opens] at closed; cases closed
  | @object o _ t₁ i _ _ ids _ _ _ _ _ =>
    have added := t₁.arena.get?_push_push_self (objectNode gen o i ids) (objectNode gen o i ids)
    exact ⟨_, added, (SchemaNode.isMadeOf_objectNode gen o i ids).not_isShared,
      (SchemaNode.IsBare.of_objectNode gen o i ids).example?⟩

/-- While nothing is open or recorded, a type that is no field gets a node of its own, without an
example. -/
theorem nodeFor_exampleless {levels : Nat} {ty : TypeId} {t t' : Traversal} {id : NodeId}
    (h : nodeFor gen g levels ty none t = .ok id t') (opens : ∀ ty, t.guard.cutReason? ty = none)
    (fresh : ∀ i, t.identifiers.get? i = none) : t'.arena.Exampleless id := by
  induction levels generalizing ty t' id with
  | zero => cases h
  | succ levels ih =>
    obtain ⟨d, -, hs⟩ := nodeStep_ok h
    cases hs with
    | wrapped _ part finish => exact wrapNull_exampleless (ih part) finish
    | @overridden o _ _ _ _ _ finish =>
      have bare := SchemaNode.IsBare.of_override o
      exact decorate_exampleless (Arena.exampleless_push _
        (SchemaNode.isMadeOf_override o).not_isShared bare.example?) finish
    | @expanded _ t₀ _ _ _ _ _ overrideless expansion finish =>
      have looked := overrideFor_none overrideless
      refine decorate_exampleless (expansion.exampleless ?_ ?_) finish
      · rw [looked]; exact opens
      · rw [looked]; exact fresh

/-- **Components are made from nodes without examples.** -/
theorem generate_exampleless {root : TypeId} {w w' : Workspace} {s : GeneratedSchema}
    (h : generate gen g root w = .ok s w') :
    (s.arena.render s.root).get? "example" = none ∧
      ∀ i node, s.identifiers.get? i = some node →
        (s.arena.render node).get? "example" = none := by
  have rendered : ∀ node n, s.arena.get? node = some n → n.example? = none →
      (s.arena.render node).get? "example" = none := by
    intro node n hn bare
    obtain ⟨levels, hlevels⟩ := Nat.exists_eq_add_of_lt (Arena.lt_size_of_get? hn)
    simp only [Arena.render, hlevels, Arena.renderTo, hn]
    exact SchemaNode.get?_example_render bare _
  constructor
  · obtain ⟨t, hn, hs, -⟩ := generate_ok h
    obtain ⟨n, found, -, bare⟩ := nodeFor_exampleless hn (w.begin_opens gen) fun i => rfl
    exact rendered s.root n (by rw [hs]; exact found) bare
  · intro i node recorded
    obtain ⟨n, hn, -, -, -, bare⟩ := (generate_pushes h).2.2 i node recorded
    exact rendered node n hn bare

end

/-! ### Components and their examples -/

/-- A rendered node is always an object. -/
theorem Arena.exists_render_eq (a : Arena) (id : NodeId) :
    ∃ fields, a.render id = .object fields := by
  unfold render
  cases a.size with
  | zero => exact ⟨[], rfl⟩
  | succ levels =>
    unfold renderTo
    cases a.get? id with
    | none => exact ⟨[], rfl⟩
    | some n => exact n.exists_render_eq _

namespace Generator

variable {gen : Generator} {g : TypeGraph} {ty : TypeId} {s : GeneratedSchema} {node : NodeId}

/-- A component without its example is its schema without one. -/
theorem component_without : (gen.component g ty s node).without "example" =
    (s.arena.render node).without "example" := by
  unfold component
  cases gen.exampleFor? g ty s node with
  | none => rfl
  | some v => exact Json.without_withDefault "example" v _

/-- The example of a component is the one that it gets. -/
theorem component_example (bare : (s.arena.render node).get? "example" = none) :
    (gen.component g ty s node).get? "example" = gen.exampleFor? g ty s node := by
  unfold component
  obtain ⟨fields, rendered⟩ := s.arena.exists_render_eq node
  cases gen.exampleFor? g ty s node with
  | none => exact bare
  | some v =>
    rw [rendered] at bare ⊢
    exact Json.get?_withDefault_self bare v

/-- Where no examples are wanted, none is looked for. -/
theorem exampleFor?_of_unwanted (unwanted : gen.config.synthesizeExamples = false) :
    gen.exampleFor? g ty s node = none := by
  simp [exampleFor?, unwanted]

end Generator

/-! ### Other wishes -/

/-- The generator with other wishes about examples, which take other times. -/
def Generator.withExamples (gen : Generator) (wanted : Bool) (budget : Nat) (clock : Clock) :
    Generator :=
  { gen with
    config := { gen.config with synthesizeExamples := wanted, exampleBudget := budget }
    clock }

/-- Schemas are built alike, whatever is wanted of examples. -/
theorem nodeFor_withExamples (gen : Generator) (wanted : Bool) (budget : Nat) (clock : Clock)
    (g : TypeGraph) (levels : Nat) :
    nodeFor (gen.withExamples wanted budget clock) g levels = nodeFor gen g levels := by
  induction levels with
  | zero => rfl
  | succ levels ih =>
    have step : ∀ descend : Descent,
        nodeStep (gen.withExamples wanted budget clock) g descend = nodeStep gen g descend :=
      fun _ => rfl
    rw [nodeFor, nodeFor, ih, step]

/-- A generation does not depend on whether examples are wanted: they are made afterwards. -/
theorem generate_withExamples (gen : Generator) (wanted : Bool) (budget : Nat) (clock : Clock)
    (g : TypeGraph) (root : TypeId) :
    generate (gen.withExamples wanted budget clock) g root = generate gen g root := by
  funext w
  unfold generate
  rw [nodeFor_withExamples]
  rfl

/-- What a generation gives depends on the registry alone. -/
theorem generate_of_registry {gen : Generator} {g : TypeGraph} {root : TypeId}
    {w w₁ w' : Workspace} {s : GeneratedSchema} (h : generate gen g root w = .ok s w₁)
    (same : w'.registry = w.registry) :
    ∃ w₁', generate gen g root w' = .ok s w₁' ∧ w₁'.registry = w₁.registry := by
  let p : Twins := ⟨Equiv.refl _, w.events, w'.events⟩
  have related : p.Workspaces w w' := ⟨same, [], by simp [p], by simp [p]⟩
  obtain ⟨s', w₁', h', rfl, hr, -⟩ :=
    lockstep_generate (TypeGraph.Relabels.refl g) gen root related h
  have kept : s.relabel p.φ = s := congrArg
    (fun components => { s with components }) (SortedMap.mapValues_id s.components)
  rw [kept] at h'
  exact ⟨w₁', h', hr⟩

/-- The same but for the examples, which are gone where they are not wanted. -/
structure Json.SameSchema (wanted wanted' : Bool) (j j' : Json) : Prop where
  same : j'.without "example" = j.without "example"
  unwanted : wanted = false → j.get? "example" = none
  unwanted' : wanted' = false → j'.get? "example" = none

/-- Whatever is said about examples, the components are the same without them. -/
theorem follows_withExamples (gen : Generator) (g : TypeGraph) (wanted : Bool) (budget : Nat)
    (clock : Clock) : gen.Follows g (Json.SameSchema gen.config.synthesizeExamples wanted)
      (gen.withExamples wanted budget clock) := by
  intro ty w w' same s w₁ h
  obtain ⟨w₁', h', same₁⟩ := generate_of_registry h same
  obtain ⟨root, recorded⟩ := generate_exampleless h
  have alike : ∀ ty node, (s.arena.render node).get? "example" = none →
      Json.SameSchema gen.config.synthesizeExamples wanted (gen.component g ty s node)
        ((gen.withExamples wanted budget clock).component g ty s node) := by
    intro ty node bare
    refine ⟨?_, fun unwanted => ?_, fun unwanted => ?_⟩
    · rw [Generator.component_without, Generator.component_without]
    · rw [Generator.component_example bare, Generator.exampleFor?_of_unwanted unwanted]
    · rw [Generator.component_example bare, Generator.exampleFor?_of_unwanted unwanted]
  refine ⟨s, w₁', by rw [generate_withExamples, h'], ⟨rfl, fun ty => alike ty _ root, ?_⟩, same₁⟩
  exact .of_get? fun i node hi ty => alike ty node (recorded i node hi)

/-- **Examples never influence schemas.**  Two generators that differ in whether they want examples,
in the budget for them and in the time they take build documents of the same roots, or neither does,
from equal registries.  The documents are the same when the examples of their components are taken
away, the registries are equal, and where examples are not wanted there are none. -/
theorem generateDocument_withExamples (gen : Generator) (wanted : Bool) (budget : Nat)
    (clock : Clock) (g : TypeGraph) (roots : List TypeId) {w w' : Workspace}
    (same : w'.registry = w.registry) :
    (Succeeds (generateDocument gen g roots) w ↔
      Succeeds (generateDocument (gen.withExamples wanted budget clock) g roots) w') ∧
    ∀ d w₁ d' w₁', generateDocument gen g roots w = .ok d w₁ →
      generateDocument (gen.withExamples wanted budget clock) g roots w' = .ok d' w₁' →
      d'.withoutExamples = d.withoutExamples ∧ w₁'.registry = w₁.registry ∧
        (gen.config.synthesizeExamples = false → d.Exampleless) ∧
        (wanted = false → d'.Exampleless) := by
  -- the first generator is the second one with its own wishes
  have back : (gen.withExamples wanted budget clock).Follows g
      (Json.SameSchema wanted gen.config.synthesizeExamples) gen :=
    follows_withExamples (gen.withExamples wanted budget clock) g gen.config.synthesizeExamples
      gen.config.exampleBudget gen.clock
  obtain ⟨both, agree⟩ :=
    documents_of_follows (follows_withExamples gen g wanted budget clock) back roots same
  refine ⟨both, fun d w₁ d' w₁' h h' => ?_⟩
  obtain ⟨related, hr⟩ := agree d w₁ d' w₁' h h'
  refine ⟨?_, hr, fun unwanted id j hj => ?_, fun unwanted id j hj => ?_⟩
  · have version : d'.version = d.version :=
      (version_of_generateDocument h').trans (version_of_generateDocument h).symm
    have components := (related.imp fun j j' hjj' => hjj'.same).mapValues_eq
    simp only [SchemaDocument.withoutExamples, version, components]
  · obtain ⟨j', -, hjj'⟩ := related.exists_right hj
    exact hjj'.unwanted unwanted
  · obtain ⟨j₀, -, hjj'⟩ := related.exists_left hj
    exact hjj'.unwanted' unwanted

/-- With a budget of zero the second document has no examples; the first one has. -/
theorem generateDocument_withExamples_usedTwice :
    ∃ d w d' w', generateDocument (.plain {}) .usedTwice [⟨0⟩] {} = .ok d w ∧
      generateDocument (Generator.withExamples (.plain {}) true 0 .still) .usedTwice [⟨0⟩]
        { throttled := 1 } = .ok d' w' ∧
      d.components.toList.map (fun e => (e.1, e.2.get? "example")) =
        [("A", some (.object [("x", .null), ("y", .object [])])), ("B", some (.object []))] ∧
      d'.components.toList.map (fun e => (e.1, e.2.get? "example")) = [("A", none), ("B", none)] ∧
      d'.withoutExamples = d.withoutExamples ∧ w'.throttled = 3 ∧ w'.registry = w.registry := by
  have computed : Work.value? (do
      let d ← generateDocument (.plain {}) .usedTwice [⟨0⟩]
      return d.components.toList.map (fun e => (e.1, e.2.get? "example"))) {} =
      some [("A", some (.object [("x", .null), ("y", .object [])])), ("B", some (.object []))] := by
    cbv
  have computed' : Work.value? (do
      let d ← generateDocument (Generator.withExamples (.plain {}) true 0 .still) .usedTwice [⟨0⟩]
      return (d.components.toList.map (fun e => (e.1, e.2.get? "example")), (← get).throttled))
      { throttled := 1 } = some ([("A", none), ("B", none)], 3) := by cbv
  obtain ⟨d, w, h, examples⟩ := Work.ok_of_reading computed
  obtain ⟨d', w', h', hread⟩ := Work.ok_of_reading computed'
  obtain ⟨examples', throttled⟩ := Prod.mk.inj hread
  have equal : ({ throttled := 1 } : Workspace).registry = ({} : Workspace).registry := rfl
  obtain ⟨same, registry, -⟩ :=
    (generateDocument_withExamples (.plain {}) true 0 .still .usedTwice [⟨0⟩] equal).2
      d w d' w' h h'
  exact ⟨d, w, d', w', h, h', examples, examples', same, throttled, registry⟩

end TypeSchema
