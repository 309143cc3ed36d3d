import TypeSchema.Proofs.Generation.Roots
import TypeSchema.Proofs.Generation.Run
import TypeSchema.Proofs.Schema.Walk
import TypeSchema.Proofs.SortedMap.Related

/-!
# Documents — two generators side by side

Two generators build documents of one graph, from equal registries.  `gen.Follows g K gen'` says
that `gen'` generates each type that `gen` does, and that the components are the same ones, related
by `K`.  Whole documents are then generated alike (`Generator.Follows.generateDocument`): the roots
are the same, and so is the queue, as neither depends on what the components hold.

What a component holds is a function of the generated schema (`Generator.component`); making one
changes the reports of a workspace at most.
-/

namespace TypeSchema

/-! ### Components -/

/-- The example that a component gets. -/
def Generator.exampleFor? (gen : Generator) (g : TypeGraph) (ty : TypeId) (s : GeneratedSchema)
    (node : NodeId) : Option Json :=
  if gen.config.synthesizeExamples then
    ((g.describe? ty).bind (·.example?)).or
      (s.arena.synthesize (gen.deadline s.arena node) node).1
  else none

/-- The budget lasts for every sample, or there is none. -/
def Generator.Steady (gen : Generator) : Prop := ∀ a id, (gen.deadline a id).Steady

theorem Generator.steady_plain (config : Config) : (plain config).Steady :=
  fun _ _ => Deadline.steady_still config.exampleBudget

/-- A component with its example. -/
def Generator.component (gen : Generator) (g : TypeGraph) (ty : TypeId) (s : GeneratedSchema)
    (node : NodeId) : Json :=
  match gen.exampleFor? g ty s node with
  | some v => Json.withDefault "example" v (s.arena.render node)
  | none => s.arena.render node

/-- Where examples are wanted a component gets the one that is found for it. -/
theorem componentExample_eq {gen : Generator} (wanted : gen.config.synthesizeExamples = true)
    (g : TypeGraph) (ty : TypeId) (s : GeneratedSchema) (node : NodeId) (w : Workspace) :
    ∃ w', componentExample gen g ty s node w = .ok (gen.exampleFor? g ty s node) w' ∧
      w'.registry = w.registry := by
  have resolved : ∀ single? : Option Json,
      ((ExampleSources.resolve { single?, schema? := some node } {} s.arena
        (gen.deadline s.arena node)).1.map (·.2)) =
      single?.or (s.arena.synthesize (gen.deadline s.arena node) node).1 := by
    intro single?
    cases single? with
    | some v => rfl
    | none =>
      change ((s.arena.synthesize (gen.deadline s.arena node) node).1.map
        (ExampleSource.synthesized, ·)).map (·.2) = _
      rw [Option.map_map]
      exact Option.map_id'
  rw [Generator.exampleFor?, if_pos wanted, ← resolved]
  exact ⟨_, rfl, rfl⟩

/-- Making a component gives the same from every workspace, and keeps the registry. -/
theorem componentJson_eq (gen : Generator) (g : TypeGraph) (ty : TypeId) (s : GeneratedSchema)
    (node : NodeId) (w : Workspace) : ∃ w', componentJson gen g ty s node w =
      .ok (gen.component g ty s node) w' ∧ w'.registry = w.registry := by
  by_cases wanted : gen.config.synthesizeExamples
  · obtain ⟨w', found, hr⟩ := componentExample_eq wanted g ty s node w
    refine ⟨w', ?_, hr⟩
    simp only [componentJson, wanted, if_true, bind_of_ok found, Generator.component]
    cases gen.exampleFor? g ty s node <;> rfl
  · refine ⟨w, ?_, rfl⟩
    simp only [componentJson, Generator.component, Generator.exampleFor?, wanted]
    rfl

/-! ### Workspaces and schemas side by side -/

/-- The registries are equal. -/
def Workspace.SameRegistry (w w' : Workspace) : Prop := w'.registry = w.registry

/-- The two schemas give the same components for the type and for what it expands on the way,
related by `K`. -/
structure GeneratedSchema.Alike (K : Json → Json → Prop) (g : TypeGraph) (gen gen' : Generator)
    (s s' : GeneratedSchema) : Prop where
  components : s'.components = s.components
  root : ∀ ty, K (gen.component g ty s s.root) (gen'.component g ty s' s'.root)
  expanded : s.identifiers.Related
    (fun node node' => ∀ ty, K (gen.component g ty s node) (gen'.component g ty s' node'))
    s'.identifiers

/-- The second generator generates what the first one does, and gives related components. -/
def Generator.Follows (gen : Generator) (g : TypeGraph) (K : Json → Json → Prop)
    (gen' : Generator) : Prop :=
  ∀ ty, Lockstep Workspace.SameRegistry (GeneratedSchema.Alike K g gen gen') (generate gen g ty)
    (generate gen' g ty)

/-- The same components, related by `K`, and the same queue. -/
structure Collected.Alike (K : Json → Json → Prop) (c c' : Collected) : Prop where
  components : c.components.Related K c'.components
  pending : c'.pending = c.pending

namespace GeneratedSchema.Alike

variable {K : Json → Json → Prop} {g : TypeGraph} {gen gen' : Generator} {s s' : GeneratedSchema}

/-- The references that are open are the same on both sides. -/
theorem unresolved_eq (h : s.Alike K g gen gen' s') : s'.unresolved = s.unresolved := by
  simp only [GeneratedSchema.unresolved, h.components, h.expanded.contains_eq]

/-- Components made from related nodes are related. -/
theorem componentJson {ty : TypeId} {node node' : NodeId}
    (hK : K (gen.component g ty s node) (gen'.component g ty s' node')) :
    Lockstep Workspace.SameRegistry K (TypeSchema.componentJson gen g ty s node)
      (TypeSchema.componentJson gen' g ty s' node') := by
  intro w w' hw j w₁ hj
  obtain ⟨w₂, made, hr⟩ := componentJson_eq gen g ty s node w
  obtain ⟨w₂', made', hr'⟩ := componentJson_eq gen' g ty s' node' w'
  rw [made] at hj
  cases hj
  exact ⟨_, w₂', made', hK, hr'.trans (hw.trans hr.symm)⟩

/-- The expanded components are added alike. -/
theorem addExpanded (same : s'.components = s.components) {l l' : List (String × NodeId)}
    (expanded : SortedMap.RelatedEntries
      (fun node node' => ∀ ty, K (gen.component g ty s node) (gen'.component g ty s' node')) l l')
    {m m' : SortedMap Json} (hm : m.Related K m') :
    Lockstep Workspace.SameRegistry (SortedMap.Related K) (TypeSchema.addExpanded gen g s m l)
      (TypeSchema.addExpanded gen' g s' m' l') := by
  induction expanded generalizing m m' with
  | nil => exact .of_pure hm
  | @cons e e' rest rest' he _ ih =>
    obtain ⟨id, node⟩ := e
    obtain ⟨id', node'⟩ := e'
    obtain ⟨rfl, hK⟩ : id' = id ∧ _ := he
    simp only [TypeSchema.addExpanded, hm.contains_eq, same]
    split
    · exact ih hm
    · cases s.components.get? id' with
      | none => exact ih hm
      | some ty => exact (componentJson (hK ty)).bind fun j j' hj => ih (hm.insert id' hj)

end GeneratedSchema.Alike

/-! ### Documents side by side -/

namespace Generator.Follows

variable {K : Json → Json → Prop} {g : TypeGraph} {gen gen' : Generator}
  (follows : gen.Follows g K gen')

theorem pending_eq {m m' : SortedMap Json} (h : m.Related K m') (pending : SortedMap TypeId)
    (unresolved : List (String × TypeId)) :
    addPending m' pending unresolved = addPending m pending unresolved := by
  simp only [addPending, h.contains_eq]

theorem assignId (g : TypeGraph) (ty : TypeId) :
    Lockstep Workspace.SameRegistry Eq (TypeSchema.assignId g ty) (TypeSchema.assignId g ty) := by
  refine Lockstep.of_get.bind fun w w' hw => ?_
  rw [show w'.registry = w.registry from hw]
  cases w.registry.assign g ty with
  | error e => exact .of_throw e _
  | ok r => exact Lockstep.bind_eq (.of_modify fun _ _ _ => rfl) fun _ => .of_pure rfl

include follows

/-- **One generation adds the same components.** -/
theorem addRoot {c c' : Collected} (hc : c.Alike K c') (id : String) (ty : TypeId) :
    Lockstep Workspace.SameRegistry (Collected.Alike K) (TypeSchema.addRoot gen g c id ty)
      (TypeSchema.addRoot gen' g c' id ty) := by
  refine (follows ty).bind fun s s' hs => ?_
  refine (GeneratedSchema.Alike.componentJson (hs.root ty)).bind fun j j' hj => ?_
  refine (GeneratedSchema.Alike.addExpanded hs.components hs.expanded
    (hc.components.insert id hj)).bind fun m m' hm => .of_pure ⟨hm, ?_⟩
  rw [hc.pending, hs.unresolved_eq, pending_eq hm]

/-- The roots are added alike, given schemas that are. -/
theorem addRoots {c c' : Collected} (hc : c.Alike K c') (tys : List TypeId) :
    Lockstep Workspace.SameRegistry (Collected.Alike K) (TypeSchema.addRoots gen g c tys)
      (TypeSchema.addRoots gen' g c' tys) := by
  induction tys generalizing c c' with
  | nil => exact .of_pure hc
  | cons ty rest ih =>
    exact (assignId g ty).bind_eq fun id =>
      (addRoot follows hc id ty).bind fun c₁ c₁' hc₁ => ih hc₁

/-- The queue is worked off in the same order. -/
theorem drain {remaining : List TypeId} {c c' : Collected} (hc : c.Alike K c') :
    Lockstep Workspace.SameRegistry (Collected.Alike K) (TypeSchema.drain gen g remaining c)
      (TypeSchema.drain gen' g remaining c') := by
  intro w w' hw c₁ w₁ h
  obtain ⟨calls, run⟩ := drain_ok_iff.1 h
  clear h
  induction run generalizing c' w' with
  | @done _ c w empty =>
    rw [drain_of_empty (hc.pending ▸ empty)]
    exact ⟨c', w', rfl, hc, hw⟩
  | @skip _ c _ id ty pending _ _ _ first known _ ih =>
    have rest : Collected.Alike K { c with pending } { c' with pending } := ⟨hc.components, rfl⟩
    obtain ⟨c₁', w₁', h', hc₁, hw₁⟩ := ih rest hw
    refine ⟨c₁', w₁', ?_, hc₁, hw₁⟩
    rw [drain_of_first (hc.pending ▸ first), hc.components.contains_eq]
    split
    · exact h'
    · next open_ => rw [if_neg (known.resolve_left open_), h']
  | @root _ c _ _ id ty pending _ _ _ _ _ _ first new open_ _ added _ ih =>
    have rest : Collected.Alike K { c with pending } { c' with pending } := ⟨hc.components, rfl⟩
    obtain ⟨c₂', w₂', added', hc₂, hw₂⟩ := addRoot follows rest id ty hw added
    obtain ⟨c₁', w₁', h', hc₁, hw₁⟩ := ih hc₂ hw₂
    refine ⟨c₁', w₁', ?_, hc₁, hw₁⟩
    rw [drain_of_first (hc.pending ▸ first), hc.components.contains_eq, if_neg new, if_pos open_,
      bind_of_ok added', h']

/-- **Documents have the same components**, related by `K`, and leave the same registry. -/
theorem generateDocument (roots : List TypeId) :
    Lockstep Workspace.SameRegistry (fun d d' => d.components.Related K d'.components)
      (TypeSchema.generateDocument gen g roots) (TypeSchema.generateDocument gen' g roots) := by
  unfold TypeSchema.generateDocument
  cases identified g roots with
  | error e => exact .of_throw e _
  | ok named =>
    refine (addRoots follows ⟨.empty, rfl⟩ (orderedRoots named)).bind fun c c' hc => ?_
    exact (drain follows hc).bind fun c₁ c₁' hc₁ => .of_pure hc₁.components

end Generator.Follows

/-- A document is of the configured version. -/
theorem version_of_generateDocument {gen : Generator} {g : TypeGraph} {roots : List TypeId}
    {d : SchemaDocument} {w w' : Workspace} (h : generateDocument gen g roots w = .ok d w') :
    d.version = gen.config.version := by
  obtain ⟨calls, run⟩ := generateDocument_ok_iff.1 h
  cases run
  rfl

/-- Two generators that follow each other build documents from the same roots, with the same
components, and leave the same registry. -/
theorem documents_of_follows {K K' : Json → Json → Prop} {g : TypeGraph} {gen gen' : Generator}
    (follows : gen.Follows g K gen') (back : gen'.Follows g K' gen)
    (roots : List TypeId) {w w' : Workspace} (same : w'.registry = w.registry) :
    (Succeeds (generateDocument gen g roots) w ↔ Succeeds (generateDocument gen' g roots) w') ∧
      ∀ d w₁ d' w₁', generateDocument gen g roots w = .ok d w₁ →
        generateDocument gen' g roots w' = .ok d' w₁' →
        d.components.Related K d'.components ∧ w₁'.registry = w₁.registry := by
  refine ⟨⟨fun ⟨d, w₁, h⟩ => ?_, fun ⟨d, w₁, h⟩ => ?_⟩, fun d w₁ d' w₁' h h' => ?_⟩
  · obtain ⟨d', w₁', h', -, -⟩ := follows.generateDocument roots same h
    exact ⟨d', w₁', h'⟩
  · obtain ⟨d', w₁', h', -, -⟩ := back.generateDocument roots same.symm h
    exact ⟨d', w₁', h'⟩
  · obtain ⟨d₂, w₂, h₂, hd, hw⟩ := follows.generateDocument roots same h
    rw [h₂] at h'
    cases h'
    exact ⟨hd, hw⟩

end TypeSchema
