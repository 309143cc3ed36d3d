import TypeSchema.Proofs.Generation.Examples

/-!
# Documents — what the clock can change

The clock is looked at only while a sample is made up for a component, and what comes of that is the
sample or a report that it was given up.  So two clocks on which the same samples are synthesized
give the same documents, registries and reports (`generateDocument_withClock`).

Where the budget lasts on both clocks that is so (`generateDocument_of_lasts`): then nothing that is
made depends on how long it takes, and what is said of two runs on one clock holds of two runs that
are timed differently.  A budget of zero gives the same documents as well, though the time that is
reported may differ (`generateDocument_of_steady`).
-/

namespace TypeSchema

/-- The generator on another clock. -/
def Generator.withClock (gen : Generator) (clock : Clock) : Generator := { gen with clock }

/-- The same is synthesized on both clocks. -/
def Generator.SamplesAlike (gen : Generator) (clock : Clock) : Prop :=
  ∀ (a : Arena) (id : NodeId), a.synthesize ((gen.withClock clock).deadline a id) id =
    a.synthesize (gen.deadline a id) id

variable (gen : Generator) (clock : Clock) (g : TypeGraph)

/-! ### Schemas -/

/-- No clock is looked at while schemas are built. -/
theorem nodeFor_withClock (levels : Nat) :
    nodeFor (gen.withClock clock) g levels = nodeFor gen g levels := by
  induction levels with
  | zero => rfl
  | succ levels ih =>
    have step : ∀ descend : Descent,
        nodeStep (gen.withClock clock) g descend = nodeStep gen g descend := fun _ => rfl
    rw [nodeFor, nodeFor, ih, step]

/-- A generation does not look at the clock: it samples nothing. -/
theorem generate_withClock (root : TypeId) :
    generate (gen.withClock clock) g root = generate gen g root := by
  funext w
  unfold generate
  rw [nodeFor_withClock]
  rfl

/-! ### Documents -/

section

variable {gen clock g} (alike : gen.SamplesAlike clock)
include alike

/-- The rest of a component, its example apart, does not depend on the clock. -/
theorem componentJson_withClock (ty : TypeId) (s : GeneratedSchema) (node : NodeId) :
    componentJson (gen.withClock clock) g ty s node = componentJson gen g ty s node := by
  have resolved : ∀ single? : Option Json,
      ExampleSources.resolve { single?, schema? := some node } {} s.arena
          ((gen.withClock clock).deadline s.arena node) =
        ExampleSources.resolve { single?, schema? := some node } {} s.arena
          (gen.deadline s.arena node) := fun single? => by
    cases single? with
    | some v => rfl
    | none =>
      exact congrArg (fun r : Option Json × List DiagnosticEvent =>
        (r.1.map (ExampleSource.synthesized, ·), r.2)) (alike s.arena node)
  have found : componentExample (gen.withClock clock) g ty s node =
      componentExample gen g ty s node := by
    simp only [componentExample, resolved]
  unfold componentJson
  rw [found]
  rfl

theorem addExpanded_withClock (s : GeneratedSchema) (components : SortedMap Json)
    (l : List (String × NodeId)) : addExpanded (gen.withClock clock) g s components l =
      addExpanded gen g s components l := by
  induction l generalizing components with
  | nil => rfl
  | cons e rest ih => simp only [addExpanded, ih, componentJson_withClock alike]

theorem addRoot_withClock (c : Collected) (id : String) (ty : TypeId) :
    addRoot (gen.withClock clock) g c id ty = addRoot gen g c id ty := by
  simp only [addRoot, generate_withClock, componentJson_withClock alike,
    addExpanded_withClock alike]

theorem addRoots_withClock (c : Collected) (tys : List TypeId) :
    addRoots (gen.withClock clock) g c tys = addRoots gen g c tys := by
  induction tys generalizing c with
  | nil => rfl
  | cons ty rest ih => simp only [addRoots, addRoot_withClock alike, ih]

theorem drain_withClock (remaining : List TypeId) (c : Collected) :
    drain (gen.withClock clock) g remaining c = drain gen g remaining c := by
  induction remaining, c using drain.induct with
  | case1 remaining c empty => rw [drain_of_empty empty, drain_of_empty empty]
  | case2 remaining c id ty pending first known ih =>
    rw [drain_of_first first, drain_of_first first, if_pos known, if_pos known, ih]
  | case3 remaining c id ty pending first new open_ ih =>
    rw [drain_of_first first, drain_of_first first, if_neg new, if_neg new, if_pos open_,
      if_pos open_, addRoot_withClock alike]
    exact congrArg _ (funext ih)
  | case4 remaining c id ty pending first new closed ih =>
    rw [drain_of_first first, drain_of_first first, if_neg new, if_neg new, if_neg closed,
      if_neg closed, ih]

/-- **A document depends on the clock through its samples only.** -/
theorem generateDocument_withClock (roots : List TypeId) :
    generateDocument (gen.withClock clock) g roots = generateDocument gen g roots := by
  unfold generateDocument
  cases identified g roots with
  | error e => rfl
  | ok named =>
    simp only [addRoots_withClock alike, drain_withClock alike]
    rfl

end

/-- **Where the budget lasts nothing depends on the time that is taken.** -/
theorem generateDocument_of_lasts {gen : Generator} {clock : Clock}
    (lasts : ∀ a id, (gen.deadline a id).Lasts)
    (lasts' : ∀ a id, ((gen.withClock clock).deadline a id).Lasts) (g : TypeGraph)
    (roots : List TypeId) :
    generateDocument (gen.withClock clock) g roots = generateDocument gen g roots :=
  generateDocument_withClock (fun a id => by
    rw [a.synthesize_of_lasts id (lasts a id), a.synthesize_of_lasts id (lasts' a id)]) roots

/-- Under two steady clocks a step of the generator gives the same component. -/
theorem follows_withClock {gen : Generator} {clock : Clock} (steady : gen.Steady)
    (steady' : (gen.withClock clock).Steady) (g : TypeGraph) :
    gen.Follows g (fun j j' => j' = j) (gen.withClock clock) := by
  intro ty w w' same s w₁ h
  obtain ⟨w₁', h', same₁⟩ := generate_of_registry h same
  have alike : ∀ ty node,
      (gen.withClock clock).component g ty s node = gen.component g ty s node := by
    intro ty node
    have synthesized := s.arena.synthesize_of_budget_eq node (steady s.arena node)
      (steady' s.arena node) rfl
    simp only [Generator.component, Generator.exampleFor?, synthesized]
    rfl
  exact ⟨s, w₁', by rw [generate_withClock, h'], ⟨rfl, fun ty => alike ty _,
    .of_get? fun i node _ ty => alike ty node⟩, same₁⟩

/-- **Where the budget lasts or is zero the documents are the same on every clock**, and so are the
registries. -/
theorem generateDocument_of_steady {gen : Generator} {clock : Clock} (steady : gen.Steady)
    (steady' : (gen.withClock clock).Steady) (g : TypeGraph) (roots : List TypeId)
    {w w' : Workspace} (same : w'.registry = w.registry) :
    (Succeeds (generateDocument gen g roots) w ↔
      Succeeds (generateDocument (gen.withClock clock) g roots) w') ∧
    ∀ d w₁ d' w₁', generateDocument gen g roots w = .ok d w₁ →
      generateDocument (gen.withClock clock) g roots w' = .ok d' w₁' →
      d' = d ∧ w₁'.registry = w₁.registry := by
  -- the first clock is the second generator's other one
  have back : (gen.withClock clock).Follows g (fun j j' => j' = j) gen :=
    @follows_withClock (gen.withClock clock) gen.clock steady' steady g
  obtain ⟨both, agree⟩ :=
    documents_of_follows (follows_withClock steady steady' g) back roots same
  refine ⟨both, fun d w₁ d' w₁' h h' => ?_⟩
  obtain ⟨related, hr⟩ := agree d w₁ d' w₁' h h'
  have version : d'.version = d.version :=
    (version_of_generateDocument h').trans (version_of_generateDocument h).symm
  have components : d'.components.mapValues id = d.components.mapValues id := related.mapValues_eq
  rw [SortedMap.mapValues_id, SortedMap.mapValues_id] at components
  exact ⟨congrArg₂ SchemaDocument.mk version components, hr⟩

end TypeSchema
