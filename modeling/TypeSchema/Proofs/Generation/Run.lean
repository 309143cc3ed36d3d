import TypeSchema.Generation.Document
import TypeSchema.Proofs.Generation.Links

/-!
# Documents — a run, taken apart

A document is built by generating types one after the other: the roots in their order, then types of
the queue.  `DocumentRun` says which generations a run consists of, and a document is built iff
there is such a run (`generateDocument_ok_iff`).

What one generation adds to the components is `Added`: the component of the generated type, those of
the types expanded on the way that have none yet, and in the queue the types that are mentioned and
have none then.
-/

namespace TypeSchema

/-- The value that a piece of work gives. -/
def Work.value? {α : Type} (x : Work α) (w : Workspace) : Option α :=
  match x w with
  | .ok a _ => some a
  | .error _ _ => none

theorem Work.value?_eq_some_iff {α : Type} {x : Work α} {w : Workspace} {a : α} :
    x.value? w = some a ↔ ∃ w', x w = .ok a w' := by
  unfold Work.value?
  cases x w <;> simp

/-- If reading off what some work leaves gives `b`, the work succeeds and `b` is read off its
outcome. -/
theorem Work.ok_of_reading {α β : Type} {x : Work α} {read : α → Workspace → β} {w : Workspace}
    {b : β} (h : Work.value? (do let a ← x; return read a (← get)) w = some b) :
    ∃ a w', x w = .ok a w' ∧ read a w' = b := by
  obtain ⟨_, h⟩ := Work.value?_eq_some_iff.1 h
  obtain ⟨a, w', hx, h⟩ := bind_ok_iff.1 h
  cases h
  exact ⟨a, _, hx, rfl⟩

/-- `j` is the schema of a node, possibly with an example. -/
def GeneratedSchema.Supplies (s : GeneratedSchema) (node : NodeId) (j : Json) : Prop :=
  j = s.arena.render node ∨ ∃ v, j = Json.withDefault "example" v (s.arena.render node)

/-! ### One generation -/

/-- Making a component keeps the registry. -/
theorem componentJson_ok {gen : Generator} {g : TypeGraph} {ty : TypeId} {s : GeneratedSchema}
    {node : NodeId} {j : Json} {w w' : Workspace}
    (h : componentJson gen g ty s node w = .ok j w') :
    s.Supplies node j ∧ w'.registry = w.registry := by
  unfold componentJson at h
  by_cases hs : gen.config.synthesizeExamples
  · simp only [hs, if_true] at h
    obtain ⟨v?, w₁, he, h⟩ := bind_ok_iff.1 h
    have hreg : w₁.registry = w.registry := by cases he; rfl
    cases v? with
    | none => cases h; exact ⟨.inl rfl, hreg⟩
    | some v => cases h; exact ⟨.inr ⟨v, rfl⟩, hreg⟩
  · rw [if_neg hs] at h
    cases h
    exact ⟨.inl rfl, rfl⟩

/-- `components'` has what `components` has, and a schema for each expansion of the list. -/
structure Supplemented (s : GeneratedSchema) (expansions : List (String × NodeId))
    (components components' : SortedMap Json) : Prop where
  kept : ∀ id j, components.get? id = some j → components'.get? id = some j
  origin : ∀ id j, components'.get? id = some j →
    components.get? id = some j ∨ ∃ node, (id, node) ∈ expansions ∧ s.Supplies node j
  supplied : ∀ id node, (id, node) ∈ expansions → s.components.contains id →
    components'.contains id

/-- Adding the expanded objects of a call supplements the components and leaves the registry. -/
theorem addExpanded_ok {gen : Generator} {g : TypeGraph} {s : GeneratedSchema}
    {expansions : List (String × NodeId)} {components components' : SortedMap Json}
    {w w' : Workspace} (h : addExpanded gen g s components expansions w = .ok components' w') :
    Supplemented s expansions components components' ∧ w'.registry = w.registry := by
  induction expansions generalizing components w with
  | nil =>
    cases h
    exact ⟨⟨fun _ _ h => h, fun _ _ h => .inl h, fun _ _ h => by cases h⟩, rfl⟩
  | cons e rest ih =>
    obtain ⟨id, node⟩ := e
    -- an expansion that adds nothing
    have pass : ∀ {w}, (s.components.contains id → components.contains id) →
        addExpanded gen g s components rest w = .ok components' w' →
        Supplemented s ((id, node) :: rest) components components' ∧ w'.registry = w.registry := by
      intro w hc h
      obtain ⟨⟨kept, origin, supplied⟩, hr⟩ := ih h
      refine ⟨⟨kept, fun id' j hj => ?_, fun id' n hm hs => ?_⟩, hr⟩
      · rcases origin id' j hj with hj | ⟨n, hm, hn⟩
        · exact .inl hj
        · exact .inr ⟨n, List.mem_cons_of_mem _ hm, hn⟩
      · rcases List.mem_cons.1 hm with hm | hm
        · cases hm
          obtain ⟨j, hj⟩ := SortedMap.contains_iff.1 (hc hs)
          exact SortedMap.contains_iff.2 ⟨j, kept _ _ hj⟩
        · exact supplied id' n hm hs
    simp only [addExpanded] at h
    by_cases hc : components.contains id
    · rw [if_pos hc] at h
      exact pass (fun _ => hc) h
    · rw [if_neg hc] at h
      cases ht : s.components.get? id with
      | none =>
        simp only [ht] at h
        exact pass (fun hs => by simp [SortedMap.contains, ht] at hs) h
      | some ty =>
        simp only [ht] at h
        obtain ⟨j₀, w₁, hj₀, h⟩ := bind_ok_iff.1 h
        obtain ⟨hsup, hr₁⟩ := componentJson_ok hj₀
        obtain ⟨⟨kept, origin, supplied⟩, hr⟩ := ih h
        have hid : components'.get? id = some j₀ := kept id j₀ (by simp)
        refine ⟨⟨fun id' j hj => ?_, fun id' j hj => ?_, fun id' n hm hs => ?_⟩, hr.trans hr₁⟩
        · refine kept id' j ?_
          have hne : id' ≠ id := fun e => hc (SortedMap.contains_iff.2 ⟨j, e ▸ hj⟩)
          rw [SortedMap.get?_insert, if_neg hne, hj]
        · rcases origin id' j hj with hj' | ⟨n, hm, hn⟩
          · rw [SortedMap.get?_insert] at hj'
            split at hj'
            · next e =>
              cases hj'
              exact .inr ⟨node, e ▸ List.mem_cons_self, hsup⟩
            · exact .inl hj'
          · exact .inr ⟨n, List.mem_cons_of_mem _ hm, hn⟩
        · rcases List.mem_cons.1 hm with hm | hm
          · cases hm
            exact SortedMap.contains_iff.2 ⟨j₀, hid⟩
          · exact supplied id' n hm hs

/-! ### The queue -/

/-- What was there counts before the entries that are added, and of these the first. -/
theorem get?_foldl_insertNew {l : List (String × TypeId)} {m : SortedMap TypeId} {id : String} :
    (l.foldl (fun m (id, ty) => m.insertNew id ty) m).get? id =
      (m.get? id).or (SortedMap.lookup id l) := by
  induction l generalizing m with
  | nil => simp [SortedMap.lookup]
  | cons e rest ih =>
    obtain ⟨id', ty⟩ := e
    simp only [List.foldl_cons, ih, SortedMap.get?_insertNew, SortedMap.lookup]
    by_cases h : id = id'
    · subst h
      cases m.get? id <;> simp
    · simp [h]

/-- What waits goes on waiting. -/
theorem get?_addPending_of_get? {components : SortedMap Json} {pending : SortedMap TypeId}
    {unresolved : List (String × TypeId)} {id : String} {ty : TypeId}
    (h : pending.get? id = some ty) :
    (addPending components pending unresolved).get? id = some ty := by
  simp [addPending, get?_foldl_insertNew, h]

/-- What is queued was queued before or is unresolved. -/
theorem origin_addPending {components : SortedMap Json} {pending : SortedMap TypeId}
    {unresolved : List (String × TypeId)} {id : String} {ty : TypeId}
    (h : (addPending components pending unresolved).get? id = some ty) :
    pending.get? id = some ty ∨ (id, ty) ∈ unresolved := by
  rw [addPending, get?_foldl_insertNew, Option.or_eq_some_iff] at h
  rcases h with h | ⟨-, h⟩
  · exact .inl h
  · exact .inr (List.mem_filter.1 (SortedMap.mem_of_lookup h)).1

/-- What is unresolved and has no component is queued. -/
theorem contains_addPending {components : SortedMap Json} {pending : SortedMap TypeId}
    {unresolved : List (String × TypeId)} {id : String} {ty : TypeId}
    (h : (id, ty) ∈ unresolved) (hc : ¬ components.contains id) :
    (addPending components pending unresolved).contains id := by
  have hl : ∃ ty', SortedMap.lookup id
      (unresolved.filter fun (id, _) => !components.contains id) = some ty' :=
    SortedMap.exists_lookup (List.mem_filter.2 ⟨h, by simp [hc]⟩)
  obtain ⟨ty', hl⟩ := hl
  rw [SortedMap.contains, addPending, get?_foldl_insertNew, hl]
  cases pending.get? id <;> rfl

/-- What is open is noted and not expanded. -/
theorem mem_unresolved_iff {s : GeneratedSchema} {id : String} {ty : TypeId} :
    (id, ty) ∈ s.unresolved ↔ s.components.get? id = some ty ∧ ¬ s.identifiers.contains id := by
  simp [GeneratedSchema.unresolved, List.mem_filter, SortedMap.mem_toList_iff]

/-! ### Adding a root -/

/-- What the generation `s` of a type as the component `id` adds. -/
structure Added (s : GeneratedSchema) (id : String) (c c' : Collected) : Prop where
  own : ∃ j, c'.components.get? id = some j ∧ s.Supplies s.root j
  kept : ∀ id' j, id' ≠ id → c.components.get? id' = some j → c'.components.get? id' = some j
  origin : ∀ id' j, id' ≠ id → c'.components.get? id' = some j →
    c.components.get? id' = some j ∨ ∃ node, s.identifiers.get? id' = some node ∧ s.Supplies node j
  expanded : ∀ id', s.identifiers.contains id' → s.components.contains id' →
    c'.components.contains id'
  queue : c'.pending = addPending c'.components c.pending s.unresolved

/-- No component is lost. -/
theorem Added.contains {s : GeneratedSchema} {id : String} {c c' : Collected} (h : Added s id c c')
    {id' : String} (hc : c.components.contains id') : c'.components.contains id' := by
  by_cases he : id' = id
  · obtain ⟨j, hj, -⟩ := h.own
    exact SortedMap.contains_iff.2 ⟨j, he ▸ hj⟩
  · obtain ⟨j, hj⟩ := SortedMap.contains_iff.1 hc
    exact SortedMap.contains_iff.2 ⟨j, h.kept id' j he hj⟩

/-- A component is that of the type, was there before, or was expanded on the way. -/
theorem Added.of_contains {s : GeneratedSchema} {id : String} {c c' : Collected}
    (h : Added s id c c') {id' : String} (hc : c'.components.contains id') :
    id' = id ∨ c.components.contains id' ∨ s.identifiers.contains id' := by
  refine or_iff_not_imp_left.2 fun other => ?_
  obtain ⟨j, hj⟩ := SortedMap.contains_iff.1 hc
  rcases h.origin id' j other hj with hj | ⟨node, hnode, -⟩
  · exact .inl (SortedMap.contains_iff.2 ⟨j, hj⟩)
  · exact .inr (SortedMap.contains_iff.2 ⟨node, hnode⟩)

/-- A root is generated once and its schema added. -/
theorem addRoot_ok {gen : Generator} {g : TypeGraph} {c c' : Collected} {id : String} {ty : TypeId}
    {w w' : Workspace} (h : addRoot gen g c id ty w = .ok c' w') :
    ∃ s w₁, generate gen g ty w = .ok s w₁ ∧ w'.registry = w₁.registry ∧ Added s id c c' := by
  obtain ⟨s, w₁, hs, h⟩ := bind_ok_iff.1 h
  obtain ⟨j, w₂, hj, h⟩ := bind_ok_iff.1 h
  obtain ⟨components, w₃, hx, h⟩ := bind_ok_iff.1 h
  obtain ⟨rfl, rfl⟩ := pure_ok_iff.1 h
  obtain ⟨hsup, hr₂⟩ := componentJson_ok hj
  obtain ⟨⟨kept, origin, supplied⟩, hr₃⟩ := addExpanded_ok hx
  refine ⟨s, w₁, hs, hr₃.trans hr₂, ?_, fun id' j' hne hj' => ?_, fun id' j' hne hj' => ?_,
    fun id' hi hc => ?_, rfl⟩
  · exact ⟨j, kept id j (by simp), hsup⟩
  · exact kept id' j' (by simpa [hne] using hj')
  · rcases origin id' j' hj' with hj' | ⟨node, hm, hn⟩
    · exact .inl (by simpa [hne] using hj')
    · exact .inr ⟨node, SortedMap.mem_toList_iff.1 hm, hn⟩
  · obtain ⟨node, hn⟩ := SortedMap.contains_iff.1 hi
    exact supplied id' node (SortedMap.mem_toList_iff.2 hn) hc

/-- What is added is what the generation gives. -/
theorem added_of_generated {gen : Generator} {g : TypeGraph} {c c' : Collected} {id : String}
    {ty : TypeId} {w w₁ w' : Workspace} {s : GeneratedSchema}
    (generated : generate gen g ty w = .ok s w₁) (added : addRoot gen g c id ty w = .ok c' w') :
    Added s id c c' ∧ w'.registry = w₁.registry := by
  obtain ⟨s', w₁', hs', hr, hadd⟩ := addRoot_ok added
  rw [generated] at hs'
  cases hs'
  exact ⟨hadd, hr⟩

/-- An identifier is assigned by the registry. -/
theorem assignId_ok {g : TypeGraph} {ty : TypeId} {w w' : Workspace} {id : String}
    (h : assignId g ty w = .ok id w') :
    ∃ events, w.registry.assign g ty = .ok (id, w'.registry, events) := by
  obtain ⟨w₁, w₂, hw, h⟩ := bind_ok_iff.1 h
  cases hw
  cases hr : w.registry.assign g ty with
  | error e => rw [hr] at h; cases h
  | ok p =>
    obtain ⟨id', r, events⟩ := p
    rw [hr] at h
    cases h
    exact ⟨events, rfl⟩

/-! ### Runs -/

/-- Roots are generated in order. -/
inductive RootsRun (gen : Generator) (g : TypeGraph) :
    Collected → List TypeId → Workspace → List GeneratedSchema → Collected → Workspace → Prop where
  | done (c : Collected) (w : Workspace) : RootsRun gen g c [] w [] c w
  | root {c c₁ c' : Collected} {ty : TypeId} {rest : List TypeId} {id : String}
      {w w₁ w₂ w₃ w' : Workspace} {s : GeneratedSchema} {calls : List GeneratedSchema}
      (assigned : assignId g ty w = .ok id w₁) (generated : generate gen g ty w₁ = .ok s w₂)
      (added : addRoot gen g c id ty w₁ = .ok c₁ w₃)
      (more : RootsRun gen g c₁ rest w₃ calls c' w') :
      RootsRun gen g c (ty :: rest) w (s :: calls) c' w'

/-- The queue is worked off; the list has the types that have not been generated as a root. -/
inductive QueueRun (gen : Generator) (g : TypeGraph) :
    List TypeId → Collected → Workspace → List GeneratedSchema → Collected → Workspace → Prop where
  | done {remaining : List TypeId} {c : Collected} {w : Workspace}
      (empty : c.pending.popFirst? = none) : QueueRun gen g remaining c w [] c w
  /-- The component is there, or the type has been generated. -/
  | skip {remaining : List TypeId} {c c' : Collected} {id : String} {ty : TypeId}
      {pending : SortedMap TypeId} {w w' : Workspace} {calls : List GeneratedSchema}
      (first : c.pending.popFirst? = some ((id, ty), pending))
      (known : c.components.contains id ∨ ty ∉ remaining)
      (more : QueueRun gen g remaining { c with pending } w calls c' w') :
      QueueRun gen g remaining c w calls c' w'
  | root {remaining : List TypeId} {c c₁ c' : Collected} {id : String} {ty : TypeId}
      {pending : SortedMap TypeId} {w w₁ w₂ w' : Workspace} {s : GeneratedSchema}
      {calls : List GeneratedSchema}
      (first : c.pending.popFirst? = some ((id, ty), pending))
      (new : ¬ c.components.contains id) (open_ : ty ∈ remaining)
      (generated : generate gen g ty w = .ok s w₁)
      (added : addRoot gen g { c with pending } id ty w = .ok c₁ w₂)
      (more : QueueRun gen g (remaining.erase ty) c₁ w₂ calls c' w') :
      QueueRun gen g remaining c w (s :: calls) c' w'

/-- A document is built; the list has the outcomes of all generations, in their order. -/
inductive DocumentRun (gen : Generator) (g : TypeGraph) (roots : List TypeId) (w : Workspace) :
    List GeneratedSchema → SchemaDocument → Workspace → Prop where
  | intro {named : List (String × TypeId)} {calls more : List GeneratedSchema} {c c' : Collected}
      {w₁ w' : Workspace} (known : identified g roots = .ok named)
      (first : RootsRun gen g {} (orderedRoots named) w calls c w₁)
      (rest : QueueRun gen g (g.ids.filter (· ∉ orderedRoots named)) c w₁ more c' w') :
      DocumentRun gen g roots w (calls ++ more) ⟨gen.config.version, c'.components⟩ w'

/-- The roots are added one after the other. -/
theorem addRoots_ok_iff {gen : Generator} {g : TypeGraph} {c c' : Collected} {tys : List TypeId}
    {w w' : Workspace} :
    addRoots gen g c tys w = .ok c' w' ↔ ∃ calls, RootsRun gen g c tys w calls c' w' := by
  induction tys generalizing c w with
  | nil =>
    refine ⟨fun h => ?_, fun ⟨calls, h⟩ => by cases h; rfl⟩
    cases h
    exact ⟨[], .done _ _⟩
  | cons ty rest ih =>
    -- an identifier, a generation, and the rest of the roots
    constructor
    · intro h
      obtain ⟨id, w₁, ha, h⟩ := bind_ok_iff.1 h
      obtain ⟨c₁, w₃, hr, h⟩ := bind_ok_iff.1 h
      obtain ⟨calls, hcalls⟩ := ih.1 h
      obtain ⟨s, w₂, hs, -, -⟩ := addRoot_ok hr
      exact ⟨s :: calls, .root ha hs hr hcalls⟩
    · rintro ⟨calls, h⟩
      cases h with
      | root assigned _ added more =>
        exact bind_ok_iff.2 ⟨_, _, assigned, bind_ok_iff.2 ⟨_, _, added, ih.2 ⟨_, more⟩⟩⟩

/-- With nothing waiting the queue is done. -/
theorem drain_of_empty {gen : Generator} {g : TypeGraph} {remaining : List TypeId} {c : Collected}
    (h : c.pending.popFirst? = none) : drain gen g remaining c = pure c := by
  rw [drain]
  split
  · rfl
  · next hp => rw [h] at hp; cases hp

/-- The first of the types that wait is dropped if it has a component or has been tried, and else
generated. -/
theorem drain_of_first {gen : Generator} {g : TypeGraph} {remaining : List TypeId} {c : Collected}
    {id : String} {ty : TypeId} {pending : SortedMap TypeId}
    (h : c.pending.popFirst? = some ((id, ty), pending)) :
    drain gen g remaining c =
      if c.components.contains id then drain gen g remaining { c with pending }
      else if ty ∈ remaining then do
        let c ← addRoot gen g { c with pending } id ty
        drain gen g (remaining.erase ty) c
      else drain gen g remaining { c with pending } := by
  rw [drain]
  split
  · next hp => rw [h] at hp; cases hp
  · next hp => rw [h] at hp; cases hp; rfl

/-- The queue is worked off from its front. -/
theorem drain_ok_iff {gen : Generator} {g : TypeGraph} {remaining : List TypeId} {c c' : Collected}
    {w w' : Workspace} :
    drain gen g remaining c w = .ok c' w' ↔ ∃ calls, QueueRun gen g remaining c w calls c' w' := by
  constructor
  · intro h
    fun_induction drain gen g remaining c generalizing w with
    | case1 remaining c hp =>
      cases h
      exact ⟨[], .done hp⟩
    | case2 remaining c id ty pending hp hc ih =>
      obtain ⟨calls, hcalls⟩ := ih h
      exact ⟨calls, .skip hp (.inl hc) hcalls⟩
    | case3 remaining c id ty pending hp hc hmem ih =>
      obtain ⟨c₁, w₁, hr, h⟩ := bind_ok_iff.1 h
      obtain ⟨calls, hcalls⟩ := ih c₁ h
      obtain ⟨s, w₂, hs, -, -⟩ := addRoot_ok hr
      exact ⟨s :: calls, .root hp hc hmem hs hr hcalls⟩
    | case4 remaining c id ty pending hp hc hmem ih =>
      obtain ⟨calls, hcalls⟩ := ih h
      exact ⟨calls, .skip hp (.inr hmem) hcalls⟩
  · rintro ⟨calls, h⟩
    induction h with
    | done empty =>
      rw [drain_of_empty empty]
      rfl
    | skip first known _ ih =>
      rw [drain_of_first first]
      split
      · exact ih
      · next hc => rw [if_neg (known.resolve_left hc)]; exact ih
    | root first new open_ _ added _ ih =>
      rw [drain_of_first first, if_neg new, if_pos open_]
      exact bind_ok_iff.2 ⟨_, _, added, ih⟩

/-- A run over one root. -/
theorem RootsRun.of_single {gen : Generator} {g : TypeGraph} {c c' : Collected} {ty : TypeId}
    {w w' : Workspace} {calls : List GeneratedSchema}
    (h : RootsRun gen g c [ty] w calls c' w') :
    ∃ id s w₁ w₂, calls = [s] ∧ assignId g ty w = .ok id w₁ ∧ generate gen g ty w₁ = .ok s w₂ ∧
      addRoot gen g c id ty w₁ = .ok c' w' := by
  cases h with
  | root assigned generated added last =>
    cases last
    exact ⟨_, _, _, _, rfl, assigned, generated, added⟩

/-- An empty queue needs no generations. -/
theorem QueueRun.of_empty {gen : Generator} {g : TypeGraph} {remaining : List TypeId}
    {c c' : Collected} {w w' : Workspace} {calls : List GeneratedSchema}
    (h : QueueRun gen g remaining c w calls c' w') (empty : c.pending.popFirst? = none) :
    calls = [] := by
  cases h with
  | done => rfl
  | skip first => rw [empty] at first; cases first
  | root first => rw [empty] at first; cases first

/-- **A document is built iff there is a run that builds it.** -/
theorem generateDocument_ok_iff {gen : Generator} {g : TypeGraph} {roots : List TypeId}
    {d : SchemaDocument} {w w' : Workspace} :
    generateDocument gen g roots w = .ok d w' ↔ ∃ calls, DocumentRun gen g roots w calls d w' := by
  unfold generateDocument
  constructor
  · intro h
    cases hn : identified g roots with
    | error e => rw [hn] at h; cases h
    | ok named =>
      rw [hn] at h
      obtain ⟨c, w₁, hr, h⟩ := bind_ok_iff.1 h
      obtain ⟨c', w₂, hd, h⟩ := bind_ok_iff.1 h
      obtain ⟨rfl, rfl⟩ := pure_ok_iff.1 h
      obtain ⟨calls, hcalls⟩ := addRoots_ok_iff.1 hr
      obtain ⟨more, hmore⟩ := drain_ok_iff.1 hd
      exact ⟨calls ++ more, .intro hn hcalls hmore⟩
  · rintro ⟨_, known, first, rest⟩
    simp only [known]
    exact bind_ok_iff.2 ⟨_, _, addRoots_ok_iff.2 ⟨_, first⟩,
      bind_ok_iff.2 ⟨_, _, drain_ok_iff.2 ⟨_, rest⟩, rfl⟩⟩

end TypeSchema
