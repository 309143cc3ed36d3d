import TypeSchema.Proofs.Generation.Described
import TypeSchema.Proofs.Generation.Existence
import TypeSchema.Proofs.Generation.Resolution

/-!
# Documents — components accept the values of their types

While a document is built each component describes a type that holds its identifier, and what it
refers to is there or queued (`Collected.Described`).  At the end all of it is there, so every
component accepts just the values of the type that holds its identifier
(`generateDocument_preserves`).
-/

namespace TypeSchema

open Relation

variable {gen : Generator} {g : TypeGraph}

theorem Json.Describes.mono {R R' : String → TypeId → Prop} {s : Json} {ty : TypeId}
    (h : s.Describes gen g R ty) (refs : ∀ i ty, R i ty → R' i ty) : s.Describes gen g R' ty := by
  obtain ⟨a, node, ha, own, hdesc, hsup⟩ := h
  exact ⟨a, node, ha, own, hdesc.mono refs (.refl a), hsup⟩

/-- The type holds the identifier, and its component is there or queued. -/
def Collected.Refers (g : TypeGraph) (r : Registry) (c : Collected) (id : String) (ty : TypeId) :
    Prop := g.Holds r ty id ∧ c.Reaches id

/-- Each component describes a type that holds its identifier. -/
def Collected.Described (gen : Generator) (g : TypeGraph) (r : Registry) (c : Collected) : Prop :=
  ∀ id s, c.components.get? id = some s →
    ∃ ty, g.Holds r ty id ∧ s.Describes gen g (c.Refers g r) ty

theorem Collected.Described.mono {r r' : Registry} {c : Collected} (h : c.Described gen g r)
    (grows : r.Grows r') : c.Described gen g r' := by
  intro id s hs
  obtain ⟨ty, hty, hdesc⟩ := h id s hs
  exact ⟨ty, hty.mono grows, hdesc.mono fun i ty' hi => ⟨hi.1.mono grows, hi.2⟩⟩

/-- **One generation keeps the components described.** -/
theorem Collected.Described.added {r : Registry} {c c' : Collected} {s : GeneratedSchema}
    {id : String} {ty : TypeId} {pending : SortedMap TypeId} (h : c.Described gen g r)
    (linked : s.Linked g r) (hs : s.Describes gen g ty) (ha : Added s id { c with pending } c')
    (holds : g.Holds r ty id)
    (kept : ∀ id', id' ≠ id → c.pending.get? id' = pending.get? id') : c'.Described gen g r := by
  have refers : ∀ i ty', s.components.get? i = some ty' → c'.Refers g r i ty' := fun i ty' hi =>
    ⟨linked.held i ty' hi, ha.reaches_noted (SortedMap.contains_iff.2 ⟨ty', hi⟩)⟩
  have supplied : ∀ {node ty' j}, s.arena.Describes gen g
      (fun i ty => s.components.get? i = some ty) node ty' → ¬ s.arena.isShared node →
      s.Supplies node j → j.Describes gen g (c'.Refers g r) ty' := fun hdesc own hsup =>
    ⟨s.arena, _, hs.readable, own, hdesc.mono refers (.refl _), hsup⟩
  intro key j hj
  -- the component is new, was supplied on the way or was there before
  by_cases hkey : key = id
  · obtain ⟨j', hj', hsup⟩ := ha.own
    obtain rfl : j = j' := Option.some.inj (hj.symm.trans (hkey ▸ hj'))
    exact ⟨ty, hkey ▸ holds, supplied hs.root hs.own hsup⟩
  · rcases ha.origin key j hkey hj with hold | ⟨node, hnode, hsup⟩
    · obtain ⟨ty', hty', hdesc⟩ := h key j hold
      exact ⟨ty', hty', hdesc.mono fun i ty'' hi => ⟨hi.1, ha.reaches kept hi.2⟩⟩
    · obtain ⟨ty', hty'⟩ := SortedMap.contains_iff.1
        (linked.expanded key (SortedMap.contains_iff.2 ⟨node, hnode⟩))
      obtain ⟨hdesc, own⟩ := hs.expanded key node ty' hnode hty'
      exact ⟨ty', linked.held key ty' hty', supplied hdesc own hsup⟩

/-- No generation leaves a placeholder without a component. -/
def GeneratedSchema.Named (s : GeneratedSchema) : Prop := s.arena.All SchemaNode.Named

instance (s : GeneratedSchema) : Decidable s.Named :=
  inferInstanceAs (Decidable (s.arena.All SchemaNode.Named))

/-- A run keeps the registry coherent and the components described. -/
theorem runInvariant_described (faithful : gen.Faithful) (plain : g.Unconstrained)
    (distinct : g.Distinct) : RunInvariant gen g GeneratedSchema.Named
      (fun c w => w.registry.Coherent ∧ c.Described gen g w.registry) where
  assign := by
    rintro c ty id w w' assigned ⟨coherent, h⟩
    obtain ⟨events, ha⟩ := assignId_ok assigned
    exact ⟨coherent.assign ha, h.mono (Registry.assign_spec ha).1⟩
  add := by
    rintro c c' s id ty pending w w₁ w' named holds kept generated hr added ⟨coherent, h⟩
    obtain ⟨coherent₁, describes⟩ := generate_describes faithful plain distinct generated coherent
    obtain ⟨grows, linked⟩ := generate_linked generated
    rw [hr]
    exact ⟨coherent₁, (h.mono grows).added linked (describes named) added (holds.mono grows) kept⟩
  skip := by
    rintro c id ty pending w first hc ⟨coherent, h⟩
    refine ⟨coherent, fun key s hs => ?_⟩
    obtain ⟨ty', hty', hdesc⟩ := h key s hs
    exact ⟨ty', hty', hdesc.mono fun i ty'' hi => ⟨hi.1, hi.2.skipped first hc⟩⟩

/-- A run gives every root a component, and the components are right about all values. -/
theorem DocumentRun.agrees (faithful : gen.Faithful) (plain : g.Unconstrained)
    (distinct : g.Distinct) {roots : List TypeId} {w w' : Workspace}
    {calls : List GeneratedSchema} {d : SchemaDocument}
    (h : DocumentRun gen g roots w calls d w') (coherent : w.registry.Coherent)
    (named : ∀ s ∈ calls, s.Named) :
    (∀ ty ∈ roots, ∃ id, g.Holds w'.registry ty id ∧ d.components.contains id) ∧
      ∀ id s ty, d.components.get? id = some s → g.Holds w'.registry ty id →
        ∀ bound v, d.Agrees bound g s ty v := by
  have start : Collected.Described gen g w.registry {} := fun id s hs => by
    simp [EmptyCollection.emptyCollection] at hs
  obtain ⟨roots', c, hroots, rfl, linked, reaches, coherent', described⟩ :=
    h.linked (runInvariant_described faithful plain distinct) named ⟨coherent, start⟩
  refine ⟨fun ty hty => linked.supplied ty ((mem_orderedRoots distinct hroots).2 hty),
    fun id s ty hs hty bound v => ?_⟩
  -- at the end nothing is queued, so what is referred to is there
  have resolves : SchemaDocument.Resolves ⟨gen.config.version, c.components⟩ gen g
      (c.Refers g w'.registry) := by
    rintro i ty' ⟨hty', hi⟩
    obtain ⟨j, hj⟩ := SortedMap.contains_iff.1 ((reaches i).1 hi)
    obtain ⟨ty'', hty'', hdesc⟩ := described i j hj
    obtain rfl : ty'' = ty' := coherent'.type_eq distinct hty'' hty'
    exact ⟨j, hj, hdesc⟩
  obtain ⟨ty', hty', hdesc⟩ := described id s hs
  obtain rfl : ty' = ty := coherent'.type_eq distinct hty' hty
  exact hdesc.agrees faithful plain resolves v

/-- **Meaning is preserved.**  Every root has a component, and the component of a type accepts a
value iff the value inhabits the type, if no generation of the run leaves a placeholder without a
component; and the document is built if the graph is well-formed, as operations leave it, has no
cycle of wrappers and knows the roots. -/
theorem generateDocument_preserves (faithful : gen.Faithful) (plain : g.Unconstrained)
    (distinct : g.Distinct) {roots : List TypeId} {w : Workspace}
    (reachable : w.registry.Reachable) :
    (g.WellFormed → (∀ ty, ¬ TransGen g.Wraps ty ty) → (∀ ty ∈ roots, g.knows ty) →
      ∃ d w' calls, generateDocument gen g roots w = .ok d w' ∧
        DocumentRun gen g roots w calls d w') ∧
    ∀ d w' calls, DocumentRun gen g roots w calls d w' → (∀ s ∈ calls, s.Named) →
      (∀ ty ∈ roots, ∃ id, g.Holds w'.registry ty id ∧ d.components.contains id) ∧
        ∀ id s ty, d.components.get? id = some s → g.Holds w'.registry ty id →
          ∀ bound v, d.Accepts bound s v ↔ g.Inhabits v ty := by
  refine ⟨fun wf acyclic known => ?_, fun d w' calls h named => ?_⟩
  · obtain ⟨d, w', h⟩ := exists_generateDocument wf acyclic known w
    obtain ⟨calls, hrun⟩ := generateDocument_ok_iff.1 h
    exact ⟨d, w', calls, h, hrun⟩
  · obtain ⟨hroots, hagrees⟩ := h.agrees faithful plain distinct reachable.coherent named
    exact ⟨hroots, fun id s ty hs hty bound v => (hagrees id s ty hs hty bound v).accepts_iff⟩

/-- Trees: a node has a key, and may have a kind, a node to its left and more of them below. -/
def TypeGraph.tree : TypeGraph := .ofTypes #[
  { identity := "Node", name := "Node",
    shape := .object { fields := [
      { name := "key", type := ⟨1⟩, required := true }, { name := "kind", type := ⟨2⟩ },
      { name := "left", type := ⟨3⟩ }, { name := "more", type := ⟨4⟩ }] } },
  { identity := "Int32", name := "Int32", shape := .scalar .int32 },
  { identity := "Kind", name := "Kind", shape := .enumeration (.sequential ["leaf", "inner"]) },
  { identity := "Nullable<Node>", name := "Nullable", genericArgs := [⟨0⟩],
    shape := .nullable ⟨0⟩ },
  { identity := "List<Node>", name := "List", genericArgs := [⟨0⟩],
    shape := .collection .list [⟨0⟩] }]

/-- The default configuration, with every member of an enumeration listed. -/
def Generator.complete : Generator := .plain { enumThreshold := 0 }

/-- The component of a node refers to itself, and accepts just the trees. -/
theorem generateDocument_preserves_tree :
    ∃ d w s, generateDocument .complete .tree [⟨0⟩] {} = .ok d w ∧
      d.components.get? "Node" = some s ∧
        ∀ bound v, d.Accepts bound s v ↔ TypeGraph.tree.Inhabits v ⟨0⟩ := by
  have faithful : Generator.complete.Faithful := ⟨rfl, rfl, rfl, rfl, rfl, rfl, rfl⟩
  have plain : TypeGraph.tree.Unconstrained := by
    refine ⟨?_, ?_, ?_, ?_⟩
    · rintro ⟨_ | _ | _ | _ | _ | _⟩ d hd <;> cases hd <;> rfl
    all_goals rintro ⟨_ | _ | _ | _ | _ | _⟩ shape h <;> cases h; decide
  have distinct : TypeGraph.tree.Distinct := .ofTypes (by decide)
  have wf : TypeGraph.tree.WellFormed := by
    rintro ⟨_ | _ | _ | _ | _ | _⟩ d hd <;> cases hd <;> exact ⟨by decide, by decide⟩
  have acyclic : ∀ ty, ¬ TransGen TypeGraph.tree.Wraps ty ty := by
    refine TypeGraph.acyclic_of_flat ?_
    rintro ⟨_ | _ | _ | _ | _ | _⟩ inner h x hx <;> cases h
    cases hx
  obtain ⟨exist, agree⟩ := @generateDocument_preserves .complete .tree faithful plain distinct
    [⟨0⟩] {} .empty
  obtain ⟨d, w, calls, hd, hrun⟩ := exist wf acyclic (by decide)
  have hnamed : ∀ s ∈ calls, s.Named := by
    have roots : (identified .tree [⟨0⟩]).map orderedRoots = .ok [⟨0⟩] := by cbv
    have own : (Work.value? (do
        let _ ← assignId .tree ⟨0⟩
        let s ← generate .complete .tree ⟨0⟩
        return decide s.Named) {}) = some true := by cbv
    have queue : (Work.value? (do
        let id ← assignId .tree ⟨0⟩
        let c ← addRoot .complete .tree {} id ⟨0⟩
        return c.pending.popFirst?) {}) = some none := by cbv
    obtain @⟨named, calls, more, c, c', w₁, _, known, first, rest⟩ := hrun
    rw [known] at roots
    rw [Except.ok.inj roots] at first
    obtain ⟨_, s, _, _, rfl, assigned, generated, added⟩ := first.of_single
    rw [Work.value?, bind_of_ok assigned, bind_of_ok generated] at own
    rw [Work.value?, bind_of_ok assigned, bind_of_ok added] at queue
    rw [rest.of_empty (Option.some.inj queue), List.append_nil]
    exact List.forall_mem_singleton.2 (of_decide_eq_true (Option.some.inj own))
  obtain ⟨supplied, accepts⟩ := agree d w calls hrun hnamed
  obtain ⟨id, holds, hid⟩ := supplied ⟨0⟩ List.mem_cons_self
  have keys : (Work.value? (generateDocument .complete .tree [⟨0⟩]) {}).map (·.components.keys) =
      some ["Node"] := by cbv
  rw [Work.value?_eq_some_iff.2 ⟨w, hd⟩] at keys
  obtain rfl : id = "Node" := by
    have hmem := SortedMap.mem_keys_iff.2 hid
    rwa [show d.components.keys = ["Node"] from Option.some.inj keys, List.mem_singleton] at hmem
  obtain ⟨s, hs⟩ := SortedMap.contains_iff.1 hid
  exact ⟨d, w, s, hd, hs, accepts "Node" s ⟨0⟩ hs holds⟩

end TypeSchema
