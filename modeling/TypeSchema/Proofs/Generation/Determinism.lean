import Mathlib
import TypeSchema.Proofs.Generation.Lockstep
import TypeSchema.Proofs.Generation.Roots
import TypeSchema.Proofs.Generation.Run
import TypeSchema.Proofs.Graph.Index

/-!
# Documents — neither the numbers of types nor the order of roots matter

Roots are taken in the order of their identities, each once.  When identities are distinct, this
order depends on nothing but the set of the roots (`orderedRoots_relabel`), so two lists of roots
that name the same types start the same run.  From there on the document of a graph and that of the
graph with other numbers are built in lockstep: the components are the same, and the queues
correspond (`lockstep_addRoot`, `QueueRun.lockstep`).

`generateDocument_relabel`: one run gives a document whenever the other one does, and the documents,
the registries and the reports are the same.
-/

namespace TypeSchema

/-! ### The order of the roots -/

/-- A renumbered type has the identity it had. -/
theorem TypeGraph.Relabels.identity? {φ : TypeId ≃ TypeId} {g g' : TypeGraph}
    (h : Relabels φ g g') (ty : TypeId) : g'.identity? (φ ty) = g.identity? ty := by
  simp only [TypeGraph.identity?, h ty, Option.map_map]
  rfl

/-- Renumbering keeps identities apart. -/
theorem TypeGraph.Relabels.distinct {φ : TypeId ≃ TypeId} {g g' : TypeGraph}
    (h : Relabels φ g g') (hd : g.Distinct) : g'.Distinct := by
  intro ty ty' identity hty hty'
  rw [← h.symm.identity?] at hty hty'
  exact φ.symm.injective (hd _ _ identity hty hty')

/-- **The order of the roots depends on the set of the roots only.** -/
theorem orderedRoots_relabel {φ : TypeId ≃ TypeId} {g g' : TypeGraph}
    (hg : TypeGraph.Relabels φ g g') (distinct : g.Distinct) {roots roots' : List TypeId}
    (same : ∀ ty, φ ty ∈ roots' ↔ ty ∈ roots) {named : List (String × TypeId)}
    (h : identified g roots = .ok named) :
    ∃ named', identified g' roots' = .ok named' ∧
      orderedRoots named' = (orderedRoots named).map φ := by
  have hknown := exists_identified_iff.1 ⟨named, h⟩
  obtain ⟨named', h'⟩ := exists_identified_iff.2 fun ty hty => by
    obtain ⟨ty₀, rfl⟩ := φ.surjective ty
    rw [hg.identity?]
    exact hknown ty₀ ((same ty₀).1 hty)
  refine ⟨named', h', ?_⟩
  have hranked : rankedRoots named' = (rankedRoots named).map fun e => (e.1, φ e.2) := by
    have : Std.Irrefl fun a b : String × TypeId => a.1 < b.1 := ⟨fun a => String.lt_irrefl a.1⟩
    have : Std.Antisymm fun a b : String × TypeId => a.1 < b.1 :=
      ⟨fun a b hab hba => absurd (String.lt_trans hab hba) (String.lt_irrefl _)⟩
    refine (sorted_rankedRoots named').eq_of_mem_iff
      (List.pairwise_map.2 (sorted_rankedRoots named)) fun ⟨identity, ty'⟩ => ?_
    obtain ⟨ty, rfl⟩ := φ.surjective ty'
    simp only [mem_rankedRoots (hg.distinct distinct) h', hg.identity?, same, List.mem_map,
      Prod.exists, mem_rankedRoots distinct h, Prod.mk.injEq]
    constructor
    · exact fun hm => ⟨identity, ty, hm, rfl, rfl⟩
    · rintro ⟨_, ty₀, hm, rfl, he⟩
      exact φ.injective he ▸ hm
  have hordered : ∀ named, orderedRoots named = (rankedRoots named).map (·.2) := fun _ => rfl
  rw [hordered, hordered, hranked, List.map_map, List.map_map]
  rfl

/-! ### Adding a root -/

/-- What was collected, with other numbers. -/
def Collected.relabel (f : TypeId → TypeId) (c : Collected) : Collected :=
  { c with pending := c.pending.mapValues f }

/-- The references that are still open are those of the renumbered schema. -/
theorem unresolved_relabel (f : TypeId → TypeId) (s : GeneratedSchema) :
    (s.relabel f).unresolved = s.unresolved.map fun e => (e.1, f e.2) := by
  simp only [GeneratedSchema.unresolved, GeneratedSchema.relabel, SortedMap.toList_mapValues,
    List.filter_map]
  rfl

theorem foldl_insertNew_mapValues (f : TypeId → TypeId) (l : List (String × TypeId))
    (m : SortedMap TypeId) :
    (l.map fun e => (e.1, f e.2)).foldl (fun m (id, ty) => m.insertNew id ty) (m.mapValues f) =
      (l.foldl (fun m (id, ty) => m.insertNew id ty) m).mapValues f := by
  induction l generalizing m with
  | nil => rfl
  | cons e rest ih =>
    simp only [List.map_cons, List.foldl_cons, ← SortedMap.mapValues_insertNew, ih]

/-- What is added to the waiting types is renumbered with them. -/
theorem addPending_relabel (f : TypeId → TypeId) (components : SortedMap Json)
    (pending : SortedMap TypeId) (unresolved : List (String × TypeId)) :
    addPending components (pending.mapValues f) (unresolved.map fun e => (e.1, f e.2)) =
      (addPending components pending unresolved).mapValues f := by
  simp only [addPending, List.filter_map]
  exact foldl_insertNew_mapValues f _ pending

section Actions

theorem Twins.sharesReports (p : Twins) : Workspace.SharesReports p.Workspaces := by
  rintro w w' events n ⟨hr, es, he, he'⟩ -
  exact ⟨hr, es ++ events, by simp [he], by simp [he']⟩

variable {p : Twins} {g g' : TypeGraph} (hg : TypeGraph.Relabels p.φ g g')
include hg

/-- Identifiers are assigned alike on both sides. -/
theorem lockstep_assignId (ty : TypeId) :
    Lockstep p.Workspaces Eq (assignId g ty) (assignId g' (p.φ ty)) := by
  refine Lockstep.of_get.bind fun w w' hw => ?_
  rw [hw.1]
  cases ha : w.registry.assign g ty with
  | error e => exact .of_throw e _
  | ok r =>
    obtain ⟨id, registry, events⟩ := r
    simp only [hg.assign ha]
    refine Lockstep.bind_eq (.of_modify fun v v' ⟨_, es, he, he'⟩ => ?_) fun _ => .of_pure rfl
    exact ⟨rfl, es ++ events, by simp [he], by simp [he']⟩

/-- Components do not look at numbers. -/
theorem componentJson_relabel (gen : Generator) (ty : TypeId) (s : GeneratedSchema)
    (node : NodeId) : componentJson gen g' (p.φ ty) (s.relabel p.φ) node =
      componentJson gen g ty s node := by
  have hexample : (g'.describe? (p.φ ty)).bind (·.example?) =
      (g.describe? ty).bind (·.example?) := by
    rw [hg ty]
    cases g.describe? ty <;> rfl
  simp only [componentJson, componentExample, hexample, GeneratedSchema.relabel]

/-- The expanded objects of a call give the same components on both sides. -/
theorem addExpanded_relabel (gen : Generator) (s : GeneratedSchema) (components : SortedMap Json)
    (expansions : List (String × NodeId)) :
    addExpanded gen g' (s.relabel p.φ) components expansions =
      addExpanded gen g s components expansions := by
  induction expansions generalizing components with
  | nil => rfl
  | cons e rest ih =>
    obtain ⟨id, node⟩ := e
    have hget : (s.relabel p.φ).components.get? id = (s.components.get? id).map p.φ := by
      simp [GeneratedSchema.relabel]
    simp only [addExpanded, hget, ih]
    cases s.components.get? id with
    | none => rfl
    | some ty => simp only [Option.map_some, componentJson_relabel hg]

/-- **One generation adds the same.** -/
theorem lockstep_addRoot (gen : Generator) (c : Collected) (id : String) (ty : TypeId) :
    Lockstep p.Workspaces (fun c c' => c' = c.relabel p.φ) (addRoot gen g c id ty)
      (addRoot gen g' (c.relabel p.φ) id (p.φ ty)) := by
  refine (lockstep_generate hg gen ty).bind ?_
  rintro s _ rfl
  simp only [componentJson_relabel hg, addExpanded_relabel hg]
  refine (lockstep_componentJson p.sharesReports gen g s ty s.root).bind_eq fun j => ?_
  refine (lockstep_addExpanded p.sharesReports gen g s _ _).bind_eq fun components => .of_pure ?_
  simp only [Collected.relabel, unresolved_relabel, addPending_relabel]

/-- The roots are added alike on both sides, in the order they are given. -/
theorem lockstep_addRoots (gen : Generator) (c : Collected) (tys : List TypeId) :
    Lockstep p.Workspaces (fun c c' => c' = c.relabel p.φ) (addRoots gen g c tys)
      (addRoots gen g' (c.relabel p.φ) (tys.map p.φ)) := by
  induction tys generalizing c with
  | nil => exact .of_pure rfl
  | cons ty rest ih =>
    refine (lockstep_assignId hg ty).bind_eq fun id => ?_
    refine (lockstep_addRoot hg gen c id ty).bind ?_
    rintro c₁ _ rfl
    exact ih c₁

/-- The queue is worked off in the same order; the types that are left correspond. -/
theorem QueueRun.lockstep {gen : Generator} {remaining : List TypeId} {c c₁ : Collected}
    {w w₁ : Workspace} {calls : List GeneratedSchema}
    (h : QueueRun gen g remaining c w calls c₁ w₁) {remaining' : List TypeId}
    (nodup : remaining.Nodup) (nodup' : remaining'.Nodup)
    (same : ∀ ty, p.φ ty ∈ remaining' ↔ ty ∈ remaining) {w' : Workspace}
    (hw : p.Workspaces w w') :
    ∃ w₁', drain gen g' remaining' (c.relabel p.φ) w' = .ok (c₁.relabel p.φ) w₁' ∧
      p.Workspaces w₁ w₁' := by
  -- numbers do not change the order of the queue
  have popped : ∀ {c : Collected} {id : String} {ty : TypeId} {pending : SortedMap TypeId},
      c.pending.popFirst? = some ((id, ty), pending) →
      (c.relabel p.φ).pending.popFirst? = some ((id, p.φ ty), pending.mapValues p.φ) := by
    intro c id ty pending hc
    simp [Collected.relabel, SortedMap.popFirst?_mapValues, hc]
  induction h generalizing remaining' w' with
  | done empty =>
    refine ⟨w', ?_, hw⟩
    rw [drain_of_empty (by simp [Collected.relabel, SortedMap.popFirst?_mapValues, empty])]
    rfl
  | skip first known _ ih =>
    obtain ⟨w₁', h', hw₁⟩ := ih nodup nodup' same hw
    refine ⟨w₁', ?_, hw₁⟩
    rw [drain_of_first (popped first)]
    split
    · exact h'
    · next hc =>
      rw [if_neg fun hm => (known.resolve_left hc) ((same _).1 hm)]
      exact h'
  | root first new open_ _ added _ ih =>
    obtain ⟨c₂, w₂', hadd, rfl, hw₂⟩ := lockstep_addRoot hg gen _ _ _ hw added
    obtain ⟨w₁', h', hw₁⟩ := ih (nodup.erase _) (nodup'.erase _)
      (fun ty => by rw [nodup.mem_erase_iff, nodup'.mem_erase_iff, same, p.φ.injective.ne_iff]) hw₂
    refine ⟨w₁', ?_, hw₁⟩
    have hnew : ¬ (Collected.relabel p.φ _).components.contains _ := new
    rw [drain_of_first (popped first), if_neg hnew, if_pos ((same _).2 open_)]
    exact bind_ok_iff.2 ⟨_, _, hadd, h'⟩

/-- **A document that is built for a graph is built for the graph with other numbers**, from any
list that names the same roots, and leaves the same registry and the same reports. -/
theorem generateDocument_relabel (distinct : g.Distinct) {roots roots' : List TypeId}
    (same : ∀ ty, p.φ ty ∈ roots' ↔ ty ∈ roots) {gen : Generator} {w w₁ w' : Workspace}
    {d : SchemaDocument} (hw : p.Workspaces w w') (h : generateDocument gen g roots w = .ok d w₁) :
    ∃ w₁', generateDocument gen g' roots' w' = .ok d w₁' ∧ p.Workspaces w₁ w₁' := by
  obtain ⟨calls, @⟨named, _, _, c, c₁, w₂, _, known, first, rest⟩⟩ := generateDocument_ok_iff.1 h
  obtain ⟨named', known', hordered⟩ := orderedRoots_relabel hg distinct same known
  obtain ⟨c', w₂', hroots, rfl, hw₂⟩ :=
    lockstep_addRoots hg gen {} (orderedRoots named) hw (addRoots_ok_iff.2 ⟨_, first⟩)
  -- what is left for the queue corresponds, too
  have hremaining : ∀ ty, p.φ ty ∈ g'.ids.filter (· ∉ orderedRoots named') ↔
      ty ∈ g.ids.filter (· ∉ orderedRoots named) := by
    intro ty
    have hmem : p.φ ty ∈ (orderedRoots named).map p.φ ↔ ty ∈ orderedRoots named :=
      List.mem_map_of_injective p.φ.injective
    simp only [List.mem_filter, TypeGraph.mem_ids_iff, hg.knows_iff, hordered, decide_eq_true_eq,
      hmem]
  obtain ⟨w₁', hdrain, hw₁⟩ := rest.lockstep hg (g.nodup_ids.filter _) (g'.nodup_ids.filter _)
    hremaining hw₂
  refine ⟨w₁', ?_, hw₁⟩
  unfold generateDocument
  rw [← hordered] at hroots
  simp only [known']
  exact bind_ok_iff.2 ⟨_, _, hroots, bind_ok_iff.2 ⟨_, _, hdrain, rfl⟩⟩

end Actions

/-- **A document depends on the set of its roots and on the registry only.**  For a graph with
distinct identities and the same graph with other numbers, for lists that name the same roots, from
equal registries: one run gives a document iff the other one does, and then the documents, their
fingerprints and the registries are equal, and both runs report the same. -/
theorem generateDocument_deterministic {φ : TypeId ≃ TypeId} {g g' : TypeGraph}
    (relabels : TypeGraph.Relabels φ g g') (distinct : g.Distinct) {roots roots' : List TypeId}
    (same : ∀ ty, φ ty ∈ roots' ↔ ty ∈ roots) (gen : Generator) {w w' : Workspace}
    (registry : w'.registry = w.registry) :
    (Succeeds (generateDocument gen g roots) w ↔ Succeeds (generateDocument gen g' roots') w') ∧
      ∀ d w₁ d' w₁', generateDocument gen g roots w = .ok d w₁ →
        generateDocument gen g' roots' w' = .ok d' w₁' →
        d' = d ∧ d'.fingerprint = d.fingerprint ∧
          w₁'.registry.assigned = w₁.registry.assigned ∧
          w₁'.registry.entries = w₁.registry.entries ∧
          ∃ events, w₁.events = w.events ++ events ∧ w₁'.events = w'.events ++ events := by
  have forward := fun d w₁ (h : generateDocument gen g roots w = .ok d w₁) =>
    generateDocument_relabel (p := ⟨φ, w.events, w'.events⟩) relabels distinct same
      ⟨registry, [], by simp, by simp⟩ h
  -- the other way round the numbers are changed back
  have backward := fun d w₁ (h : generateDocument gen g' roots' w' = .ok d w₁) =>
    generateDocument_relabel (p := ⟨φ.symm, w'.events, w.events⟩) relabels.symm
      (relabels.distinct distinct) (fun ty => by rw [← same, φ.apply_symm_apply])
      ⟨registry.symm, [], by simp, by simp⟩ h
  refine ⟨⟨fun ⟨d, w₁, h⟩ => ?_, fun ⟨d, w₁, h⟩ => ?_⟩, fun d w₁ d' w₁' h h' => ?_⟩
  · obtain ⟨w₁', h', -⟩ := forward d w₁ h
    exact ⟨d, w₁', h'⟩
  · obtain ⟨w₁', h', -⟩ := backward d w₁ h
    exact ⟨d, w₁', h'⟩
  · obtain ⟨w₂, h₂, hregistry, events, he, he'⟩ := forward d w₁ h
    rw [h₂] at h'
    cases h'
    exact ⟨rfl, rfl, by rw [hregistry], by rw [hregistry], events, he, he'⟩

/-- Two objects of one name. -/
def TypeGraph.namesakes : TypeGraph := .ofTypes #[
  { identity := "a.Item", name := "Item", shape := .object {} },
  { identity := "b.Item", name := "Item",
    shape := .object { fields := [{ name := "next", type := ⟨0⟩ }] } }]

/-- The two objects, declared the other way round. -/
def TypeGraph.namesakes' : TypeGraph := .ofTypes #[
  { identity := "b.Item", name := "Item",
    shape := .object { fields := [{ name := "next", type := ⟨1⟩ }] } },
  { identity := "a.Item", name := "Item", shape := .object {} }]

/-- The second of the two gets a suffix, in whatever order they are declared and listed. -/
theorem generateDocument_deterministic_namesakes :
    TypeGraph.Relabels (Equiv.swap ⟨0⟩ ⟨1⟩) .namesakes .namesakes' ∧
      TypeGraph.namesakes.Distinct ∧
      (∀ ty, Equiv.swap ⟨0⟩ ⟨1⟩ ty ∈ [(⟨0⟩ : TypeId), ⟨1⟩, ⟨1⟩] ↔ ty ∈ [(⟨0⟩ : TypeId), ⟨1⟩]) ∧
      ∃ d w w', generateDocument (.plain {}) .namesakes [⟨0⟩, ⟨1⟩] {} = .ok d w ∧
        generateDocument (.plain {}) .namesakes' [⟨0⟩, ⟨1⟩, ⟨1⟩] {} = .ok d w' ∧
        d.components.keys = ["Item", "Item_dup1"] ∧ w'.registry.entries = w.registry.entries ∧
        w'.events = w.events := by
  have relabels : TypeGraph.Relabels (Equiv.swap ⟨0⟩ ⟨1⟩) .namesakes .namesakes' := by
    intro ty
    by_cases h₀ : ty = ⟨0⟩
    · rw [h₀, Equiv.swap_apply_left]; rfl
    · by_cases h₁ : ty = ⟨1⟩
      · rw [h₁, Equiv.swap_apply_right]; rfl
      · have hindex : 2 ≤ ty.index := by
          obtain ⟨_ | _ | n⟩ := ty
          · exact absurd rfl h₀
          · exact absurd rfl h₁
          · exact Nat.le_add_left 2 n
        have hn : TypeGraph.namesakes.describe? ty = none := Array.getElem?_eq_none hindex
        have hn' : TypeGraph.namesakes'.describe? ty = none := Array.getElem?_eq_none hindex
        rw [Equiv.swap_apply_of_ne_of_ne h₀ h₁, hn, hn', Option.map_none]
  have distinct : TypeGraph.namesakes.Distinct := .ofTypes (by decide)
  have same : ∀ ty, Equiv.swap ⟨0⟩ ⟨1⟩ ty ∈ [(⟨0⟩ : TypeId), ⟨1⟩, ⟨1⟩] ↔
      ty ∈ [(⟨0⟩ : TypeId), ⟨1⟩] := by
    intro ty
    simp only [List.mem_cons, List.not_mem_nil, or_false, or_self, Equiv.swap_apply_eq_iff,
      Equiv.swap_apply_left, Equiv.swap_apply_right]
    exact Or.comm
  refine ⟨relabels, distinct, same, ?_⟩
  have hkeys : (Work.value? (generateDocument (.plain {}) .namesakes [⟨0⟩, ⟨1⟩]) {}).map
      (·.components.keys) = some ["Item", "Item_dup1"] := by cbv
  obtain ⟨d, hd, hkeys⟩ := Option.map_eq_some_iff.1 hkeys
  obtain ⟨w, hw⟩ := Work.value?_eq_some_iff.1 hd
  have both :=
    @generateDocument_deterministic _ _ _ relabels distinct _ _ same (.plain {}) {} {} rfl
  obtain ⟨d', w', hw'⟩ := both.1.1 ⟨d, w, hw⟩
  obtain ⟨rfl, -, -, hentries, events, he, he'⟩ := both.2 d w d' w' hw hw'
  exact ⟨d', w, w', hw, hw', hkeys, hentries, he'.trans he.symm⟩

end TypeSchema
