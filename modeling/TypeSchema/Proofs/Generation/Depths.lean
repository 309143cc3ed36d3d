import TypeSchema.Proofs.Generation.Coverage
import TypeSchema.Proofs.Generation.DepthBound
import TypeSchema.Proofs.Generation.Identifiers

/-!
# Documents — the components at another depth

The types that a document should have components for do not depend on the limit on the depth: they
are the roots, and the objects that building a root leads to (`Generator.Sought`).  An object that
is cut off is queued and generated later, so nothing is lost with it.  A sequence, a map or an entry
of a map has no component that could be queued: when it is cut off for its depth, what it leads to
is only found if something else leads there, too.

So a document covers what it should but for objects that lie behind such a collection
(`DocumentRun.covers_or_lost_iff`), and two limits give components for the same types if no
collection is cut off under either of them (`generateDocument_depths`).  Else they need not
(`not_generateDocument_depths`).
-/

namespace TypeSchema

variable {gen : Generator} {g : TypeGraph}

/-! ### Calls -/

/-- The type is a sequence, a map or an entry of a map that was cut off for its depth in this
generation. -/
def Call.CutsOff (gen : Generator) (g : TypeGraph) (call : Call) (x : TypeId) : Prop :=
  ∃ id t, nodeFor gen g (levelsFor g) call.type none (call.before.begin gen) = .ok id t ∧
    t.CutsOff g x

/-- The types that were visited in a generation are `V`. -/
structure Call.Explores (gen : Generator) (g : TypeGraph) (call : Call) (V : Set TypeId) :
    Prop where
  root : call.type ∈ V
  leads : ∀ x ∈ V, gen.LeadsTo g call.type x
  objects : ∀ i x, call.schema.components.get? i = some x → x ∈ V ∧ gen.ExpandsMembers g x
  noted : ∀ x ∈ V, gen.ExpandsMembers g x → ∃ i, call.schema.components.get? i = some x
  itself : gen.ExpandsMembers g call.type → ∀ y, gen.Enters g call.type y → y ∈ V
  expanded : ∀ i x, call.schema.identifiers.contains i →
    call.schema.components.get? i = some x → ∀ y, gen.Enters g x y → y ∈ V
  others : ∀ x ∈ V, ¬ gen.ExpandsMembers g x →
    (∀ y, gen.Enters g x y → y ∈ V) ∨ call.CutsOff gen g x
  cuts : ∀ x, call.CutsOff gen g x → x ∈ V

/-- **A generation visits a set of types**, its root among them. -/
theorem generate_explores (distinct : g.Distinct) {root : TypeId} {w w' : Workspace}
    (coherent : w.registry.Coherent) {s : GeneratedSchema} (h : generate gen g root w = .ok s w') :
    ∃ V, Call.Explores gen g ⟨root, w, s⟩ V := by
  obtain ⟨-, linked⟩ := generate_linked h
  obtain ⟨t, hn, hs, hw⟩ := generate_ok h
  have components : s.components = t.components := by rw [hs]
  have identifiers : s.identifiers = t.identifiers := by rw [hs]
  obtain ⟨V, -, mem, explored, led⟩ := nodeFor_explores distinct hn
    ⟨Traversal.linked_begin g w gen, coherent⟩ ∅ (Traversal.explored_begin w)
  have closed : t.guard.active = [] := (nodeFor_returns hn).2.1
  have expanded : ∀ i x, s.identifiers.contains i → s.components.get? i = some x →
      ∀ y, gen.Enters g x y → y ∈ V := by
    rw [components, identifiers]
    exact explored.expanded
  have noted : ∀ x ∈ V, gen.ExpandsMembers g x → ∃ i, s.components.get? i = some x := by
    rw [components]
    exact explored.noted
  refine ⟨V, mem rfl, fun x hx => ?_, by rw [components]; exact explored.objects, noted,
    fun members => ?_, expanded, fun x hx hn' => ?_, fun x hx => ?_⟩
  · obtain ⟨ty, rfl, leads⟩ := (led x hx).resolve_left fun h => h
    exact leads
  · -- the root is recorded, because its node names its component
    obtain ⟨i, hi⟩ := noted root (mem rfl) members
    have names := generate_root h members (linked.held i root hi)
    exact expanded i root (recorded_of_names distinct h coherent names) hi
  · rcases explored.others x hx hn' with isOpen | other
    · rw [closed] at isOpen
      cases isOpen
    · exact other.imp_right fun cutsOff => ⟨_, t, hn, cutsOff⟩
  · obtain ⟨id, t', hn', cutsOff⟩ := hx
    rw [hn] at hn'
    cases hn'
    exact explored.cuts x cutsOff

/-- No placeholder of the schema for the depth is without the identifier of a component. -/
def GeneratedSchema.CutsNamed (s : GeneratedSchema) : Prop :=
  ∀ id n p, s.arena.get? id = some n → n.kind = .placeholder p → p.reason = .depth →
    p.identifier? ≠ none

/-- A collection that is cut off has a placeholder that points nowhere. -/
theorem Call.CutsOff.not_cutsNamed {call : Call} (made : call.Made gen g) {x : TypeId}
    (h : call.CutsOff gen g x) : ¬ call.schema.CutsNamed := by
  obtain ⟨id, t, hn, collection, node, asked⟩ := h
  obtain ⟨w', hw⟩ := made
  obtain ⟨t', hn', hs, -⟩ := generate_ok hw
  rw [hn] at hn'
  cases hn'
  obtain ⟨p, hp, reason, named⟩ := nodeFor_relates (Traversal.keptByActions_cuts g) hn
    (Traversal.cuts_begin g _ gen) x .depth node asked
  intro h
  rw [hs] at h
  refine h node _ p hp rfl reason (Option.eq_none_iff_forall_ne_some.2 fun i hi => ?_)
  -- a type with an identifier is an object
  obtain ⟨-, o, object⟩ := named i hi
  obtain ⟨cls, known, isCollection⟩ := collection
  rw [known.unique object] at isCollection
  cases isCollection

/-! ### Runs -/

/-- The type should have a component: it is a root, or an object that building a root leads to. -/
def Generator.Sought (gen : Generator) (g : TypeGraph) (roots : List TypeId) (x : TypeId) : Prop :=
  x ∈ roots ∨ gen.ExpandsMembers g x ∧ ∃ root ∈ roots, gen.LeadsTo g root x

/-- What is looked for is reached from one of the roots. -/
theorem Generator.Sought.exists_root {roots : List TypeId} {x : TypeId}
    (h : gen.Sought g roots x) : ∃ root ∈ roots, gen.LeadsTo g root x := by
  rcases h with h | ⟨-, h⟩
  · exact ⟨x, h, .refl⟩
  · exact h

/-- The calls so far generated types that should have components; what they noted is there or
queued, and what is there is the type of a call or was expanded in one. -/
structure Collected.Searched (gen : Generator) (g : TypeGraph) (roots : List TypeId) (r : Registry)
    (calls : List Call) (c : Collected) : Prop where
  coherent : r.Coherent
  explored : ∀ call ∈ calls, ∃ V, call.Explores gen g V
  sought : ∀ call ∈ calls, gen.Sought g roots call.type
  held : ∀ call ∈ calls, ∀ i x, call.schema.components.get? i = some x → g.Holds r x i
  linked : ∀ call ∈ calls, ∀ i, call.schema.identifiers.contains i →
    call.schema.components.contains i
  reached : ∀ call ∈ calls, ∀ i, call.schema.components.contains i → c.Reaches i
  queued : ∀ i x, c.pending.get? i = some x → gen.Sought g roots x
  origin : ∀ i, c.components.contains i → ∃ x, g.Holds r x i ∧ gen.Sought g roots x ∧
    ∃ call ∈ calls, call.type = x ∨ call.schema.identifiers.contains i

namespace Collected.Searched

variable {roots : List TypeId} {c c' : Collected} {calls : List Call}

theorem start {r : Registry} (coherent : r.Coherent) : Searched gen g roots r [] {} := by
  refine ⟨coherent, by simp, by simp, by simp, by simp, by simp, fun i x h => ?_, fun i h => ?_⟩
  · simp [EmptyCollection.emptyCollection] at h
  · simp [SortedMap.contains, EmptyCollection.emptyCollection] at h

/-- **A call keeps it**, once its type has its identifier. -/
theorem added (distinct : g.Distinct) {ty : TypeId} {id : String} {pending : SortedMap TypeId}
    {s : GeneratedSchema} {w w₁ w₂ : Workspace} (h : c.Searched gen g roots w.registry calls)
    (due : ty ∈ roots ∨ c.pending.get? id = some ty) (assigned : assignId g ty w = .ok id w₁)
    (old : ∀ id' ty', pending.get? id' = some ty' → c.pending.get? id' = some ty')
    (kept : ∀ id', id' ≠ id → c.pending.get? id' = pending.get? id')
    (generated : generate gen g ty w₁ = .ok s w₂) (ha : Added s id { c with pending } c') :
    c'.Searched gen g roots w₂.registry (calls ++ [⟨ty, w₁, s⟩]) := by
  obtain ⟨events, hassign⟩ := assignId_ok assigned
  obtain ⟨grows₁, holds₁⟩ := Registry.assign_spec hassign
  obtain ⟨grows₂, linked⟩ := generate_linked generated
  have grows := grows₁.trans grows₂
  have coherent₁ := h.coherent.assign hassign
  have coherent₂ := generate_coherent generated coherent₁
  obtain ⟨V, explores⟩ := generate_explores distinct coherent₁ generated
  have soughtType : gen.Sought g roots ty := due.elim .inl fun hq => h.queued id ty hq
  -- what the new call notes should have a component
  have soughtNoted : ∀ i x, s.components.get? i = some x → gen.Sought g roots x := by
    intro i x hi
    obtain ⟨hx, members⟩ := explores.objects i x hi
    obtain ⟨root, hroot, leads⟩ := soughtType.exists_root
    exact .inr ⟨members, root, hroot, leads.trans (explores.leads x hx)⟩
  refine ⟨coherent₂, List.forall_mem_append.2 ⟨h.explored, ?_⟩,
    List.forall_mem_append.2 ⟨h.sought, ?_⟩,
    List.forall_mem_append.2 ⟨fun call hc i x hi => ?_, ?_⟩,
    List.forall_mem_append.2 ⟨h.linked, ?_⟩,
    List.forall_mem_append.2 ⟨fun call hc i hi => ?_, ?_⟩, fun i x hq => ?_, fun i hc => ?_⟩
  · exact List.forall_mem_singleton.2 ⟨V, explores⟩
  · exact List.forall_mem_singleton.2 soughtType
  · exact (h.held call hc i x hi).mono grows
  · exact List.forall_mem_singleton.2 linked.held
  · exact List.forall_mem_singleton.2 linked.expanded
  · exact ha.reaches kept (h.reached call hc i hi)
  · exact List.forall_mem_singleton.2 fun i noted => ha.reaches_noted noted
  · rw [ha.queue] at hq
    rcases origin_addPending hq with hq | hu
    · exact h.queued i x (old i x hq)
    · exact soughtNoted i x (mem_unresolved_iff.1 hu).1
  · have isNew : (⟨ty, w₁, s⟩ : Call) ∈ calls ++ [⟨ty, w₁, s⟩] := by simp
    rcases ha.of_contains hc with rfl | there | expanded
    · exact ⟨ty, holds₁.mono grows₂, soughtType, _, isNew, .inl rfl⟩
    · obtain ⟨x, holds, sought, call, hcall, hx⟩ := h.origin i there
      exact ⟨x, holds.mono grows, sought, call, List.mem_append_left _ hcall, hx⟩
    · obtain ⟨x, hx⟩ := SortedMap.contains_iff.1 (linked.expanded i expanded)
      exact ⟨x, linked.held i x hx, soughtNoted i x hx, _, isNew, .inr expanded⟩

/-- **Every call keeps the search going**: what it notes is there or queued, and what it gives was
sought. -/
theorem invariant (distinct : g.Distinct) (roots : List TypeId) :
    CallInvariant gen g roots fun calls c w => c.Searched gen g roots w.registry calls where
  add due assigned old kept generated hr hadd h := by
    rw [hr]
    exact h.added distinct due assigned old kept generated hadd
  skip first hc h :=
    ⟨h.coherent, h.explored, h.sought, h.held, h.linked,
      fun call hcall i hi => (h.reached call hcall i hi).skipped first hc,
      fun i x hq => h.queued i x (SortedMap.get?_of_rest first hq), h.origin⟩

end Collected.Searched

/-- The component of a type with this identity is in the document. -/
def SchemaDocument.Covers (d : SchemaDocument) (r : Registry) (identity : String) : Prop :=
  ∃ i, r.lookup? identity = some i ∧ d.components.contains i

/-- The type lies behind a collection that was cut off for its depth in one of the calls. -/
def Behind (gen : Generator) (g : TypeGraph) (calls : List Call) (x : TypeId) : Prop :=
  ∃ call ∈ calls, ∃ collection, call.CutsOff gen g collection ∧ gen.LeadsTo g collection x

/-- An object with this identity lies behind a collection that was cut off for its depth. -/
def Lost (gen : Generator) (g : TypeGraph) (calls : List Call) (identity : String) : Prop :=
  ∃ x, g.identity? x = some identity ∧ gen.ExpandsMembers g x ∧ Behind gen g calls x

namespace Collected.Searched

variable {roots : List TypeId} {c : Collected} {calls : List Call} {r : Registry}

/-- At the end every step from a type that was visited leads to one that was visited, or to one
behind a collection that was cut off. -/
theorem visits_next (h : c.Searched gen g roots r calls) (distinct : g.Distinct)
    (complete : ∀ i, c.Reaches i → c.components.contains i) {call : Call} (hcall : call ∈ calls)
    {V : Set TypeId} (explores : call.Explores gen g V) {x y : TypeId} (hx : x ∈ V)
    (enters : gen.Enters g x y) :
    (∃ call ∈ calls, ∃ V, call.Explores gen g V ∧ y ∈ V) ∨ Behind gen g calls y := by
  by_cases members : gen.ExpandsMembers g x
  · -- an object is noted, so it has been expanded in some call
    obtain ⟨i, hi⟩ := explores.noted x hx members
    have there := complete i (h.reached call hcall i (SortedMap.contains_iff.2 ⟨x, hi⟩))
    obtain ⟨x', holds', -, call', hcall', hx'⟩ := h.origin i there
    obtain rfl : x' = x := h.coherent.type_eq distinct holds' (h.held call hcall i x hi)
    obtain ⟨V', explores'⟩ := h.explored call' hcall'
    refine .inl ⟨call', hcall', V', explores', ?_⟩
    rcases hx' with rfl | expanded
    · exact explores'.itself members y enters
    · obtain ⟨x'', hi'⟩ := SortedMap.contains_iff.1 (h.linked call' hcall' i expanded)
      obtain rfl : x'' = x' :=
        h.coherent.type_eq distinct (h.held call' hcall' i x'' hi') holds'
      exact explores'.expanded i x'' expanded hi' y enters
  · rcases explores.others x hx members with follows | cutsOff
    · exact .inl ⟨call, hcall, V, explores, follows y enters⟩
    · exact .inr ⟨call, hcall, x, cutsOff, .single enters⟩

/-- What a root leads to was visited in the end, or lies behind a collection that was cut off. -/
theorem visited_or_behind (h : c.Searched gen g roots r calls) (distinct : g.Distinct)
    (complete : ∀ i, c.Reaches i → c.components.contains i)
    (rooted : ∀ root ∈ roots, ∃ call ∈ calls, call.type = root) {root x : TypeId}
    (hroot : root ∈ roots) (leads : gen.LeadsTo g root x) :
    (∃ call ∈ calls, ∃ V, call.Explores gen g V ∧ x ∈ V) ∨ Behind gen g calls x := by
  induction leads with
  | refl =>
    obtain ⟨call, hcall, rfl⟩ := rooted root hroot
    obtain ⟨V, explores⟩ := h.explored call hcall
    exact .inl ⟨call, hcall, V, explores, explores.root⟩
  | tail _ enters ih =>
    rcases ih with ⟨call, hcall, V, explores, hx⟩ | ⟨call, hcall, collection, cutsOff, behind⟩
    · exact h.visits_next distinct complete hcall explores hx enters
    · exact .inr ⟨call, hcall, collection, cutsOff, behind.tail enters⟩

/-- What lies behind a collection that was cut off is something that a root leads to. -/
theorem sought_of_behind (h : c.Searched gen g roots r calls) {x : TypeId}
    (members : gen.ExpandsMembers g x) (behind : Behind gen g calls x) :
    gen.Sought g roots x := by
  obtain ⟨call, hcall, collection, cutsOff, leads⟩ := behind
  obtain ⟨V, explores⟩ := h.explored call hcall
  obtain ⟨root, hroot, leadsCall⟩ := (h.sought call hcall).exists_root
  have leadsCollection := explores.leads collection (explores.cuts collection cutsOff)
  exact .inr ⟨members, root, hroot, (leadsCall.trans leadsCollection).trans leads⟩

end Collected.Searched

/-- **A document covers the types that should have components, but for objects behind collections
that were cut off for their depth.** -/
theorem DocumentRun.covers_or_lost_iff (distinct : g.Distinct) {roots : List TypeId}
    {w w' : Workspace} (reachable : w.registry.Reachable) {outcomes : List GeneratedSchema}
    {doc : SchemaDocument} (h : DocumentRun gen g roots w outcomes doc w') :
    ∃ calls : List Call, calls.map Call.schema = outcomes ∧ (∀ call ∈ calls, call.Made gen g) ∧
      ∀ identity, doc.Covers w'.registry identity ∨ Lost gen g calls identity ↔
        ∃ x, g.identity? x = some identity ∧ gen.Sought g roots x := by
  obtain ⟨named, calls, c, known, rfl, rfl, ends, searched⟩ :=
    h.ends (Collected.Searched.invariant distinct roots) (.start reachable.coherent)
  have complete := fun i => (ends.reaches i).1
  have rooted : ∀ root ∈ roots, ∃ call ∈ calls, call.type = root := fun root hroot =>
    ends.rooted root ((mem_orderedRoots distinct known).2 hroot)
  refine ⟨calls, rfl, ends.made, fun identity => ⟨?_, ?_⟩⟩
  · rintro (⟨i, hi, hc⟩ | ⟨x, hx, members, behind⟩)
    · obtain ⟨x, ⟨d, known, hid⟩, sought, -⟩ := searched.origin i hc
      obtain rfl := searched.coherent.unique hid hi
      exact ⟨x, by rw [TypeGraph.identity?, known, Option.map_some], sought⟩
    · exact ⟨x, hx, searched.sought_of_behind members behind⟩
  · rintro ⟨x, hx, sought⟩
    -- a type that holds an identifier of a component is covered
    have covered : ∀ {i}, g.Holds w'.registry x i → c.components.contains i →
        SchemaDocument.Covers ⟨gen.config.version, c.components⟩ w'.registry identity := by
      rintro i ⟨d, known, hid⟩ hc
      rw [TypeGraph.identity?, known, Option.map_some, Option.some.injEq] at hx
      exact ⟨i, hx ▸ hid, hc⟩
    rcases sought with hroot | ⟨members, root, hroot, leads⟩
    · obtain ⟨i, holds, hc⟩ := ends.linked.supplied x ((mem_orderedRoots distinct known).2 hroot)
      exact .inl (covered holds hc)
    · rcases searched.visited_or_behind distinct complete rooted hroot leads with
        ⟨call, hcall, V, explores, hV⟩ | behind
      · obtain ⟨i, hi⟩ := explores.noted x hV members
        exact .inl (covered (searched.held call hcall i x hi)
          (complete i (searched.reached call hcall i (SortedMap.contains_iff.2 ⟨x, hi⟩))))
      · exact .inr ⟨x, hx, members, behind⟩

/-! ### Two limits -/

/-- The generator with another limit on the depth. -/
def Generator.withDepth (gen : Generator) (maxDepth : Nat) : Generator :=
  { gen with config := { gen.config with maxDepth } }

/-- **Under two limits on the depth a document covers the same types but for objects behind
collections that are cut off**, so the same if no collection is cut off in either of the runs. -/
theorem generateDocument_depths (distinct : g.Distinct) {roots : List TypeId} {m₁ m₂ : Nat}
    {w₁ w₂ w₁' w₂' : Workspace} (reachable₁ : w₁.registry.Reachable)
    (reachable₂ : w₂.registry.Reachable) {doc₁ doc₂ : SchemaDocument}
    (h₁ : generateDocument (gen.withDepth m₁) g roots w₁ = .ok doc₁ w₁')
    (h₂ : generateDocument (gen.withDepth m₂) g roots w₂ = .ok doc₂ w₂') :
    ∃ calls₁ calls₂ : List Call,
      DocumentRun (gen.withDepth m₁) g roots w₁ (calls₁.map Call.schema) doc₁ w₁' ∧
      DocumentRun (gen.withDepth m₂) g roots w₂ (calls₂.map Call.schema) doc₂ w₂' ∧
      (∀ call ∈ calls₁, call.Made (gen.withDepth m₁) g) ∧
      (∀ call ∈ calls₂, call.Made (gen.withDepth m₂) g) ∧
      (∀ identity,
        doc₁.Covers w₁'.registry identity ∨ Lost (gen.withDepth m₁) g calls₁ identity ↔
          doc₂.Covers w₂'.registry identity ∨ Lost (gen.withDepth m₂) g calls₂ identity) ∧
      ((∀ call ∈ calls₁ ++ calls₂, call.schema.CutsNamed) →
        ∀ identity, doc₁.Covers w₁'.registry identity ↔ doc₂.Covers w₂'.registry identity) := by
  obtain ⟨outcomes₁, run₁⟩ := generateDocument_ok_iff.1 h₁
  obtain ⟨outcomes₂, run₂⟩ := generateDocument_ok_iff.1 h₂
  obtain ⟨calls₁, rfl, made₁, covers₁⟩ := run₁.covers_or_lost_iff distinct reachable₁
  obtain ⟨calls₂, rfl, made₂, covers₂⟩ := run₂.covers_or_lost_iff distinct reachable₂
  -- what should have a component is the same under both limits
  have same : ∀ identity,
      doc₁.Covers w₁'.registry identity ∨ Lost (gen.withDepth m₁) g calls₁ identity ↔
        doc₂.Covers w₂'.registry identity ∨ Lost (gen.withDepth m₂) g calls₂ identity :=
    fun identity => (covers₁ identity).trans (covers₂ identity).symm
  -- nothing is lost when no collection is cut off
  have kept : ∀ {m : Nat} {calls : List Call}, (∀ call ∈ calls, call.Made (gen.withDepth m) g) →
      (∀ call ∈ calls, call.schema.CutsNamed) → ∀ identity,
        ¬ Lost (gen.withDepth m) g calls identity := by
    rintro m calls made hnamed identity ⟨x, -, -, call, hcall, collection, cutsOff, -⟩
    exact cutsOff.not_cutsNamed (made call hcall) (hnamed call hcall)
  refine ⟨calls₁, calls₂, run₁, run₂, made₁, made₂, same, fun hnamed identity => ?_⟩
  obtain ⟨hnamed₁, hnamed₂⟩ := List.forall_mem_append.1 hnamed
  exact ((or_iff_left (kept made₁ hnamed₁ identity)).symm.trans (same identity)).trans
    (or_iff_left (kept made₂ hnamed₂ identity))

/-- An object with a list of other objects. -/
def TypeGraph.listedObject : TypeGraph := .ofTypes #[
  { identity := "A", name := "A", shape := .object {
      fields := [{ name := "xs", type := ⟨2⟩ }] } },
  { identity := "B", name := "B", shape := .object {} },
  { identity := "B[]", name := "Array", genericArgs := [⟨1⟩], shape := .array ⟨1⟩ }]

theorem distinct_listedObject : TypeGraph.listedObject.Distinct := .ofTypes (by decide)

/-- With one expansion open at a time the list is cut off, and its elements have no component. -/
theorem listedObject_at_one : ∃ doc w,
    generateDocument (Generator.withDepth (.plain {}) 1) .listedObject [⟨0⟩] {} = .ok doc w ∧
      ¬ doc.Covers w.registry "B" := by
  have computed : Work.value? (do
      let doc ← generateDocument (Generator.withDepth (.plain {}) 1) .listedObject [⟨0⟩]
      return (doc.components.keys, (← get).registry.lookup? "B")) {} =
      some (["A"], none) := by cbv
  obtain ⟨doc, w, hdoc, hread⟩ := Work.ok_of_reading computed
  refine ⟨doc, w, hdoc, ?_⟩
  rintro ⟨i, hi, -⟩
  rw [(Prod.mk.inj hread).2] at hi
  cases hi

/-- With two open at a time the elements have their component. -/
theorem listedObject_at_two : ∃ doc w,
    generateDocument (Generator.withDepth (.plain {}) 2) .listedObject [⟨0⟩] {} = .ok doc w ∧
      doc.Covers w.registry "B" := by
  have computed : Work.value? (do
      let doc ← generateDocument (Generator.withDepth (.plain {}) 2) .listedObject [⟨0⟩]
      return (doc.components.keys, (← get).registry.lookup? "B")) {} =
      some (["A", "B"], some "B") := by cbv
  obtain ⟨doc, w, hdoc, hread⟩ := Work.ok_of_reading computed
  obtain ⟨hkeys, hid⟩ := Prod.mk.inj hread
  exact ⟨doc, w, hdoc, "B", hid, SortedMap.mem_keys_iff.1 (hkeys ▸ by decide)⟩

/-- The elements of the list are what is lost under the smaller limit. -/
theorem generateDocument_depths_listed :
    ∃ calls doc w,
      DocumentRun (Generator.withDepth (.plain {}) 1) .listedObject [⟨0⟩] {}
        (calls.map Call.schema) doc w ∧
      Lost (Generator.withDepth (.plain {}) 1) .listedObject calls "B" := by
  obtain ⟨doc₁, w₁, h₁, hnot⟩ := listedObject_at_one
  obtain ⟨doc₂, w₂, h₂, hcovers⟩ := listedObject_at_two
  obtain ⟨calls₁, _, run₁, -, -, -, same, -⟩ :=
    generateDocument_depths distinct_listedObject .empty .empty h₁ h₂
  exact ⟨calls₁, doc₁, w₁, run₁, ((same "B").2 (.inl hcovers)).resolve_left hnot⟩

/-- Two limits on the depth may give components for different types. -/
theorem not_generateDocument_depths :
    ¬ ∀ (gen : Generator) (g : TypeGraph) (roots : List TypeId) (m₁ m₂ : Nat)
        (doc₁ doc₂ : SchemaDocument) (w₁ w₂ : Workspace), g.Distinct → 1 ≤ m₁ → 1 ≤ m₂ →
      generateDocument (gen.withDepth m₁) g roots {} = .ok doc₁ w₁ →
      generateDocument (gen.withDepth m₂) g roots {} = .ok doc₂ w₂ →
      ∀ identity, doc₁.Covers w₁.registry identity ↔ doc₂.Covers w₂.registry identity := by
  intro h
  obtain ⟨doc₁, w₁, h₁, hnot⟩ := listedObject_at_one
  obtain ⟨doc₂, w₂, h₂, hcovers⟩ := listedObject_at_two
  have same := h _ _ _ 1 2 doc₁ doc₂ w₁ w₂ distinct_listedObject (by decide) (by decide) h₁ h₂ "B"
  exact hnot (same.2 hcovers)

end TypeSchema
