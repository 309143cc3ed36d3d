import TypeSchema.Proofs.Generation.Recorded
import TypeSchema.Proofs.Generation.Resolution
import TypeSchema.Proofs.Generation.Roots
import TypeSchema.Proofs.Meaning.Keywords

/-!
# Documents — whose keywords a component bears

A component comes from one of two places: from the root of a generation of its type, or from the
nodes recorded while another type was generated.  The first bears the keywords of the type, the
second none.  So the component of an object bears the keywords of its type if the type was generated
itself, as one of the roots or from the queue, and none if it was only expanded on the way
(`component_keywords`).

A run is followed with the list of its generations, each with its type (`Collected.Keyworded`).
-/

namespace TypeSchema

variable {gen : Generator} {g : TypeGraph}

/-- The type is one of those that are generated themselves. -/
def Generated (calls : List (TypeId × GeneratedSchema)) (ty : TypeId) : Prop :=
  ∃ s, (ty, s) ∈ calls

/-- With one more call its root is generated as well. -/
theorem generated_concat_iff {calls : List (TypeId × GeneratedSchema)}
    {call : TypeId × GeneratedSchema} {ty : TypeId} :
    Generated (calls ++ [call]) ty ↔ Generated calls ty ∨ ty = call.1 := by
  simp only [Generated, List.mem_append, List.mem_singleton, exists_or]
  refine or_congr_right ⟨?_, fun h => ⟨call.2, by rw [h]⟩⟩
  rintro ⟨s, rfl⟩
  rfl

/-- The keywords of the component of an object: those of its type if that was generated itself, and
none if it was expanded on the way. -/
structure Generator.BearsDue (gen : Generator) (j : Json)
    (calls : List (TypeId × GeneratedSchema)) (ty : TypeId) (d : TypeDescriptor) (id : String) :
    Prop where
  own : Generated calls ty → j.Bears (gen.keywordsOf d)
  onTheWay : ¬ Generated calls ty → j.Bears {} ∧ ∃ call ∈ calls, call.2.identifiers.contains id

/-- What a component bears is still due after a call for another type. -/
theorem Generator.BearsDue.more {gen : Generator} {j : Json}
    {calls : List (TypeId × GeneratedSchema)} {ty : TypeId} {d : TypeDescriptor} {id : String}
    (h : gen.BearsDue j calls ty d id)
    {call : TypeId × GeneratedSchema} (other : ty ≠ call.1) :
    gen.BearsDue j (calls ++ [call]) ty d id := by
  have generated : Generated (calls ++ [call]) ty ↔ Generated calls ty :=
    generated_concat_iff.trans (or_iff_left other)
  refine ⟨fun hg => h.own (generated.1 hg), fun hg => ?_⟩
  obtain ⟨bare, call', hm, hi⟩ := h.onTheWay fun h => hg (generated.2 h)
  exact ⟨bare, call', List.mem_append_left _ hm, hi⟩

/-- The component that an object supplies bears the object's keywords. -/
theorem GeneratedSchema.Supplies.bears_object {s : GeneratedSchema} {node : NodeId} {j : Json}
    {k : Keywords} (h : s.Supplies node j) (object : s.arena.HasObject node k) : j.Bears k := by
  obtain ⟨n, hn, kind, rfl⟩ := object
  exact h.bears hn kind (by decide)

/-! ### Collecting -/

/-- Every component is that of a type that holds its identifier, and bears the keywords that it
should.  Types that are generated themselves have their components, and what is queued is held. -/
structure Collected.Keyworded (gen : Generator) (g : TypeGraph) (r : Registry)
    (calls : List (TypeId × GeneratedSchema)) (c : Collected) : Prop where
  coherent : r.Coherent
  queued : ∀ id ty, c.pending.get? id = some ty → g.Holds r ty id
  supplied : ∀ ty, Generated calls ty → ∃ id, g.Holds r ty id ∧ c.components.contains id
  keywords : ∀ id j, c.components.get? id = some j → ∃ ty, g.Holds r ty id ∧
    ∀ d, gen.Expands g ty d → gen.BearsDue j calls ty d id

namespace Collected.Keyworded

variable {r r' : Registry} {calls : List (TypeId × GeneratedSchema)} {c c' : Collected}

theorem start (coherent : r.Coherent) : Keyworded gen g r [] {} := by
  refine ⟨coherent, fun id ty h => ?_, fun ty h => ?_, fun id j h => ?_⟩
  · simp [EmptyCollection.emptyCollection] at h
  · simp [Generated] at h
  · simp [EmptyCollection.emptyCollection] at h

theorem mono (h : c.Keyworded gen g r calls) (grows : r.Grows r') (coherent : r'.Coherent) :
    c.Keyworded gen g r' calls := by
  refine ⟨coherent, fun id ty hq => (h.queued id ty hq).mono grows, fun ty hty => ?_,
    fun id j hj => ?_⟩
  · obtain ⟨id, hid, hc⟩ := h.supplied ty hty
    exact ⟨id, hid.mono grows, hc⟩
  · obtain ⟨ty, hty, hk⟩ := h.keywords id j hj
    exact ⟨ty, hty.mono grows, hk⟩

/-- A type whose component is not there has not been generated. -/
theorem not_generated (h : c.Keyworded gen g r calls) {id : String} {ty : TypeId}
    (hty : g.Holds r ty id) (missing : c.components.get? id = none) : ¬ Generated calls ty := by
  intro hgen
  obtain ⟨id', hid', hc⟩ := h.supplied ty hgen
  rw [hid'.id_eq hty, SortedMap.contains, missing] at hc
  cases hc

/-- **One generation keeps it.**  The identifier that is generated may be taken from the queue
before. -/
theorem added {s : GeneratedSchema} {id : String} {ty : TypeId} {pending : SortedMap TypeId}
    (h : c.Keyworded gen g r calls) (linked : s.Linked g r)
    (root : ∀ d, gen.Expands g ty d → s.arena.HasObject s.root (gen.keywordsOf d))
    (bare : ∀ i node, s.identifiers.get? i = some node → s.arena.HasObject node {})
    (ha : Added s id { c with pending } c') (holds : g.Holds r ty id)
    (old : ∀ id' ty', pending.get? id' = some ty' → c.pending.get? id' = some ty') :
    c'.Keyworded gen g r (calls ++ [(ty, s)]) := by
  refine ⟨h.coherent, ha.queued linked fun id' ty' hq => h.queued id' ty' (old id' ty' hq),
    fun ty' hty => ?_, fun key j hj => ?_⟩
  · rcases generated_concat_iff.1 hty with hty | rfl
    · obtain ⟨id', hid, hc⟩ := h.supplied ty' hty
      exact ⟨id', hid, ha.contains hc⟩
    · obtain ⟨j, hj, -⟩ := ha.own
      exact ⟨id, holds, SortedMap.contains_iff.2 ⟨j, hj⟩⟩
  · by_cases hkey : key = id
    · -- the component of the type that is generated
      subst hkey
      obtain ⟨j', hj', hsup⟩ := ha.own
      obtain rfl : j = j' := Option.some.inj (hj.symm.trans hj')
      refine ⟨ty, holds, fun d object => ⟨fun _ => hsup.bears_object (root d object), fun hn => ?_⟩⟩
      exact absurd (generated_concat_iff.2 (.inr rfl)) hn
    · -- no other type holds the identifier that is generated
      have other : ∀ {ty'}, g.Holds r ty' key → ty' ≠ ty := by
        rintro ty' hty' rfl
        exact hkey (hty'.id_eq holds)
      cases hold : c.components.get? key with
      | some j' =>
        -- a component that was there before
        obtain rfl : j' = j := Option.some.inj ((ha.kept key j' hkey hold).symm.trans hj)
        obtain ⟨ty', hty', hk⟩ := h.keywords key j' hold
        exact ⟨ty', hty', fun d object => (hk d object).more (other hty')⟩
      | none =>
        -- one that is expanded on the way, of a type that has not been generated
        obtain ⟨node, hnode, hsup⟩ := (ha.origin key j hkey hj).resolve_left fun hj' => by
          rw [show c.components.get? key = some j from hj'] at hold
          cases hold
        have expanded := SortedMap.contains_iff.2 ⟨node, hnode⟩
        obtain ⟨ty', hnoted⟩ := SortedMap.contains_iff.1 (linked.expanded key expanded)
        have hty' := linked.held key ty' hnoted
        refine ⟨ty', hty', fun d object => ⟨fun hgen => ?_, fun _ => ?_⟩⟩
        · exact ((generated_concat_iff.1 hgen).elim (h.not_generated hty' hold) (other hty')).elim
        · exact ⟨hsup.bears_object (bare key node hnode), (ty, s), by simp, expanded⟩

/-- Adding what a type gives, in a workspace where it holds the identifier. -/
theorem generated {w w₁ w₂ : Workspace} {id : String} {ty : TypeId} {pending : SortedMap TypeId}
    {s : GeneratedSchema} (h : c.Keyworded gen g w.registry calls)
    (holds : g.Holds w.registry ty id)
    (old : ∀ id' ty', pending.get? id' = some ty' → c.pending.get? id' = some ty')
    (generated : generate gen g ty w = .ok s w₁)
    (added : addRoot gen g { c with pending } id ty w = .ok c' w₂) :
    c'.Keyworded gen g w₂.registry (calls ++ [(ty, s)]) := by
  obtain ⟨hadd, hr⟩ := added_of_generated generated added
  obtain ⟨grows, linked⟩ := generate_linked generated
  obtain ⟨root, bare⟩ := generate_keywords generated
  have coherent := generate_coherent generated h.coherent
  rw [hr]
  exact (h.mono grows coherent).added linked root bare hadd (holds.mono grows) old

end Collected.Keyworded

/-! ### Runs -/

/-- Each type was generated with this outcome. -/
def Outcomes (gen : Generator) (g : TypeGraph) (calls : List (TypeId × GeneratedSchema)) : Prop :=
  ∀ call ∈ calls, ∃ w w', generate gen g call.1 w = .ok call.2 w'

section

variable {c c' : Collected} {w w' : Workspace} {outcomes : List GeneratedSchema}

/-- The roots keep the components keyworded, one call each. -/
theorem RootsRun.keyworded {tys : List TypeId} (h : RootsRun gen g c tys w outcomes c' w')
    {calls : List (TypeId × GeneratedSchema)} (hc : c.Keyworded gen g w.registry calls) :
    ∃ more : List (TypeId × GeneratedSchema), more.map (·.1) = tys ∧ more.map (·.2) = outcomes ∧
      Outcomes gen g more ∧ c'.Keyworded gen g w'.registry (calls ++ more) := by
  induction h generalizing calls with
  | done c w => exact ⟨[], rfl, rfl, fun _ h => absurd h List.not_mem_nil, by simpa using hc⟩
  | @root c c₁ c' ty rest id w w₁ w₂ w₃ w' s outcomes assigned generated added _ ih =>
    obtain ⟨events, ha⟩ := assignId_ok assigned
    obtain ⟨grows, holds⟩ := Registry.assign_spec ha
    have hc₁ := (hc.mono grows (hc.coherent.assign ha)).generated holds (fun _ _ h => h) generated
      added
    obtain ⟨more, rfl, rfl, houtcomes, hlast⟩ := ih hc₁
    refine ⟨(ty, s) :: more, rfl, rfl, ?_, by simpa using hlast⟩
    exact List.forall_mem_cons.2 ⟨⟨w₁, w₂, generated⟩, houtcomes⟩

/-- So do the types that wait. -/
theorem QueueRun.keyworded {remaining : List TypeId}
    (h : QueueRun gen g remaining c w outcomes c' w') {calls : List (TypeId × GeneratedSchema)}
    (hc : c.Keyworded gen g w.registry calls) :
    ∃ more : List (TypeId × GeneratedSchema), more.map (·.2) = outcomes ∧
      Outcomes gen g more ∧ c'.Keyworded gen g w'.registry (calls ++ more) := by
  induction h generalizing calls with
  | done => exact ⟨[], rfl, fun _ h => absurd h List.not_mem_nil, by simpa using hc⟩
  | skip first _ _ ih =>
    refine ih ⟨hc.coherent, fun id' ty' hq => ?_, hc.supplied, hc.keywords⟩
    exact hc.queued id' ty' (SortedMap.get?_of_rest first hq)
  | @root remaining c c₁ c' id ty pending w w₁ w₂ w' s outcomes first _ _ generated added _ ih =>
    have holds : g.Holds w.registry ty id :=
      hc.queued id ty (by rw [SortedMap.get?_popFirst? first, if_pos rfl])
    have hc₁ := hc.generated holds (fun _ _ => SortedMap.get?_of_rest first) generated added
    obtain ⟨more, rfl, houtcomes, hlast⟩ := ih hc₁
    refine ⟨(ty, s) :: more, rfl, ?_, by simpa using hlast⟩
    exact List.forall_mem_cons.2 ⟨⟨w, w₁, generated⟩, houtcomes⟩

end

/-- **The component of an object bears the keywords of its type if the type was generated itself**,
as every root is; the component of any other object was expanded on the way and bears none. -/
theorem component_keywords (distinct : g.Distinct) {roots : List TypeId} {w w' : Workspace}
    (reachable : w.registry.Reachable) {doc : SchemaDocument}
    (h : generateDocument gen g roots w = .ok doc w') :
    ∃ calls : List (TypeId × GeneratedSchema),
      DocumentRun gen g roots w (calls.map (·.2)) doc w' ∧ Outcomes gen g calls ∧
      (∀ ty ∈ roots, Generated calls ty) ∧
      ∀ ty d id j, gen.Expands g ty d → g.Holds w'.registry ty id →
        doc.components.get? id = some j → gen.BearsDue j calls ty d id := by
  obtain ⟨_, @⟨named, _, _, c, c', w₁, _, known, first, rest⟩⟩ := generateDocument_ok_iff.1 h
  obtain ⟨calls, htypes, rfl, hcalls, hc⟩ := first.keyworded (.start reachable.coherent)
  obtain ⟨more, rfl, hmore, hc'⟩ := rest.keyworded hc
  rw [List.nil_append] at hc'
  refine ⟨calls ++ more, ?_, List.forall_mem_append.2 ⟨hcalls, hmore⟩, fun ty hty => ?_,
    fun ty d id j object holds hj => ?_⟩
  · rw [List.map_append]
    exact .intro known first rest
  · rw [← mem_orderedRoots distinct known, ← htypes] at hty
    obtain ⟨⟨_, s⟩, hs, rfl⟩ := List.mem_map.1 hty
    exact ⟨s, List.mem_append_left _ hs⟩
  · obtain ⟨ty', holds', due⟩ := hc'.keywords id j hj
    obtain rfl : ty' = ty := hc'.coherent.type_eq distinct holds' holds
    exact due d object

/-- An object with a field of another one, whose type has a constraint of its own. -/
def TypeGraph.nested : TypeGraph := .ofTypes #[
  { identity := "A", name := "A", shape := .object { fields := [{ name := "b", type := ⟨1⟩ }] } },
  { identity := "B", name := "B", shape := .object {}, constraints := [.minLength 1] }]

theorem distinct_nested : TypeGraph.nested.Distinct := .ofTypes (by decide)

theorem expands_nested : Generator.Expands (.plain {}) .nested ⟨1⟩
    { identity := "B", name := "B", shape := .object {}, constraints := [.minLength 1] } :=
  ⟨rfl, ⟨_, rfl⟩, rfl⟩

/-- When both are roots the component of the inner one has its constraint. -/
theorem component_keywords_nested :
    ∃ doc w j, generateDocument (.plain {}) .nested [⟨0⟩, ⟨1⟩] {} = .ok doc w ∧
      doc.components.get? "B" = some j ∧ j.get? "minLength" = some (.int 1) := by
  have computed : Work.value? (do
      let doc ← generateDocument (.plain {}) .nested [⟨0⟩, ⟨1⟩]
      return (doc.components.contains "B", (← get).registry.lookup? "B")) {} =
      some (true, some "B") := by cbv
  obtain ⟨doc, w, hdoc, hread⟩ := Work.ok_of_reading computed
  obtain ⟨hc, hr⟩ := Prod.mk.inj hread
  obtain ⟨j, hj⟩ := SortedMap.contains_iff.1 hc
  obtain ⟨calls, -, -, hroots, due⟩ := component_keywords distinct_nested .empty hdoc
  have generated : Generated calls ⟨1⟩ := hroots ⟨1⟩ (by decide)
  exact ⟨_, _, j, hdoc, hj, ((due _ _ _ _ expands_nested ⟨_, rfl, hr⟩ hj).own generated).minLength⟩

/-- When only the outer one is a root the component of the inner one lacks its constraint. -/
theorem not_component_keywords :
    ¬ ∀ (gen : Generator) (g : TypeGraph) (roots : List TypeId) (doc : SchemaDocument)
        (w : Workspace), g.Distinct → generateDocument gen g roots {} = .ok doc w →
      ∀ ty d id j, gen.Expands g ty d → g.Holds w.registry ty id →
        doc.components.get? id = some j → j.Bears (gen.keywordsOf d) := by
  intro h
  have computed : Work.value? (do
      let doc ← generateDocument (.plain {}) .nested [⟨0⟩]
      return ((doc.components.get? "B").map (·.get? "minLength"),
        (← get).registry.lookup? "B")) {} = some (some none, some "B") := by cbv
  obtain ⟨doc, w, hdoc, hread⟩ := Work.ok_of_reading computed
  obtain ⟨hc, hr⟩ := Prod.mk.inj hread
  obtain ⟨j, hj, hnone⟩ := Option.map_eq_some_iff.1 hc
  have bears := h _ _ _ _ _ distinct_nested hdoc _ _ _ _ expands_nested ⟨_, rfl, hr⟩ hj
  rw [bears.minLength] at hnone
  cases hnone

end TypeSchema
