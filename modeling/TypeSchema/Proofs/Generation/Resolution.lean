import Mathlib
import TypeSchema.Proofs.Generation.Roots
import TypeSchema.Proofs.Generation.Run
import TypeSchema.Proofs.Graph.Index

/-!
# Documents — every reference has its component

While a document is built, a component that is mentioned is there or its identifier is queued, with
a type that holds it (`Collected.Linked`).  A queued identifier is only passed over when its
component is there: directly, or because its type has been generated before and holds no other
identifier.  When the queue is empty every component that is mentioned is there
(`generateDocument_closed`), whatever the registry held before.
-/

namespace TypeSchema

/-- Every component that is mentioned by a component is there. -/
def SchemaDocument.Closed (d : SchemaDocument) : Prop :=
  ∀ key schema, d.components.get? key = some schema → ∀ id, schema.Mentions id →
    d.components.contains id

/-! ### Examples -/

/-- An example does not count as a mention. -/
theorem Json.Mentions.of_withDefault {id : String} {v j : Json}
    (h : (Json.withDefault "example" v j).Mentions id) : j.Mentions id := by
  cases j with
  | object fields =>
    simp only [Json.withDefault] at h
    split at h
    · exact h
    · have other : ∀ {key x}, key ≠ "example" →
          (key, x) ∈ SortedMap.insertEntry "example" v fields → (key, x) ∈ fields :=
        fun hk hm => (SortedMap.mem_insertEntry hm).resolve_left fun e => hk (congrArg Prod.fst e)
      cases h with
      | ref h => exact .ref (other (by decide) h)
      | keyword h schema inner => exact .keyword (other schema.1 h) schema inner
      | property h member inner => exact .property (other (by decide) h) member inner
  | _ => exact h

/-- What the schema of a node mentions is noted, with an example or without. -/
theorem GeneratedSchema.Linked.noted_of_supplies {g : TypeGraph} {r : Registry}
    {s : GeneratedSchema} (hs : s.Linked g r) {node : NodeId} {j : Json} (h : s.Supplies node j)
    {id : String} (hm : j.Mentions id) : s.components.contains id := by
  rcases h with rfl | ⟨v, rfl⟩
  · exact hs.noted node id hm
  · exact hs.noted node id hm.of_withDefault

/-! ### Collecting -/

/-- The component is there or queued. -/
def Collected.Reaches (c : Collected) (id : String) : Prop :=
  c.components.contains id ∨ c.pending.contains id

/-- What a generation notes is there or queued after it. -/
theorem Added.reaches_noted {s : GeneratedSchema} {id : String} {c c' : Collected}
    (h : Added s id c c') {id' : String} (noted : s.components.contains id') : c'.Reaches id' := by
  by_cases hi : s.identifiers.contains id'
  · exact .inl (h.expanded id' hi noted)
  · by_cases hc : c'.components.contains id'
    · exact .inl hc
    · obtain ⟨ty, hty⟩ := SortedMap.contains_iff.1 noted
      refine .inr ?_
      rw [h.queue]
      exact contains_addPending (mem_unresolved_iff.2 ⟨hty, hi⟩) hc

/-- What was there or queued before a generation is so after it.  The identifier that is generated
may be taken from the queue before. -/
theorem Added.reaches {s : GeneratedSchema} {id : String} {c c' : Collected}
    {pending : SortedMap TypeId} (h : Added s id { c with pending } c')
    (kept : ∀ id', id' ≠ id → c.pending.get? id' = pending.get? id') {id' : String} :
    c.Reaches id' → c'.Reaches id' := by
  rintro (hc | hp)
  · exact .inl (h.contains hc)
  · by_cases he : id' = id
    · obtain ⟨j, hj, -⟩ := h.own
      exact .inl (SortedMap.contains_iff.2 ⟨j, he ▸ hj⟩)
    · obtain ⟨ty, hty⟩ := SortedMap.contains_iff.1 hp
      rw [kept id' he] at hty
      refine .inr ?_
      rw [h.queue]
      exact SortedMap.contains_iff.2 ⟨ty, get?_addPending_of_get? hty⟩

/-- What is queued after a generation is held by its type, if that is so of what was queued
before. -/
theorem Added.queued {g : TypeGraph} {r : Registry} {s : GeneratedSchema} {id : String}
    {c c' : Collected} (h : Added s id c c') (hs : s.Linked g r)
    (old : ∀ id' ty, c.pending.get? id' = some ty → g.Holds r ty id') :
    ∀ id' ty, c'.pending.get? id' = some ty → g.Holds r ty id' := by
  intro id' ty hq
  rw [h.queue] at hq
  rcases origin_addPending hq with hq | hu
  · exact old id' ty hq
  · exact hs.held id' ty (mem_unresolved_iff.1 hu).1

/-- What is there or queued is so when a queued identifier is passed over whose component is
there. -/
theorem Collected.Reaches.skipped {c : Collected} {id : String} {ty : TypeId}
    {pending : SortedMap TypeId} (first : c.pending.popFirst? = some ((id, ty), pending))
    (hc : c.components.contains id) {id' : String} (h : c.Reaches id') :
    Reaches { c with pending } id' := by
  rcases h with hc' | hp
  · exact .inl hc'
  · by_cases he : id' = id
    · exact .inl (he ▸ hc)
    · rw [SortedMap.contains, SortedMap.get?_popFirst? first, if_neg he] at hp
      exact .inr hp

/-- What is mentioned is there or queued; what is queued is held by its type; and a type that is
done holds an identifier whose component is there. -/
structure Collected.Linked (g : TypeGraph) (r : Registry) (done : TypeId → Prop) (c : Collected) :
    Prop where
  mentioned : ∀ key schema, c.components.get? key = some schema → ∀ id, schema.Mentions id →
    c.Reaches id
  queued : ∀ id ty, c.pending.get? id = some ty → g.Holds r ty id
  supplied : ∀ ty, done ty → ∃ id, g.Holds r ty id ∧ c.components.contains id

namespace Collected.Linked

variable {g : TypeGraph} {r r' : Registry} {done : TypeId → Prop} {c c' : Collected}

theorem start (g : TypeGraph) (r : Registry) : Linked g r (fun _ => False) {} := by
  refine ⟨fun key schema h => ?_, fun id ty h => ?_, fun ty h => h.elim⟩
  · simp [EmptyCollection.emptyCollection] at h
  · simp [EmptyCollection.emptyCollection] at h

theorem mono (h : c.Linked g r done) (grows : r.Grows r') : c.Linked g r' done :=
  ⟨h.mentioned, fun id ty hq => (h.queued id ty hq).mono grows, fun ty hd =>
    have ⟨id, hid, hc⟩ := h.supplied ty hd
    ⟨id, hid.mono grows, hc⟩⟩

theorem imp (h : c.Linked g r done) {done' : TypeId → Prop} (sub : ∀ ty, done' ty → done ty) :
    c.Linked g r done' :=
  ⟨h.mentioned, h.queued, fun ty hd => h.supplied ty (sub ty hd)⟩

/-- **One generation keeps the links**, and its type is done.  The identifier that is generated may
be taken from the queue before. -/
theorem added {s : GeneratedSchema} {id : String} {ty : TypeId} {pending : SortedMap TypeId}
    (h : c.Linked g r done) (hs : s.Linked g r) (ha : Added s id { c with pending } c')
    (holds : g.Holds r ty id)
    (old : ∀ id' ty', pending.get? id' = some ty' → c.pending.get? id' = some ty')
    (kept : ∀ id', id' ≠ id → c.pending.get? id' = pending.get? id') :
    c'.Linked g r (fun ty' => ty' = ty ∨ done ty') := by
  refine ⟨fun key schema hk id' hm => ?_,
    ha.queued hs fun id' ty' hq => h.queued id' ty' (old id' ty' hq), fun ty' hd => ?_⟩
  · -- the component is new, was supplied on the way or was there before
    by_cases hkey : key = id
    · obtain ⟨j, hj, hsup⟩ := ha.own
      obtain rfl : schema = j := Option.some.inj (hk.symm.trans (hkey ▸ hj))
      exact ha.reaches_noted (hs.noted_of_supplies hsup hm)
    · rcases ha.origin key schema hkey hk with hk | ⟨node, -, hsup⟩
      · exact ha.reaches kept (h.mentioned key schema hk id' hm)
      · exact ha.reaches_noted (hs.noted_of_supplies hsup hm)
  · rcases hd with rfl | hd
    · obtain ⟨j, hj, -⟩ := ha.own
      exact ⟨id, holds, SortedMap.contains_iff.2 ⟨j, hj⟩⟩
    · obtain ⟨id', hid, hc⟩ := h.supplied ty' hd
      exact ⟨id', hid, ha.contains hc⟩

/-- Passing over a queued identifier whose component is there. -/
theorem skipped {id : String} {ty : TypeId} {pending : SortedMap TypeId} (h : c.Linked g r done)
    (first : c.pending.popFirst? = some ((id, ty), pending)) (hc : c.components.contains id) :
    Linked g r done { c with pending } :=
  ⟨fun key schema hk id' hm => (h.mentioned key schema hk id' hm).skipped first hc,
    fun id' ty' hq => h.queued id' ty' (SortedMap.get?_of_rest first hq), h.supplied⟩

end Collected.Linked

/-! ### Runs -/

/-- One generation of a run: its type, the workspace in which it began, and its outcome. -/
structure Call where
  type : TypeId
  before : Workspace
  schema : GeneratedSchema

/-- The generation had this outcome. -/
def Call.Made (gen : Generator) (g : TypeGraph) (call : Call) : Prop :=
  ∃ w', generate gen g call.type call.before = .ok call.schema w'

/-- A property of the generations so far and of what they have collected that a run from these roots
keeps: adding what is generated for a root, or for a type of the queue, once the type has its
identifier, and passing over a queued identifier whose component is there. -/
structure CallInvariant (gen : Generator) (g : TypeGraph) (roots : List TypeId)
    (P : List Call → Collected → Workspace → Prop) : Prop where
  add : ∀ {calls c c' s id ty pending w w₁ w₂ w'}, ty ∈ roots ∨ c.pending.get? id = some ty →
    assignId g ty w = .ok id w₁ →
    (∀ id' ty', SortedMap.get? pending id' = some ty' → c.pending.get? id' = some ty') →
    (∀ id', id' ≠ id → c.pending.get? id' = SortedMap.get? pending id') →
    generate gen g ty w₁ = .ok s w₂ → w'.registry = w₂.registry →
    Added s id { c with pending } c' → P calls c w → P (calls ++ [⟨ty, w₁, s⟩]) c' w'
  skip : ∀ {calls c id ty pending w}, c.pending.popFirst? = some ((id, ty), pending) →
    c.components.contains id → P calls c w → P calls { c with pending } w

/-- A type that holds an identifier is given it again. -/
theorem assignId_of_holds {g : TypeGraph} {ty : TypeId} {id : String} {w : Workspace}
    (h : g.Holds w.registry ty id) : assignId g ty w = .ok id w := by
  refine bind_ok_iff.2 ⟨w, w, rfl, ?_⟩
  rw [Registry.assign_of_holds h]
  refine bind_ok_iff.2 ⟨(), w, ?_, rfl⟩
  simp [modify, modifyGet, MonadStateOf.modifyGet, EStateM.modifyGet]

/-- The types that the graph knows and that are not in the list. -/
def TypeGraph.Outside (g : TypeGraph) (remaining : List TypeId) (ty : TypeId) : Prop :=
  (∃ d, g.describe? ty = some d) ∧ ty ∉ remaining

section

variable {gen : Generator} {g : TypeGraph} {roots : List TypeId}
  {P : List Call → Collected → Workspace → Prop} {c c' : Collected} {w w' : Workspace}
  {outcomes : List GeneratedSchema}

/-- The roots leave everything linked, and one call each behind. -/
theorem RootsRun.linked (inv : CallInvariant gen g roots P) {tys : List TypeId}
    (h : RootsRun gen g c tys w outcomes c' w') (hroots : tys ⊆ roots) {done : TypeId → Prop}
    (hc : c.Linked g w.registry done) {calls : List Call} (hp : P calls c w) :
    ∃ more : List Call, more.map (·.type) = tys ∧ more.map (·.schema) = outcomes ∧
      (∀ call ∈ more, call.Made gen g) ∧
      c'.Linked g w'.registry (fun ty => ty ∈ tys ∨ done ty) ∧ P (calls ++ more) c' w' := by
  induction h generalizing done calls with
  | done c w =>
    exact ⟨[], rfl, rfl, fun _ h => (List.not_mem_nil h).elim, hc.imp (by simp), by simpa using hp⟩
  | @root c c₁ c' ty rest id w w₁ w₂ w₃ w' s outcomes assigned generated added _ ih =>
    obtain ⟨events, ha⟩ := assignId_ok assigned
    obtain ⟨hg₁, hholds⟩ := Registry.assign_spec ha
    obtain ⟨hg₂, hlinked⟩ := generate_linked generated
    obtain ⟨hadd, hr⟩ := added_of_generated generated added
    obtain ⟨hroot, hrest⟩ := List.cons_subset.1 hroots
    have h₁ := (hc.mono (hg₁.trans hg₂)).added hlinked hadd (hholds.mono hg₂) (fun _ _ h => h)
      (fun _ _ => rfl)
    have hp₁ := inv.add (.inl hroot) assigned (fun _ _ h => h) (fun _ _ => rfl) generated hr hadd hp
    obtain ⟨more, rfl, rfl, made, hlast, hpc⟩ := ih hrest (hr ▸ h₁) hp₁
    refine ⟨⟨ty, w₁, s⟩ :: more, rfl, rfl, List.forall_mem_cons.2 ⟨⟨w₂, generated⟩, made⟩,
      hlast.imp fun ty' hty => ?_, by simpa using hpc⟩
    rcases hty with hty | hty
    · rcases List.mem_cons.1 hty with rfl | hty
      · exact .inr (.inl rfl)
      · exact .inl hty
    · exact .inr (.inr hty)

/-- The types that wait leave everything linked, and nothing waiting. -/
theorem QueueRun.linked (inv : CallInvariant gen g roots P) {remaining : List TypeId}
    (h : QueueRun gen g remaining c w outcomes c' w')
    (hc : c.Linked g w.registry (g.Outside remaining)) {calls : List Call} (hp : P calls c w) :
    ∃ more : List Call, more.map (·.schema) = outcomes ∧ (∀ call ∈ more, call.Made gen g) ∧
      c'.Linked g w'.registry (g.Outside remaining) ∧ c'.pending.popFirst? = none ∧
        P (calls ++ more) c' w' := by
  induction h generalizing calls with
  | done empty =>
    exact ⟨[], rfl, fun _ h => (List.not_mem_nil h).elim, hc, empty, by simpa using hp⟩
  | @skip remaining c c' id ty pending w w' outcomes first known _ ih =>
    have hcomp : c.components.contains id := by
      rcases known with hcomp | hmem
      · exact hcomp
      · -- the type has been generated, and holds one identifier only
        have hq : c.pending.get? id = some ty := by rw [SortedMap.get?_popFirst? first, if_pos rfl]
        have hholds := hc.queued id ty hq
        have hdescribed : ∃ d, g.describe? ty = some d := have ⟨d, hd, _⟩ := hholds; ⟨d, hd⟩
        obtain ⟨id', hid, hcomp⟩ := hc.supplied ty ⟨hdescribed, hmem⟩
        exact hholds.id_eq hid ▸ hcomp
    exact ih (hc.skipped first hcomp) (inv.skip first hcomp hp)
  | @root remaining c c₁ c' id ty pending w w₁ w₂ w' s outcomes first new _ generated added _ ih =>
    obtain ⟨hg, hlinked⟩ := generate_linked generated
    obtain ⟨hadd, hr⟩ := added_of_generated generated added
    have hq : c.pending.get? id = some ty := by rw [SortedMap.get?_popFirst? first, if_pos rfl]
    have hholds : g.Holds w.registry ty id := hc.queued id ty hq
    have kept : ∀ id', id' ≠ id → c.pending.get? id' = pending.get? id' := fun id' hne => by
      rw [SortedMap.get?_popFirst? first, if_neg hne]
    have h₁ := (hc.mono hg).added hlinked hadd (hholds.mono hg)
      (fun _ _ => SortedMap.get?_of_rest first) kept
    have hout : ∀ ty', g.Outside (remaining.erase ty) ty' → ty' = ty ∨ g.Outside remaining ty' := by
      rintro ty' ⟨hknown, hmem⟩
      by_cases he : ty' = ty
      · exact .inl he
      · exact .inr ⟨hknown, fun hm => hmem ((List.mem_erase_of_ne he).2 hm)⟩
    have hp₁ := inv.add (.inr hq) (assignId_of_holds hholds)
      (fun _ _ => SortedMap.get?_of_rest first) kept generated hr hadd hp
    obtain ⟨more, rfl, made, hlast, hempty, hpc⟩ := ih ((hr ▸ h₁).imp hout) hp₁
    refine ⟨⟨ty, w, s⟩ :: more, rfl, List.forall_mem_cons.2 ⟨⟨w₁, generated⟩, made⟩, ?_, hempty,
      by simpa using hpc⟩
    exact hlast.imp fun ty' hty => ⟨hty.1, fun hm => hty.2 (List.mem_of_mem_erase hm)⟩

/-- What a run from some roots leaves: its generations, one for each root, and what they have
collected, where nothing is queued any more. -/
structure RunEnd (gen : Generator) (g : TypeGraph) (roots : List TypeId) (calls : List Call)
    (c : Collected) (r : Registry) : Prop where
  made : ∀ call ∈ calls, call.Made gen g
  rooted : ∀ ty ∈ roots, ∃ call ∈ calls, call.type = ty
  linked : c.Linked g r (fun ty => ty ∈ roots)
  reaches : ∀ id, c.Reaches id ↔ c.components.contains id

/-- **How a run ends**, and that it keeps what its generations keep. -/
theorem DocumentRun.ends (inv : CallInvariant gen g roots P) {d : SchemaDocument}
    (h : DocumentRun gen g roots w outcomes d w') (hp : P [] {} w) :
    ∃ named calls c, identified g roots = .ok named ∧
      d = ⟨gen.config.version, c.components⟩ ∧ calls.map Call.schema = outcomes ∧
      RunEnd gen g (orderedRoots named) calls c w'.registry ∧ P calls c w' := by
  obtain @⟨named, _, _, c, c', w₁, _, known, first, rest⟩ := h
  obtain ⟨calls, htypes, rfl, made, hfirst, hp₁⟩ :=
    first.linked inv (orderedRoots_subset known) (.start g w.registry) hp
  -- the types that the queue never generates are the roots
  have hroots : ∀ ty, g.Outside (g.ids.filter (· ∉ orderedRoots named)) ty →
      ty ∈ orderedRoots named ∨ False := by
    rintro ty ⟨⟨d, hd⟩, hmem⟩
    refine .inl (Decidable.byContradiction fun hn => hmem ?_)
    have hid := TypeGraph.mem_ids_iff.2 (TypeGraph.knows_iff_describe?.2 ⟨d, hd⟩)
    exact List.mem_filter.2 ⟨hid, by simpa using hn⟩
  obtain ⟨more, rfl, made', hlast, hempty, hp'⟩ := rest.linked inv (hfirst.imp hroots) hp₁
  rw [List.nil_append] at hp'
  refine ⟨named, calls ++ more, c', known, rfl, List.map_append, ⟨?_, fun ty hty => ?_,
    hlast.imp fun ty hty => ⟨?_, fun hm => ?_⟩, fun id => ?_⟩, hp'⟩
  · exact List.forall_mem_append.2 ⟨made, made'⟩
  · rw [← htypes] at hty
    obtain ⟨call, hcall, rfl⟩ := List.mem_map.1 hty
    exact ⟨call, List.mem_append_left _ hcall, rfl⟩
  · obtain ⟨id, ⟨d, hd, -⟩, -⟩ := hfirst.supplied ty (.inl hty)
    exact ⟨d, hd⟩
  · exact absurd hty (by simpa using (List.mem_filter.1 hm).2)
  · refine or_iff_left fun hp => ?_
    rw [SortedMap.contains, SortedMap.get?_of_popFirst?_eq_none hempty] at hp
    cases hp

end

/-- A property of what is collected that a run keeps, if `Q` holds of all its generations: giving a
type its identifier keeps it, and so does adding what a generation gives for a type that holds its
identifier, or passing over a queued identifier whose component is there. -/
structure RunInvariant (gen : Generator) (g : TypeGraph) (Q : GeneratedSchema → Prop)
    (P : Collected → Workspace → Prop) : Prop where
  assign : ∀ {c ty id w w'}, assignId g ty w = .ok id w' → P c w → P c w'
  add : ∀ {c c' s id ty pending w w₁ w'}, Q s → g.Holds w.registry ty id →
    (∀ id', id' ≠ id → c.pending.get? id' = SortedMap.get? pending id') →
    generate gen g ty w = .ok s w₁ → w'.registry = w₁.registry →
    Added s id { c with pending } c' → P c w → P c' w'
  skip : ∀ {c id ty pending w}, c.pending.popFirst? = some ((id, ty), pending) →
    c.components.contains id → P c w → P { c with pending } w

section

variable {gen : Generator} {g : TypeGraph} {Q : GeneratedSchema → Prop}
  {P : Collected → Workspace → Prop} {c c' : Collected} {w w' : Workspace}
  {calls : List GeneratedSchema} {roots : List TypeId}

/-- An invariant of single outcomes is one of the calls. -/
theorem RunInvariant.callInvariant (inv : RunInvariant gen g Q P) (roots : List TypeId) :
    CallInvariant gen g roots
      (fun calls c w => (∀ s ∈ calls.map Call.schema, Q s) → P c w) where
  add _ assigned _ kept generated hr hadd hp hcalls := by
    obtain ⟨events, ha⟩ := assignId_ok assigned
    rw [List.map_append, List.forall_mem_append] at hcalls
    exact inv.add (hcalls.2 _ List.mem_cons_self) (Registry.assign_spec ha).2 kept generated hr hadd
      (inv.assign assigned (hp hcalls.1))
  skip first hc hp hcalls := inv.skip first hc (hp hcalls)

/-- **What a run has collected at its end**: what is mentioned is there, and the roots are done. -/
theorem DocumentRun.linked (inv : RunInvariant gen g Q P) {d : SchemaDocument}
    (h : DocumentRun gen g roots w calls d w') (hcalls : ∀ s ∈ calls, Q s) (hp : P {} w) :
    ∃ named c, identified g roots = .ok named ∧ d = ⟨gen.config.version, c.components⟩ ∧
      c.Linked g w'.registry (fun ty => ty ∈ orderedRoots named) ∧
        (∀ id, c.Reaches id ↔ c.components.contains id) ∧ P c w' := by
  obtain ⟨named, _, c, known, rfl, rfl, ends, hlast⟩ := h.ends (inv.callInvariant roots) fun _ => hp
  exact ⟨named, c, known, rfl, ends.linked, ends.reaches, hlast hcalls⟩

/-- A document that a run builds is closed. -/
theorem DocumentRun.closed {d : SchemaDocument} (h : DocumentRun gen g roots w calls d w') :
    d.Closed := by
  have inv : RunInvariant gen g (fun _ => True) (fun _ _ => True) :=
    ⟨fun _ _ => trivial, fun _ _ _ _ _ _ _ => trivial, fun _ _ _ => trivial⟩
  obtain ⟨_, c, -, rfl, hlinked, hreach, -⟩ := h.linked inv (fun _ _ => trivial) trivial
  exact fun key schema hk id hm => (hreach id).1 (hlinked.mentioned key schema hk id hm)

end

/-- **Every component that a document mentions is one of its components.** -/
theorem generateDocument_closed {gen : Generator} {g : TypeGraph} {roots : List TypeId}
    {w w' : Workspace} {d : SchemaDocument} (h : generateDocument gen g roots w = .ok d w') :
    d.Closed := by
  obtain ⟨calls, hrun⟩ := generateDocument_ok_iff.1 h
  exact hrun.closed

/-- Two objects with a field of each other's type. -/
def TypeGraph.mutualObjects : TypeGraph := .ofTypes #[
  { identity := "A", name := "A", shape := .object { fields := [{ name := "b", type := ⟨1⟩ }] } },
  { identity := "B", name := "B", shape := .object { fields := [{ name := "a", type := ⟨0⟩ }] } }]

/-- With one expansion open at a time each of the two is cut off inside the other, so the second one
gets its component from the queue. -/
theorem generateDocument_closed_mutual :
    ∃ d w', generateDocument (.plain { maxDepth := 1 }) .mutualObjects [⟨0⟩] {} = .ok d w' ∧
      d.components.keys = ["A", "B"] ∧ d.Closed := by
  have hkeys :
      (Work.value? (generateDocument (.plain { maxDepth := 1 }) .mutualObjects [⟨0⟩]) {}).map
        (·.components.keys) = some ["A", "B"] := by cbv
  obtain ⟨d, hd, hkeys⟩ := Option.map_eq_some_iff.1 hkeys
  obtain ⟨w', hw⟩ := Work.value?_eq_some_iff.1 hd
  exact ⟨d, w', hw, hkeys, generateDocument_closed hw⟩

end TypeSchema
