import Mathlib
import TypeSchema.Proofs.Generation.Actions
import TypeSchema.Proofs.Generation.Nodes
import TypeSchema.Proofs.Generation.Run

/-!
# Generation — an object is expanded once

When an object has been expanded its node is added twice: one is recorded as the component, the
other stands where the object was met, and takes the keywords.  Nowhere else is a node with the
object's identifier added: from then on the object is met with a reference to the recorded node, and
while it is being expanded it is open, so that nothing below it is expanded under its identifier.
That no other type is, either, is because identifiers are held by one type each.

`Traversal.Once` says so of a state, with what is known of the types that are open: they have not
been recorded.  `generate_once` says it of the schema that is generated.
-/

namespace TypeSchema

variable {gen : Generator} {g : TypeGraph}

theorem SchemaNode.SameBody.symm {n n' : SchemaNode} (h : n.SameBody n') : n'.SameBody n := by
  rw [SameBody, h]

theorem SchemaNode.SameBody.trans {n n' n'' : SchemaNode} (h : n.SameBody n')
    (h' : n'.SameBody n'') : n.SameBody n'' := by
  rw [SameBody, h', h]

/-! ### Twins -/

namespace Arena

/-- The nodes with the identifier `i` are `node` and `copy`, which differ at most in their keywords,
their examples and their flags for null. -/
structure Twins (a : Arena) (i : String) (node copy : NodeId) : Prop where
  ne : node ≠ copy
  same : ∃ n m, a.get? node = some n ∧ a.get? copy = some m ∧ n.SameBody m ∧
    ∃ p, n.kind = .primitive p
  only : ∀ id n, a.get? id = some n → (n.identifier? = some i ↔ id = node ∨ id = copy)

variable {a a' : Arena} {i : String} {node copy id id' : NodeId}

/-- A node with another identifier leaves the two nodes of an identifier. -/
theorem Twins.push (h : a.Twins i node copy) {l : SchemaNode} (other : l.identifier? ≠ some i) :
    (a.push l).2.Twins i node copy := by
  obtain ⟨ne, ⟨n, m, hn, hm, body, primitive⟩, only⟩ := h
  refine ⟨ne, ⟨n, m, keeps_push _ _ hn, keeps_push _ _ hm, body, primitive⟩, fun id l' hl => ?_⟩
  rw [get?_push] at hl
  split at hl
  · next last =>
    -- neither of the two is the node that is new
    cases hl
    refine iff_of_false other fun he => ?_
    have := lt_size_of_get? hn
    have := lt_size_of_get? hm
    rcases he with rfl | rfl <;> omega
  · exact only id l' hl

/-- So does a change that keeps identifiers and the bodies of primitive nodes. -/
theorem Twins.modify (h : a.Twins i node copy) {f : SchemaNode → SchemaNode} {target : NodeId}
    (identifier : ∀ n, (f n).identifier? = n.identifier?)
    (body : ∀ (n : SchemaNode) p, n.kind = .primitive p → n.SameBody (f n)) :
    (a.modify target f).Twins i node copy := by
  obtain ⟨ne, ⟨n, m, hn, hm, same, p, kind⟩, only⟩ := h
  have kind' : m.kind = .primitive p := by rw [same]; exact kind
  -- what has become of either of the two
  have changed : ∀ {id l}, a.get? id = some l → l.kind = .primitive p →
      ∃ l', (a.modify target f).get? id = some l' ∧ l.SameBody l' := by
    intro id l hl hkind
    by_cases e : id = target
    · subst e
      exact ⟨f l, by simp [get?_modify, hl], body l p hkind⟩
    · exact ⟨l, by rw [get?_modify, if_neg e, hl], rfl⟩
  obtain ⟨n', hn', same₁⟩ := changed hn kind
  obtain ⟨m', hm', same₂⟩ := changed hm kind'
  refine ⟨ne, ⟨n', m', hn', hm', (same₁.symm.trans same).trans same₂, p, by rw [same₁]; exact kind⟩,
    fun id l hl => ?_⟩
  rw [get?_modify] at hl
  split at hl
  · next e =>
    subst e
    obtain ⟨l₀, hl₀, rfl⟩ := Option.map_eq_some_iff.1 hl
    rw [identifier]
    exact only id l₀ hl₀
  · exact only id l hl

theorem identifier_addAlternative (n : SchemaNode) (id : NodeId) :
    (addAlternative n id).identifier? = n.identifier? := by
  unfold addAlternative
  split <;> rfl

/-- A primitive node has no alternatives to add to. -/
theorem sameBody_addAlternative {n : SchemaNode} {p : PrimitiveType} (kind : n.kind = .primitive p)
    (id : NodeId) : n.SameBody (addAlternative n id) := by
  simp only [addAlternative, kind]
  exact rfl

/-- The two nodes stay alike when either is dressed. -/
theorem Twins.dressed (hd : Dressed a id a' id') (h : a.Twins i node copy) :
    a'.Twins i node copy := by
  induction hd with
  | refl => exact h
  | more hd _ ih =>
    refine ih ?_
    cases hd with
    | mark _ body => exact h.modify (fun n => by rw [body n]) fun n _ _ => body n
    | wrap _ _ => exact h.push (by simp)
    | unite _ => exact (h.push (by simp)).push (by simp)
    | extend _ _ =>
      exact (h.push (by simp)).modify (fun n => identifier_addAlternative n _)
        fun n p kind => sameBody_addAlternative kind _

/-- A node that is added twice, with an identifier that is new. -/
theorem twins_push_push {n : SchemaNode} (kind : ∃ p, n.kind = .primitive p)
    (identifier : n.identifier? = some i)
    (fresh : ∀ id m, a.get? id = some m → m.identifier? ≠ some i) :
    ((a.push n).2.push n).2.Twins i ⟨a.size⟩ ⟨a.size + 1⟩ := by
  have first : ((a.push n).2.push n).2.get? ⟨a.size⟩ = some n :=
    keeps_push _ _ (a.get?_push_self n)
  have second : ((a.push n).2.push n).2.get? ⟨a.size + 1⟩ = some n := a.get?_push_push_self n n
  refine ⟨by simp, ⟨n, n, first, second, rfl, kind⟩, fun id m hm => ?_⟩
  rw [get?_push, get?_push, size_push] at hm
  obtain ⟨index⟩ := id
  simp only [NodeId.mk.injEq]
  split at hm
  · next last => cases hm; exact iff_of_true identifier (.inr last)
  · next notLast =>
    split at hm
    · next last => cases hm; exact iff_of_true identifier (.inl last)
    · next notFirst => exact iff_of_false (fresh _ m hm) (not_or.2 ⟨notFirst, notLast⟩)

end Arena

/-! ### States -/

namespace SchemaNode

/-- The node expands a recorded component, if any. -/
def IsRecorded (identifiers : SortedMap NodeId) (n : SchemaNode) : Prop :=
  ∀ i, n.identifier? = some i → identifiers.contains i

/-- The node refers to a recorded component, if to anything. -/
def RefersTo (identifiers : SortedMap NodeId) (n : SchemaNode) : Prop :=
  ∀ r, n.kind = .reference r → identifiers.get? r.identifier = some r.target

/-- A recorded object is still recorded when it is decorated. -/
theorem decorable_isRecorded (identifiers : SortedMap NodeId) :
    Decorable (IsRecorded identifiers) where
  mark n n' h hn := by rw [h]; exact hn
  wrap _ _ i hi := by cases hi
  null i hi := by cases hi
  union _ _ i hi := by cases hi
  extend n id hn i hi := hn i (Arena.identifier_addAlternative n id ▸ hi)

/-- A reference still refers to the recorded node when it is decorated. -/
theorem decorable_refersTo (identifiers : SortedMap NodeId) :
    Decorable (RefersTo identifiers) where
  mark n n' h hn := by rw [h]; exact hn
  wrap _ _ r hr := by cases hr
  null r hr := by cases hr
  union _ _ r hr := by cases hr
  extend n id hn r hr := by
    unfold Arena.addAlternative at hr
    split at hr
    · cases hr
    · cases hr
    · exact hn r hr

end SchemaNode

namespace Traversal

/-- Every recorded component has its two nodes, and no other node names or refers to one; objects
that are open have not been recorded. -/
structure Once (g : TypeGraph) (t : Traversal) : Prop where
  coherent : t.registry.Coherent
  opened : ∀ ty ∈ t.guard.active, ∀ o, g.HasClass ty (.object (some o)) →
    ∃ i, g.Holds t.registry ty i ∧ t.identifiers.get? i = none
  recorded : t.arena.All (SchemaNode.IsRecorded t.identifiers)
  referred : t.arena.All (SchemaNode.RefersTo t.identifiers)
  twins : ∀ i node, t.identifiers.get? i = some node → ∃ copy, t.arena.Twins i node copy

/-- A traversal begins with nothing recorded. -/
theorem once_begin (g : TypeGraph) {w : Workspace} (coherent : w.registry.Coherent)
    (gen : Generator) : (w.begin gen).Once g := by
  refine ⟨coherent, fun ty hty => (List.not_mem_nil hty).elim, fun id n h => ?_, fun id n h => ?_,
    fun i node h => ?_⟩
  · simp [Workspace.begin, Arena.get?] at h
  · simp [Workspace.begin, Arena.get?] at h
  · simp [Workspace.begin, EmptyCollection.emptyCollection] at h

namespace Once

variable {t t' : Traversal} {ty : TypeId} {i : String}

/-- Types get their identifiers, and types are closed. -/
theorem mono (h : t.Once g) (arena : t'.arena = t.arena)
    (identifiers : t'.identifiers = t.identifiers) (grows : t.registry.Grows t'.registry)
    (coherent : t'.registry.Coherent) (active : t'.guard.active ⊆ t.guard.active) : t'.Once g := by
  refine ⟨coherent, fun ty hty o known => ?_, by rw [arena, identifiers]; exact h.recorded,
    by rw [arena, identifiers]; exact h.referred, by rw [arena, identifiers]; exact h.twins⟩
  obtain ⟨i, holds, fresh⟩ := h.opened ty (active hty) o known
  exact ⟨i, holds.mono grows, identifiers ▸ fresh⟩

/-- The reports change. -/
theorem aside (h : t.Once g) (arena : t'.arena = t.arena)
    (identifiers : t'.identifiers = t.identifiers) (registry : t'.registry = t.registry)
    (active : t'.guard.active ⊆ t.guard.active) : t'.Once g :=
  h.mono arena identifiers (registry ▸ .refl _) (registry ▸ h.coherent) active

/-- Claiming an identifier records nothing yet. -/
theorem claimed (h : t.Once g) {r : Registry} {events : List DiagnosticEvent}
    (ha : t.registry.assign g ty = .ok (i, r, events)) : (t.claimed ty i r events).Once g :=
  h.mono rfl rfl (Registry.assign_spec ha).1 (h.coherent.assign ha) (List.Subset.refl _)

/-- A type is opened that is no object, or one that has not been recorded. -/
theorem open_ (h : t.Once g) (fresh : ∀ o, g.HasClass ty (.object (some o)) →
    ∃ i, g.Holds t.registry ty i ∧ t.identifiers.get? i = none) : (t.opened ty).Once g := by
  refine ⟨h.coherent, fun ty' hty o known => ?_, h.recorded, h.referred, h.twins⟩
  rcases List.mem_cons.1 (show ty' ∈ ty :: t.guard.active from hty) with rfl | hty
  · exact fresh o known
  · exact h.opened ty' hty o known

/-- An object is opened that has not been recorded, and it may be reported that it loses fields. -/
theorem inside (h : t.Once g) {r : Registry} {events : List DiagnosticEvent}
    (ha : t.registry.assign g ty = .ok (i, r, events)) (fresh : t.identifiers.get? i = none)
    (losses : List DiagnosticEvent) :
    (((t.claimed ty i r events).opened ty).reported losses).Once g :=
  ((h.claimed ha).open_ fun _ _ => ⟨i, (Registry.assign_spec ha).2, fresh⟩).aside rfl rfl rfl
    (List.Subset.refl _)

/-- An object that is open is not recorded. -/
theorem fresh_of_open (h : t.Once g) (isOpen : ty ∈ t.guard.active) {o : ObjectShape}
    (known : g.HasClass ty (.object (some o))) (holds : g.Holds t.registry ty i) :
    t.identifiers.get? i = none := by
  obtain ⟨i', holds', fresh⟩ := h.opened ty isOpen o known
  exact holds.id_eq holds' ▸ fresh

/-- A node is added that names no component, and refers to a recorded one at most. -/
theorem pushed (h : t.Once g) {n : SchemaNode} (unnamed : n.identifier? = none)
    (refers : n.RefersTo t.identifiers) : (t.pushed n).Once g := by
  refine ⟨h.coherent, h.opened, h.recorded.push fun i hi => ?_, h.referred.push refers,
    fun i node hi => ?_⟩
  · rw [unnamed] at hi; cases hi
  · obtain ⟨copy, twins⟩ := h.twins i node hi
    exact ⟨copy, twins.push (by simp [unnamed])⟩

/-- A node without identifier is no object that is to be recorded. -/
theorem pushed_madeOf (h : t.Once g) {n : SchemaNode} {ids : List NodeId}
    (made : n.IsMadeOf none ids) : (t.pushed n).Once g := by
  obtain ⟨p, kind⟩ := made.primitive
  exact h.pushed made.identifier fun r hr => by rw [kind] at hr; cases hr

/-- A placeholder is no object that is to be recorded. -/
theorem cut (h : t.Once g) (v : Visit) (reason : CutReason) : (t.cut v reason).2.Once g := by
  unfold Traversal.cut Guard.placeholder
  cases t.guard.placeholders.lookup (v.type, reason) with
  | some id => exact h.aside rfl rfl rfl (List.Subset.refl _)
  | none =>
    have added : (t.pushed { kind := .placeholder ⟨v.typeName, v.identifier?, reason⟩ }).Once g :=
      h.pushed rfl fun r hr => by cases hr
    exact added.aside rfl rfl rfl (List.Subset.refl _)

/-- Decoration keeps what is recorded once recorded once. -/
theorem decorated (h : t.Once g) {id id' : NodeId} (hd : Decorated t id t' id') : t'.Once g := by
  obtain ⟨hdress, events, ht⟩ := hd
  have recorded := h.recorded.dressed (SchemaNode.decorable_isRecorded _) hdress
  have referred := h.referred.dressed (SchemaNode.decorable_refersTo _) hdress
  have twins : ∀ i node, t.identifiers.get? i = some node → ∃ copy, t'.arena.Twins i node copy :=
    fun i node hi => (h.twins i node hi).imp fun _ twins => twins.dressed hdress
  rw [ht] at recorded referred twins ⊢
  exact ⟨h.coherent, h.opened, recorded, referred, twins⟩

/-- The innermost open type is an object; its node is recorded, added once more, and the type is
closed. -/
theorem expanded (h : t.Once g) (distinct : g.Distinct) (holds : g.Holds t.registry ty i)
    {rest : List TypeId} (active : t.guard.active = ty :: rest) (closed : ty ∉ rest)
    (fresh : t.identifiers.get? i = none) {n : SchemaNode} {ids : List NodeId}
    (made : n.IsMadeOf (some i) ids) :
    ((((t.pushed n).recorded i ⟨t.arena.size⟩).pushed n).closed).Once g := by
  have grows := (Traversal.Grows.recorded t i ⟨t.arena.size⟩).identifiers
  have record : ∀ {i' : String}, t.identifiers.contains i' ∨ i' = i →
      (t.identifiers.insertNew i ⟨t.arena.size⟩).contains i' := by
    rintro i' (hi | rfl) <;> simp_all [SortedMap.contains_insertNew]
  obtain ⟨p, kind⟩ := made.primitive
  have recorded : n.IsRecorded (t.identifiers.insertNew i ⟨t.arena.size⟩) := fun i' hi =>
    record (.inr (Option.some.inj (hi.symm.trans made.identifier)))
  have referred : n.RefersTo (t.identifiers.insertNew i ⟨t.arena.size⟩) := fun r hr => by
    rw [kind] at hr; cases hr
  refine ⟨h.coherent, fun ty' hty o known => ?_, ?_, ?_, fun i' node hi => ?_⟩
  · -- no other type holds the identifier
    have mem : ty' ∈ rest := by simpa [Traversal.closed, Traversal.pushed, Traversal.recorded,
      active] using hty
    obtain ⟨i', holds', fresh'⟩ := h.opened ty' (active ▸ List.mem_cons_of_mem _ mem) o known
    refine ⟨i', holds', ?_⟩
    have other : i' ≠ i := by
      rintro rfl
      exact closed (h.coherent.type_eq distinct holds holds' ▸ mem)
    simp only [Traversal.closed, Traversal.pushed, Traversal.recorded, SortedMap.get?_insertNew,
      if_neg other, fresh']
  · exact (((h.recorded.imp fun m hm i' hi => record (.inl (hm i' hi))).push recorded).push
      recorded)
  · exact ((h.referred.imp fun m hm r hr => grows (hm r hr)).push referred).push referred
  · have hi' : (t.identifiers.insertNew i ⟨t.arena.size⟩).get? i' = some node := hi
    rw [SortedMap.get?_insertNew] at hi'
    split at hi'
    · next e =>
      subst e
      rw [fresh] at hi'
      cases hi'
      refine ⟨_, Arena.twins_push_push ⟨p, kind⟩ made.identifier fun id m hm hi => ?_⟩
      have contained := h.recorded id m hm i' hi
      rw [SortedMap.contains, fresh] at contained
      cases contained
    · next other =>
      obtain ⟨copy, twins⟩ := h.twins i' node hi'
      have unlike : n.identifier? ≠ some i' := fun e =>
        other (Option.some.inj (e.symm.trans made.identifier))
      exact ⟨copy, (twins.push unlike).push unlike⟩

end Once

end Traversal

/-! ### Building -/

section

variable {descend : Descent} {ty : TypeId} {d : TypeDescriptor} {t t' : Traversal} {id : NodeId}

/-- An expansion records its object if it is not recorded, given that building its parts does. -/
theorem Expansion.once (distinct : g.Distinct) {cls : Classification} (known : g.HasClass ty cls)
    (h : Expansion gen g descend ty d cls t id t') (returns : descend.Relates Traversal.Returns)
    (step : descend.Relates fun t t' => t.Once g → t'.Once g) (ht : t.Once g) : t'.Once g := by
  have visits : ∀ {parts t t' ids}, Visits descend parts t ids t' → t.Once g → t'.Once g :=
    fun hv => hv.relate (R := fun t t' => t.Once g → t'.Once g) (fun _ h => h)
      (fun h₁ h₂ h => h₂ (h₁ h)) step
  cases h with
  | @leaf _ _ n events node =>
    have reported : (t.reported events).Once g := ht.aside rfl rfl rfl (List.Subset.refl _)
    exact reported.pushed_madeOf (SchemaNode.isMadeOf_leafNode? node)
  | cut _ _ => exact ht.cut _ _
  | @collection _ _ t₁ _ n _ parts node _ =>
    have inside : (t.opened ty).Once g := ht.open_ fun o object => by
      rw [known.unique object] at node
      cases node
    have added := (visits parts inside).pushed_madeOf (SchemaNode.isMadeOf_collectionNode? node)
    exact added.aside rfl rfl rfl (List.tail_sublist _).subset
  | reference assigned expanded =>
    refine (ht.claimed assigned).pushed rfl fun r hr => ?_
    cases hr
    exact expanded
  | cutObject assigned _ _ => exact (ht.claimed assigned).cut _ _
  | @object o _ t₁ i r events ids assigned fresh opens parts _ =>
    have hret := parts.relate .refl .trans returns
    have active : t₁.guard.active = ty :: t.guard.active := hret.2.1
    have once := visits parts (ht.inside assigned fresh _)
    have holds : g.Holds t₁.registry ty i :=
      (Registry.assign_spec assigned).2.mono hret.1.registry
    have closed : ty ∉ t.guard.active := by
      intro isOpen
      simp [Guard.cutReason?, Guard.isExpanding, isOpen] at opens
    exact once.expanded distinct holds active closed
      (once.fresh_of_open (by simp [active]) known holds)
      (SchemaNode.isMadeOf_objectNode gen o i ids)

/-- A step keeps all objects recorded once, given that the descent does. -/
theorem Step.once (distinct : g.Distinct) {field? : Option Field} (known : g.describe? ty = some d)
    (h : Step gen g descend ty field? d t id t') (returns : descend.Relates Traversal.Returns)
    (step : descend.Relates fun t t' => t.Once g → t'.Once g) (ht : t.Once g) : t'.Once g := by
  cases h with
  | wrapped _ part finish => exact (step _ _ _ _ _ part ht).decorated (wrapNull_decorated finish)
  | overridden _ _ finish =>
    exact (ht.pushed_madeOf (SchemaNode.isMadeOf_override _)).decorated
      (decorate_decorated finish)
  | @expanded _ t₀ _ _ _ _ _ plain expansion finish =>
    have looked : t₀.Once g := by
      rw [overrideFor_none plain]
      exact ht.aside rfl rfl rfl (List.Subset.refl _)
    exact (expansion.once distinct ⟨d, known, rfl⟩ returns step looked).decorated
      (decorate_decorated finish)

end

/-- In every state of a generation each object has been expanded at most once. -/
theorem nodeFor_once (distinct : g.Distinct) {levels : Nat} {ty : TypeId} {field? : Option Field}
    {t t' : Traversal} {id : NodeId} (h : nodeFor gen g levels ty field? t = .ok id t')
    (ht : t.Once g) : t'.Once g :=
  nodeFor_descent (P := fun _ _ t _ t' => t.Once g → t'.Once g)
    (fun _ step _ _ _ _ _ _ known hs => hs.once distinct known
      (fun _ _ _ _ _ h => nodeFor_returns h) step) levels ty field? t id t' h ht

/-! ### Generations -/

/-- What is known of the components in a generated schema, when the registry is `r`: a recorded one
is noted with the type that holds its identifier, and two nodes have that identifier, the recorded
one and one more that differs at most in keywords, example and flag for null; no other node has an
identifier, and references lead to recorded components. -/
structure GeneratedSchema.ExpandsOnce (g : TypeGraph) (r : Registry) (s : GeneratedSchema) :
    Prop where
  noted : ∀ i node, s.identifiers.get? i = some node →
    ∃ ty, s.components.get? i = some ty ∧ g.Holds r ty i
  twins : ∀ i node, s.identifiers.get? i = some node → ∃ copy n m, node ≠ copy ∧
    s.arena.get? node = some n ∧ s.arena.get? copy = some m ∧ n.SameBody m ∧
      ∀ id l, s.arena.get? id = some l → (l.identifier? = some i ↔ id = node ∨ id = copy)
  recorded : ∀ id n i, s.arena.get? id = some n → n.identifier? = some i →
    s.identifiers.contains i
  referred : ∀ id n r, s.arena.get? id = some n → n.kind = .reference r →
    s.identifiers.get? r.identifier = some r.target

/-- **Every object is expanded at most once in a generation.** -/
theorem generate_once (distinct : g.Distinct) {root : TypeId} {w w' : Workspace}
    (reachable : w.registry.Reachable) {s : GeneratedSchema}
    (h : generate gen g root w = .ok s w') : s.ExpandsOnce g w'.registry := by
  obtain ⟨-, linked⟩ := generate_linked h
  obtain ⟨t, hn, hs, -⟩ := generate_ok h
  have once := nodeFor_once distinct hn (Traversal.once_begin g reachable.coherent gen)
  refine ⟨fun i node hi => ?_, fun i node hi => ?_, fun id n i hn hi => ?_, fun id n r hn hr => ?_⟩
  · obtain ⟨ty, hty⟩ := SortedMap.contains_iff.1
      (linked.expanded i (SortedMap.contains_iff.2 ⟨node, hi⟩))
    exact ⟨ty, hty, linked.held i ty hty⟩
  · rw [hs] at hi ⊢
    obtain ⟨copy, ne, ⟨n, m, hn, hm, body, -⟩, only⟩ := once.twins i node hi
    exact ⟨copy, n, m, ne, hn, hm, body, only⟩
  · rw [hs] at hn ⊢
    exact once.recorded id n hn i hi
  · rw [hs] at hn ⊢
    exact once.referred id n hn r hr

/-- An object with two fields of one other object. -/
def TypeGraph.sharedObject : TypeGraph := .ofTypes #[
  { identity := "A", name := "A", shape := .object {
      fields := [{ name := "x", type := ⟨1⟩ }, { name := "y", type := ⟨1⟩ }] } },
  { identity := "B", name := "B", shape := .object {} }]

/-- The second field refers to the component that the first one expands. -/
theorem generate_once_shared :
    ∃ s w' n target, generate (.plain {}) .sharedObject ⟨0⟩ {} = .ok s w' ∧
      s.arena.get? ⟨2⟩ = some n ∧ n.kind = .reference ⟨"B", "B", target⟩ ∧
      s.identifiers.get? "B" = some target ∧ s.ExpandsOnce .sharedObject w'.registry := by
  have computed : Work.value? (do
      let s ← generate (.plain {}) .sharedObject ⟨0⟩
      return ((s.arena.get? ⟨2⟩).map (·.kind), (← get).registry.lookup? "B")) {} =
      some (some (.reference ⟨"B", "B", ⟨0⟩⟩), some "B") := by cbv
  obtain ⟨s, w', hs, hread⟩ := Work.ok_of_reading computed
  obtain ⟨n, hn, kind⟩ := Option.map_eq_some_iff.1 (Prod.mk.inj hread).1
  have once := generate_once (.ofTypes (by decide)) .empty hs
  exact ⟨s, w', n, _, hs, hn, kind, once.referred _ n _ hn kind, once⟩

end TypeSchema
