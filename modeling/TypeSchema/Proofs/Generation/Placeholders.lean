import Mathlib
import TypeSchema.Proofs.Generation.DepthBound
import TypeSchema.Proofs.Generation.Frame

/-!
# Generation — what placeholders stand for

A placeholder says why a type was cut off, but not which type it was: the guard keeps that, in a
table with one entry for each type and reason.  `Traversal.Listed` says of a state that this table
has one entry for each placeholder in the arena, so a placeholder stands for one type, and no two of
them for one type and one reason.

* `StandsIn`: what a placeholder is that stands for a type.
* `nodeFor_listed`: every state of a generation is listed.
* `generate_standsFor`: what the placeholders of a generated schema stand for.
-/

namespace TypeSchema

open Build

variable {gen : Generator} {g : TypeGraph}

/-- The placeholder stands for the type: it has its name, and points to its component if the type is
an object with members.  Any other type that is cut off is a collection, and its placeholder points
nowhere. -/
inductive StandsIn (g : TypeGraph) (r : Registry) (x : TypeId) : Placeholder → Prop where
  | object {d : TypeDescriptor} {o : ObjectShape} {i : String} {reason : CutReason}
      (known : g.describe? x = some d) (cls : g.classify d.shape = .object (some o))
      (holds : g.Holds r x i) : StandsIn g r x ⟨d.name, some i, reason⟩
  | collection {d : TypeDescriptor} {reason : CutReason} (known : g.describe? x = some d)
      (cls : (g.classify d.shape).isCollection) : StandsIn g r x ⟨d.name, none, reason⟩

theorem StandsIn.mono {r r' : Registry} {x : TypeId} {p : Placeholder} (h : StandsIn g r x p)
    (grows : r.Grows r') : StandsIn g r' x p := by
  cases h with
  | object known cls holds => exact .object known cls (holds.mono grows)
  | collection known cls => exact .collection known cls

namespace Traversal

/-- The table of the guard has one entry for each placeholder in the arena, under a type that it
stands for and its reason. -/
structure Listed (g : TypeGraph) (t : Traversal) : Prop where
  keys : (t.guard.placeholders.map (·.1)).Nodup
  nodes : (t.guard.placeholders.map (·.2)).Nodup
  cut : ∀ x reason j, ((x, reason), j) ∈ t.guard.placeholders →
    ∃ p, t.arena.IsCut j p ∧ p.reason = reason ∧ StandsIn g t.registry x p
  listed : ∀ j n p, t.arena.get? j = some n → n.kind = .placeholder p →
    ∃ x, ((x, p.reason), j) ∈ t.guard.placeholders

/-- A traversal begins without placeholders. -/
theorem listed_begin (g : TypeGraph) (w : Workspace) (gen : Generator) : (w.begin gen).Listed g :=
  ⟨List.nodup_nil, List.nodup_nil, fun x reason j h => (List.not_mem_nil h).elim,
    fun j n p h => by simp [Workspace.begin, Arena.get?] at h⟩

namespace Listed

variable {t t' : Traversal}

/-- The placeholders and the table stay, and identifiers are assigned. -/
theorem mono (h : t.Listed g) (arena : t'.arena = t.arena)
    (placeholders : t'.guard.placeholders = t.guard.placeholders)
    (grows : t.registry.Grows t'.registry) : t'.Listed g := by
  refine ⟨placeholders ▸ h.keys, placeholders ▸ h.nodes, ?_, ?_⟩
  · rw [placeholders, arena]
    intro x reason j mem
    obtain ⟨p, cut, hreason, stands⟩ := h.cut x reason j mem
    exact ⟨p, cut, hreason, stands.mono grows⟩
  · rw [placeholders, arena]
    exact h.listed

/-- A node is added that is no placeholder. -/
theorem pushed (h : t.Listed g) {n : SchemaNode} (other : ∀ p, n.kind ≠ .placeholder p) :
    (t.pushed n).Listed g := by
  refine ⟨h.keys, h.nodes, fun x reason j mem => ?_, fun j m p hm kind => ?_⟩
  · obtain ⟨p, cut, rest⟩ := h.cut x reason j mem
    exact ⟨p, Arena.keeps_push _ _ cut, rest⟩
  · have hm' : (t.arena.push n).2.get? j = some m := hm
    rw [Arena.get?_push] at hm'
    split at hm'
    · cases hm'
      exact absurd kind (other p)
    · exact h.listed j m p hm' kind

/-- A node made of others is no placeholder. -/
theorem pushed_madeOf (h : t.Listed g) {n : SchemaNode} {identifier? : Option String}
    {ids : List NodeId} (made : n.IsMadeOf identifier? ids) : (t.pushed n).Listed g := by
  obtain ⟨primitive, kind⟩ := made.primitive
  exact h.pushed fun p hp => by rw [kind] at hp; cases hp

/-- Decorating changes no placeholder and adds none. -/
theorem decorated (h : t.Listed g) {id id' : NodeId} (hd : Decorated t id t' id') :
    t'.Listed g := by
  have placeholders := congrArg Guard.placeholders hd.guard_eq
  refine ⟨placeholders ▸ h.keys, placeholders ▸ h.nodes, ?_, ?_⟩
  · rw [placeholders]
    intro x reason j mem
    obtain ⟨p, cut, hreason, stands⟩ := h.cut x reason j mem
    exact ⟨p, cut.dressed hd.dressed, hreason, stands.mono hd.grows.registry⟩
  · rw [placeholders]
    intro j n p hn kind
    have shared : n.isShared := by simp [SchemaNode.isShared, kind]
    exact h.listed j n p (Arena.get?_of_dressed_isShared hd.dressed hn shared) kind

/-- A placeholder is given out that stands for its type. -/
theorem afterCut (h : t.Listed g) {v : Visit} {reason : CutReason}
    (stands : StandsIn g t.registry v.type ⟨v.typeName, v.identifier?, reason⟩) :
    (t.cut v reason).2.Listed g := by
  unfold Traversal.cut Guard.placeholder
  cases hl : t.guard.placeholders.lookup (v.type, reason) with
  | some id => exact h.mono rfl rfl (.refl _)
  | none =>
    refine ⟨List.nodup_cons.2 ⟨fun mem => ?_, h.keys⟩,
      List.nodup_cons.2 ⟨fun mem => ?_, h.nodes⟩, fun x reason' j mem => ?_,
      fun j n p hn kind => ?_⟩
    · -- the type and the reason are in no earlier entry
      obtain ⟨e, he, key⟩ := List.mem_map.1 mem
      have other := List.lookup_eq_none_iff.1 hl e he
      simp [key] at other
    · -- the new node is in no earlier entry
      obtain ⟨⟨⟨x, reason'⟩, j⟩, he, hj⟩ := List.mem_map.1 mem
      obtain ⟨p, cut, -⟩ := h.cut x reason' j he
      have := Arena.lt_size_of_get? cut
      simp only at hj
      subst hj
      exact Nat.lt_irrefl _ this
    · rcases List.mem_cons.1 mem with e | mem
      · cases e
        exact ⟨⟨v.typeName, v.identifier?, reason⟩, t.arena.get?_push_self _, rfl, stands⟩
      · obtain ⟨p, cut, rest⟩ := h.cut x reason' j mem
        exact ⟨p, Arena.keeps_push _ _ cut, rest⟩
    · rw [Arena.get?_push] at hn
      split at hn
      · next last =>
        cases hn
        cases kind
        cases j
        cases last
        exact ⟨v.type, List.mem_cons_self⟩
      · obtain ⟨x, mem⟩ := h.listed j n p hn kind
        exact ⟨x, List.mem_cons_of_mem _ mem⟩

end Listed

end Traversal

/-! ### Building -/

section

variable {descend : Descent} {ty : TypeId} {d : TypeDescriptor} {t t' : Traversal} {id : NodeId}

/-- An expansion keeps the placeholders listed, given that building its parts does. -/
theorem Expansion.listed {cls : Classification} (known : g.describe? ty = some d)
    (hcls : g.classify d.shape = cls) (h : Expansion gen g descend ty d cls t id t')
    (step : descend.Relates fun t t' => t.Listed g → t'.Listed g) (ht : t.Listed g) :
    t'.Listed g := by
  have visits : ∀ {parts t t' ids}, Visits descend parts t ids t' → t.Listed g → t'.Listed g :=
    fun hv => hv.relate (R := fun t t' => t.Listed g → t'.Listed g) (fun _ h => h)
      (fun h₁ h₂ h => h₂ (h₁ h)) step
  have claimed : ∀ {i r events}, t.registry.assign g ty = .ok (i, r, events) →
      (t.claimed ty i r events).Listed g := fun ha =>
    ht.mono rfl rfl (Registry.assign_spec ha).1
  cases h with
  | @leaf _ _ n events node =>
    have reported : (t.reported events).Listed g := ht.mono rfl rfl (.refl _)
    exact reported.pushed_madeOf (SchemaNode.isMadeOf_leafNode? node)
  | cut collection _ => exact ht.afterCut (.collection known (hcls ▸ collection))
  | @collection _ _ t₁ _ n _ parts node _ =>
    have opened : (t.opened ty).Listed g := ht.mono rfl rfl (.refl _)
    have added := (visits parts opened).pushed_madeOf (SchemaNode.isMadeOf_collectionNode? node)
    exact added.mono rfl rfl (.refl _)
  | reference assigned _ => exact (claimed assigned).pushed fun p hp => by cases hp
  | cutObject assigned _ _ =>
    exact (claimed assigned).afterCut (.object known hcls (Registry.assign_spec assigned).2)
  | @object o _ t₁ i r events ids assigned _ _ parts _ =>
    have inside :
        (((t.claimed ty i r events).opened ty).reported (objectEvents gen d o)).Listed g :=
      (claimed assigned).mono rfl rfl (.refl _)
    have made := SchemaNode.isMadeOf_objectNode gen o i ids
    have component := (visits parts inside).pushed_madeOf made
    have recorded : ((t₁.pushed (objectNode gen o i ids)).recorded i ⟨t₁.arena.size⟩).Listed g :=
      component.mono rfl rfl (.refl _)
    exact (recorded.pushed_madeOf made).mono rfl rfl (.refl _)

/-- A step keeps the placeholders listed, given that the descent does. -/
theorem Step.listed {field? : Option Field} (known : g.describe? ty = some d)
    (h : Step gen g descend ty field? d t id t')
    (step : descend.Relates fun t t' => t.Listed g → t'.Listed g) (ht : t.Listed g) :
    t'.Listed g := by
  cases h with
  | wrapped _ part finish => exact (step _ _ _ _ _ part ht).decorated (wrapNull_decorated finish)
  | overridden _ _ finish =>
    exact (ht.pushed_madeOf (SchemaNode.isMadeOf_override _)).decorated
      (decorate_decorated finish)
  | @expanded _ t₀ _ _ _ _ _ plain expansion finish =>
    have looked : t₀.Listed g := by
      rw [overrideFor_none plain]
      exact ht.mono rfl rfl (.refl _)
    exact (expansion.listed known rfl step looked).decorated (decorate_decorated finish)

/-- **The table of the guard keeps up with the placeholders.** -/
theorem nodeFor_listed {levels : Nat} {field? : Option Field}
    (h : nodeFor gen g levels ty field? t = .ok id t') (ht : t.Listed g) : t'.Listed g :=
  nodeFor_induction (P := fun _ _ t _ t' => t.Listed g → t'.Listed g)
    (fun _ step _ _ _ _ _ _ known hs => hs.listed known step) levels ty field? t id t' h ht

end

/-! ### Generations -/

/-- In the generation of the schema of a type, the node is given out for the type `x` when that is
cut off for the reason. -/
def StandsFor (gen : Generator) (g : TypeGraph) (root : TypeId) (w : Workspace) (x : TypeId)
    (reason : CutReason) (j : NodeId) : Prop :=
  ∃ id t, nodeFor gen g (levelsFor g) root none (w.begin gen) = .ok id t ∧
    ((x, reason), j) ∈ t.guard.placeholders

/-- What is known of what the placeholders of a generated schema stand for, when the registry is
`r`. -/
structure GeneratedSchema.StandsOnce (g : TypeGraph) (r : Registry) (s : GeneratedSchema)
    (stands : TypeId → CutReason → NodeId → Prop) : Prop where
  /-- Each placeholder stands for some type, for its reason. -/
  exists_type : ∀ j n p, s.arena.get? j = some n → n.kind = .placeholder p →
    ∃ x, stands x p.reason j
  /-- What stands for a type is a placeholder with its name and its component. -/
  placeholder : ∀ x reason j, stands x reason j →
    ∃ p, s.arena.IsCut j p ∧ p.reason = reason ∧ StandsIn g r x p
  /-- No two placeholders stand for the same type and reason. -/
  node_eq : ∀ x reason j j', stands x reason j → stands x reason j' → j = j'
  /-- No placeholder stands for two types. -/
  type_eq : ∀ x x' reason reason' j, stands x reason j → stands x' reason' j → x = x'

theorem GeneratedSchema.StandsOnce.mono {r r' : Registry} {s : GeneratedSchema}
    {stands : TypeId → CutReason → NodeId → Prop} (h : s.StandsOnce g r stands)
    (grows : r.Grows r') : s.StandsOnce g r' stands := by
  refine ⟨h.exists_type, fun x reason j hx => ?_, h.node_eq, h.type_eq⟩
  obtain ⟨p, cut, hreason, standsIn⟩ := h.placeholder x reason j hx
  exact ⟨p, cut, hreason, standsIn.mono grows⟩

/-- **Each placeholder stands for one type, and no two of them for the same type and reason.** -/
theorem generate_standsFor {root : TypeId} {w w' : Workspace} {s : GeneratedSchema}
    (h : generate gen g root w = .ok s w') :
    s.StandsOnce g w'.registry (StandsFor gen g root w) := by
  obtain ⟨t, hn, hs, rfl⟩ := generate_ok h
  have listed := nodeFor_listed hn (Traversal.listed_begin g w gen)
  -- the run that gives the schema is the run that gives the table
  have table : ∀ {x reason j}, StandsFor gen g root w x reason j →
      ((x, reason), j) ∈ t.guard.placeholders := by
    rintro x reason j ⟨id, t', hn', mem⟩
    cases hn.symm.trans hn'
    exact mem
  rw [hs]
  refine ⟨fun j n p hj kind => ?_, fun x reason j hx => listed.cut x reason j (table hx),
    fun x reason j j' hx hx' => ?_, fun x x' reason reason' j hx hx' => ?_⟩
  · obtain ⟨x, mem⟩ := listed.listed j n p hj kind
    exact ⟨x, s.root, t, hn, mem⟩
  · exact congrArg Prod.snd (List.inj_on_of_nodup_map listed.keys (table hx) (table hx') rfl)
  · have same := List.inj_on_of_nodup_map listed.nodes (table hx) (table hx') rfl
    exact congrArg (·.1.1) same

end TypeSchema
