import Mathlib.Data.Set.Insert
import Mathlib.Logic.Relation
import TypeSchema.Proofs.Generation.Actions
import TypeSchema.Proofs.Generation.Links

/-!
# Generation — which types are visited

What building a type goes on to does not depend on the depth: `gen.Enters g` leads from a wrapper to
the type inside, and from any other type that no override replaces to its parts.  A generation goes
down from its root along these steps, and turns back where a type is open, where an object has been
expanded, and where too many types are open.

`Traversal.Explored V` says that `V` are the types visited so far.  From each of them every step
leads to a type of `V` again, unless the type is still open, is an object, or is a collection that
was cut off for its depth; an object is noted instead, and once it is recorded every step from it
leads to a type of `V`, too (`nodeFor_explores`).
-/

namespace TypeSchema

variable {gen : Generator} {g : TypeGraph}

/-- Building the first type goes on to build the second. -/
def Generator.Enters (gen : Generator) (g : TypeGraph) (x y : TypeId) : Prop :=
  ∃ d, g.describe? x = some d ∧ (g.classify d.shape = .nullable y ∨
    ((g.classify d.shape).isOverridable → gen.overrides.lookup? [d.identity, d.name] = none) ∧
      ∃ field?, (y, field?) ∈ (g.classify d.shape).parts gen.config.memberThreshold?)

/-- For a known type, what it leads to is read off its description. -/
theorem Generator.enters_iff {x y : TypeId} {d : TypeDescriptor} (known : g.describe? x = some d) :
    gen.Enters g x y ↔ g.classify d.shape = .nullable y ∨
      ((g.classify d.shape).isOverridable →
        gen.overrides.lookup? [d.identity, d.name] = none) ∧
      ∃ field?, (y, field?) ∈ (g.classify d.shape).parts gen.config.memberThreshold? := by
  refine ⟨?_, fun h => ⟨d, known, h⟩⟩
  rintro ⟨d', known', h⟩
  obtain rfl : d' = d := Option.some.inj (known'.symm.trans known)
  exact h

/-- What a wrapper enters is the type inside. -/
theorem Generator.enters_wrapper_iff {x y inner : TypeId} {d : TypeDescriptor}
    (known : g.describe? x = some d) (cls : g.classify d.shape = .nullable inner) :
    gen.Enters g x y ↔ y = inner := by
  rw [enters_iff known, cls]
  refine ⟨?_, fun h => .inl (h ▸ rfl)⟩
  rintro (h | ⟨-, field?, hm⟩)
  · cases h
    rfl
  · cases hm

/-- Building the first type leads to the second, through any number of others. -/
abbrev Generator.LeadsTo (gen : Generator) (g : TypeGraph) : TypeId → TypeId → Prop :=
  Relation.ReflTransGen (gen.Enters g)

/-- The type is a sequence, a map or an entry of a map. -/
def TypeGraph.IsCollection (g : TypeGraph) (ty : TypeId) : Prop :=
  ∃ cls, g.HasClass ty cls ∧ cls.isCollection

/-- A collection has no members to expand. -/
theorem TypeGraph.IsCollection.not_expandsMembers {ty : TypeId} (h : g.IsCollection ty) :
    ¬ gen.ExpandsMembers g ty := by
  rintro ⟨d, o, known, cls, -⟩
  obtain ⟨cls', known', collection⟩ := h
  rw [known'.unique ⟨d, known, cls⟩] at collection
  cases collection

namespace Traversal

/-- The type is a collection that was cut off for its depth. -/
def CutsOff (g : TypeGraph) (t : Traversal) (ty : TypeId) : Prop :=
  g.IsCollection ty ∧ ∃ id, t.guard.placeholders.lookup (ty, .depth) = some id

/-- The types of `V` have been visited, and no others. -/
structure Explored (gen : Generator) (g : TypeGraph) (V : Set TypeId) (t : Traversal) : Prop where
  objects : ∀ i x, t.components.get? i = some x → x ∈ V ∧ gen.ExpandsMembers g x
  noted : ∀ x ∈ V, gen.ExpandsMembers g x → ∃ i, t.components.get? i = some x
  expanded : ∀ i x, t.identifiers.contains i → t.components.get? i = some x →
    ∀ y, gen.Enters g x y → y ∈ V
  others : ∀ x ∈ V, ¬ gen.ExpandsMembers g x →
    x ∈ t.guard.active ∨ (∀ y, gen.Enters g x y → y ∈ V) ∨ t.CutsOff g x
  cuts : ∀ x, t.CutsOff g x → x ∈ V

/-- At its beginning a traversal has visited nothing. -/
theorem explored_begin (w : Workspace) : (w.begin gen).Explored gen g ∅ := by
  refine ⟨fun i x h => ?_, fun x h => h.elim, fun i x h => ?_, fun x h => h.elim, fun x h => ?_⟩
  · simp [Workspace.begin, EmptyCollection.emptyCollection] at h
  · simp [Workspace.begin, SortedMap.contains, EmptyCollection.emptyCollection] at h
  · obtain ⟨-, id, hl⟩ := h
    simp [Workspace.begin, Guard.new] at hl

namespace Explored

variable {V : Set TypeId} {t t' : Traversal} {ty : TypeId}

/-- A change that concerns no visit. -/
theorem of_eq (h : t.Explored gen g V) (components : t'.components = t.components)
    (identifiers : t'.identifiers = t.identifiers) (guard : t'.guard = t.guard) :
    t'.Explored gen g V := by
  obtain ⟨h₁, h₂, h₃, h₄, h₅⟩ := h
  refine ⟨components ▸ h₁, components ▸ h₂, by rw [components, identifiers]; exact h₃, ?_, ?_⟩
  · simp only [CutsOff, guard]; exact h₄
  · simp only [CutsOff, guard]; exact h₅

/-- Decorating a node visits no type. -/
theorem decorated (h : t.Explored gen g V) {id id' : NodeId} (hd : Decorated t id t' id') :
    t'.Explored gen g V := by
  obtain ⟨-, _, hr⟩ := hd
  exact h.of_eq (by rw [hr]) (by rw [hr]) (by rw [hr])

/-- A type is visited that is no object, and is open or led from to types that have been visited. -/
theorem visit (h : t.Explored gen g V) (plain : ¬ gen.ExpandsMembers g ty)
    (other : ty ∈ t.guard.active ∨ ∀ y, gen.Enters g ty y → y ∈ V) :
    t.Explored gen g (insert ty V) := by
  refine ⟨fun i x hi => ⟨.inr (h.objects i x hi).1, (h.objects i x hi).2⟩, fun x hx members => ?_,
    fun i x hi hc y hy => .inr (h.expanded i x hi hc y hy), fun x hx hn => ?_,
    fun x hx => .inr (h.cuts x hx)⟩
  · rcases hx with rfl | hx
    · exact absurd members plain
    · exact h.noted x hx members
  · rcases hx with rfl | hx
    · exact other.imp_right fun follows => .inl fun y hy => .inr (follows y hy)
    · exact (h.others x hx hn).imp_right (Or.imp_left fun follows y hy => .inr (follows y hy))

/-- Opening a type visits none: what it leads to is due when it is closed. -/
theorem opened (h : t.Explored gen g V) (ty : TypeId) : (t.opened ty).Explored gen g V :=
  ⟨h.objects, h.noted, h.expanded, fun x hx hn =>
    (h.others x hx hn).imp_left (List.mem_cons_of_mem ty), h.cuts⟩

/-- A collection is visited and cut off. -/
theorem cutOff (h : t.Explored gen g V) (collection : g.IsCollection ty) {v : Visit}
    (same : v.type = ty) {reason : CutReason} (closed : t.guard.cutReason? ty = some reason) :
    (t.cut v reason).2.Explored gen g (insert ty V) := by
  have components : (t.cut v reason).2.components = t.components := by rw [cut_eq]
  have identifiers : (t.cut v reason).2.identifiers = t.identifiers := by rw [cut_eq]
  have active : (t.cut v reason).2.guard.active = t.guard.active := by rw [cut_eq]
  have kept : ∀ x, t.CutsOff g x → (t.cut v reason).2.CutsOff g x := by
    rintro x ⟨hx, id, hl⟩
    refine ⟨hx, ?_⟩
    rw [lookup_cut]
    split
    · exact ⟨_, rfl⟩
    · exact ⟨id, hl⟩
  refine ⟨fun i x hi => ?_, fun x hx members => ?_, fun i x hi hc y hy => ?_, fun x hx hn => ?_,
    fun x hx => ?_⟩
  · rw [components] at hi
    exact ⟨.inr (h.objects i x hi).1, (h.objects i x hi).2⟩
  · rw [components]
    rcases hx with rfl | hx
    · exact absurd members collection.not_expandsMembers
    · exact h.noted x hx members
  · rw [identifiers] at hi
    rw [components] at hc
    exact .inr (h.expanded i x hi hc y hy)
  · rw [active]
    rcases hx with rfl | hx
    · -- either the type is open or it is cut off for its depth
      cases reason with
      | cycle =>
        simp only [Guard.cutReason?, Guard.isExpanding, decide_eq_true_eq] at closed
        split at closed
        · next isOpen => exact .inl isOpen
        · split at closed <;> cases closed
      | depth =>
        refine .inr (.inr ⟨collection, (t.cut v .depth).1, ?_⟩)
        rw [lookup_cut, if_pos (by rw [same])]
    · exact (h.others x hx hn).imp_right
        (Or.imp (fun follows y hy => .inr (follows y hy)) (kept x))
  · obtain ⟨hx, id, hl⟩ := hx
    rw [lookup_cut] at hl
    split at hl
    · next e => exact .inl ((congrArg Prod.fst e).trans same)
    · exact .inr (h.cuts x ⟨hx, id, hl⟩)

/-- An object gets its identifier; it is noted, and is visited. -/
theorem claimed (h : t.Explored gen g V) (distinct : g.Distinct) (linked : t.Linked g)
    (coherent : t.registry.Coherent) (members : gen.ExpandsMembers g ty) {i : String} {r : Registry}
    {events : List DiagnosticEvent} (ha : t.registry.assign g ty = .ok (i, r, events)) :
    (t.claimed ty i r events).Explored gen g (insert ty V) := by
  have notedFor : ∀ {i' x}, (t.claimed ty i r events).components.get? i' = some x →
      t.components.get? i' = some x ∨ x = ty ∧ t.components.get? i' = none := by
    intro i' x hi
    simp only [Traversal.claimed, SortedMap.get?_insertNew] at hi
    split at hi
    · next e =>
      subst e
      cases hold : t.components.get? i' with
      | none => rw [hold] at hi; exact .inr ⟨(Option.some.inj hi).symm, rfl⟩
      | some x₀ => rw [hold] at hi; exact .inl hi
    · exact .inl hi
  refine ⟨fun i' x hi => ?_, fun x hx hm => ?_, fun i' x hi hc y hy => ?_, fun x hx hn => ?_,
    fun x hx => .inr (h.cuts x hx)⟩
  · rcases notedFor hi with hi | ⟨rfl, -⟩
    · exact ⟨.inr (h.objects i' x hi).1, (h.objects i' x hi).2⟩
    · exact ⟨.inl rfl, members⟩
  · rcases hx with rfl | hx
    · -- the identifier is noted for the type that holds it
      obtain ⟨x', hi⟩ := SortedMap.contains_iff.1 (Linked.contains_claimed t x i r events)
      have holds := (linked.claimed ha).held i x' hi
      exact ⟨i, (coherent.assign ha).type_eq distinct holds (Registry.assign_spec ha).2 ▸ hi⟩
    · obtain ⟨i', hi⟩ := h.noted x hx hm
      exact ⟨i', (Grows.claimed ha).components hi⟩
  · rcases notedFor hc with hc | ⟨rfl, missing⟩
    · exact .inr (h.expanded i' x hi hc y hy)
    · -- what is recorded was noted
      have contained := linked.expanded i' hi
      rw [SortedMap.contains, missing] at contained
      cases contained
  · rcases hx with rfl | hx
    · exact absurd members hn
    · exact (h.others x hx hn).imp_right (Or.imp_left fun follows y hy => .inr (follows y hy))

/-- An object that has been visited is cut off. -/
theorem cutObject (h : t.Explored gen g V) (members : gen.ExpandsMembers g ty) {v : Visit}
    (same : v.type = ty) (reason : CutReason) : (t.cut v reason).2.Explored gen g V := by
  have cutsOff : ∀ x, (t.cut v reason).2.CutsOff g x ↔ t.CutsOff g x := by
    refine fun x => and_congr_right fun collection => ?_
    rw [lookup_cut, if_neg]
    rintro e
    obtain rfl : x = ty := (congrArg Prod.fst e).trans same
    exact collection.not_expandsMembers members
  obtain ⟨h₁, h₂, h₃, h₄, h₅⟩ := h
  refine ⟨?_, ?_, ?_, fun x hx hn => ?_, fun x hx => h₅ x ((cutsOff x).1 hx)⟩
  · rw [cut_eq]; exact h₁
  · rw [cut_eq]; exact h₂
  · rw [cut_eq]; exact h₃
  · rw [cutsOff]
    rw [cut_eq]
    exact h₄ x hx hn

/-- A collection is closed when all its parts have been visited. -/
theorem closed (h : t.Explored gen g V) {rest : List TypeId} (active : t.guard.active = ty :: rest)
    (follows : gen.ExpandsMembers g ty ∨ ∀ y, gen.Enters g ty y → y ∈ V) :
    t.closed.Explored gen g V := by
  refine ⟨h.objects, h.noted, h.expanded, fun x hx hn => ?_, h.cuts⟩
  rcases h.others x hx hn with isOpen | other
  · rcases List.mem_cons.1 (active ▸ isOpen) with rfl | isOpen
    · exact .inr (.inl (follows.resolve_left hn))
    · exact .inl (by simpa [Traversal.closed, active] using isOpen)
  · exact .inr other

/-- An object is recorded when all its fields have been visited. -/
theorem recorded (h : t.Explored gen g V) {i : String} (node : NodeId)
    (follows : ∀ x, t.components.get? i = some x → ∀ y, gen.Enters g x y → y ∈ V) :
    (t.recorded i node).Explored gen g V := by
  refine ⟨h.objects, h.noted, fun i' x hi hc => ?_, h.others, h.cuts⟩
  simp only [Traversal.recorded, SortedMap.contains_insertNew, Bool.or_eq_true, beq_iff_eq] at hi
  rcases hi with rfl | hi
  · exact follows x hc
  · exact h.expanded i' x hi hc

end Explored

/-- Building the types `tys` explores them: each of them is visited, and what is visited more is
something that one of them leads to. -/
def Explores (gen : Generator) (g : TypeGraph) (tys : Set TypeId) (t t' : Traversal) : Prop :=
  ∀ V, t.Explored gen g V → ∃ V', V ⊆ V' ∧ tys ⊆ V' ∧ t'.Explored gen g V' ∧
    ∀ x ∈ V', x ∈ V ∨ ∃ ty ∈ tys, gen.LeadsTo g ty x

end Traversal

/-! ### Building -/

section

variable {levels : Nat} {ty : TypeId} {d : TypeDescriptor} {t t' : Traversal} {id : NodeId}

/-- A linked state whose registry is coherent. -/
structure Traversal.Sane (g : TypeGraph) (t : Traversal) : Prop where
  linked : t.Linked g
  coherent : t.registry.Coherent

/-- Building a type keeps a traversal sane. -/
theorem nodeFor_sane {field? : Option Field} (h : nodeFor gen g levels ty field? t = .ok id t')
    (ht : t.Sane g) : t'.Sane g :=
  ⟨nodeFor_linked h ht.linked, nodeFor_registry (fun h ha => h.assign ha) h ht.coherent⟩

theorem Traversal.Sane.of_eq (h : t.Sane g) (ha : t'.arena = t.arena)
    (hr : t'.registry = t.registry) (hc : t'.components = t.components)
    (hi : t'.identifiers = t.identifiers) : t'.Sane g :=
  ⟨h.linked.of_eq ha hr hc hi, hr ▸ h.coherent⟩

/-- Claiming an identifier keeps a traversal sane. -/
theorem Traversal.Sane.claimed (h : t.Sane g) {i : String} {r : Registry}
    {events : List DiagnosticEvent} (ha : t.registry.assign g ty = .ok (i, r, events)) :
    (t.claimed ty i r events).Sane g := ⟨h.linked.claimed ha, h.coherent.assign ha⟩

/-- The parts are explored one after the other. -/
theorem Visits.explores
    (step : ∀ ty field? t id t', nodeFor gen g levels ty field? t = .ok id t' → t.Sane g →
      t.Explores gen g {ty} t')
    {parts : List (TypeId × Option Field)} {ids : List NodeId}
    (h : Visits (nodeFor gen g levels) parts t ids t') (ht : t.Sane g) :
    t.Explores gen g {ty | ∃ field?, (ty, field?) ∈ parts} t' ∧ t'.Sane g := by
  induction h with
  | nil t =>
    refine ⟨fun V hV => ⟨V, Set.Subset.rfl, ?_, hV, fun x hx => .inl hx⟩, ht⟩
    rintro ty ⟨field?, hm⟩
    cases hm
  | @cons ty field? rest t t₁ t₂ id ids head tail ih =>
    obtain ⟨htail, hsane⟩ := ih (nodeFor_sane head ht)
    refine ⟨fun V hV => ?_, hsane⟩
    obtain ⟨V₁, sub₁, mem₁, hV₁, led₁⟩ := step _ _ _ _ _ head ht V hV
    obtain ⟨V₂, sub₂, mem₂, hV₂, led₂⟩ := htail V₁ hV₁
    refine ⟨V₂, sub₁.trans sub₂, ?_, hV₂, fun x hx => ?_⟩
    · rintro x ⟨field?', hm⟩
      rcases List.mem_cons.1 hm with e | hm
      · exact sub₂ (mem₁ (congrArg Prod.fst e))
      · exact mem₂ ⟨field?', hm⟩
    · rcases led₂ x hx with hx | ⟨y, ⟨field?', hm⟩, leads⟩
      · refine (led₁ x hx).imp_right ?_
        rintro ⟨y, rfl, leads⟩
        exact ⟨y, ⟨field?, List.mem_cons_self⟩, leads⟩
      · exact .inr ⟨y, ⟨field?', List.mem_cons_of_mem _ hm⟩, leads⟩

/-- A type is explored that is visited and leads no further. -/
theorem Traversal.Explores.of_visited
    (h : ∀ V, t.Explored gen g V → t'.Explored gen g (insert ty V)) : t.Explores gen g {ty} t' := by
  refine fun V hV => ⟨insert ty V, Set.subset_insert _ _, ?_, h V hV, fun x hx => ?_⟩
  · rintro x rfl
    exact Set.mem_insert _ _
  · rcases hx with rfl | hx
    · exact .inr ⟨x, rfl, .refl⟩
    · exact .inl hx

/-- A type is explored that is visited and leads to its parts. -/
theorem Traversal.Explores.of_parts {tys : Set TypeId} {t₀ t₁ : Traversal}
    (before : ∀ V, t.Explored gen g V → t₀.Explored gen g (insert ty V))
    (parts : t₀.Explores gen g tys t₁) (enters : ∀ y ∈ tys, gen.Enters g ty y)
    (after : ∀ V, tys ⊆ V → t₁.Explored gen g V → t'.Explored gen g V) :
    t.Explores gen g {ty} t' := by
  intro V hV
  obtain ⟨V', sub, mem, hV', led⟩ := parts _ (before V hV)
  refine ⟨V', (Set.subset_insert _ _).trans sub, ?_, after V' mem hV', fun x hx => ?_⟩
  · rintro x rfl
    exact sub (Set.mem_insert _ _)
  · rcases led x hx with (rfl | hx) | ⟨y, hy, leads⟩
    · exact .inr ⟨x, rfl, .refl⟩
    · exact .inl hx
    · exact .inr ⟨ty, rfl, .head (enters y hy) leads⟩

theorem Traversal.Explores.decorated {tys : Set TypeId} (h : t.Explores gen g tys t')
    {t'' : Traversal} {id id' : NodeId} (hd : Decorated t' id t'' id') :
    t.Explores gen g tys t'' := fun V hV =>
  have ⟨V', sub, mem, hV', led⟩ := h V hV
  ⟨V', sub, mem, hV'.decorated hd, led⟩

/-- A wrapper is explored with the type inside. -/
theorem Traversal.Explores.of_wrapped {inner : TypeId} (part : t.Explores gen g {inner} t')
    (notMembers : ¬ gen.ExpandsMembers g ty) (enters : ∀ y, gen.Enters g ty y ↔ y = inner) :
    t.Explores gen g {ty} t' := by
  intro V hV
  obtain ⟨V', sub, mem, hV', led⟩ := part V hV
  have follows : ∀ y, gen.Enters g ty y → y ∈ V' := fun y hy => mem ((enters y).1 hy)
  refine ⟨insert ty V', sub.trans (Set.subset_insert _ _), ?_,
    hV'.visit notMembers (.inr follows), fun x hx => ?_⟩
  · rintro x rfl
    exact Set.mem_insert _ _
  · rcases hx with rfl | hx
    · exact .inr ⟨x, rfl, .refl⟩
    · refine (led x hx).imp_right ?_
      rintro ⟨y, rfl, leads⟩
      exact ⟨ty, rfl, .head ((enters y).2 rfl) leads⟩

/-- An expansion explores its own type, given that building its parts explores theirs. -/
theorem Expansion.explores (distinct : g.Distinct) (known : g.describe? ty = some d)
    (cls : ∀ inner, g.classify d.shape ≠ .nullable inner)
    (plain : (g.classify d.shape).isOverridable →
      gen.overrides.lookup? [d.identity, d.name] = none)
    (h : Expansion gen g (nodeFor gen g levels) ty d (g.classify d.shape) t id t')
    (step : ∀ ty field? t id t', nodeFor gen g levels ty field? t = .ok id t' → t.Sane g →
      t.Explores gen g {ty} t') (ht : t.Sane g) : t.Explores gen g {ty} t' := by
  -- what the type enters are its parts
  have mem_parts : ∀ {y}, gen.Enters g ty y → ∃ field?,
      (y, field?) ∈ (g.classify d.shape).parts gen.config.memberThreshold? :=
    fun hy => (((Generator.enters_iff known).1 hy).resolve_left (cls _)).2
  have enters : ∀ y ∈ {y | ∃ field?,
      (y, field?) ∈ (g.classify d.shape).parts gen.config.memberThreshold?}, gen.Enters g ty y :=
    fun y hy => (Generator.enters_iff known).2 (.inr ⟨plain, hy⟩)
  have members : ∀ {o}, g.classify d.shape = .object (some o) → gen.ExpandsMembers g ty :=
    fun {o} object => ⟨d, o, known, object, plain (by rw [object]; rfl)⟩
  have hasClass : g.HasClass ty (g.classify d.shape) := ⟨d, known, rfl⟩
  generalize g.classify d.shape = c at *
  cases h with
  | @leaf _ _ n events node =>
    refine .of_visited fun V hV => ?_
    have leaf : c.parts gen.config.memberThreshold? = [] := by
      cases c with
      | object o? => cases o? <;> [rfl; cases node]
      | sequence _ | map _ | pair _ _ => cases node
      | _ => rfl
    have notMembers : ¬ gen.ExpandsMembers g ty := by
      rintro ⟨d', o, known', cls', -⟩
      rw [hasClass.unique ⟨d', known', cls'⟩] at node
      cases node
    have nowhere : ∀ y, gen.Enters g ty y → y ∈ V := fun y hy => by
      obtain ⟨field?, hm⟩ := mem_parts hy
      rw [leaf] at hm
      cases hm
    exact (hV.visit notMembers (.inr nowhere)).of_eq rfl rfl rfl
  | cut collection closed =>
    exact .of_visited fun V hV => hV.cutOff ⟨c, hasClass, collection⟩ rfl closed
  | @collection _ _ t₁ ids n opens parts node _ =>
    have collection : c.isCollection := by
      cases c <;> first | rfl | cases node
    have closedType : ¬ gen.ExpandsMembers g ty :=
      TypeGraph.IsCollection.not_expandsMembers ⟨c, hasClass, collection⟩
    have explored := (parts.explores step (ht.of_eq rfl rfl rfl rfl)).1
    have active : t₁.guard.active = ty :: t.guard.active := parts.returns.2.1
    refine .of_parts (fun V hV => (hV.opened ty).visit closedType (.inl List.mem_cons_self))
      explored enters fun V hm hV => ?_
    have pushed : (t₁.pushed n).Explored gen g V := hV.of_eq rfl rfl rfl
    exact pushed.closed active (.inr fun y hy => hm (mem_parts hy))
  | @reference o _ i r events target assigned _ =>
    refine .of_visited fun V hV => ?_
    have claimed := hV.claimed distinct ht.linked ht.coherent (members rfl) assigned
    exact claimed.of_eq rfl rfl rfl
  | cutObject assigned _ _ =>
    refine .of_visited fun V hV => ?_
    exact (hV.claimed distinct ht.linked ht.coherent (members rfl) assigned).cutObject (members rfl)
      rfl _
  | @object o _ t₁ i r events ids assigned _ _ parts _ =>
    have sane := ht.claimed assigned
    obtain ⟨explored, sane₁⟩ := parts.explores step (sane.of_eq rfl rfl rfl rfl)
    have active : t₁.guard.active = ty :: t.guard.active := parts.returns.2.1
    have holds : g.Holds t₁.registry ty i :=
      (Registry.assign_spec assigned).2.mono parts.returns.1.registry
    refine .of_parts (fun V hV => ?_) explored enters fun V hm hV => ?_
    · have claimed := hV.claimed distinct ht.linked ht.coherent (members rfl) assigned
      exact (claimed.opened ty).of_eq rfl rfl rfl
    · -- the identifier is noted for the type itself
      have pushed : (t₁.pushed (objectNode gen o i ids)).Explored gen g V := hV.of_eq rfl rfl rfl
      have recorded := pushed.recorded (i := i) ⟨t₁.arena.size⟩ fun x hx y hy => by
        obtain rfl := sane₁.coherent.type_eq distinct (sane₁.linked.held i x hx) holds
        exact hm (mem_parts hy)
      have added : ((((t₁.pushed (objectNode gen o i ids)).recorded i ⟨t₁.arena.size⟩)).pushed
          (objectNode gen o i ids)).Explored gen g V := recorded.of_eq rfl rfl rfl
      exact added.closed active (.inl (members rfl))

/-- A step explores its own type, given that the descent explores what it enters. -/
theorem Step.explores (distinct : g.Distinct) {field? : Option Field}
    (known : g.describe? ty = some d) (h : Step gen g (nodeFor gen g levels) ty field? d t id t')
    (step : ∀ ty field? t id t', nodeFor gen g levels ty field? t = .ok id t' → t.Sane g →
      t.Explores gen g {ty} t') (ht : t.Sane g) : t.Explores gen g {ty} t' := by
  cases h with
  | @wrapped inner _ t₁ _ _ _ cls part finish =>
    have notMembers : ¬ gen.ExpandsMembers g ty := by
      rw [Generator.expandsMembers_iff known, cls]
      rintro ⟨⟨o, object⟩, -⟩
      cases object
    have explored := step _ _ _ _ _ part ht
    exact (explored.of_wrapped notMembers fun y => Generator.enters_wrapper_iff known cls).decorated
      (wrapNull_decorated finish)
  | @overridden o _ _ _ lookup overridable finish =>
    refine .decorated ?_ (decorate_decorated finish)
    refine .of_visited fun V hV => ?_
    have notMembers : ¬ gen.ExpandsMembers g ty := by
      rw [Generator.expandsMembers_iff known, lookup]
      rintro ⟨-, plain⟩
      cases plain
    have nowhere : ∀ y, gen.Enters g ty y → y ∈ V := fun y hy => by
      rcases (Generator.enters_iff known).1 hy with h | ⟨plain, -⟩
      · rw [h] at overridable
        cases overridable
      · rw [plain overridable] at lookup
        cases lookup
    exact (hV.visit notMembers (.inr nowhere)).of_eq rfl rfl rfl
  | @expanded _ t₀ _ _ _ _ cls overrideless expansion finish =>
    refine .decorated ?_ (decorate_decorated finish)
    have plain := lookup?_of_overrideFor_none overrideless
    have looked := overrideFor_none overrideless
    have sane : t₀.Sane g := by
      rw [looked]
      exact ht.of_eq rfl rfl rfl rfl
    intro V hV
    refine expansion.explores distinct known cls plain step sane V ?_
    rw [looked]
    exact hV.of_eq rfl rfl rfl

/-- **A generation explores its type**: each step from a type that it visits leads to one that it
visits, but for what it cuts off. -/
theorem nodeFor_explores (distinct : g.Distinct) {field? : Option Field}
    (h : nodeFor gen g levels ty field? t = .ok id t') (ht : t.Sane g) :
    t.Explores gen g {ty} t' :=
  nodeFor_descent (P := fun ty _ t _ t' => t.Sane g → t.Explores gen g {ty} t')
    (fun _ step _ _ _ _ _ _ known hs => hs.explores distinct known step) levels ty field? t id t' h
    ht

end

end TypeSchema
