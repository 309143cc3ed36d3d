import TypeSchema.Proofs.Generation.Growth
import TypeSchema.Proofs.Schema.Mentions

/-!
# Generation — what a node points to is noted

References and placeholders point to components by identifier.  In every state of a generation each
component that a node points to is noted with its type, and the type holds the identifier
(`Traversal.Linked`).  A placeholder is made, and a reference is added, only after `assign` has
given the identifier and the component was noted; decorating a node never makes it point anywhere.

At the end of a generation every component that a rendered node mentions is therefore noted, be it
expanded or not, and its type holds the identifier (`generate_linked`).
-/

namespace TypeSchema

/-! ### Nodes of types without parts -/

namespace SchemaNode

/-- The node has a primitive type, literals of this type, and no parts. -/
def IsPartless (n : SchemaNode) : Prop :=
  ∃ p format? literals truncation?,
    n = { ofPrimitive p format? with enumValues := literals, truncation? } ∧
    ∀ v ∈ literals, (p = .string ∧ ∃ s, v = .string s) ∨ (p = .integer ∧ ∃ i, v = .int i)

theorem isPartless_ofPrimitive (p : PrimitiveType) (format? : Option String) :
    (ofPrimitive p format?).IsPartless := ⟨p, format?, [], none, rfl, fun v hv => by cases hv⟩

theorem isPartless_scalar (kind : ScalarKind) : kind.node.IsPartless := by
  unfold ScalarKind.node
  split <;> exact isPartless_ofPrimitive _ _

/-- An encoded enumeration has no parts. -/
theorem isPartless_encode (enc : EnumEncoding) (typeName : String) (e : Enumeration) :
    (enc.encode typeName e).1.IsPartless := by
  have text : ∀ (f : EnumMember → String) v, v ∈ e.members.map (fun m => Json.string (f m)) →
      ∃ s, v = .string s := by
    intro f v hv
    obtain ⟨m, -, rfl⟩ := List.mem_map.1 hv
    exact ⟨f m, rfl⟩
  have complete : (enc.complete typeName e).1.IsPartless := by
    unfold EnumEncoding.complete
    split
    · exact ⟨.string, none, _, none, rfl, fun v hv => .inl ⟨rfl, text _ v hv⟩⟩
    · simp only
      split
      · exact ⟨.string, none, _, none, rfl, fun v hv => .inl ⟨rfl, text _ v hv⟩⟩
      · refine ⟨.integer, _, _, none, rfl, fun v hv => .inr ⟨rfl, ?_⟩⟩
        obtain ⟨m, -, rfl⟩ := List.mem_map.1 hv
        exact ⟨m.value, rfl⟩
  obtain ⟨p, format?, literals, truncation?, node, typed⟩ := complete
  simp only [EnumEncoding.encode, EnumEncoding.truncate]
  split
  · refine ⟨p, format?, literals.take enc.threshold, _, by rw [node], fun v hv => ?_⟩
    exact typed v (List.mem_of_mem_take hv)
  · exact ⟨p, format?, literals, truncation?, node, typed⟩

/-- A leaf node has no parts. -/
theorem isPartless_leafNode? {gen : Generator} {d : TypeDescriptor} {cls : Classification}
    {n : SchemaNode} {events : List DiagnosticEvent} (h : leafNode? gen d cls = some (n, events)) :
    n.IsPartless := by
  cases cls with
  | scalar kind => cases h; exact isPartless_scalar kind
  | bytes => cases h; exact isPartless_ofPrimitive _ _
  | enumeration e =>
    simp only [leafNode?, Option.some.injEq] at h
    have encoded := isPartless_encode gen.config.enumEncoding d.name e
    rwa [h] at encoded
  | object o? =>
    cases o? with
    | none => cases h; exact isPartless_ofPrimitive _ _
    | some o => cases h
  | nullable _ | sequence _ | map _ | pair _ _ => cases h

end SchemaNode

/-! ### Nodes that point nowhere -/

namespace SchemaNode

/-- The node has a primitive type, and its literals are no arrays and no objects. -/
def IsPlain (n : SchemaNode) : Prop := (∃ p, n.kind = .primitive p) ∧ n.AtomicLiterals

/-- A plain node points to no component. -/
theorem IsPlain.not_pointsTo {n : SchemaNode} (h : n.IsPlain) (id : String) : ¬ n.PointsTo id := by
  obtain ⟨⟨p, hp⟩, -⟩ := h
  rintro (⟨r, hr, -⟩ | ⟨p', hp', -⟩)
  · rw [hp] at hr; cases hr
  · rw [hp] at hp'; cases hp'

theorem isPlain_ofPrimitive (p : PrimitiveType) (format? : Option String) :
    (SchemaNode.ofPrimitive p format?).IsPlain := ⟨⟨p, rfl⟩, by simp [AtomicLiterals, ofPrimitive]⟩

/-- Fields keep a node plain. -/
theorem isPlain_withFields {n : SchemaNode} (h : n.IsPlain) (fields : List (Field × NodeId)) :
    (n.withFields fields).IsPlain := by
  induction fields generalizing n with
  | nil => exact h
  | cons f rest ih => exact ih ⟨h.1, h.2⟩

theorem isPlain_leafNode? {gen : Generator} {d : TypeDescriptor} {cls : Classification}
    {n : SchemaNode} {events : List DiagnosticEvent} (h : leafNode? gen d cls = some (n, events)) :
    n.IsPlain := by
  obtain ⟨p, _, _, _, rfl, typed⟩ := isPartless_leafNode? h
  refine ⟨⟨p, rfl⟩, fun v hv => ?_⟩
  rcases typed v hv with ⟨-, s, rfl⟩ | ⟨-, i, rfl⟩ <;> trivial

theorem isPlain_collectionNode? {cls : Classification} {ids : List NodeId} {n : SchemaNode}
    (h : cls.collectionNode? ids = some n) : n.IsPlain := by
  unfold Classification.collectionNode? at h
  split at h <;> cases h <;> exact ⟨⟨_, rfl⟩, by simp [AtomicLiterals, ofPrimitive]⟩

theorem isPlain_objectNode (gen : Generator) (o : ObjectShape) (identifier : String)
    (ids : List NodeId) : (objectNode gen o identifier ids).IsPlain :=
  isPlain_withFields (isPlain_ofPrimitive _ _) _

/-- The node of an override is plain. -/
theorem isPlain_override (o : ScalarOverride) : o.node.IsPlain := isPlain_ofPrimitive _ _

/-! ### Decorating -/

theorem decorable_atomicLiterals : Decorable AtomicLiterals where
  mark n n' h hn := by rw [h]; exact hn
  wrap _ _ := by simp [AtomicLiterals]
  null := by simp [AtomicLiterals]
  union _ _ := by simp [AtomicLiterals]
  extend n id hn := by
    unfold Arena.addAlternative
    split <;> exact hn

/-- Decoration makes no node point to another component. -/
theorem decorable_pointsTo (C : String → Prop) : Decorable fun n => ∀ id, n.PointsTo id → C id where
  mark n n' h hn id hp := by rw [h] at hp; exact hn id hp
  wrap _ _ id hp := by simp [PointsTo] at hp
  null id hp := by simp [PointsTo] at hp
  union _ _ id hp := by simp [PointsTo] at hp
  extend n id hn id' hp := by
    unfold Arena.addAlternative at hp
    split at hp
    · simp [PointsTo] at hp
    · simp [PointsTo] at hp
    · exact hn id' hp

end SchemaNode

namespace Traversal

/-- What a node points to is noted, and what is noted is held. -/
structure Linked (g : TypeGraph) (t : Traversal) : Prop where
  literals : t.arena.All SchemaNode.AtomicLiterals
  pointed : t.arena.All fun n => ∀ id, n.PointsTo id → t.components.contains id
  expanded : ∀ id, t.identifiers.contains id → t.components.contains id
  held : ∀ id ty, t.components.get? id = some ty → g.Holds t.registry ty id

theorem linked_begin (g : TypeGraph) (w : Workspace) (gen : Generator) :
    (w.begin gen).Linked g := by
  refine ⟨?_, ?_, ?_, ?_⟩
  · intro id n h; simp [Workspace.begin, Arena.get?] at h
  · intro id n h; simp [Workspace.begin, Arena.get?] at h
  · intro id h; simp [Workspace.begin, SortedMap.contains, EmptyCollection.emptyCollection] at h
  · intro id ty h; simp [Workspace.begin, EmptyCollection.emptyCollection] at h

namespace Linked

variable {g : TypeGraph} {t : Traversal}

/-- A change of anything that no link runs through. -/
theorem of_eq {t' : Traversal} (h : t.Linked g) (ha : t'.arena = t.arena)
    (hr : t'.registry = t.registry) (hc : t'.components = t.components)
    (hi : t'.identifiers = t.identifiers) : t'.Linked g := by
  obtain ⟨h₁, h₂, h₃, h₄⟩ := h
  exact ⟨ha ▸ h₁, by rw [ha, hc]; exact h₂, by rw [hc, hi]; exact h₃, by rw [hc, hr]; exact h₄⟩

/-- A new node keeps a traversal linked if what it points to is noted. -/
theorem pushed (h : t.Linked g) {n : SchemaNode} (hn : n.AtomicLiterals)
    (hp : ∀ id, n.PointsTo id → t.components.contains id) : (t.pushed n).Linked g :=
  ⟨h.literals.push hn, h.pointed.push hp, h.expanded, h.held⟩

theorem pushed_plain (h : t.Linked g) {n : SchemaNode} (hn : n.IsPlain) : (t.pushed n).Linked g :=
  h.pushed hn.2 fun id hp => absurd hp (hn.not_pointsTo id)

/-- Decoration keeps a traversal linked. -/
theorem decorated (h : t.Linked g) {t' : Traversal} {id id' : NodeId}
    (hd : Decorated t id t' id') : t'.Linked g := by
  obtain ⟨hdress, events, hr⟩ := hd
  have h₁ := h.literals.dressed SchemaNode.decorable_atomicLiterals hdress
  have h₂ := h.pointed.dressed (SchemaNode.decorable_pointsTo _) hdress
  rw [hr] at h₁ h₂ ⊢
  exact ⟨h₁, h₂, h.expanded, h.held⟩

/-- Claiming an identifier notes its component, so more may be pointed to. -/
theorem claimed (h : t.Linked g) {ty : TypeId} {id : String} {r : Registry}
    {events : List DiagnosticEvent} (ha : t.registry.assign g ty = .ok (id, r, events)) :
    (t.claimed ty id r events).Linked g := by
  obtain ⟨hgrows, hheld⟩ := Registry.assign_spec ha
  have more : ∀ id', t.components.contains id' → (t.components.insertNew id ty).contains id' :=
    fun id' h => by rw [SortedMap.contains_insertNew, h, Bool.or_true]
  refine ⟨h.literals, h.pointed.imp fun n hn id' hp => more id' (hn id' hp),
    fun id' hi => more id' (h.expanded id' hi), fun id' ty' hc => ?_⟩
  simp only [Traversal.claimed, SortedMap.get?_insertNew] at hc
  split at hc
  · next e =>
    subst e
    -- an identifier that was noted before keeps its type
    cases hold : t.components.get? id' with
    | none =>
      rw [hold] at hc
      cases hc
      exact hheld
    | some ty₀ =>
      rw [hold] at hc
      cases hc
      exact (h.held _ _ hold).mono hgrows
  · exact (h.held _ _ hc).mono hgrows

/-- A claimed identifier is noted. -/
theorem contains_claimed (t : Traversal) (ty : TypeId) (id : String) (r : Registry)
    (events : List DiagnosticEvent) : (t.claimed ty id r events).components.contains id := by
  simp [Traversal.claimed, SortedMap.contains_insertNew]

/-- A placeholder that points somewhere points to what its visit names. -/
theorem cut (h : t.Linked g) {v : Visit} (hv : ∀ id, v.identifier? = some id →
    t.components.contains id) (reason : CutReason) : (t.cut v reason).2.Linked g := by
  unfold Traversal.cut Guard.placeholder
  cases t.guard.placeholders.lookup (v.type, reason) with
  | some id => exact h.of_eq rfl rfl rfl rfl
  | none =>
    have hpush : (t.pushed { kind := .placeholder ⟨v.typeName, v.identifier?, reason⟩ }).Linked g :=
      h.pushed (by simp [SchemaNode.AtomicLiterals]) (by
        rintro id (⟨r, hr, -⟩ | ⟨p, hp, hid⟩)
        · cases hr
        · cases hp; exact hv id hid)
    exact hpush.of_eq rfl rfl rfl rfl

theorem recorded (h : t.Linked g) {id : String} (hc : t.components.contains id) (n : NodeId) :
    (t.recorded id n).Linked g := by
  refine ⟨h.literals, h.pointed, fun id' hi => ?_, h.held⟩
  simp only [Traversal.recorded, SortedMap.contains_insertNew, Bool.or_eq_true, beq_iff_eq] at hi
  rcases hi with rfl | hi
  · exact hc
  · exact h.expanded id' hi

end Linked

end Traversal

/-! ### Expansions -/

/-- An expansion keeps a traversal linked: what points to its type comes after it is noted. -/
theorem Expansion.linked {gen : Generator} {g : TypeGraph} {descend : Descent} {ty : TypeId}
    {d : TypeDescriptor} {cls : Classification} {t t' : Traversal} {id : NodeId}
    (h : Expansion gen g descend ty d cls t id t') (returns : descend.Relates Traversal.Returns)
    (step : descend.Relates fun t t' => t.Linked g → t'.Linked g) (ht : t.Linked g) :
    t'.Linked g := by
  -- the parts are visited one after the other
  have visits : ∀ {parts t t' ids}, Visits descend parts t ids t' → t.Linked g → t'.Linked g :=
    fun hv => hv.relate (R := fun t t' => t.Linked g → t'.Linked g) (fun _ h => h)
      (fun h₁ h₂ h => h₂ (h₁ h)) step
  cases h with
  | leaf node =>
    exact (ht.of_eq rfl rfl rfl rfl : (t.reported _).Linked g).pushed_plain
      (SchemaNode.isPlain_leafNode? node)
  | cut _ _ => exact ht.cut (fun id hid => by cases hid) _
  | @collection _ _ t₁ _ n _ parts node _ =>
    have hopen : (t.opened ty).Linked g := ht.of_eq rfl rfl rfl rfl
    have hpush := (visits parts hopen).pushed_plain (SchemaNode.isPlain_collectionNode? node)
    exact hpush.of_eq rfl rfl rfl rfl
  | reference assigned _ =>
    refine (ht.claimed assigned).pushed (by simp [SchemaNode.AtomicLiterals]) ?_
    rintro id (⟨r, hr, rfl⟩ | ⟨p, hp, -⟩)
    · cases hr
      exact Traversal.Linked.contains_claimed ..
    · cases hp
  | cutObject assigned _ _ =>
    refine (ht.claimed assigned).cut (fun id hid => ?_) _
    cases hid
    exact Traversal.Linked.contains_claimed ..
  | @object o _ t₁ id r events ids assigned _ _ parts _ =>
    have hopen :
        (((t.claimed ty id r events).opened ty).reported (objectEvents gen d o)).Linked g :=
      (ht.claimed assigned).of_eq rfl rfl rfl rfl
    -- the component was noted before the fields, and nothing forgets it
    have hcomp : t₁.components.contains id := by
      have hgrows := (parts.relate .refl .trans returns).1
      obtain ⟨ty', hty⟩ := SortedMap.contains_iff.1
        (Traversal.Linked.contains_claimed t ty id r events)
      exact SortedMap.contains_iff.2 ⟨ty', hgrows.components hty⟩
    have hplain := SchemaNode.isPlain_objectNode gen o id ids
    have hpush := (((visits parts hopen).pushed_plain hplain).recorded
      (n := ⟨t₁.arena.size⟩) hcomp).pushed_plain hplain
    exact hpush.of_eq rfl rfl rfl rfl

/-- A step keeps a traversal linked, given that the descent does. -/
theorem Step.linked {gen : Generator} {g : TypeGraph} {descend : Descent} {ty : TypeId}
    {field? : Option Field} {d : TypeDescriptor} {t t' : Traversal} {id : NodeId}
    (h : Step gen g descend ty field? d t id t') (returns : descend.Relates Traversal.Returns)
    (step : descend.Relates fun t t' => t.Linked g → t'.Linked g) (ht : t.Linked g) :
    t'.Linked g := by
  cases h with
  | wrapped _ part finish => exact (step _ _ _ _ _ part ht).decorated (wrapNull_decorated finish)
  | overridden _ _ finish =>
    exact (ht.pushed_plain (SchemaNode.isPlain_override _)).decorated (decorate_decorated finish)
  | @expanded _ t₀ t₁ _ id₁ _ _ plain expansion finish =>
    have hplain : t₀.Linked g := by
      rcases overrideFor_ok plain with ⟨o, ho, -⟩ | ⟨-, rfl | rfl⟩
      · cases ho
      · exact ht
      · exact ht.of_eq rfl rfl rfl rfl
    exact (expansion.linked returns step hplain).decorated (decorate_decorated finish)

/-- Every state of a generation is linked. -/
theorem nodeFor_linked {gen : Generator} {g : TypeGraph} {levels : Nat} {ty : TypeId}
    {field? : Option Field} {t t' : Traversal} {id : NodeId}
    (h : nodeFor gen g levels ty field? t = .ok id t') (ht : t.Linked g) : t'.Linked g := by
  have both := nodeFor_induction
    (P := fun _ _ t _ t' => t.Returns t' ∧ (t.Linked g → t'.Linked g))
    (fun descend step ty field? d t id t' _ hs =>
      have returns := fun ty field? t id t' h => (step ty field? t id t' h).1
      have links := fun ty field? t id t' h => (step ty field? t id t' h).2
      ⟨hs.returns returns, hs.linked returns links⟩)
    levels ty field? t id t' h
  exact both.2 ht

/-! ### Generations -/

/-- What is known of a generated schema when the registry is `r`: what it mentions and what it
expands is noted, and what is noted is held. -/
structure GeneratedSchema.Linked (g : TypeGraph) (r : Registry) (s : GeneratedSchema) : Prop where
  noted : ∀ node id, (s.arena.render node).Mentions id → s.components.contains id
  expanded : ∀ id, s.identifiers.contains id → s.components.contains id
  held : ∀ id ty, s.components.get? id = some ty → g.Holds r ty id

/-- **What a generated schema mentions is noted, and its type holds the identifier.** -/
theorem generate_linked {gen : Generator} {g : TypeGraph} {root : TypeId} {w w' : Workspace}
    {s : GeneratedSchema} (h : generate gen g root w = .ok s w') :
    w.registry.Grows w'.registry ∧ s.Linked g w'.registry := by
  obtain ⟨t, hn, hs, rfl⟩ := generate_ok h
  have hlinked := nodeFor_linked hn (Traversal.linked_begin g w gen)
  refine ⟨(nodeFor_returns hn).1.registry, ?_⟩
  rw [hs]
  refine ⟨fun node id hm => ?_, hlinked.expanded, hlinked.held⟩
  obtain ⟨j, n, hn, hp⟩ := Arena.pointsTo_of_mentions hlinked.literals hm
  exact hlinked.pointed j n hn id hp

end TypeSchema
