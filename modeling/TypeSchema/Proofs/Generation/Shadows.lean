import TypeSchema.Proofs.Generation.Lockstep
import TypeSchema.Proofs.Generation.Visited

/-!
# Generation — runs that keep up with another

A run shadows another one if a relation between their states is kept by what both of them do, and
tells the same about nodes, open types and recorded components (`Traversal.Shadows`).  Then the
expansion of a type in the one run is an expansion in the other, provided that the parts and the
identifiers are (`Expansion.shadowed`).  What the relation leaves out may differ: what the
registries hold, and what was reported.
-/

namespace TypeSchema

/-- Related states tell the same, and stay related when the same happens in both. -/
structure Traversal.Shadows (R : Traversal → Traversal → Prop) : Prop
    extends Traversal.SharesArena R where
  guard : ∀ {t s : Traversal}, R t s → s.guard = t.guard
  identifiers : ∀ {t s : Traversal}, R t s → s.identifiers = t.identifiers
  pushed : ∀ {t s : Traversal} (n : SchemaNode), R t s → R (t.pushed n) (s.pushed n)
  opened : ∀ {t s : Traversal} (ty : TypeId), R t s → R (t.opened ty) (s.opened ty)
  closed : ∀ {t s : Traversal}, R t s → R t.closed s.closed
  recorded : ∀ {t s : Traversal} (i : String) (n : NodeId), R t s →
    R (t.recorded i n) (s.recorded i n)
  reported : ∀ {t s : Traversal} {events : List DiagnosticEvent}, R t s →
    (∀ e ∈ events, e.code ≠ .idCollision) → R (t.reported events) (s.reported events)
  cut : ∀ {t s : Traversal} (v : Visit) (reason : CutReason), R t s →
    (s.cut v reason).1 = (t.cut v reason).1 ∧ R (t.cut v reason).2 (s.cut v reason).2

/-- **An expansion in one run is an expansion in the other**, if its parts are built there as well
and its type has the same identifier. -/
theorem Expansion.shadowed {R : Traversal → Traversal → Prop} (shadows : Traversal.Shadows R)
    {gen : Generator} {g : TypeGraph} {levels : Nat} {descend : Descent} {ty : TypeId}
    {d : TypeDescriptor} {cls : Classification} {t t' s : Traversal} {id : NodeId}
    (h : Expansion gen g (nodeFor gen g levels) ty d cls t id t') (hs : R t s)
    (claims : ∀ {i r events}, t.registry.assign g ty = .ok (i, r, events) →
      r.Grows t'.registry → ∃ r' events', s.registry.assign g ty = .ok (i, r', events') ∧
        R (t.claimed ty i r events) (s.claimed ty i r' events'))
    (visits : ∀ {t₀ ids t₁ s₀}, opening? gen g ty d cls t = some t₀ →
      Visits (nodeFor gen g levels) (cls.parts gen.config.memberThreshold?) t₀ ids t₁ →
      t₁.registry = t'.registry → R t₀ s₀ →
      ∃ s₁, Visits descend (cls.parts gen.config.memberThreshold?) s₀ ids s₁ ∧ R t₁ s₁) :
    ∃ s', Expansion gen g descend ty d cls s id s' ∧ R t' s' := by
  cases h with
  | leaf node =>
    have quiet := (reportsOnly_leafNode? node).noCollision (by decide)
    rw [← shadows.arena hs]
    exact ⟨_, .leaf node, shadows.pushed _ (shadows.reported hs quiet)⟩
  | cut collection closed =>
    rw [← shadows.guard hs] at closed
    obtain ⟨same, hs'⟩ := shadows.cut ⟨ty, d.name, none⟩ _ hs
    rw [← same]
    exact ⟨_, .cut collection closed, hs'⟩
  | collection opens parts node innermost =>
    have collection := isCollection_of_collectionNode? node
    obtain ⟨s₁, parts', hs₁⟩ :=
      visits (opening?_collection collection opens) parts rfl (shadows.opened ty hs)
    rw [← shadows.guard hs] at opens
    rw [← shadows.guard hs₁] at innermost
    rw [← shadows.arena hs₁]
    exact ⟨_, .collection opens parts' node innermost, shadows.closed (shadows.pushed _ hs₁)⟩
  | reference assigned expanded =>
    obtain ⟨r', events', assigned', hs₁⟩ := claims assigned (.refl _)
    rw [← shadows.identifiers hs] at expanded
    rw [← shadows.arena hs]
    exact ⟨_, .reference assigned' expanded, shadows.pushed _ hs₁⟩
  | cutObject assigned fresh closed =>
    rw [Traversal.cut_eq] at claims
    obtain ⟨r', events', assigned', hs₁⟩ := claims assigned (.refl _)
    rw [← shadows.identifiers hs] at fresh
    rw [← shadows.guard hs] at closed
    obtain ⟨same, hs'⟩ := shadows.cut ⟨ty, d.name, some _⟩ _ hs₁
    rw [← same]
    exact ⟨_, .cutObject assigned' fresh closed, hs'⟩
  | @object o _ _ _ _ _ _ assigned fresh opens parts innermost =>
    obtain ⟨r', events', assigned', hs₁⟩ := claims assigned parts.returns.1.registry
    have quiet := (reportsOnly_objectEvents gen d o).noCollision (by decide)
    obtain ⟨s₂, parts', hs₂⟩ := visits (opening?_object assigned fresh opens) parts rfl
      (shadows.reported (shadows.opened ty hs₁) quiet)
    rw [← shadows.identifiers hs] at fresh
    rw [← shadows.guard hs] at opens
    rw [← shadows.guard hs₂] at innermost
    rw [← shadows.arena hs₂]
    exact ⟨_, .object assigned' fresh opens parts' innermost,
      shadows.closed (shadows.pushed _ (shadows.recorded _ _ (shadows.pushed _ hs₂)))⟩

end TypeSchema
