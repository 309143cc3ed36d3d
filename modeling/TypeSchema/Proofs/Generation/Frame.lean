import TypeSchema.Proofs.Generation.Actions
import TypeSchema.Proofs.Generation.Nodes
import TypeSchema.Proofs.Generation.Recorded

/-!
# Generation — earlier nodes stay

Constraints, examples and null are put on nodes by number, when the nodes are in the arena already.
Whatever type is built, the nodes that were there before stay as they were, and the node that is
built is new or a stand-in (`nodeFor_spares`): nothing but what was built just now is decorated.
-/

namespace TypeSchema

open Build

variable {gen : Generator} {g : TypeGraph}

/-- A placeholder that is there already changes nothing. -/
theorem Traversal.cut_of_lookup {t : Traversal} {v : Visit} {reason : CutReason} {id : NodeId}
    (h : t.guard.placeholders.lookup (v.type, reason) = some id) : t.cut v reason = (id, t) := by
  simp [Traversal.cut, Guard.placeholder, h]

/-- A placeholder that is not there yet is a new node. -/
theorem Traversal.cut_of_lookup_none {t : Traversal} {v : Visit} {reason : CutReason}
    (h : t.guard.placeholders.lookup (v.type, reason) = none) :
    (t.cut v reason).1 = ⟨t.arena.size⟩ ∧ (t.cut v reason).2.arena =
      (t.arena.push { kind := .placeholder ⟨v.typeName, v.identifier?, reason⟩ }).2 := by
  simp [Traversal.cut, Guard.placeholder, h, Arena.push_fst]

/-- Looking for an override that is not there changes nothing that has to stay. -/
theorem Traversal.RestsOn.looked {ty : TypeId} {d : TypeDescriptor} {cls : Classification}
    {t t₀ : Traversal} (h : t.RestsOn t.arena)
    (plain : overrideFor gen ty d cls t = .ok none t₀) :
    t₀.arena = t.arena ∧ t₀.RestsOn t₀.arena := by
  have looked := overrideFor_none plain
  have arena : t₀.arena = t.arena := by rw [looked]
  exact ⟨arena, (h.of_eq arena (by rw [looked]) (by rw [looked])).here⟩

/-- Nothing of an earlier state is changed, and the node `id` is new or a stand-in. -/
structure Traversal.Spares (t t' : Traversal) (id : NodeId) : Prop where
  keeps : t.arena.Keeps t'.arena
  apart : t.arena.Apart t'.arena id

namespace Traversal.Spares

variable {t t₁ t' : Traversal} {id id' : NodeId}

/-- A new node spares the nodes before it. -/
theorem pushed (keeps : t.arena.Keeps t₁.arena) (n : SchemaNode) :
    t.Spares (t₁.pushed n) ⟨t₁.arena.size⟩ :=
  ⟨keeps.trans (Arena.keeps_push _ _), .inl keeps.size_le⟩

/-- Decorating a node of the traversal's own spares the nodes before it. -/
theorem decorated (h : t.Spares t₁ id) (hd : Decorated t₁ id t' id') : t.Spares t' id' :=
  have ⟨keeps, apart⟩ := h.keeps.dressed hd.dressed h.apart
  ⟨keeps, apart⟩

/-- A type that is cut spares the nodes before it, even if its placeholder is one of them. -/
theorem cut (h : t.RestsOn t.arena) (v : Visit) (reason : CutReason) :
    t.Spares (t.cut v reason).2 (t.cut v reason).1 := by
  refine ⟨?_, .inr (h.afterCut v reason).2⟩
  cases hl : t.guard.placeholders.lookup (v.type, reason) with
  | some id => rw [cut_of_lookup hl]; exact .refl _
  | none => rw [(cut_of_lookup_none hl).2]; exact Arena.keeps_push _ _

end Traversal.Spares

/-- What is built from a state in which nothing is about to change spares that state. -/
def Descent.Spares (descend : Descent) : Prop :=
  ∀ ty field? t id t', descend ty field? t = .ok id t' → t.RestsOn t.arena → t.Spares t' id

section

variable {levels : Nat} {ty : TypeId} {d : TypeDescriptor} {t t' : Traversal} {id : NodeId}

/-- Building parts one after the other keeps the nodes that were there. -/
theorem Visits.keeps {parts : List (TypeId × Option Field)} {ids : List NodeId}
    (h : Visits (nodeFor gen g levels) parts t ids t') (step : (nodeFor gen g levels).Spares)
    (ht : t.RestsOn t.arena) : t.arena.Keeps t'.arena := by
  induction h with
  | nil => exact .refl _
  | cons head _ ih =>
    exact (step _ _ _ _ _ head ht).keeps.trans (ih (nodeFor_settled head ht).rests)

/-- An expansion spares the nodes before it, given that building its parts does. -/
theorem Expansion.spares {cls : Classification}
    (h : Expansion gen g (nodeFor gen g levels) ty d cls t id t')
    (step : (nodeFor gen g levels).Spares) (ht : t.RestsOn t.arena) : t.Spares t' id := by
  cases h with
  | @leaf _ _ n events _ =>
    have keeps : t.arena.Keeps (t.reported events).arena := .refl _
    exact .pushed keeps n
  | cut _ _ => exact .cut ht _ _
  | @collection _ _ t₁ _ n _ parts _ _ =>
    have keeps : t.arena.Keeps t₁.arena := parts.keeps step (ht.of_eq rfl rfl rfl)
    have pushed := Traversal.Spares.pushed keeps n
    exact ⟨pushed.keeps, pushed.apart⟩
  | @reference _ _ i r events _ _ _ =>
    have keeps : t.arena.Keeps (t.claimed ty i r events).arena := .refl _
    exact .pushed keeps _
  | @cutObject _ _ i r events _ _ _ _ =>
    have cut := Traversal.Spares.cut (t := t.claimed ty i r events) (ht.of_eq rfl rfl rfl)
    exact ⟨(cut _ _).keeps, (cut _ _).apart⟩
  | @object o _ t₁ i r events ids _ _ _ parts _ =>
    have keeps : t.arena.Keeps t₁.arena := parts.keeps step (ht.of_eq rfl rfl rfl)
    have component : t.arena.Keeps ((t₁.pushed (objectNode gen o i ids)).recorded i
        ⟨t₁.arena.size⟩).arena := keeps.trans (Arena.keeps_push _ _)
    have pushed := Traversal.Spares.pushed component (objectNode gen o i ids)
    exact ⟨pushed.keeps, .inl (Nat.le_succ_of_le keeps.size_le)⟩

/-- A step spares the nodes before it, given that the descent does. -/
theorem Step.spares {field? : Option Field}
    (h : Step gen g (nodeFor gen g levels) ty field? d t id t')
    (step : (nodeFor gen g levels).Spares) (ht : t.RestsOn t.arena) : t.Spares t' id := by
  cases h with
  | wrapped _ part finish =>
    exact (step _ _ _ _ _ part ht).decorated (wrapNull_decorated finish)
  | overridden _ _ finish =>
    exact (Traversal.Spares.pushed (.refl _) _).decorated (decorate_decorated finish)
  | @expanded _ t₀ _ _ _ _ _ plain expansion finish =>
    obtain ⟨same, rests⟩ := ht.looked plain
    have spares := (expansion.spares step rests).decorated (decorate_decorated finish)
    exact ⟨same ▸ spares.keeps, same ▸ spares.apart⟩

end

/-- **What was there before a type is built stays as it was.** -/
theorem nodeFor_spares (levels : Nat) : (nodeFor gen g levels).Spares :=
  fun ty field? t id t' h => nodeFor_descent
    (P := fun _ _ t id t' => t.RestsOn t.arena → t.Spares t' id)
    (fun _ step _ _ _ _ _ _ _ hs ht => hs.spares step ht) levels ty field? t id t' h

end TypeSchema
