import Mathlib
import TypeSchema.Proofs.Generation.Frame
import TypeSchema.Proofs.Generation.Run

/-!
# Generation — the nodes that stay as they were added

`Pushes gen g levels ty field? t j n` says that building a type adds the node `n` under the number
`j`.  It follows the steps of a generation and says nothing of what happens to `n` afterwards.  The
nodes that decorating puts around another one are left out: none of them is a stand-in or the node
of a component.

`Traversal.Stretch` is what lies between two states of a generation, with the nodes that were added
there.  Stretches are put end to end (`Stretch.trans`), and decorating what was built last changes
nothing in them (`Stretch.decorated`).

* `nodeFor_stretch`: building a type is a stretch of the nodes that it pushes.
* `generate_pushes`: in a generated schema, every stand-in and every recorded component is the node
  that was added under its number, and has no keywords, no flag for null and no example.
-/

namespace TypeSchema

open Build

variable {gen : Generator} {g : TypeGraph}

/-! ### Added nodes -/

/-- What is added when a type is built: a node under its number. -/
abbrev Additions := TypeId → Option Field → Traversal → NodeId → SchemaNode → Prop

/-- Building some parts adds a node, given what building one adds. -/
inductive PartsPush (descend : Descent) (below : Additions) :
    List (TypeId × Option Field) → Traversal → NodeId → SchemaNode → Prop where
  /-- The first part adds it. -/
  | head {ty : TypeId} {field? : Option Field} {rest : List (TypeId × Option Field)}
      {t : Traversal} {j : NodeId} {n : SchemaNode} (part : below ty field? t j n) :
      PartsPush descend below ((ty, field?) :: rest) t j n
  /-- A later part adds it. -/
  | tail {ty : TypeId} {field? : Option Field} {rest : List (TypeId × Option Field)}
      {t t₁ : Traversal} {id j : NodeId} {n : SchemaNode}
      (built : descend ty field? t = .ok id t₁) (later : PartsPush descend below rest t₁ j n) :
      PartsPush descend below ((ty, field?) :: rest) t j n

/-- Expanding a type adds a node, with one case for each node that an `Expansion` adds. -/
inductive ExpansionPushes (gen : Generator) (g : TypeGraph) (descend : Descent)
    (below : Additions) (ty : TypeId) (d : TypeDescriptor) :
    Classification → Traversal → NodeId → SchemaNode → Prop where
  /-- The node of a type without parts. -/
  | leaf {cls : Classification} {t : Traversal} {n : SchemaNode} {events : List DiagnosticEvent}
      (node : leafNode? gen d cls = some (n, events)) :
      ExpansionPushes gen g descend below ty d cls t ⟨t.arena.size⟩ n
  /-- The first placeholder of a collection for a reason. -/
  | cut {cls : Classification} {t : Traversal} {reason : CutReason}
      (collection : cls.isCollection) (closed : t.guard.cutReason? ty = some reason)
      (first : t.guard.placeholders.lookup (ty, reason) = none) :
      ExpansionPushes gen g descend below ty d cls t ⟨t.arena.size⟩
        { kind := .placeholder ⟨d.name, none, reason⟩ }
  /-- A node of the parts of a collection. -/
  | element {cls : Classification} {t : Traversal} {j : NodeId} {n : SchemaNode}
      (collection : cls.isCollection) (opens : t.guard.cutReason? ty = none)
      (part : PartsPush descend below (cls.parts gen.config.memberThreshold?) (t.opened ty) j n) :
      ExpansionPushes gen g descend below ty d cls t j n
  /-- The node of a collection. -/
  | collection {cls : Classification} {t t₁ : Traversal} {ids : List NodeId} {n : SchemaNode}
      (opens : t.guard.cutReason? ty = none)
      (parts : Visits descend (cls.parts gen.config.memberThreshold?) (t.opened ty) ids t₁)
      (node : cls.collectionNode? ids = some n) :
      ExpansionPushes gen g descend below ty d cls t ⟨t₁.arena.size⟩ n
  /-- A reference to an object that is expanded already. -/
  | reference {o : ObjectShape} {t : Traversal} {id : String} {r : Registry}
      {events : List DiagnosticEvent} {target : NodeId}
      (assigned : t.registry.assign g ty = .ok (id, r, events))
      (expanded : t.identifiers.get? id = some target) :
      ExpansionPushes gen g descend below ty d (.object (some o)) t ⟨t.arena.size⟩
        { kind := .reference ⟨d.name, id, target⟩ }
  /-- The first placeholder of an object for a reason. -/
  | cutObject {o : ObjectShape} {t : Traversal} {id : String} {r : Registry}
      {events : List DiagnosticEvent} {reason : CutReason}
      (assigned : t.registry.assign g ty = .ok (id, r, events))
      (fresh : t.identifiers.get? id = none) (closed : t.guard.cutReason? ty = some reason)
      (first : t.guard.placeholders.lookup (ty, reason) = none) :
      ExpansionPushes gen g descend below ty d (.object (some o)) t ⟨t.arena.size⟩
        { kind := .placeholder ⟨d.name, some id, reason⟩ }
  /-- A node of the fields of an object. -/
  | field {o : ObjectShape} {t : Traversal} {id : String} {r : Registry}
      {events : List DiagnosticEvent} {j : NodeId} {n : SchemaNode}
      (assigned : t.registry.assign g ty = .ok (id, r, events))
      (fresh : t.identifiers.get? id = none) (opens : t.guard.cutReason? ty = none)
      (part : PartsPush descend below
        ((Classification.object (some o)).parts gen.config.memberThreshold?)
        (((t.claimed ty id r events).opened ty).reported (objectEvents gen d o)) j n) :
      ExpansionPushes gen g descend below ty d (.object (some o)) t j n
  /-- The node of an object, as its component and then once more to be used. -/
  | object {o : ObjectShape} {t t₁ : Traversal} {id : String} {r : Registry}
      {events : List DiagnosticEvent} {ids : List NodeId} {j : NodeId}
      (assigned : t.registry.assign g ty = .ok (id, r, events))
      (fresh : t.identifiers.get? id = none) (opens : t.guard.cutReason? ty = none)
      (parts : Visits descend
        ((Classification.object (some o)).parts gen.config.memberThreshold?)
        (((t.claimed ty id r events).opened ty).reported (objectEvents gen d o)) ids t₁)
      (number : j = ⟨t₁.arena.size⟩ ∨ j = ⟨t₁.arena.size + 1⟩) :
      ExpansionPushes gen g descend below ty d (.object (some o)) t j (objectNode gen o id ids)

/-- A step adds a node before it decorates. -/
inductive StepPushes (gen : Generator) (g : TypeGraph) (descend : Descent) (below : Additions) :
    Additions where
  /-- A node of the wrapped type. -/
  | wrapped {ty inner : TypeId} {field? : Option Field} {d : TypeDescriptor} {t : Traversal}
      {j : NodeId} {n : SchemaNode} (known : g.describe? ty = some d)
      (cls : g.classify d.shape = .nullable inner) (part : below inner field? t j n) :
      StepPushes gen g descend below ty field? t j n
  /-- The node of an override. -/
  | overridden {ty : TypeId} {field? : Option Field} {d : TypeDescriptor} {t : Traversal}
      {o : ScalarOverride} (known : g.describe? ty = some d)
      (lookup : gen.overrides.lookup? [d.identity, d.name] = some o)
      (cls : (g.classify d.shape).isOverridable) :
      StepPushes gen g descend below ty field? t ⟨t.arena.size⟩ o.node
  /-- A node of an expansion. -/
  | expanded {ty : TypeId} {field? : Option Field} {d : TypeDescriptor} {t t₀ : Traversal}
      {j : NodeId} {n : SchemaNode} (known : g.describe? ty = some d)
      (cls : ∀ inner, g.classify d.shape ≠ .nullable inner)
      (plain : overrideFor gen ty d (g.classify d.shape) t = .ok none t₀)
      (expansion : ExpansionPushes gen g descend below ty d (g.classify d.shape) t₀ j n) :
      StepPushes gen g descend below ty field? t j n

/-- Building a type that nests less than `levels` deep adds the node `n` under the number `j`. -/
def Pushes (gen : Generator) (g : TypeGraph) : (levels : Nat) → Additions
  | 0 => fun _ _ _ _ _ => False
  | levels + 1 => StepPushes gen g (nodeFor gen g levels) (Pushes gen g levels)

/-! ### What an expansion adds, by what it does -/

/-- The same parts built from the same state give the same nodes. -/
theorem Visits.unique {descend : Descent} {parts : List (TypeId × Option Field)}
    {t t₁ t₂ : Traversal} {ids ids' : List NodeId} (h : Visits descend parts t ids t₁)
    (h' : Visits descend parts t ids' t₂) : ids = ids' ∧ t₁ = t₂ := by
  induction h generalizing ids' with
  | nil => cases h'; exact ⟨rfl, rfl⟩
  | cons head _ ih =>
    cases h' with
    | cons head' tail' =>
      obtain ⟨rfl, rfl⟩ : _ = _ ∧ _ = _ := by simpa using head.symm.trans head'
      obtain ⟨rfl, rfl⟩ := ih tail'
      exact ⟨rfl, rfl⟩

namespace ExpansionPushes

variable {descend : Descent} {below : Additions} {ty : TypeId} {d : TypeDescriptor}
  {cls : Classification} {o : ObjectShape} {t t₁ : Traversal} {i : String} {r : Registry}
  {events : List DiagnosticEvent} {ids : List NodeId} {reason : CutReason} {target j : NodeId}
  {n m : SchemaNode}

/-- A leaf pushes its node. -/
theorem leaf_iff (node : leafNode? gen d cls = some (n, events)) :
    ExpansionPushes gen g descend below ty d cls t j m ↔ j = ⟨t.arena.size⟩ ∧ m = n := by
  refine ⟨fun h => ?_, ?_⟩
  · cases h with
    | leaf node' => rw [node] at node'; cases node'; exact ⟨rfl, rfl⟩
    | cut collection _ _ | element collection _ _ =>
      rw [leafNode?_of_isCollection collection] at node; cases node
    | collection _ _ node' =>
      rw [leafNode?_of_isCollection (isCollection_of_collectionNode? node')] at node
      cases node
    | reference _ _ | cutObject _ _ _ _ | field _ _ _ _ | object _ _ _ _ _ => cases node
  · rintro ⟨rfl, rfl⟩
    exact .leaf node

/-- A collection that is cut pushes a placeholder, if there is none for it yet. -/
theorem cut_iff (collection : cls.isCollection) (closed : t.guard.cutReason? ty = some reason) :
    ExpansionPushes gen g descend below ty d cls t j m ↔
      t.guard.placeholders.lookup (ty, reason) = none ∧ j = ⟨t.arena.size⟩ ∧
        m = { kind := .placeholder ⟨d.name, none, reason⟩ } := by
  refine ⟨fun h => ?_, ?_⟩
  · cases h with
    | leaf node => rw [leafNode?_of_isCollection collection] at node; cases node
    | cut _ closed' first =>
      cases Option.some.inj (closed.symm.trans closed')
      exact ⟨first, rfl, rfl⟩
    | element _ opens _ | collection opens _ _ => rw [closed] at opens; cases opens
    | reference _ _ | cutObject _ _ _ _ | field _ _ _ _ | object _ _ _ _ _ => cases collection
  · rintro ⟨first, rfl, rfl⟩
    exact .cut collection closed first

/-- A collection pushes what its parts push, and then its own node. -/
theorem collection_iff (opens : t.guard.cutReason? ty = none)
    (parts : Visits descend (cls.parts gen.config.memberThreshold?) (t.opened ty) ids t₁)
    (node : cls.collectionNode? ids = some n) :
    ExpansionPushes gen g descend below ty d cls t j m ↔
      PartsPush descend below (cls.parts gen.config.memberThreshold?) (t.opened ty) j m ∨
        j = ⟨t₁.arena.size⟩ ∧ m = n := by
  have collection := isCollection_of_collectionNode? node
  refine ⟨fun h => ?_, ?_⟩
  · cases h with
    | leaf node' => rw [leafNode?_of_isCollection collection] at node'; cases node'
    | cut _ closed _ => rw [opens] at closed; cases closed
    | element _ _ part => exact .inl part
    | collection _ parts' node' =>
      obtain ⟨rfl, rfl⟩ := parts.unique parts'
      cases Option.some.inj (node.symm.trans node')
      exact .inr ⟨rfl, rfl⟩
    | reference _ _ | cutObject _ _ _ _ | field _ _ _ _ | object _ _ _ _ _ => cases collection
  · rintro (part | ⟨rfl, rfl⟩)
    · exact .element collection opens part
    · exact .collection opens parts node

/-- Expanding an object adds a reference, a placeholder, or what its fields add and its own node. -/
theorem object_cases
    (h : ExpansionPushes gen g descend below ty d (.object (some o)) t j m)
    (assigned : t.registry.assign g ty = .ok (i, r, events)) :
    (∃ target, t.identifiers.get? i = some target ∧ j = ⟨t.arena.size⟩ ∧
      m = { kind := .reference ⟨d.name, i, target⟩ }) ∨
    (t.identifiers.get? i = none ∧
      ((∃ reason, t.guard.cutReason? ty = some reason ∧
        t.guard.placeholders.lookup (ty, reason) = none ∧ j = ⟨t.arena.size⟩ ∧
          m = { kind := .placeholder ⟨d.name, some i, reason⟩ }) ∨
      (t.guard.cutReason? ty = none ∧
        (PartsPush descend below
          ((Classification.object (some o)).parts gen.config.memberThreshold?)
          (((t.claimed ty i r events).opened ty).reported (objectEvents gen d o)) j m ∨
        ∃ ids t₁, Visits descend
          ((Classification.object (some o)).parts gen.config.memberThreshold?)
          (((t.claimed ty i r events).opened ty).reported (objectEvents gen d o)) ids t₁ ∧
          (j = ⟨t₁.arena.size⟩ ∨ j = ⟨t₁.arena.size + 1⟩) ∧ m = objectNode gen o i ids)))) := by
  cases h with
  | leaf node => cases node
  | cut collection _ _ | element collection _ _ => cases collection
  | collection _ _ node => cases node
  | reference assigned' expanded =>
    cases assigned.symm.trans assigned'
    exact .inl ⟨_, expanded, rfl, rfl⟩
  | cutObject assigned' fresh closed first =>
    cases assigned.symm.trans assigned'
    exact .inr ⟨fresh, .inl ⟨_, closed, first, rfl, rfl⟩⟩
  | field assigned' fresh opens part =>
    cases assigned.symm.trans assigned'
    exact .inr ⟨fresh, .inr ⟨opens, .inl part⟩⟩
  | object assigned' fresh opens parts number =>
    cases assigned.symm.trans assigned'
    exact .inr ⟨fresh, .inr ⟨opens, .inr ⟨_, _, parts, number, rfl⟩⟩⟩

/-- An object that is expanded already pushes a reference to it. -/
theorem reference_iff (assigned : t.registry.assign g ty = .ok (i, r, events))
    (expanded : t.identifiers.get? i = some target) :
    ExpansionPushes gen g descend below ty d (.object (some o)) t j m ↔
      j = ⟨t.arena.size⟩ ∧ m = { kind := .reference ⟨d.name, i, target⟩ } := by
  refine ⟨fun h => ?_, ?_⟩
  · rcases h.object_cases assigned with ⟨_, expanded', added⟩ | ⟨fresh, -⟩
    · cases expanded.symm.trans expanded'
      exact added
    · rw [expanded] at fresh
      cases fresh
  · rintro ⟨rfl, rfl⟩
    exact .reference assigned expanded

/-- An object that is cut pushes a placeholder with its identifier, if there is none for it yet. -/
theorem cutObject_iff (assigned : t.registry.assign g ty = .ok (i, r, events))
    (fresh : t.identifiers.get? i = none) (closed : t.guard.cutReason? ty = some reason) :
    ExpansionPushes gen g descend below ty d (.object (some o)) t j m ↔
      t.guard.placeholders.lookup (ty, reason) = none ∧ j = ⟨t.arena.size⟩ ∧
        m = { kind := .placeholder ⟨d.name, some i, reason⟩ } := by
  refine ⟨fun h => ?_, ?_⟩
  · rcases h.object_cases assigned with ⟨_, expanded, -⟩ | ⟨-, ⟨_, closed', added⟩ | ⟨opens, -⟩⟩
    · rw [fresh] at expanded
      cases expanded
    · cases Option.some.inj (closed.symm.trans closed')
      exact added
    · rw [closed] at opens
      cases opens
  · rintro ⟨first, rfl, rfl⟩
    exact .cutObject assigned fresh closed first

/-- An object pushes what its fields push, and then its node twice. -/
theorem object_iff (assigned : t.registry.assign g ty = .ok (i, r, events))
    (fresh : t.identifiers.get? i = none) (opens : t.guard.cutReason? ty = none)
    (parts : Visits descend ((Classification.object (some o)).parts gen.config.memberThreshold?)
      (((t.claimed ty i r events).opened ty).reported (objectEvents gen d o)) ids t₁) :
    ExpansionPushes gen g descend below ty d (.object (some o)) t j m ↔
      PartsPush descend below ((Classification.object (some o)).parts gen.config.memberThreshold?)
        (((t.claimed ty i r events).opened ty).reported (objectEvents gen d o)) j m ∨
      (j = ⟨t₁.arena.size⟩ ∨ j = ⟨t₁.arena.size + 1⟩) ∧ m = objectNode gen o i ids := by
  refine ⟨fun h => ?_, ?_⟩
  · rcases h.object_cases assigned with ⟨_, expanded, -⟩ | ⟨-, ⟨_, closed, -⟩ | ⟨-, part | own⟩⟩
    · rw [fresh] at expanded
      cases expanded
    · rw [opens] at closed
      cases closed
    · exact .inl part
    · obtain ⟨_, _, parts', added⟩ := own
      obtain ⟨rfl, rfl⟩ := parts.unique parts'
      exact .inr added
  · rintro (part | ⟨number, rfl⟩)
    · exact .field assigned fresh opens part
    · exact .object assigned fresh opens parts number

end ExpansionPushes

/-! ### What a step adds, by what it does -/

namespace StepPushes

variable {descend : Descent} {below : Additions} {ty inner : TypeId} {field? : Option Field}
  {d : TypeDescriptor} {t t₀ : Traversal} {o : ScalarOverride} {j : NodeId} {m : SchemaNode}

/-- A nullable type pushes what the type pushes that it wraps. -/
theorem wrapped_iff (known : g.describe? ty = some d)
    (cls : g.classify d.shape = .nullable inner) :
    StepPushes gen g descend below ty field? t j m ↔ below inner field? t j m := by
  refine ⟨fun h => ?_, .wrapped known cls⟩
  cases h with
  | wrapped known' cls' part =>
    cases known.symm.trans known'
    cases cls.symm.trans cls'
    exact part
  | overridden known' _ overridable =>
    cases known.symm.trans known'
    rw [cls] at overridable
    cases overridable
  | expanded known' plain _ _ =>
    cases known.symm.trans known'
    exact absurd cls (plain inner)

/-- A type with an override pushes the override's node. -/
theorem overridden_iff (known : g.describe? ty = some d)
    (lookup : gen.overrides.lookup? [d.identity, d.name] = some o)
    (overridable : (g.classify d.shape).isOverridable) :
    StepPushes gen g descend below ty field? t j m ↔ j = ⟨t.arena.size⟩ ∧ m = o.node := by
  refine ⟨fun h => ?_, ?_⟩
  · cases h with
    | wrapped known' cls _ =>
      cases known.symm.trans known'
      rw [cls] at overridable
      cases overridable
    | overridden known' lookup' _ =>
      cases known.symm.trans known'
      cases lookup.symm.trans lookup'
      exact ⟨rfl, rfl⟩
    | expanded known' _ plain _ =>
      cases known.symm.trans known'
      rw [lookup?_of_overrideFor_none plain overridable] at lookup
      cases lookup
  · rintro ⟨rfl, rfl⟩
    exact .overridden known lookup overridable

/-- Any other type pushes what its expansion does. -/
theorem expanded_iff (known : g.describe? ty = some d)
    (cls : ∀ inner, g.classify d.shape ≠ .nullable inner)
    (plain : overrideFor gen ty d (g.classify d.shape) t = .ok none t₀) :
    StepPushes gen g descend below ty field? t j m ↔
      ExpansionPushes gen g descend below ty d (g.classify d.shape) t₀ j m := by
  refine ⟨fun h => ?_, .expanded known cls plain⟩
  cases h with
  | wrapped known' cls' _ =>
    cases known.symm.trans known'
    exact absurd cls' (cls _)
  | overridden known' lookup overridable =>
    cases known.symm.trans known'
    rw [lookup?_of_overrideFor_none plain overridable] at lookup
    cases lookup
  | expanded known' _ plain' expansion =>
    cases known.symm.trans known'
    cases plain.symm.trans plain'
    exact expansion

end StepPushes

/-! ### Stretches of a generation -/

/-- The node is that of a recorded component. -/
def Traversal.Records (t : Traversal) (j : NodeId) : Prop := ∃ i, t.identifiers.get? i = some j

/-- Between `t` and `t'` the nodes of `pushed` were added, and of the nodes in `t'` that were, the
stand-ins and those of components are as they were then. -/
structure Traversal.Stretch (t t' : Traversal) (pushed : NodeId → SchemaNode → Prop) : Prop where
  keeps : t.arena.Keeps t'.arena
  records : ∀ j, t'.Records j → t.Records j ∨ t.arena.size ≤ j.index
  within : ∀ j n, pushed j n → t.arena.size ≤ j.index ∧ j.index < t'.arena.size
  asPushed : ∀ j n, t.arena.size ≤ j.index → t'.arena.get? j = some n →
    n.isShared ∨ t'.Records j → ∀ m, pushed j m ↔ m = n

namespace Traversal.Stretch

variable {t₀ t t₁ t₂ t' : Traversal} {pushed pushed' : NodeId → SchemaNode → Prop}

theorem congr (h : t.Stretch t' pushed) (same : ∀ j n, pushed j n ↔ pushed' j n) :
    t.Stretch t' pushed' := by
  obtain rfl : pushed = pushed' := funext fun j => funext fun n => propext (same j n)
  exact h

/-- Only the arenas and the components count. -/
theorem of_eq (h : t.Stretch t' pushed) (ha : t.arena = t₀.arena)
    (hi : t.identifiers = t₀.identifiers) (ha' : t₁.arena = t'.arena)
    (hi' : t₁.identifiers = t'.identifiers) : t₀.Stretch t₁ pushed := by
  obtain ⟨keeps, records, within, asPushed⟩ := h
  simp only [Traversal.Records, ha, hi, ← ha', ← hi'] at keeps records within asPushed
  exact ⟨keeps, records, within, asPushed⟩

/-- Nothing is added. -/
theorem refl (t : Traversal) : t.Stretch t fun _ _ => False :=
  ⟨.refl _, fun _ h => .inl h, fun _ _ h => h.elim, fun j n hj hn _ _ => by
    have := Arena.lt_size_of_get? hn
    omega⟩

/-- One node is added, and nothing but that node may become a component. -/
theorem one {n : SchemaNode} (arena : t'.arena = (t.arena.push n).2)
    (records : ∀ j, t'.Records j → t.Records j ∨ j = ⟨t.arena.size⟩) :
    t.Stretch t' fun j m => j = ⟨t.arena.size⟩ ∧ m = n := by
  have size : t'.arena.size = t.arena.size + 1 := by rw [arena, Arena.size_push]
  refine ⟨arena ▸ Arena.keeps_push _ _, fun j hj => (records j hj).imp_right fun e => ?_,
    fun j m h => ?_, fun j m hj hm _ m' => ?_⟩
  · exact Nat.le_of_eq (congrArg NodeId.index e).symm
  · rw [h.1, size]
    exact ⟨Nat.le_refl _, Nat.lt_succ_self _⟩
  · have last : j.index = t.arena.size := by
      have := Arena.lt_size_of_get? hm
      omega
    rw [arena, Arena.get?_push, if_pos last] at hm
    cases hm
    obtain ⟨index⟩ := j
    simp [show index = t.arena.size from last]

theorem trans (h₁ : t.Stretch t₁ pushed) (h₂ : t₁.Stretch t₂ pushed') :
    t.Stretch t₂ fun j n => pushed j n ∨ pushed' j n := by
  have size₁ := h₁.keeps.size_le
  have size₂ := h₂.keeps.size_le
  refine ⟨h₁.keeps.trans h₂.keeps, fun j hj => ?_, fun j n hn => ?_, fun j n hj hn stays m => ?_⟩
  · rcases h₂.records j hj with hj | hj
    · exact h₁.records j hj
    · exact .inr (Nat.le_trans size₁ hj)
  · rcases hn with hn | hn
    · have := h₁.within j n hn
      omega
    · have := h₂.within j n hn
      omega
  · by_cases before : j.index < t₁.arena.size
    · -- it was added before `t₁`, and has been kept since
      obtain ⟨n', hn'⟩ := Arena.exists_get? before
      obtain rfl : n' = n := Option.some.inj ((h₂.keeps hn').symm.trans hn)
      have stays₁ : n'.isShared ∨ t₁.Records j :=
        stays.imp_right fun hr => (h₂.records j hr).resolve_right (by omega)
      have later : ¬ pushed' j m := fun h => by
        have := h₂.within j m h
        omega
      rw [← h₁.asPushed j n' hj hn' stays₁ m]
      exact or_iff_left later
    · have earlier : ¬ pushed j m := fun h => by
        have := h₁.within j m h
        omega
      rw [← h₂.asPushed j n (by omega) hn stays m]
      exact or_iff_right earlier

/-- A placeholder, new or not. -/
theorem cut (t : Traversal) (v : Visit) (reason : CutReason) :
    t.Stretch (t.cut v reason).2 fun j n => t.guard.placeholders.lookup (v.type, reason) = none ∧
      j = ⟨t.arena.size⟩ ∧ n = { kind := .placeholder ⟨v.typeName, v.identifier?, reason⟩ } := by
  cases hl : t.guard.placeholders.lookup (v.type, reason) with
  | some id =>
    rw [cut_of_lookup hl]
    exact (refl t).congr fun j n => by simp
  | none =>
    refine (one (cut_of_lookup_none hl).2 fun j hj => .inl ?_).congr fun j n => by simp
    rw [cut_eq] at hj
    exact hj

/-- The node of an object is added, recorded and added once more. -/
theorem object (t : Traversal) (n : SchemaNode) (i : String) :
    t.Stretch (((t.pushed n).recorded i ⟨t.arena.size⟩).pushed n) fun j m =>
      (j = ⟨t.arena.size⟩ ∨ j = ⟨t.arena.size + 1⟩) ∧ m = n := by
  have component : t.Stretch ((t.pushed n).recorded i ⟨t.arena.size⟩) _ :=
    one rfl fun j ⟨i', hj⟩ => by
      simp only [Traversal.recorded, SortedMap.get?_insertNew] at hj
      split at hj
      · cases hold : (t.pushed n).identifiers.get? i with
        | none => rw [hold] at hj; cases hj; exact .inr rfl
        | some old => rw [hold] at hj; cases hj; exact .inl ⟨i, hold⟩
      · exact .inl ⟨i', hj⟩
  have copy : ((t.pushed n).recorded i ⟨t.arena.size⟩).Stretch
      (((t.pushed n).recorded i ⟨t.arena.size⟩).pushed n) _ := one rfl fun _ h => .inl h
  refine (component.trans copy).congr fun j m => ?_
  have size : ((t.pushed n).recorded i ⟨t.arena.size⟩).arena.size = t.arena.size + 1 :=
    Arena.size_push _ _
  rw [size, or_and_right]

/-- Decorating a node that is apart from what has to stay adds no stand-in and no component. -/
theorem decorated (h : t.Stretch t₁ pushed) {id id' : NodeId} (settled : t₁.Settled id)
    (apart : t.arena.Apart t₁.arena id) (hd : Decorated t₁ id t' id') : t.Stretch t' pushed := by
  have identifiers : t'.identifiers = t₁.identifiers := by
    obtain ⟨-, _, hr⟩ := hd
    rw [hr]
  have records : ∀ {j}, t'.Records j ↔ t₁.Records j := by simp [Traversal.Records, identifiers]
  have size : t₁.arena.size ≤ t'.arena.size := Arena.size_dressed hd.dressed
  refine ⟨(h.keeps.dressed hd.dressed apart).1, fun j hj => h.records j (records.1 hj),
    fun j n hn => ?_, fun j n hj hn stays => ?_⟩
  · have := h.within j n hn
    omega
  · refine h.asPushed j n hj ?_ (stays.imp_right records.1)
    rcases stays with shared | recorded
    · exact Arena.get?_of_dressed_isShared hd.dressed hn shared
    · -- a component is part of what has to stay
      obtain ⟨a, rests, apart⟩ := settled
      obtain ⟨i, hi⟩ := records.1 recorded
      obtain ⟨n', hn', -⟩ := rests.recorded i j hi
      have kept := (rests.kept.dressed hd.dressed apart).1 hn'
      rw [← Option.some.inj (kept.symm.trans hn)]
      exact rests.kept hn'

end Traversal.Stretch

/-- What is built from a state in which nothing is about to change is a stretch of what `below`
says is added. -/
def Descent.Stretches (descend : Descent) (below : Additions) : Prop :=
  ∀ ty field? t id t', descend ty field? t = .ok id t' → t.RestsOn t.arena →
    t.Stretch t' (below ty field? t)

section

variable {levels : Nat} {below : Additions} {ty : TypeId} {d : TypeDescriptor} {t t' : Traversal}
  {id : NodeId}

/-- The nodes that parts add are those that each of them pushes. -/
theorem Visits.stretch {parts : List (TypeId × Option Field)} {ids : List NodeId}
    (h : Visits (nodeFor gen g levels) parts t ids t')
    (step : (nodeFor gen g levels).Stretches below) (ht : t.RestsOn t.arena) :
    t.Stretch t' (PartsPush (nodeFor gen g levels) below parts t) := by
  induction h with
  | nil t =>
    exact (Traversal.Stretch.refl t).congr fun j n => ⟨fun h => h.elim, fun h => by cases h⟩
  | cons head _ ih =>
    have first := step _ _ _ _ _ head ht
    refine (first.trans (ih (nodeFor_settled head ht).rests)).congr fun j n => ?_
    constructor
    · rintro (h | h)
      · exact .head h
      · exact .tail head h
    · intro h
      cases h with
      | head part => exact .inl part
      | tail built later =>
        obtain ⟨rfl, rfl⟩ : _ = _ ∧ _ = _ := by simpa using head.symm.trans built
        exact .inr later

/-- **An expansion adds the nodes that it pushes, and changes none of them.** -/
theorem Expansion.stretch {cls : Classification}
    (h : Expansion gen g (nodeFor gen g levels) ty d cls t id t')
    (step : (nodeFor gen g levels).Stretches below) (ht : t.RestsOn t.arena) :
    t.Stretch t' (ExpansionPushes gen g (nodeFor gen g levels) below ty d cls t) := by
  cases h with
  | @leaf _ _ n events node =>
    have one : t.Stretch ((t.reported events).pushed n) _ := .one rfl fun _ h => .inl h
    exact one.congr fun _ _ => (ExpansionPushes.leaf_iff node).symm
  | @cut _ _ reason collection closed =>
    exact (Traversal.Stretch.cut t ⟨ty, d.name, none⟩ reason).congr fun _ _ =>
      (ExpansionPushes.cut_iff collection closed).symm
  | @collection _ _ t₁ ids n opens parts node _ =>
    have elements := parts.stretch step (ht.of_eq rfl rfl rfl)
    have one : t₁.Stretch (t₁.pushed n) _ := .one rfl fun _ h => .inl h
    have all : t.Stretch (t₁.pushed n).closed _ := (elements.trans one).of_eq rfl rfl rfl rfl
    exact all.congr fun _ _ => (ExpansionPushes.collection_iff opens parts node).symm
  | @reference o _ i r events target assigned expanded =>
    have one : t.Stretch ((t.claimed ty i r events).pushed
        { kind := .reference ⟨d.name, i, target⟩ }) _ := .one rfl fun _ h => .inl h
    exact one.congr fun _ _ => (ExpansionPushes.reference_iff assigned expanded).symm
  | @cutObject o _ i r events reason assigned fresh closed =>
    have cut : t.Stretch ((t.claimed ty i r events).cut ⟨ty, d.name, some i⟩ reason).2 _ :=
      (Traversal.Stretch.cut (t.claimed ty i r events) _ reason).of_eq rfl rfl rfl rfl
    exact cut.congr fun _ _ => (ExpansionPushes.cutObject_iff assigned fresh closed).symm
  | @object o _ t₁ i r events ids assigned fresh opens parts _ =>
    have fields := parts.stretch step (ht.of_eq rfl rfl rfl)
    have object := Traversal.Stretch.object t₁ (objectNode gen o i ids) i
    have all : t.Stretch (((t₁.pushed (objectNode gen o i ids)).recorded i
        ⟨t₁.arena.size⟩).pushed (objectNode gen o i ids)).closed _ :=
      (fields.trans object).of_eq rfl rfl rfl rfl
    exact all.congr fun _ _ => (ExpansionPushes.object_iff assigned fresh opens parts).symm

/-- Decoration adds no node that has to stay. -/
theorem Step.stretch {field? : Option Field} (known : g.describe? ty = some d)
    (h : Step gen g (nodeFor gen g levels) ty field? d t id t')
    (step : (nodeFor gen g levels).Stretches below) (ht : t.RestsOn t.arena) :
    t.Stretch t' (StepPushes gen g (nodeFor gen g levels) below ty field? t) := by
  cases h with
  | wrapped cls part finish =>
    have inside := (step _ _ _ _ _ part ht).decorated (nodeFor_settled part ht)
      (nodeFor_spares levels _ _ _ _ _ part ht).apart (wrapNull_decorated finish)
    exact inside.congr fun _ _ => (StepPushes.wrapped_iff known cls).symm
  | @overridden o _ _ _ lookup overridable finish =>
    have one : t.Stretch (t.pushed o.node) _ := .one rfl fun _ h => .inl h
    have replaced := one.decorated (.pushed ht _) (Traversal.Spares.pushed (.refl _) _).apart
      (decorate_decorated finish)
    exact replaced.congr fun _ _ => (StepPushes.overridden_iff known lookup overridable).symm
  | @expanded _ t₀ _ _ _ _ cls plain expansion finish =>
    -- looking for an override changes no more than what was reported
    obtain ⟨arena, rests⟩ := ht.looked plain
    have identifiers : t₀.identifiers = t.identifiers := by rw [overrideFor_none plain]
    have settled := expansion.settled (fun _ _ _ _ _ hp h => nodeFor_settled hp h) rests
    have spares := expansion.spares (nodeFor_spares levels) rests
    have expanded := ((expansion.stretch step rests).decorated settled spares.apart
      (decorate_decorated finish)).of_eq arena identifiers rfl rfl
    exact expanded.congr fun _ _ => (StepPushes.expanded_iff known cls plain).symm

end

/-- **Building a type adds the nodes that it pushes, and changes no stand-in and no component.** -/
theorem nodeFor_stretch (levels : Nat) :
    (nodeFor gen g levels).Stretches (Pushes gen g levels) := by
  induction levels with
  | zero => intro ty field? t id t' h; cases h
  | succ levels ih =>
    intro ty field? t id t' h ht
    obtain ⟨d, known, hs⟩ := nodeStep_ok h
    exact hs.stretch known ih ht

/-! ### What is added -/

/-- The node carries nothing of a use, and one that is shared carries nothing at all. -/
structure SchemaNode.IsAsAdded (n : SchemaNode) : Prop extends n.IsBare where
  shared : n.isShared → n = { kind := n.kind }

/-- A bare node made of others is as it was added. -/
theorem SchemaNode.IsMadeOf.isAsAdded {n : SchemaNode} {identifier? : Option String}
    {ids : List NodeId} (h : n.IsMadeOf identifier? ids) (bare : n.IsBare) : n.IsAsAdded :=
  ⟨bare, fun shared => absurd shared h.not_isShared⟩

theorem SchemaNode.IsAsAdded.of_kind (kind : NodeKind) : ({ kind } : SchemaNode).IsAsAdded :=
  ⟨.of_kind kind, fun _ => rfl⟩

section

variable {below : Additions} (step : ∀ ty field? t j n, below ty field? t j n → n.IsAsAdded)
include step

/-- What parts push is as it was added. -/
theorem PartsPush.isAsAdded {descend : Descent} {parts : List (TypeId × Option Field)}
    {t : Traversal} {j : NodeId} {n : SchemaNode} (h : PartsPush descend below parts t j n) :
    n.IsAsAdded := by
  induction h with
  | head part => exact step _ _ _ _ _ part
  | tail _ _ ih => exact ih

/-- What an expansion pushes is as it was added. -/
theorem ExpansionPushes.isAsAdded {descend : Descent} {ty : TypeId} {d : TypeDescriptor}
    {cls : Classification} {t : Traversal} {j : NodeId} {n : SchemaNode}
    (h : ExpansionPushes gen g descend below ty d cls t j n) : n.IsAsAdded := by
  cases h with
  | leaf node => exact (SchemaNode.isMadeOf_leafNode? node).isAsAdded (.of_leafNode? node)
  | cut _ _ _ | reference _ _ | cutObject _ _ _ _ => exact .of_kind _
  | element _ _ part | field _ _ _ part => exact part.isAsAdded step
  | collection _ _ node =>
    exact (SchemaNode.isMadeOf_collectionNode? node).isAsAdded (.of_collectionNode? node)
  | object _ _ _ _ _ =>
    exact (SchemaNode.isMadeOf_objectNode ..).isAsAdded (.of_objectNode ..)

/-- What a step pushes is as it was added. -/
theorem StepPushes.isAsAdded {descend : Descent} {ty : TypeId} {field? : Option Field}
    {t : Traversal} {j : NodeId} {n : SchemaNode}
    (h : StepPushes gen g descend below ty field? t j n) : n.IsAsAdded := by
  cases h with
  | wrapped _ _ part => exact step _ _ _ _ _ part
  | overridden _ _ _ => exact (SchemaNode.isMadeOf_override _).isAsAdded (.of_override _)
  | expanded _ _ _ expansion => exact expansion.isAsAdded step

end

/-- Nodes are added without decoration. -/
theorem Pushes.isAsAdded {levels : Nat} {ty : TypeId} {field? : Option Field} {t : Traversal}
    {j : NodeId} {n : SchemaNode} (h : Pushes gen g levels ty field? t j n) : n.IsAsAdded := by
  induction levels generalizing ty field? t j n with
  | zero => exact h.elim
  | succ levels ih => exact StepPushes.isAsAdded (fun _ _ _ _ _ => ih) h

/-! ### Generations -/

/-- **Nothing leaks into shared nodes**: every stand-in and every recorded component is in a
generated schema as it was added, so a stand-in carries nothing beside its kind, and a component
none of the keywords, flags and examples of its uses. -/
theorem generate_pushes {root : TypeId} {w w' : Workspace} {s : GeneratedSchema}
    (h : generate gen g root w = .ok s w') :
    (∀ j n, s.arena.get? j = some n → n.isShared ∨ (∃ i, s.identifiers.get? i = some j) →
      ∀ m, Pushes gen g (levelsFor g) root none (w.begin gen) j m ↔ m = n) ∧
    (∀ j n, s.arena.get? j = some n → n.isShared → n = { kind := n.kind }) ∧
    ∀ i j, s.identifiers.get? i = some j → ∃ n, s.arena.get? j = some n ∧
      n.kind = .primitive .object ∧ n.keywords = {} ∧ n.nullable = false ∧ n.example? = none := by
  have objects := (generate_keywords h).2
  obtain ⟨t, hn, hs, -⟩ := generate_ok h
  have stretch := nodeFor_stretch _ _ _ _ _ _ hn (.begin w gen)
  have asPushed : ∀ {j n}, s.arena.get? j = some n →
      n.isShared ∨ (∃ i, s.identifiers.get? i = some j) →
      ∀ m, Pushes gen g (levelsFor g) root none (w.begin gen) j m ↔ m = n := by
    rw [hs]
    exact fun {j n} => stretch.asPushed j n (Nat.zero_le _)
  refine ⟨fun j n => asPushed, fun j n hj shared => ?_, fun i j hi => ?_⟩
  · exact ((asPushed hj (.inl shared) n).2 rfl).isAsAdded.shared shared
  · obtain ⟨n, hj, kind, keywords⟩ := objects i j hi
    have added := ((asPushed hj (.inr ⟨i, hi⟩) n).2 rfl).isAsAdded
    exact ⟨n, hj, kind, keywords, added.nullable, added.example?⟩

/-- An object with a field of another one, which has a bound and an example there, and a nullable
field of the same. -/
def TypeGraph.usedTwice : TypeGraph := .ofTypes #[
  { identity := "A", name := "A", shape := .object {
      fields := [
        { name := "x", type := ⟨1⟩, constraints := [.minLength 3], example? := some .null },
        { name := "y", type := ⟨2⟩, constraints := [.maxLength 5] }] } },
  { identity := "B", name := "B", shape := .object {} },
  { identity := "B?", name := "B?", shape := .nullable ⟨1⟩, constraints := [.minLength 4] }]

/-- The bound of the first field is on the node that is used there, and neither on the component nor
on the reference that the second field leads to. -/
theorem generate_pushes_usedTwice :
    ∃ s w' c n, generate (.plain {}) .usedTwice ⟨0⟩ {} = .ok s w' ∧
      (s.arena.get? ⟨1⟩).map (·.keywords.minLength) = some (some 3) ∧
      s.identifiers.get? "B" = some ⟨0⟩ ∧ s.arena.get? ⟨0⟩ = some c ∧ c.keywords = {} ∧
      s.arena.get? ⟨2⟩ = some n ∧ n = { kind := .reference ⟨"B", "B", ⟨0⟩⟩ } ∧
      Pushes (.plain {}) .usedTwice (levelsFor .usedTwice) ⟨0⟩ none (Workspace.begin {} (.plain {}))
        ⟨2⟩ n := by
  have computed : Work.value? (do
      let s ← generate (.plain {}) .usedTwice ⟨0⟩
      return ((s.arena.get? ⟨1⟩).map (·.keywords.minLength), s.identifiers.get? "B",
        (s.arena.get? ⟨2⟩).map (·.kind))) {} =
      some (some (some 3), some ⟨0⟩, some (.reference ⟨"B", "B", ⟨0⟩⟩)) := by cbv
  obtain ⟨s, w', hs, hread⟩ := Work.ok_of_reading computed
  obtain ⟨copy, hread⟩ := Prod.mk.inj hread
  obtain ⟨component, hread⟩ := Prod.mk.inj hread
  obtain ⟨n, hn, kind⟩ := Option.map_eq_some_iff.1 hread
  have shared : n.isShared := by simp [SchemaNode.isShared, kind]
  obtain ⟨pushes, standins, components⟩ := generate_pushes hs
  obtain ⟨c, hc, -, keywords, -, -⟩ := components "B" _ component
  exact ⟨s, w', c, n, hs, copy, component, hc, keywords, hn, kind ▸ standins _ _ hn shared,
    (pushes _ n hn (.inl shared) n).2 rfl⟩

end TypeSchema
