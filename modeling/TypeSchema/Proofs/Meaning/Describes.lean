import TypeSchema.Proofs.Generation.Step
import TypeSchema.Proofs.Meaning.Rendering

/-!
# Meaning — nodes that describe types

`a.Describes gen g R id ty` says that the node `id` is built as the type `ty` is: its parts describe
the parts of the type, null is added around a node that describes the inner type, and a node that
stands for a component `i` is there for a type with `R i ty`.

Growing an arena and marking its nodes keeps what they describe (`Describes.mono`).
-/

namespace TypeSchema

/-! ### Arenas that keep their bodies -/

/-- `n'` is `n` with another flag for null or another example. -/
def SchemaNode.Alike (n n' : SchemaNode) : Prop :=
  n' = { n with nullable := n'.nullable, example? := n'.example? }

theorem SchemaNode.Alike.refl (n : SchemaNode) : n.Alike n := rfl

theorem SchemaNode.Alike.trans {n n₁ n' : SchemaNode} (h : n.Alike n₁) (h' : n₁.Alike n') :
    n.Alike n' := by
  unfold Alike at *
  rw [h', h]

theorem SchemaNode.Alike.kind_eq {n n' : SchemaNode} (h : n.Alike n') : n'.kind = n.kind := by
  rw [h]

theorem SchemaNode.Alike.keywords_eq {n n' : SchemaNode} (h : n.Alike n') :
    n'.keywords = n.keywords := by
  rw [h]

theorem SchemaNode.Alike.children_eq {n n' : SchemaNode} (h : n.Alike n') :
    n'.children = n.children := by
  rw [h]
  rfl

theorem SchemaNode.Alike.pointsTo_iff {n n' : SchemaNode} (h : n.Alike n') {id : String} :
    n'.PointsTo id ↔ n.PointsTo id := by
  simp only [PointsTo, h.kind_eq]

/-- Nodes that are alike fit the same values. -/
theorem SchemaNode.Alike.fits_iff {n n' : SchemaNode} (h : n.Alike n')
    {accepts : NodeId → Json → Prop} {v : Json} : n'.Fits accepts v ↔ n.Fits accepts v := by
  rw [h]
  exact ⟨fun ⟨h₁, h₂, h₃, h₄, h₅⟩ => ⟨h₁, h₂, h₃, h₄, h₅⟩,
    fun ⟨h₁, h₂, h₃, h₄, h₅⟩ => ⟨h₁, h₂, h₃, h₄, h₅⟩⟩

namespace Arena

/-- The node is `n`, marks aside. -/
def Shows (a : Arena) (id : NodeId) (n : SchemaNode) : Prop :=
  ∃ n', a.get? id = some n' ∧ n.Alike n'

/-- Every node of `a` is in `a'`, marks aside. -/
def Extends (a a' : Arena) : Prop := ∀ ⦃id n⦄, a.get? id = some n → a'.Shows id n

theorem Extends.refl (a : Arena) : a.Extends a := fun _ n h => ⟨n, h, .refl n⟩

theorem Extends.shows {a a' : Arena} (h : a.Extends a') {id : NodeId} {n : SchemaNode} :
    a.Shows id n → a'.Shows id n := by
  rintro ⟨n₁, hn₁, h₁⟩
  obtain ⟨n', hn', h'⟩ := h hn₁
  exact ⟨n', hn', h₁.trans h'⟩

theorem Extends.trans {a a₁ a' : Arena} (h : a.Extends a₁) (h' : a₁.Extends a') : a.Extends a' :=
  fun _ _ hn => h'.shows (h hn)

theorem extends_push (a : Arena) (n : SchemaNode) : a.Extends (a.push n).2 :=
  fun _ m hm => ⟨m, keeps_push a n hm, .refl m⟩

/-! ### Describing -/

/-- The node is built as the type is. -/
inductive Describes (gen : Generator) (g : TypeGraph) (R : String → TypeId → Prop) (a : Arena) :
    NodeId → TypeId → Prop where
  | leaf {id : NodeId} {ty : TypeId} {d : TypeDescriptor} {n : SchemaNode}
      {events : List DiagnosticEvent} (known : g.describe? ty = some d)
      (node : leafNode? gen d (g.classify d.shape) = some (n, events)) (shows : a.Shows id n) :
      Describes gen g R a id ty
  | collection {id : NodeId} {ty : TypeId} {cls : Classification} {ids : List NodeId}
      {n : SchemaNode} (known : g.HasClass ty cls) (node : cls.collectionNode? ids = some n)
      (shows : a.Shows id n)
      (parts : ∀ p ∈ (cls.parts gen.config.memberThreshold?).zip ids,
        Describes gen g R a p.2 p.1.1) : Describes gen g R a id ty
  | object {id : NodeId} {ty : TypeId} {o : ObjectShape} {identifier : String}
      {ids : List NodeId} (known : g.HasClass ty (.object (some o)))
      (length : ids.length =
        ((Classification.object (some o)).parts gen.config.memberThreshold?).length)
      (shows : a.Shows id (objectNode gen o identifier ids))
      (parts : ∀ p ∈ ((Classification.object (some o)).parts gen.config.memberThreshold?).zip ids,
        Describes gen g R a p.2 p.1.1) : Describes gen g R a id ty
  /-- The node stands for a component. -/
  | pointed {id : NodeId} {ty : TypeId} {o : ObjectShape} {n : SchemaNode} {identifier : String}
      (known : g.HasClass ty (.object (some o))) (node : a.get? id = some n)
      (points : n.PointsTo identifier) (noted : R identifier ty) : Describes gen g R a id ty
  /-- Null is added as an alternative. -/
  | nullable {id part null : NodeId} {ty inner : TypeId} (known : g.HasClass ty (.nullable inner))
      (shows : a.Shows id { kind := .anyOf [part, null] }) (none : a.Shows null { kind := .null })
      (value : Describes gen g R a part inner) : Describes gen g R a id ty
  /-- Null is there already. -/
  | again {id : NodeId} {ty inner innermost : TypeId} (known : g.HasClass ty (.nullable inner))
      (twice : g.HasClass inner (.nullable innermost)) (value : Describes gen g R a id inner) :
      Describes gen g R a id ty

variable {gen : Generator} {g : TypeGraph} {R R' : String → TypeId → Prop} {a a' : Arena}
  {id : NodeId} {ty : TypeId}

/-- What a node describes it still describes in an arena that goes on from there. -/
theorem Describes.mono (h : a.Describes gen g R id ty)
    (refs : ∀ i ty, R i ty → R' i ty) (grows : a.Extends a') : a'.Describes gen g R' id ty := by
  induction h with
  | leaf known node shows => exact .leaf known node (grows.shows shows)
  | collection known node shows _ ih => exact .collection known node (grows.shows shows) ih
  | object known length shows _ ih => exact .object known length (grows.shows shows) ih
  | pointed known node points noted =>
    obtain ⟨n', hn', halike⟩ := grows node
    exact .pointed known hn' (halike.pointsTo_iff.2 points) (refs _ _ noted)
  | nullable known shows none _ ih =>
    exact .nullable known (grows.shows shows) (grows.shows none) ih
  | again known twice _ ih => exact .again known twice ih

/-- A node that describes a type is there. -/
theorem Describes.exists_get? (h : a.Describes gen g R id ty) : ∃ n, a.get? id = some n := by
  induction h with
  | leaf _ _ shows => exact shows.imp fun _ h => h.1
  | collection _ _ shows _ _ => exact shows.imp fun _ h => h.1
  | object _ _ shows _ _ => exact shows.imp fun _ h => h.1
  | pointed _ node _ _ => exact ⟨_, node⟩
  | nullable _ shows _ _ _ => exact shows.imp fun _ h => h.1
  | again _ _ _ ih => exact ih

end Arena

end TypeSchema
