import TypeSchema.Proofs.Generation.Termination
import TypeSchema.Proofs.Graph.Index

/-!
# Type graphs — mentions, and graphs that are founded

A type mentions the types in its shape and its generic arguments.  In a well-formed graph every
mentioned type is known (`WellFormed.knows_of_mentions`), and generic arguments are older than the
type, so no type is an argument of itself, however deep (`WellFormed.no_argument_cycle`).

A graph is founded if it is well-formed and indexed, and each wrapper for null is younger than what
it wraps; then no wrapper reaches itself through wrappers alone (`Founded.no_wrapper_cycle`).
Interning a type keeps a graph founded (`Founded.intern`), and so does a change of a descriptor that
keeps the identity and makes no wrapper (`Founded.modify`).
-/

namespace TypeSchema.TypeGraph

open Relation

variable {g : TypeGraph}

/-- `arg` is a generic argument of `ty`. -/
def Takes (g : TypeGraph) (ty arg : TypeId) : Prop :=
  ∃ d, g.describe? ty = some d ∧ arg ∈ d.genericArgs

/-- `part` is in the shape of `ty` or among its generic arguments. -/
def Mentions (g : TypeGraph) (ty part : TypeId) : Prop :=
  ∃ d, g.describe? ty = some d ∧ (part ∈ d.shape.mentioned ∨ part ∈ d.genericArgs)

theorem Takes.mentions {ty arg : TypeId} (h : g.Takes ty arg) : g.Mentions ty arg := by
  obtain ⟨d, hd, harg⟩ := h
  exact ⟨d, hd, .inr harg⟩

/-- The arguments of a generic type are declared before it. -/
theorem WellFormed.index_lt_of_takes (wf : g.WellFormed) {ty arg : TypeId} (h : g.Takes ty arg) :
    arg.index < ty.index := by
  obtain ⟨d, hd, harg⟩ := h
  exact (wf ty d hd).older arg harg

theorem WellFormed.knows_of_mentions (wf : g.WellFormed) {ty part : TypeId}
    (h : g.Mentions ty part) : g.knows part := by
  obtain ⟨d, hd, hpart | harg⟩ := h
  · exact knows_iff.2 ((wf ty d hd).closed part hpart)
  · have hty : ty.index < g.size := knows_iff.1 (knows_iff_describe?.2 ⟨d, hd⟩)
    exact knows_iff.2 (Nat.lt_trans ((wf ty d hd).older part harg) hty)

/-- What every step of a chain makes older does not come back to itself. -/
theorem no_cycle_of_index_lt {r : TypeId → TypeId → Prop}
    (older : ∀ ty ty', r ty ty' → ty'.index < ty.index) (ty : TypeId) : ¬ TransGen r ty ty := by
  have hchain : ∀ {a b}, TransGen r a b → b.index < a.index := by
    intro a b h
    induction h with
    | single h => exact older _ _ h
    | tail _ h ih => exact Nat.lt_trans (older _ _ h) ih
  exact fun cycle => Nat.lt_irrefl _ (hchain cycle)

/-- **No type is among its own arguments**, at any depth. -/
theorem WellFormed.no_argument_cycle (wf : g.WellFormed) (ty : TypeId) :
    ¬ TransGen g.Takes ty ty :=
  no_cycle_of_index_lt (fun _ _ h => wf.index_lt_of_takes h) ty

/-! ### Founded graphs -/

/-- The graph is well-formed and indexed, and wrappers for null are younger than what they wrap. -/
structure Founded (g : TypeGraph) : Prop where
  wellFormed : g.WellFormed
  indexed : g.Indexed
  younger : ∀ ty inner, g.Wraps ty inner → inner.index < ty.index

/-- **No type wraps itself**, through any number of nullable types. -/
theorem Founded.no_wrapper_cycle (h : g.Founded) (ty : TypeId) : ¬ TransGen g.Wraps ty ty :=
  no_cycle_of_index_lt h.younger ty

theorem founded_empty : TypeGraph.empty.Founded := by
  refine ⟨Built.empty.wellFormed, indexed_empty, fun ty inner h => ?_⟩
  simp [Wraps, shape?, describe?, TypeGraph.empty] at h

/-- A graph that is founded and knows all that `g` knows. -/
structure Extends (g g' : TypeGraph) : Prop where
  founded : g'.Founded
  size_le : g.size ≤ g'.size

theorem Extends.knows {g' : TypeGraph} (h : g.Extends g') {ty : TypeId} (known : g.knows ty) :
    g'.knows ty :=
  knows_iff.2 (Nat.lt_of_lt_of_le (knows_iff.1 known) h.size_le)

theorem Extends.refl (h : g.Founded) : g.Extends g := ⟨h, Nat.le_refl _⟩

theorem Extends.trans {g₁ g₂ : TypeGraph} (h : g.Extends g₁) (h' : g₁.Extends g₂) :
    g.Extends g₂ := ⟨h'.founded, Nat.le_trans h.size_le h'.size_le⟩

/-- The graph `r.2` extends `g` and knows the type `r.1`. -/
def Yields (g : TypeGraph) (r : TypeId × TypeGraph) : Prop := g.Extends r.2 ∧ r.2.knows r.1

/-- What a larger graph yields, the graph yields. -/
theorem Extends.yields {g₁ : TypeGraph} {r : TypeId × TypeGraph} (h : g.Extends g₁)
    (h' : g₁.Yields r) : g.Yields r := ⟨h.trans h'.1, h'.2⟩

/-- A new type keeps a graph founded if what it mentions is known and its identity is new. -/
theorem Founded.add (h : g.Founded) {d : TypeDescriptor}
    (args : ∀ arg ∈ d.genericArgs, g.knows arg)
    (mentioned : ∀ part ∈ d.shape.mentioned, g.knows part) (new : g.find? d.identity = none) :
    (g.add d).Founded := by
  refine ⟨h.wellFormed.add args mentioned, h.indexed.add new, fun ty inner hw => ?_⟩
  simp only [Wraps, shape?, describe?_add] at hw
  split at hw
  · next hidx =>
    -- the new type is younger than all types of the graph
    have hshape : d.shape = .nullable inner := by simpa using hw
    rw [hidx]
    exact knows_iff.1 (mentioned inner (by simp [hshape, Shape.mentioned]))
  · exact h.younger ty inner hw

/-- **Interning a type whose parts are known** keeps the graph founded. -/
theorem Founded.intern (h : g.Founded) {d : TypeDescriptor}
    (args : ∀ arg ∈ d.genericArgs, g.knows arg)
    (mentioned : ∀ part ∈ d.shape.mentioned, g.knows part) : g.Yields (g.intern d) := by
  unfold TypeGraph.intern
  cases hf : g.find? d.identity with
  | some ty =>
    obtain ⟨d', hd', -⟩ := Option.map_eq_some_iff.1 (h.indexed.find?_eq_some_iff.1 hf)
    exact ⟨.refl h, knows_iff_describe?.2 ⟨d', hd'⟩⟩
  | none =>
    refine ⟨⟨h.add args mentioned hf, ?_⟩, ?_⟩
    · simp
    · simp [knows]

/-- **A change of a descriptor** that keeps the identity and the generic arguments, mentions known
types and makes no wrapper. -/
theorem Founded.modify (h : g.Founded) {ty : TypeId} {f : TypeDescriptor → TypeDescriptor}
    (identity : ∀ d, (f d).identity = d.identity)
    (args : ∀ d, (f d).genericArgs = d.genericArgs)
    (mentioned : ∀ d, g.describe? ty = some d → ∀ part ∈ (f d).shape.mentioned, g.knows part)
    (wrapper : ∀ d inner, (f d).shape = .nullable inner → d.shape = .nullable inner) :
    g.Extends (g.modify ty f) := by
  refine ⟨⟨h.wellFormed.modify args mentioned, h.indexed.modify identity ty,
    fun ty' inner hw => ?_⟩, by simp⟩
  simp only [Wraps, shape?, describe?_modify] at hw
  split at hw
  · next he =>
    obtain ⟨d', hd', hshape⟩ := Option.map_eq_some_iff.1 hw
    obtain ⟨d, hd, rfl⟩ := Option.map_eq_some_iff.1 hd'
    refine he ▸ h.younger ty inner ?_
    simp only [Wraps, shape?, hd, Option.map_some, wrapper d inner hshape]
  · exact h.younger ty' inner hw

/-- A change that keeps the identity, the generic arguments and the shape. -/
theorem Founded.modify_of_shape_eq (h : g.Founded) {ty : TypeId}
    {f : TypeDescriptor → TypeDescriptor} (identity : ∀ d, (f d).identity = d.identity)
    (args : ∀ d, (f d).genericArgs = d.genericArgs)
    (shape : ∀ d, (f d).shape = d.shape) : g.Extends (g.modify ty f) := by
  refine h.modify identity args (fun d hd part hpart => ?_) fun d _ hw => shape d ▸ hw
  rw [shape d] at hpart
  exact h.wellFormed.knows_of_mentions ⟨d, hd, .inl hpart⟩

/-- Defining a type keeps a graph founded, unless it is defined as a nullable type. -/
theorem Founded.define (h : g.Founded) {shape : Shape} (ty : TypeId)
    (mentioned : ∀ part ∈ shape.mentioned, g.knows part)
    (wrapper : ∀ inner, shape ≠ .nullable inner) : g.Extends (g.define ty shape) :=
  h.modify (fun _ => rfl) (fun _ => rfl) (fun _ _ => mentioned)
    fun _ inner hw => absurd hw (wrapper inner)

theorem Founded.setConstraints (h : g.Founded) (ty : TypeId) (constraints : List Constraint) :
    g.Extends (g.setConstraints ty constraints) :=
  h.modify_of_shape_eq (fun _ => rfl) (fun _ => rfl) fun _ => rfl

theorem Founded.setExample (h : g.Founded) (ty : TypeId) (v : Json) :
    g.Extends (g.setExample ty v) :=
  h.modify_of_shape_eq (fun _ => rfl) (fun _ => rfl) fun _ => rfl

/-! ### The types that are interned -/

theorem Founded.scalar (h : g.Founded) (kind : ScalarKind) : g.Yields (g.scalar kind) :=
  h.intern (by simp) (by simp [Shape.mentioned])

/-- A nullable type is interned after the type it wraps. -/
theorem Founded.nullable (h : g.Founded) {inner : TypeId} (known : g.knows inner) :
    g.Yields (g.nullable inner) :=
  h.intern (by simpa using known) (by simpa [Shape.mentioned] using known)

theorem Founded.array (h : g.Founded) {element : TypeId} (known : g.knows element) :
    g.Yields (g.array element) :=
  h.intern (by simpa using known) (by simpa [Shape.mentioned] using known)

theorem Founded.collection (h : g.Founded) (kind : CollectionKind) {args : List TypeId}
    (known : ∀ arg ∈ args, g.knows arg) : g.Yields (g.collection kind args) :=
  h.intern known known

theorem Founded.pair (h : g.Founded) {key value : TypeId} (knownKey : g.knows key)
    (knownValue : g.knows value) : g.Yields (g.pair key value) :=
  h.intern (by simp [knownKey, knownValue]) (by simp [Shape.mentioned, knownKey, knownValue])

/-- A generic type is declared after its arguments. -/
theorem Founded.declareGeneric (h : g.Founded) (qualified : String) {args : List TypeId}
    (known : ∀ arg ∈ args, g.knows arg) : g.Yields (g.declareGeneric qualified args) :=
  h.intern known (by simp [Shape.mentioned])

end TypeSchema.TypeGraph
