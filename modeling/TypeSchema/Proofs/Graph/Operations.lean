import TypeSchema.Proofs.Graph.Interning

/-!
# Type graphs — what every sequence of operations keeps

A type is asked for with a `TypeRequest`: what kind of type it is, and the types that it is made of.
All requests are answered alike, by interning a descriptor whose identity is put together from the
identities of those types (`TypeRequest.serve_eq`).  The other operations change what a type is, and
not what it is called: its identity, its name and its generic arguments (`TypeDescriptor.title`).

`g.Evolves g'` says that operations on known types lead from `g` to `g'`, with whatever names and
shapes.  Types and entered identities stay inverse to each other (`Evolves.indexed`).  Titles stay
as well (`Evolves.retains`), so what a request is interned with has the identity again that it had
the first time, and the type of that identity is there (`TypeRequest.serve_again`).

`interned_of_evolves` says of every graph that operations lead to that types and identities
correspond, and what becomes of them afterwards.
-/

namespace TypeSchema

/-- What a type is called, other than what it is. -/
def TypeDescriptor.title (d : TypeDescriptor) : String × String × List TypeId :=
  (d.identity, d.name, d.genericArgs)

/-- A type that is asked for: the type that there is, or else a new one. -/
inductive TypeRequest where
  | scalar (kind : ScalarKind)
  | nullable (inner : TypeId)
  | array (element : TypeId)
  | collection (kind : CollectionKind) (args : List TypeId)
  | pair (key value : TypeId)
  | declare (qualified : String)
  | declareGeneric (qualified : String) (args : List TypeId)

namespace TypeRequest

/-- The types that the type is made of. -/
def args : TypeRequest → List TypeId
  | scalar _ | declare _ => []
  | nullable inner => [inner]
  | array element => [element]
  | pair key value => [key, value]
  | collection _ args | declareGeneric _ args => args

/-- The type that is given, and the graph with it. -/
def serve (g : TypeGraph) : TypeRequest → TypeId × TypeGraph
  | scalar kind => g.scalar kind
  | nullable inner => g.nullable inner
  | array element => g.array element
  | collection kind args => g.collection kind args
  | pair key value => g.pair key value
  | declare qualified => g.declare qualified
  | declareGeneric qualified args => g.declareGeneric qualified args

/-- The identity of the type. -/
def identity (g : TypeGraph) : TypeRequest → String
  | scalar kind => kind.name
  | nullable inner => g.genericIdentity "Nullable" [inner]
  | array element => g.identityText element ++ "[]"
  | collection kind args => g.genericIdentity kind.name args
  | pair key value => g.genericIdentity "KeyValuePair" [key, value]
  | declare qualified => g.genericIdentity qualified []
  | declareGeneric qualified args => g.genericIdentity qualified args

end TypeRequest

/-- What can be done to a graph. -/
inductive GraphOperation where
  | request (q : TypeRequest)
  /-- A type gets a shape. -/
  | define (ty : TypeId) (shape : Shape)
  /-- An object or an enumeration, declared and defined at once. -/
  | declareAs (qualified : String) (shape : Shape)
  | opaqueScalar (qualified : String)
  | setConstraints (ty : TypeId) (constraints : List Constraint)
  | setExample (ty : TypeId) (v : Json)

namespace GraphOperation

/-- The types that the operation is given; those that a shape mentions are not among them. -/
def uses : GraphOperation → List TypeId
  | request q => q.args
  | define ty _ | setConstraints ty _ | setExample ty _ => [ty]
  | declareAs _ _ | opaqueScalar _ => []

/-- The graph after the operation. -/
def apply (g : TypeGraph) : GraphOperation → TypeGraph
  | request q => (q.serve g).2
  | define ty shape => g.define ty shape
  | declareAs qualified shape => (g.declareAs qualified shape).2
  | opaqueScalar qualified => (g.opaqueScalar qualified).2
  | setConstraints ty constraints => g.setConstraints ty constraints
  | setExample ty v => g.setExample ty v

end GraphOperation

namespace TypeGraph

variable {g g₁ g₂ : TypeGraph}

/-- What a type is called. -/
def title? (g : TypeGraph) (ty : TypeId) : Option (String × String × List TypeId) :=
  (g.describe? ty).map (·.title)

theorem identity?_eq_title? (g : TypeGraph) (ty : TypeId) :
    g.identity? ty = (g.title? ty).map (·.1) := by
  simp only [identity?, title?, Option.map_map]
  rfl

/-- Each type keeps what it is called. -/
def Retains (g g' : TypeGraph) : Prop := ∀ ty title, g.title? ty = some title →
  g'.title? ty = some title

theorem Retains.refl (g : TypeGraph) : g.Retains g := fun _ _ h => h

theorem Retains.trans (h : g.Retains g₁) (h' : g₁.Retains g₂) : g.Retains g₂ :=
  fun ty title ht => h' ty title (h ty title ht)

/-- A graph that is retained with its index is kept. -/
theorem Retains.keeps (h : g.Retains g₁) (indexed : g.Indexed → g₁.Indexed) : g.Keeps g₁ := by
  refine ⟨fun ty i hi => ?_, indexed⟩
  rw [identity?_eq_title?] at hi ⊢
  obtain ⟨title, ht, rfl⟩ := Option.map_eq_some_iff.1 hi
  rw [h ty title ht, Option.map_some]

/-- Known types have identities. -/
theorem exists_identified {tys : List TypeId} (known : ∀ ty ∈ tys, g.knows ty) :
    ∃ is, g.Identified tys is := by
  induction tys with
  | nil => exact ⟨[], .nil⟩
  | cons ty rest ih =>
    obtain ⟨here, later⟩ := List.forall_mem_cons.1 known
    obtain ⟨d, hd⟩ := knows_iff_describe?.1 here
    obtain ⟨is, ids⟩ := ih later
    exact ⟨d.identity :: is, .cons (identity?_eq_some_iff.2 ⟨d, hd, rfl⟩) ids⟩

/-! ### Single operations -/

/-- Interning retains all types. -/
theorem intern_retains (g : TypeGraph) (d : TypeDescriptor) : g.Retains (g.intern d).2 := by
  intro ty title h
  rcases describe?_intern g d ty with same | ⟨unknown, -⟩
  · rwa [title?, same]
  · rw [title?, unknown] at h
    cases h

/-- A change that keeps the title of a descriptor changes no title. -/
theorem title?_modify {f : TypeDescriptor → TypeDescriptor} (title : ∀ d, (f d).title = d.title)
    (ty ty' : TypeId) : (g.modify ty f).title? ty' = g.title? ty' := by
  simp only [title?, describe?_modify]
  split
  · next same => simp [same, Function.comp_def, title]
  · rfl

/-- A change that leaves titles alone retains all types. -/
theorem modify_retains {f : TypeDescriptor → TypeDescriptor} (title : ∀ d, (f d).title = d.title)
    (ty : TypeId) : g.Retains (g.modify ty f) :=
  fun ty' _ h => (title?_modify title ty ty').trans h

end TypeGraph

namespace TypeRequest

open TypeGraph

variable {g : TypeGraph}

/-- **Every request is answered by interning** a descriptor with the identity of the request. -/
theorem serve_eq (g : TypeGraph) (q : TypeRequest) :
    ∃ d : TypeDescriptor, d.identity = q.identity g ∧ q.serve g = g.intern d := by
  cases q with
  | scalar _ | nullable _ | array _ | collection _ _ | pair _ _ | declare _ | declareGeneric _ _ =>
    exact ⟨_, rfl, rfl⟩

/-- The identity of a request does not change with the graph. -/
theorem identity_of_keeps (q : TypeRequest) {G : TypeGraph} (known : ∀ ty ∈ q.args, g.knows ty)
    (keeps : g.Keeps G) : q.identity G = q.identity g := by
  obtain ⟨is, ids⟩ := exists_identified known
  cases q with
  | scalar _ | declare _ => rfl
  | nullable _ | collection _ _ | pair _ _ | declareGeneric _ _ =>
    exact genericIdentity_of_keeps ids keeps _
  | array element =>
    cases ids with
    | cons here _ =>
      simp only [identity, identityText_of_identity? here,
        identityText_of_identity? (keeps.identity _ _ here)]

/-- **A request that is repeated** gives the same type, and adds nothing. -/
theorem serve_again (q : TypeRequest) {G : TypeGraph} (indexed : g.Indexed)
    (known : ∀ ty ∈ q.args, g.knows ty) (keeps : (q.serve g).2.Keeps G) :
    q.serve G = ((q.serve g).1, G) := by
  obtain ⟨d, identity, served⟩ := q.serve_eq g
  obtain ⟨d', identity', served'⟩ := q.serve_eq G
  have interned : g.intern d = ((q.serve g).1, (q.serve g).2) := served.symm
  obtain ⟨grown, again⟩ := intern_again indexed interned keeps
  rw [served']
  exact again d' (identity'.trans ((q.identity_of_keeps known grown).trans identity.symm))

end TypeRequest

namespace GraphOperation

open TypeGraph

/-- **What one operation does**: titles stay, and an indexed graph stays indexed. -/
theorem apply_retains (g : TypeGraph) (op : GraphOperation) :
    g.Retains (op.apply g) ∧ (g.Indexed → (op.apply g).Indexed) := by
  have intern : ∀ d, g.Retains (g.intern d).2 ∧ (g.Indexed → (g.intern d).2.Indexed) :=
    fun d => ⟨intern_retains g d, fun indexed => indexed.intern d⟩
  have modify : ∀ {g : TypeGraph} {f : TypeDescriptor → TypeDescriptor} (ty : TypeId),
      (∀ d, (f d).title = d.title) →
      g.Retains (g.modify ty f) ∧ (g.Indexed → (g.modify ty f).Indexed) :=
    fun ty title => ⟨modify_retains title ty,
      fun indexed => indexed.modify (fun d => congrArg Prod.fst (title d)) ty⟩
  -- a type is declared, and what it is given is defined
  have declareAs : ∀ qualified shape, g.Retains (g.declareAs qualified shape).2 ∧
      (g.Indexed → (g.declareAs qualified shape).2.Indexed) := by
    intro qualified shape
    obtain ⟨declared, indexed⟩ := intern _
    obtain ⟨defined, indexed'⟩ := modify (g := (g.declare qualified).2)
      (f := ({ · with shape })) (g.declare qualified).1 fun _ => rfl
    exact ⟨declared.trans defined, indexed' ∘ indexed⟩
  cases op with
  | request q =>
    obtain ⟨d, -, served⟩ := q.serve_eq g
    rw [apply, served]
    exact intern d
  | define ty shape => exact modify ty fun _ => rfl
  | declareAs qualified shape => exact declareAs qualified shape
  | opaqueScalar qualified => exact declareAs qualified _
  | setConstraints ty constraints => exact modify ty fun _ => rfl
  | setExample ty v => exact modify ty fun _ => rfl

end GraphOperation

namespace TypeGraph

/-! ### Sequences of operations -/

/-- Operations on known types lead from the one graph to the other. -/
inductive Evolves : TypeGraph → TypeGraph → Prop where
  | refl (g : TypeGraph) : Evolves g g
  | more {g g' : TypeGraph} (h : Evolves g g') (op : GraphOperation)
      (known : ∀ ty ∈ op.uses, g'.knows ty) : Evolves g (op.apply g')

namespace Evolves

variable {g g' g₁ : TypeGraph}

theorem trans (h : g.Evolves g₁) (h' : g₁.Evolves g') : g.Evolves g' := by
  induction h' with
  | refl => exact h
  | more _ op known ih => exact ih.more op known

/-- No operation takes a type or its title away. -/
theorem retains (h : g.Evolves g') : g.Retains g' := by
  induction h with
  | refl => exact .refl _
  | more _ op _ ih => exact ih.trans (op.apply_retains _).1

/-- **Types and entered identities stay inverse to each other**, whatever operations follow. -/
theorem indexed (h : g.Evolves g') (indexed : g.Indexed) : g'.Indexed := by
  induction h with
  | refl => exact indexed
  | more _ op _ ih => exact (op.apply_retains _).2 ih

theorem keeps (h : g.Evolves g') : g.Keeps g' := h.retains.keeps h.indexed

end Evolves

/-- **Types and identities correspond** in every graph that operations lead to: each type has an
identity, under which it is entered and found, and nothing else is found.  Whatever operations
follow, types keep what they are called, and a type that is asked for again is the one that was
given the first time. -/
theorem interned_of_evolves {g : TypeGraph} (h : empty.Evolves g) :
    (∀ ty, g.knows ty → ∃ i, g.identity? ty = some i) ∧
    (∀ ty ty', g.knows ty → g.knows ty' → g.identity? ty = g.identity? ty' → ty = ty') ∧
    (∀ ty i, g.find? i = some ty ↔ g.identity? ty = some i) ∧
    (∀ q : TypeRequest, (∀ ty ∈ q.args, g.knows ty) → ∀ G, (q.serve g).2.Evolves G →
      q.serve G = ((q.serve g).1, G)) ∧
    ∀ G, g.Evolves G → ∀ ty d, g.describe? ty = some d → ∃ d', G.describe? ty = some d' ∧
      d'.identity = d.identity ∧ d'.name = d.name ∧ d'.genericArgs = d.genericArgs := by
  have indexed := h.indexed indexed_empty
  have identified : ∀ ty, g.knows ty → ∃ i, g.identity? ty = some i := by
    intro ty known
    obtain ⟨d, hd⟩ := knows_iff_describe?.1 known
    exact ⟨d.identity, identity?_eq_some_iff.2 ⟨d, hd, rfl⟩⟩
  refine ⟨identified, fun ty ty' known _ same => ?_, fun ty i => indexed.find?_eq_some_iff,
    fun q known G later => ?_, fun G later ty d hd => ?_⟩
  · obtain ⟨i, hi⟩ := identified ty known
    exact indexed.distinct ty ty' i hi (same ▸ hi)
  · exact q.serve_again indexed known later.keeps
  · have title : g.title? ty = some d.title := by rw [title?, hd, Option.map_some]
    obtain ⟨d', hd', same⟩ := Option.map_eq_some_iff.1 (later.retains ty _ title)
    obtain ⟨identity, rest⟩ := Prod.mk.inj same
    obtain ⟨name, args⟩ := Prod.mk.inj rest
    exact ⟨d', hd', identity, name, args⟩

/-- Nodes, declared first, and defined when what they refer to is there. -/
def nodes : TypeGraph :=
  (((empty.declare "Node").2.nullable ⟨0⟩).2.define ⟨0⟩
    (.object { fields := [{ name := "next", type := ⟨1⟩ }] }))

/-- The wrapper of a node, interned before the node is defined, is found afterwards, and asking for
it again changes nothing. -/
theorem nodes_interned : empty.Evolves nodes ∧
    nodes.find? "Nullable<Node>" = some ⟨1⟩ ∧ nodes.nullable ⟨0⟩ = (⟨1⟩, nodes) := by
  have declared : empty.Evolves (empty.declare "Node").2 :=
    .more (.refl _) (.request (.declare "Node")) (by simp [GraphOperation.uses, TypeRequest.args])
  have known : (empty.declare "Node").2.knows ⟨0⟩ := by decide +kernel
  have ends : empty.Evolves ((empty.declare "Node").2.nullable ⟨0⟩).2 :=
    declared.more (.request (.nullable ⟨0⟩))
      (by simpa [GraphOperation.uses, TypeRequest.args] using known)
  have known' : ((empty.declare "Node").2.nullable ⟨0⟩).2.knows ⟨0⟩ := by decide +kernel
  have defined : ((empty.declare "Node").2.nullable ⟨0⟩).2.Evolves nodes :=
    .more (.refl _) (.define ⟨0⟩ _) (by simpa [GraphOperation.uses] using known')
  have identity : nodes.identity? ⟨1⟩ = some "Nullable<Node>" := by decide +kernel
  have given : ((empty.declare "Node").2.nullable ⟨0⟩).1 = ⟨1⟩ := by decide +kernel
  obtain ⟨-, -, -, again, -⟩ := interned_of_evolves declared
  obtain ⟨-, -, found, -⟩ := interned_of_evolves (ends.trans defined)
  refine ⟨ends.trans defined, (found _ _).2 identity, ?_⟩
  exact given ▸ again (.nullable ⟨0⟩) (by simpa [TypeRequest.args] using known) nodes defined

end TypeGraph

end TypeSchema
