import TypeSchema.Proofs.Graph.Index

/-!
# Type graphs — what interning adds

A type is interned with a `Head`: its identity, its display name and the identities of its generic
arguments.  Definitions change the rest of a descriptor and keep the head (`Keeps`).  Interning a
descriptor gives the type of its identity; whatever is new has the head of the descriptor
(`Grown.intern`), and different types have different identities throughout.
-/

namespace TypeSchema

/-- What a type is interned with: its identity, its display name, and the identities of its generic
arguments. -/
structure Head where
  identity : String
  name : String
  args : List String
  deriving DecidableEq, Repr

/-- The head of a generic type with arguments of some identities. -/
def Head.generic (outer name : String) (args : List String) : Head :=
  ⟨if args.isEmpty then outer else outer ++ "<" ++ ",".intercalate args ++ ">", name, args⟩

namespace TypeGraph

variable {g g₁ g₂ : TypeGraph}

theorem identity?_eq_some_iff {ty : TypeId} {i : String} :
    g.identity? ty = some i ↔ ∃ d, g.describe? ty = some d ∧ d.identity = i :=
  Option.map_eq_some_iff

theorem identityText_of_identity? {ty : TypeId} {i : String} (h : g.identity? ty = some i) :
    g.identityText ty = i := by
  rw [identityText, h, Option.getD_some]

/-- The types have these identities. -/
abbrev Identified (g : TypeGraph) : List TypeId → List String → Prop :=
  List.Forall₂ fun ty i => g.identity? ty = some i

/-- The texts of identified types are their identities. -/
theorem Identified.map_identityText {tys : List TypeId} {is : List String}
    (h : g.Identified tys is) : tys.map g.identityText = is := by
  induction h with
  | nil => rfl
  | cons h _ ih => rw [List.map_cons, identityText_of_identity? h, ih]

/-- The descriptor has the head. -/
structure Heads (g : TypeGraph) (d : TypeDescriptor) (h : Head) : Prop where
  identity : d.identity = h.identity
  name : d.name = h.name
  args : g.Identified d.genericArgs h.args

/-- The head of a generic type with these arguments. -/
theorem Heads.generic {args : List TypeId} {is : List String} (h : g.Identified args is)
    (outer name : String) (shape : Shape) :
    g.Heads { identity := g.genericIdentity outer args, name, genericArgs := args, shape }
      (.generic outer name is) := by
  refine ⟨?_, rfl, h⟩
  have lengths := h.length_eq
  simp only [genericIdentity, Head.generic, h.map_identityText]
  cases args <;> cases is <;> first | rfl | cases lengths

/-! ### What types keep -/

/-- Each type keeps its identity, and a graph that is indexed stays so. -/
structure Keeps (g g' : TypeGraph) : Prop where
  identity : ∀ ty i, g.identity? ty = some i → g'.identity? ty = some i
  indexed : g.Indexed → g'.Indexed

theorem Keeps.refl (g : TypeGraph) : g.Keeps g := ⟨fun _ _ h => h, id⟩

theorem Keeps.trans (h : g.Keeps g₁) (h' : g₁.Keeps g₂) : g.Keeps g₂ :=
  ⟨fun ty i hi => h'.identity ty i (h.identity ty i hi), h'.indexed ∘ h.indexed⟩

/-- Types that are identified stay so. -/
theorem Keeps.identified (h : g.Keeps g₁) {tys : List TypeId} {is : List String}
    (hi : g.Identified tys is) : g₁.Identified tys is :=
  hi.imp fun ty i => h.identity ty i

/-- Descriptions with a head keep it. -/
theorem Keeps.heads (h : g.Keeps g₁) {d : TypeDescriptor} {head : Head} (hd : g.Heads d head) :
    g₁.Heads d head :=
  ⟨hd.identity, hd.name, h.identified hd.args⟩

/-- The descriptors of `g` are there, and the others have heads with `P` and no examples. -/
structure Grown (P : Head → Prop) (g g' : TypeGraph) : Prop where
  retains : ∀ ty d, g.describe? ty = some d → g'.describe? ty = some d
  indexed : g.Indexed → g'.Indexed
  new : ∀ ty d, g'.describe? ty = some d →
    g.describe? ty = some d ∨ d.example? = none ∧ ∃ h, P h ∧ g'.Heads d h

namespace Grown

variable {P P' : Head → Prop}

theorem refl (P : Head → Prop) (g : TypeGraph) : Grown P g g :=
  ⟨fun _ _ h => h, id, fun _ _ h => .inl h⟩

theorem keeps (h : Grown P g g₁) : g.Keeps g₁ := by
  refine ⟨fun ty i hi => ?_, h.indexed⟩
  obtain ⟨d, hd, rfl⟩ := identity?_eq_some_iff.1 hi
  exact identity?_eq_some_iff.2 ⟨d, h.retains ty d hd, rfl⟩

theorem trans (h : Grown P g g₁) (h' : Grown P g₁ g₂) : Grown P g g₂ := by
  refine ⟨fun ty d hd => h'.retains ty d (h.retains ty d hd), h'.indexed ∘ h.indexed,
    fun ty d hd => ?_⟩
  rcases h'.new ty d hd with old | new
  · rcases h.new ty d old with older | ⟨none, head, hP, heads⟩
    · exact .inl older
    · exact .inr ⟨none, head, hP, h'.keeps.heads heads⟩
  · exact .inr new

theorem mono (h : Grown P g g₁) (weaker : ∀ head, P head → P' head) : Grown P' g g₁ := by
  refine ⟨h.retains, h.indexed, fun ty d hd => ?_⟩
  rcases h.new ty d hd with old | ⟨none, head, hP, heads⟩
  · exact .inl old
  · exact .inr ⟨none, head, weaker head hP, heads⟩

end Grown

/-! ### Interning -/

/-- Interning keeps all types. -/
theorem intern_keeps (g : TypeGraph) (d : TypeDescriptor) : g.Keeps (g.intern d).2 := by
  refine ⟨fun ty i hi => ?_, fun indexed => indexed.intern d⟩
  rcases describe?_intern g d ty with same | ⟨unknown, -⟩
  · rwa [identity?, same]
  · rw [identity?, unknown] at hi
    cases hi

/-- A change of a descriptor that keeps the identity keeps all identities. -/
theorem modify_keeps (g : TypeGraph) {f : TypeDescriptor → TypeDescriptor}
    (identity : ∀ d, (f d).identity = d.identity) (ty : TypeId) : g.Keeps (g.modify ty f) :=
  ⟨fun ty' _ hi => (identity?_modify identity ty ty').trans hi,
    fun indexed => indexed.modify identity ty⟩

/-- **Interning a descriptor** gives the type of its identity; what is new has its head. -/
theorem Grown.intern {P : Head → Prop} (indexed : g.Indexed) {d : TypeDescriptor} {head : Head}
    (heads : g.Heads d head) (hP : P head) (example? : d.example? = none) :
    Grown P g (g.intern d).2 ∧ (g.intern d).2.identity? (g.intern d).1 = some head.identity := by
  have keeps := intern_keeps g d
  refine ⟨⟨fun ty d' hd => ?_, keeps.indexed, fun ty d' hd => ?_⟩,
    heads.identity ▸ indexed.identity?_intern d⟩
  · rcases describe?_intern g d ty with same | ⟨unknown, -⟩
    · rwa [same]
    · rw [unknown] at hd
      cases hd
  · rcases describe?_intern g d ty with same | ⟨-, -, new⟩
    · exact .inl (same ▸ hd)
    · obtain rfl : d = d' := Option.some.inj (new.symm.trans hd)
      exact .inr ⟨example?, head, hP, keeps.heads heads⟩

/-- What has been interned is found in the graph. -/
theorem of_intern_eq {g G : TypeGraph} (indexed : g.Indexed) {d : TypeDescriptor} {ty : TypeId}
    (h : g.intern d = (ty, G)) : g.Keeps G ∧ G.identity? ty = some d.identity := by
  have keeps := intern_keeps g d
  have identity := indexed.identity?_intern d
  rw [h] at keeps identity
  exact ⟨keeps, identity⟩

/-- A type whose identity is there is not added. -/
theorem intern_of_identity? {g : TypeGraph} (indexed : g.Indexed) {d : TypeDescriptor}
    {ty : TypeId} (h : g.identity? ty = some d.identity) : g.intern d = (ty, g) := by
  rw [TypeGraph.intern, indexed.find?_eq_some_iff.2 h]

/-- What has been interned is found in a graph that has grown since. -/
theorem intern_again {g g' G : TypeGraph} (indexed : g.Indexed) {d : TypeDescriptor} {ty : TypeId}
    (h : g.intern d = (ty, g')) (keeps : g'.Keeps G) :
    g.Keeps G ∧ ∀ d' : TypeDescriptor, d'.identity = d.identity → G.intern d' = (ty, G) := by
  obtain ⟨grown, identity⟩ := of_intern_eq indexed h
  have all := grown.trans keeps
  exact ⟨all, fun d' same => intern_of_identity? (all.indexed indexed)
    ((keeps.identity _ _ identity).trans (congrArg some same.symm))⟩

/-- An identity that is put together from others does not depend on what is added later. -/
theorem genericIdentity_of_keeps {g G : TypeGraph} {tys : List TypeId} {is : List String}
    (ids : g.Identified tys is) (keeps : g.Keeps G) (outer : String) :
    G.genericIdentity outer tys = g.genericIdentity outer tys := by
  rw [genericIdentity, genericIdentity, ids.map_identityText,
    (keeps.identified ids).map_identityText]

end TypeGraph

end TypeSchema
