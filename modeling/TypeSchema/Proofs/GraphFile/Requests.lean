import TypeSchema.Proofs.GraphFile.Fields

/-!
# Graph files — which types a graph has

While a graph is built it is asked for types by their identities: for those that the expressions in
the texts of the file denote, for those of the parts of these expressions, and for those of the
entries.  `requests` reads these identities off the texts, each text among the names that are in
scope where it stands, and knows nothing of graphs.  A step of the building adds the types that its
text asks for and no others (`TypeGraph.Adds`); so the graph of a file has exactly the types that
the file asks for (`build_has`).
-/

namespace TypeSchema

open TypeGraph

/-! ### Adding types -/

namespace TypeGraph

/-- The graph has a type of the identity. -/
def Has (g : TypeGraph) (i : String) : Prop := ∃ ty, g.identity? ty = some i

/-- All types keep their identities, and what is new has one of these. -/
structure Adds (g : TypeGraph) (is : List String) (g' : TypeGraph) : Prop where
  keeps : g.Keeps g'
  has_iff : ∀ i, g'.Has i ↔ g.Has i ∨ i ∈ is

variable {g g₁ g' : TypeGraph} {is is' : List String}

theorem not_has_empty (i : String) : ¬ TypeGraph.empty.Has i := fun ⟨_, h⟩ => nomatch h

/-- Interning adds one identity. -/
theorem Has.intern_iff (indexed : g.Indexed) {d : TypeDescriptor} {i : String} :
    (g.intern d).2.Has i ↔ g.Has i ∨ d.identity = i := by
  constructor
  · rintro ⟨ty, hi⟩
    rcases describe?_intern g d ty with same | ⟨-, -, new⟩
    · exact .inl ⟨ty, by rwa [identity?, ← same]⟩
    · rw [identity?, new] at hi
      exact .inr (Option.some.inj hi)
  · rintro (⟨ty, hi⟩ | rfl)
    · exact ⟨ty, (intern_keeps g d).identity ty i hi⟩
    · exact ⟨_, indexed.identity?_intern d⟩

namespace Adds

theorem refl (g : TypeGraph) : g.Adds [] g := ⟨.refl g, by simp⟩

theorem trans (h : g.Adds is g₁) (h' : g₁.Adds is' g') : g.Adds (is ++ is') g' :=
  ⟨h.keeps.trans h'.keeps, fun i => by
    rw [h'.has_iff, h.has_iff, List.mem_append, or_assoc]⟩

/-- A type that is there already is not added. -/
theorem of_identity? {ty : TypeId} {i : String} (h : g.identity? ty = some i) : g.Adds [i] g := by
  refine ⟨.refl g, fun j => ⟨.inl, ?_⟩⟩
  rintro (has | mem)
  · exact has
  · exact ⟨ty, List.mem_singleton.1 mem ▸ h⟩

/-- Interning a type adds its identity. -/
theorem of_intern_eq (indexed : g.Indexed) {d : TypeDescriptor} {ty : TypeId}
    (h : g.intern d = (ty, g')) : g.Adds [d.identity] g' := by
  obtain rfl : (g.intern d).2 = g' := congrArg Prod.snd h
  refine ⟨intern_keeps g d, fun i => ?_⟩
  rw [Has.intern_iff indexed, List.mem_singleton, eq_comm (a := i)]

/-- Changes that keep identities add nothing. -/
theorem modify (h : g.Adds is g') {f : TypeDescriptor → TypeDescriptor}
    (identity : ∀ d, (f d).identity = d.identity) (ty : TypeId) : g.Adds is (g'.modify ty f) := by
  have same := identity?_modify (g := g') identity ty
  refine ⟨h.keeps.trans (modify_keeps g' identity ty), fun i => ?_⟩
  rw [← h.has_iff]
  simp only [Has, same]

end Adds

end TypeGraph

/-! ### Expressions -/

open GraphFile

namespace TypeExpr

/-- The identity of the type that an expression denotes. -/
def identity? (names : Denotation) (e : TypeExpr) : Option String :=
  (e.denote names).toOption.map (·.identity)

mutual

/-- The identities of the types that an expression asks for: those of its parts, unless it is the
name of an entry, and its own. -/
def requests (names : Denotation) : TypeExpr → List String
  | .array e => requests names e ++ (identity? names (.array e)).toList
  | .nullable e => requests names e ++ (identity? names (.nullable e)).toList
  | .named name args =>
    (match names (TypeExpr.named name args).spelling with
      | .ok none => requestsAll names args
      | _ => []) ++ (identity? names (.named name args)).toList

/-- The identities of the types that some expressions ask for. -/
def requestsAll (names : Denotation) : List TypeExpr → List String
  | [] => []
  | e :: rest => requests names e ++ requestsAll names rest

end

end TypeExpr

namespace GraphFile

namespace Scope

variable {s : Scope} {ns? : Option String} {names : Denotation}

/-- A resolved expression has the identity that it denotes. -/
theorem identity?_of_resolve {g : TypeGraph} {r : TypeId × TypeGraph} {e : TypeExpr}
    (finds : s.Finds g ns? names) (h : s.resolve ns? e g = .ok r) :
    r.2.identity? r.1 = e.identity? names := by
  obtain ⟨head, denoted, -, identity⟩ := (resolve_agrees e finds).exists_right h
  rw [identity, TypeExpr.identity?, denoted]
  rfl

/-- The last type that an expression asks for is its own. -/
theorem adds_of_intern {g g₁ : TypeGraph} {d : TypeDescriptor} {e : TypeExpr}
    (finds : s.Finds g ns? names) (h : s.resolve ns? e g = .ok (g₁.intern d)) {is : List String}
    (parts : g.Adds is g₁) : g.Adds (is ++ (e.identity? names).toList) (g₁.intern d).2 := by
  have indexed := parts.keeps.indexed finds.indexed
  rw [← identity?_of_resolve finds h, indexed.identity?_intern]
  exact parts.trans (.of_intern_eq indexed rfl)

mutual

/-- **Resolving an expression** adds the types that it asks for. -/
theorem resolve_adds {g : TypeGraph} {r : TypeId × TypeGraph} : (e : TypeExpr) →
    s.Finds g ns? names → s.resolve ns? e g = .ok r → g.Adds (e.requests names) r.2
  | .array e, finds, h => by
    have resolved := h
    rw [resolve] at h
    obtain ⟨⟨element, g₁⟩, he, h⟩ := except_bind_ok_iff.1 h
    cases h
    rw [TypeExpr.requests]
    exact adds_of_intern finds resolved (resolve_adds e finds he)
  | .nullable e, finds, h => by
    have resolved := h
    rw [resolve] at h
    obtain ⟨⟨inner, g₁⟩, he, h⟩ := except_bind_ok_iff.1 h
    cases h
    rw [TypeExpr.requests]
    exact adds_of_intern finds resolved (resolve_adds e finds he)
  | .named name args, finds, h => by
    have own := identity?_of_resolve finds h
    have agrees := finds.named (TypeExpr.named name args).spelling
    rcases resolve_named_cases h with ⟨ty, found, rfl⟩ | ⟨unfound, rest⟩
    · obtain ⟨denoted?, named, known⟩ := agrees.exists_right found
      cases known with
      | some known =>
        rw [TypeExpr.requests, named, ← own, known]
        exact .of_identity? known
    · obtain ⟨denoted?, unnamed, absent⟩ := agrees.exists_right unfound
      cases absent
      rw [TypeExpr.requests, unnamed]
      rcases rest with ⟨empty, kind, -, rfl⟩ | ⟨-, tys, g₁, all, rfl⟩
      · rw [List.isEmpty_iff.1 empty] at h ⊢
        exact adds_of_intern finds h (.refl g)
      · exact adds_of_intern finds h (resolveAll_adds args finds all)

/-- Resolving expressions adds what they request. -/
theorem resolveAll_adds {g : TypeGraph} {r : List TypeId × TypeGraph} : (es : List TypeExpr) →
    s.Finds g ns? names → s.resolveAll ns? es g = .ok r → g.Adds (TypeExpr.requestsAll names es) r.2
  | [], _, h => by
    cases h
    exact .refl g
  | e :: rest, finds, h => by
    rw [resolveAll] at h
    obtain ⟨⟨ty, g₁⟩, he, h⟩ := except_bind_ok_iff.1 h
    obtain ⟨⟨tys, g₂⟩, hr, h⟩ := except_bind_ok_iff.1 h
    cases h
    have first := resolve_adds e finds he
    have more := resolveAll_adds rest (finds.mono first.keeps) hr
    exact first.trans more

end

end Scope

/-! ### Declaring -/

/-- The identities of the types that declaring an entry asks for: those of the generic arguments in
its name, and its own. -/
def TypeEntry.nameRequests (entry : TypeEntry) (names : Denotation) : List String :=
  TypeExpr.requestsAll names entry.args ++
    ((entry.nameIn names).toOption.map (·.target.identity)).toList

/-- The identities of the types that declaring entries in order, after others, asks for. -/
def declareRequests (known : List (Name Head)) : List TypeEntry → List String
  | [] => []
  | entry :: rest =>
    entry.nameRequests (meaning known entry.ns?) ++
      match entry.nameAfter known with
      | .ok n => declareRequests (known ++ [n]) rest
      | .error _ => []

section Declare

variable {s s' : Scope} {g g' : TypeGraph} {known : List (Name Head)}

/-- Declaring an entry adds what its name requests. -/
theorem declareEntry_adds {entry : TypeEntry} {d : Declaration} (hs : s.Names g known)
    (h : declareEntry s g entry = .ok (d, s', g')) :
    g.Adds (entry.nameRequests (meaning known entry.ns?)) g' := by
  obtain ⟨n, named, declared⟩ := (declareEntry_agrees hs entry).exists_right h
  obtain ⟨name, args, tys, g₁, -, parsed, all, type, -⟩ := exists_of_declareEntry h
  have parts := Scope.resolveAll_adds args (hs.finds entry.ns?) all
  rw [TypeEntry.nameRequests, TypeEntry.args_eq parsed, (nameAfter_ok_iff.1 named).1]
  change g.Adds (_ ++ (some n.target.identity).toList) g'
  have indexed := parts.keeps.indexed hs.indexed
  rw [← declared.identity, (of_intern_eq indexed type).2]
  exact parts.trans (.of_intern_eq indexed type)

/-- So does declaring all of them, each among the names before it. -/
theorem declareAll_adds {es : List (TypeEntry × Nat)} {placed : List (Nat × Declaration)}
    (hs : s.Names g known) (h : declareAll s g es = .ok (placed, s', g')) :
    g.Adds (declareRequests known (es.map (·.1))) g' := by
  induction es generalizing s g known placed with
  | nil => cases h; exact .refl _
  | cons e rest ih =>
    obtain ⟨⟨d, s₁, g₁⟩, hd, h⟩ := except_bind_ok_iff.1 h
    obtain ⟨⟨ds, s₂, g₂⟩, hr, h⟩ := except_bind_ok_iff.1 h
    cases h
    obtain ⟨n, named, declared⟩ := (declareEntry_agrees hs e.1).exists_right hd
    rw [List.map_cons, declareRequests, named]
    exact (declareEntry_adds hs hd).trans (ih declared.names hr)

end Declare

/-! ### Defining -/

/-- The identities of the types that the text of a field asks for. -/
def FieldEntry.requests (f : FieldEntry) (names : Denotation) : List String :=
  match parseExpr f.type with
  | .ok e => e.requests names
  | .error _ => []

/-- The identities of the types that the text of a capability asks for: those of its generic
arguments, but none for the collection itself. -/
def capabilityRequests (names : Denotation) (src : String) : List String :=
  match parseExpr src with
  | .ok (.named _ args) => TypeExpr.requestsAll names args
  | _ => []

/-- The identities of the types that defining an entry asks for: those of an object's members. -/
def TypeEntry.memberRequests (entry : TypeEntry) (names : Denotation) : List String :=
  match entry.kind with
  | .object => entry.fields.flatMap (·.requests names) ++
      entry.implements.flatMap (capabilityRequests names)
  | _ => []

section Define

variable {s : Scope} {ns? : Option String} {names : Denotation} {g : TypeGraph}

theorem buildField_adds {f : FieldEntry} {r : Field × TypeGraph} (finds : s.Finds g ns? names)
    (h : buildField s ns? g f = .ok r) : g.Adds (f.requests names) r.2 := by
  obtain ⟨e, parsed, h⟩ := except_bind_ok_iff.1 h
  obtain ⟨⟨ty, g₁⟩, resolved, h⟩ := except_bind_ok_iff.1 h
  cases h
  rw [FieldEntry.requests, within_ok_iff.1 parsed]
  exact Scope.resolve_adds e finds (within_ok_iff.1 resolved)

theorem buildCapability_adds {src : String} {r : Capability × TypeGraph}
    (finds : s.Finds g ns? names) (h : buildCapability s ns? g src = .ok r) :
    g.Adds (capabilityRequests names src) r.2 := by
  obtain ⟨name, args, parsed, resolved, -⟩ := buildCapability_ok_iff.1 h
  rw [capabilityRequests, parsed]
  exact Scope.resolveAll_adds args finds resolved

/-- Building parts one after the other adds what building each of them adds. -/
theorem buildAll_adds {α β : Type} {build : TypeGraph → α → Except BuildError (β × TypeGraph)}
    {requests : α → List String}
    (step : ∀ {g a r}, s.Finds g ns? names → build g a = .ok r → g.Adds (requests a) r.2)
    {as : List α} {r : List β × TypeGraph} (finds : s.Finds g ns? names)
    (h : buildAll build g as = .ok r) : g.Adds (as.flatMap requests) r.2 := by
  induction as generalizing g r with
  | nil => cases h; exact .refl _
  | cons a rest ih =>
    obtain ⟨⟨b, g₁⟩, hb, h⟩ := except_bind_ok_iff.1 h
    obtain ⟨⟨bs, g₂⟩, hr, h⟩ := except_bind_ok_iff.1 h
    cases h
    have first := step finds hb
    have more := ih (finds.mono first.keeps) hr
    exact first.trans more

/-- Building a shape adds what its members request. -/
theorem buildShape_adds {entry : TypeEntry} {r : Shape × TypeGraph}
    (finds : s.Finds g entry.ns? names) (h : buildShape s g entry = .ok r) :
    g.Adds (entry.memberRequests names) r.2 := by
  rw [TypeEntry.memberRequests]
  cases kind : entry.kind with
  | scalar =>
    obtain ⟨-, -, rfl⟩ := (buildShape_scalar_ok_iff kind).1 h
    exact .refl g
  | enumeration =>
    obtain ⟨-, -, rfl⟩ := (buildShape_enumeration_ok_iff kind).1 h
    exact .refl g
  | object =>
    obtain ⟨xs, g₁, cs, g₂, hxs, hcs, rfl⟩ := (buildShape_object_ok_iff kind).1 h
    have fields := buildAll_adds (fun finds h => buildField_adds finds h) finds hxs
    have capabilities :=
      buildAll_adds (fun finds h => buildCapability_adds finds h) (finds.mono fields.keeps) hcs
    exact fields.trans capabilities

theorem defineEntry_adds {names : Option String → Denotation} {g' : TypeGraph}
    {entry : TypeEntry} {d : Declaration} (finds : s.FindsAll g names)
    (h : defineEntry s g entry d = .ok g') :
    g.Adds (entry.memberRequests (names entry.ns?)) g' := by
  obtain ⟨shape, g₁, built, rfl⟩ := defineEntry_ok_iff.1 h
  have identity : ∀ d, (entry.redefine shape d).identity = d.identity := fun _ => rfl
  exact (buildShape_adds (finds entry.ns?) built).modify identity d.type

/-- Defining all entries adds what all their members request. -/
theorem defineAll_adds {names : Option String → Denotation} {G : TypeGraph}
    {ds : List (TypeEntry × Declaration)} (finds : s.FindsAll g names)
    (h : defineAll s g ds = .ok G) :
    g.Adds ((ds.map (·.1)).flatMap fun entry => entry.memberRequests (names entry.ns?)) G := by
  induction ds generalizing g with
  | nil => cases h; exact .refl _
  | cons p rest ih =>
    obtain ⟨g₁, hd, h⟩ := except_bind_ok_iff.1 h
    have first := defineEntry_adds finds hd
    exact first.trans (ih (finds.mono first.keeps) h)

end Define

/-! ### Files -/

/-- The identities of the types that a file asks for. -/
def fileRequests (entries : List TypeEntry) : List String :=
  match declareNames [] (declarationList entries) with
  | .ok names => declareRequests [] (declarationList entries) ++
      entries.flatMap fun entry => entry.memberRequests (meaning names entry.ns?)
  | .error _ => []

/-- **Which types a graph has**: those that its file asks for. -/
theorem build_has {entries : List TypeEntry} {l : LoadedGraph} (h : build entries = .ok l)
    (i : String) : l.graph.Has i ↔ i ∈ fileRequests entries := by
  obtain ⟨s, g, heads, finished⟩ := build_finished h
  obtain ⟨placed, hp, -⟩ := finished.placed
  have declared := declareAll_adds Scope.names_empty hp
  have defined := defineAll_adds finished.finds finished.defined
  rw [List.map_fst_zip (Nat.le_of_eq finished.of.length.symm)] at defined
  have all := (declared.trans defined).has_iff i
  rw [all, fileRequests, finished.read]
  exact or_iff_right (not_has_empty i)

end GraphFile

end TypeSchema
