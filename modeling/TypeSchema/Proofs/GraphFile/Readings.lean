import TypeSchema.GraphFile.Build
import TypeSchema.Proofs.Graph.Interning
import TypeSchema.Proofs.Outcome

/-!
# Graph files — what expressions denote

`TypeExpr.denote` reads the head of a type off an expression, given what the names in scope denote;
it knows nothing of graphs and their numbers.  Resolving an expression in a graph agrees with it
(`Scope.resolve_agrees`): both fail with the same error, or the resolved type has the identity of
the head that is read, and every type that is new in the graph has the head of a part of the
expression.
-/

namespace TypeSchema.GraphFile

/-! ### Expressions -/

/-- What the names in scope denote: the head of an entry, or nothing; a name may be ambiguous. -/
abbrev Denotation := String → Except BuildError (Option Head)

end GraphFile

open GraphFile

namespace TypeExpr

mutual

/-- The head of the type that an expression denotes. -/
def denote (names : Denotation) : TypeExpr → Except BuildError Head
  | .array e => do
    let h ← denote names e
    return ⟨h.identity ++ "[]", "Array", [h.identity]⟩
  | .nullable e => do
    let h ← denote names e
    return .generic "Nullable" "Nullable" [h.identity]
  | .named name args => do
    match ← names (TypeExpr.named name args).spelling with
    | some h => return h
    | none =>
      if args.isEmpty then
        match ScalarKind.ofKeyword? name with
        | some kind => return ⟨kind.name, kind.name, []⟩
        | none => throw (.unknownType name)
      else
        let identities ← denoteAll names args
        let outer := (CollectionKind.ofName name).name
        return .generic outer outer identities

/-- The identities of the types that some expressions denote. -/
def denoteAll (names : Denotation) : List TypeExpr → Except BuildError (List String)
  | [] => return []
  | e :: rest => do
    let h ← denote names e
    let identities ← denoteAll names rest
    return h.identity :: identities

end

mutual

/-- The expression and all that it is made of. -/
def parts : TypeExpr → List TypeExpr
  | .named name args => .named name args :: partsAll args
  | .array e => .array e :: parts e
  | .nullable e => .nullable e :: parts e

/-- The expressions and all that they are made of. -/
def partsAll : List TypeExpr → List TypeExpr
  | [] => []
  | e :: rest => parts e ++ partsAll rest

end

mutual

/-- Parts of parts are parts. -/
theorem parts_subset {e x : TypeExpr} : (y : TypeExpr) → x ∈ y.parts → e ∈ x.parts → e ∈ y.parts
  | .named name args, hx, he => by
    rcases List.mem_cons.1 hx with rfl | hx
    · exact he
    · exact List.mem_cons_of_mem _ (partsAll_subset args hx he)
  | .array y, hx, he => by
    rcases List.mem_cons.1 hx with rfl | hx
    · exact he
    · exact List.mem_cons_of_mem _ (parts_subset y hx he)
  | .nullable y, hx, he => by
    rcases List.mem_cons.1 hx with rfl | hx
    · exact he
    · exact List.mem_cons_of_mem _ (parts_subset y hx he)

/-- Parts of parts are parts. -/
theorem partsAll_subset {e x : TypeExpr} : (ys : List TypeExpr) → x ∈ partsAll ys →
    e ∈ x.parts → e ∈ partsAll ys
  | y :: rest, hx, he => by
    rcases List.mem_append.1 hx with hx | hx
    · exact List.mem_append_left _ (parts_subset y hx he)
    · exact List.mem_append_right _ (partsAll_subset rest hx he)

end

section Denote

variable {names : Denotation}

theorem denote_array {e : TypeExpr} {h : Head} (denoted : e.denote names = .ok h) :
    (array e).denote names = .ok ⟨h.identity ++ "[]", "Array", [h.identity]⟩ := by
  rw [denote, denoted]
  rfl

theorem denote_nullable {e : TypeExpr} {h : Head} (denoted : e.denote names = .ok h) :
    (nullable e).denote names = .ok (.generic "Nullable" "Nullable" [h.identity]) := by
  rw [denote, denoted]
  rfl

variable {name : String} {args : List TypeExpr}
  (unnamed : names (named name args).spelling = .ok none)
include unnamed

/-- A keyword denotes its scalar. -/
theorem denote_keyword (empty : args.isEmpty) {kind : ScalarKind}
    (keyword : ScalarKind.ofKeyword? name = some kind) :
    (named name args).denote names = .ok ⟨kind.name, kind.name, []⟩ := by
  rw [denote, unnamed]
  simp only [bind, Except.bind, empty, keyword, if_true]
  rfl

/-- A generic expression denotes the type with its arguments in brackets. -/
theorem denote_generic (nonempty : ¬ args.isEmpty) {is : List String}
    (denoted : denoteAll names args = .ok is) :
    (named name args).denote names =
      .ok (.generic (CollectionKind.ofName name).name (CollectionKind.ofName name).name is) := by
  rw [denote, unnamed]
  simp only [bind, Except.bind, nonempty, denoted]
  rfl

end Denote

end TypeExpr

namespace GraphFile

/-- A part of the expressions denotes a type with this head. -/
def Mentioned (names : Denotation) (es : List TypeExpr) (h : Head) : Prop :=
  ∃ e ∈ es, e.denote names = .ok h

theorem Mentioned.mono {names : Denotation} {es es' : List TypeExpr} {h : Head}
    (hm : Mentioned names es h) (sub : es ⊆ es') : Mentioned names es' h := by
  obtain ⟨e, he, hd⟩ := hm
  exact ⟨e, sub he, hd⟩

/-! ### Resolving -/

namespace Scope

/-- The graph is indexed, and the names in scope stand for types with the heads that they denote. -/
structure Finds (s : Scope) (g : TypeGraph) (ns? : Option String) (names : Denotation) : Prop where
  indexed : g.Indexed
  named : ∀ spelling, Agree (Option.Rel fun ty h => g.identity? ty = some h.identity)
    (s.lookup ns? spelling) (names spelling)

variable {s : Scope} {ns? : Option String} {names : Denotation}

theorem Finds.mono {g g' : TypeGraph} (h : s.Finds g ns? names) (keeps : g.Keeps g') :
    s.Finds g' ns? names :=
  ⟨keeps.indexed h.indexed, fun spelling => (h.named spelling).mono fun _ _ found => by
    cases found with
    | some hty => exact .some (keeps.identity _ _ hty)
    | none => exact .none⟩

end Scope

/-- From `g`, a graph with new types of heads with `P`, and a type of the identity. -/
def Resolved (P : Head → Prop) (g : TypeGraph) (r : TypeId × TypeGraph) (h : Head) : Prop :=
  TypeGraph.Grown P g r.2 ∧ r.2.identity? r.1 = some h.identity

/-- From `g`, a graph with new types of heads with `P`, and types of the identities. -/
def ResolvedAll (P : Head → Prop) (g : TypeGraph) (r : List TypeId × TypeGraph)
    (is : List String) : Prop :=
  TypeGraph.Grown P g r.2 ∧ r.2.Identified r.1 is

/-- A descriptor of a part is interned after other parts. -/
theorem Resolved.intern {P Q : Head → Prop} {g g₁ : TypeGraph} (indexed : g.Indexed)
    (grown : TypeGraph.Grown P g g₁) (weaker : ∀ h, P h → Q h) {d : TypeDescriptor} {h : Head}
    (heads : g₁.Heads d h) (hQ : Q h) (example? : d.example? = none) :
    Resolved Q g (g₁.intern d) h := by
  obtain ⟨more, identity⟩ := TypeGraph.Grown.intern (grown.indexed indexed) heads hQ example?
  exact ⟨(grown.mono weaker).trans more, identity⟩

namespace Scope

variable {s : Scope} {ns? : Option String} {names : Denotation}

mutual

/-- **An expression is resolved to the type that it denotes**, or both fail. -/
theorem resolve_agrees {g : TypeGraph} : (e : TypeExpr) → s.Finds g ns? names →
    Agree (Resolved (Mentioned names e.parts) g) (s.resolve ns? e g) (e.denote names)
  | .array e, hs => by
    rw [resolve, TypeExpr.denote, TypeExpr.parts]
    refine (resolve_agrees e hs).bind fun ⟨element, g₁⟩ h denoted ⟨grown, identity⟩ => .ok ?_
    refine .intern hs.indexed grown (fun _ hm => hm.mono (List.subset_cons_self ..))
      ⟨?_, rfl, .cons identity .nil⟩ ⟨_, List.mem_cons_self, TypeExpr.denote_array denoted⟩ rfl
    rw [TypeGraph.identityText_of_identity? identity]
  | .nullable e, hs => by
    rw [resolve, TypeExpr.denote, TypeExpr.parts]
    refine (resolve_agrees e hs).bind fun ⟨inner, g₁⟩ h denoted ⟨grown, identity⟩ => .ok ?_
    exact .intern hs.indexed grown (fun _ hm => hm.mono (List.subset_cons_self ..))
      (.generic (.cons identity .nil) ..)
      ⟨_, List.mem_cons_self, TypeExpr.denote_nullable denoted⟩ rfl
  | .named name args, hs => by
    rw [resolve, TypeExpr.denote, TypeExpr.parts]
    refine (hs.named _).bind fun found? denoted? unnamed found => ?_
    cases found with
    | some hty => exact .ok ⟨.refl _ g, hty⟩
    | none =>
      -- no entry has the name
      simp only
      split
      · next empty =>
        cases keyword : ScalarKind.ofKeyword? name with
        | none => exact .error _
        | some kind =>
          have denoted := TypeExpr.denote_keyword unnamed empty keyword
          exact .ok (.intern hs.indexed (.refl _ g) (fun _ h => h) ⟨rfl, rfl, .nil⟩
            ⟨_, List.mem_cons_self, denoted⟩ rfl)
      · next nonempty =>
        refine (resolveAll_agrees args hs).bind fun ⟨tys, g₁⟩ is denoted ⟨grown, ids⟩ => ?_
        have itself := TypeExpr.denote_generic unnamed nonempty denoted
        have yields : ∀ shape,
            Resolved (Mentioned names (.named name args :: TypeExpr.partsAll args)) g
              (g₁.intern { identity := g₁.genericIdentity (CollectionKind.ofName name).name tys
                           name := (CollectionKind.ofName name).name, genericArgs := tys, shape })
              (.generic (CollectionKind.ofName name).name (CollectionKind.ofName name).name is) :=
          fun shape => .intern hs.indexed grown
            (fun _ hm => hm.mono (List.subset_cons_self ..)) (.generic ids ..)
            ⟨_, List.mem_cons_self, itself⟩ rfl
        -- two abstractions have shapes of their own, but heads as all others
        simp only
        split <;> exact .ok (yields _)

/-- **Resolving expressions agrees with what they denote**, and adds what they mention. -/
theorem resolveAll_agrees {g : TypeGraph} : (es : List TypeExpr) → s.Finds g ns? names →
    Agree (ResolvedAll (Mentioned names (TypeExpr.partsAll es)) g) (s.resolveAll ns? es g)
      (TypeExpr.denoteAll names es)
  | [], hs => .ok ⟨.refl _ g, .nil⟩
  | e :: rest, hs => by
    rw [resolveAll, TypeExpr.denoteAll, TypeExpr.partsAll]
    refine (resolve_agrees e hs).bind fun ⟨ty, g₁⟩ h _ ⟨grown, identity⟩ => ?_
    refine (resolveAll_agrees rest (hs.mono grown.keeps)).bind fun ⟨tys, g₂⟩ is _ ⟨more, ids⟩ => ?_
    refine .ok ⟨(grown.mono fun _ hm => ?_).trans (more.mono fun _ hm => ?_), ?_⟩
    · exact hm.mono (List.subset_append_left ..)
    · exact hm.mono (List.subset_append_right ..)
    · exact .cons (more.keeps.identity _ _ identity) ids

end

end Scope

end TypeSchema.GraphFile
