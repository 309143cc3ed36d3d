import TypeSchema.Proofs.GraphFile.Making

/-!
# Graph files — the types of parts

While an expression is resolved its parts are resolved, but for the generic arguments in the name of
an entry (`Visits`).  Where an expression stands for a type of the finished graph, so do these parts
(`LoadedGraph.Finished.resolves_of_visits`), and the identity of the type is made of their
identities.
-/

namespace TypeSchema

open TypeGraph

namespace GraphFile

/-- The second expression is resolved while the first one is. -/
inductive Visits (s : Scope) (ns? : Option String) : TypeExpr → TypeExpr → Prop where
  | self (e : TypeExpr) : Visits s ns? e e
  | array {e x : TypeExpr} (h : Visits s ns? e x) : Visits s ns? (.array e) x
  | nullable {e x : TypeExpr} (h : Visits s ns? e x) : Visits s ns? (.nullable e) x
  | argument {name : String} {args : List TypeExpr} {e x : TypeExpr}
      (unfound : s.lookup ns? (TypeExpr.named name args).spelling = .ok none) (mem : e ∈ args)
      (h : Visits s ns? e x) : Visits s ns? (.named name args) x

namespace LoadedGraph

variable {l : LoadedGraph} {ns? : Option String}

/-- An expression resolves to one type. -/
theorem Resolves.eq {e : TypeExpr} {ty ty' : TypeId} (h : l.Resolves ns? e ty)
    (h' : l.Resolves ns? e ty') : ty = ty' :=
  congrArg Prod.fst (Except.ok.inj (h.symm.trans h'))

/-- The type that an expression stands for is the one that can be seen. -/
theorem Resolves.eq_of_view {e : TypeExpr} {ty ty' : TypeId} (h : l.Resolves ns? e ty)
    (view : (l.scope.resolve ns? e l.graph).toOption.map (·.1) = some ty') : ty = ty' := by
  rw [show l.scope.resolve ns? e l.graph = _ from h] at view
  exact Option.some.inj view

namespace Finished

variable {entries : List TypeEntry} {s : Scope} {g : TypeGraph} {heads : List (Name Head)}
  (finished : l.Finished entries s g heads)
include finished

/-- An array resolves after its element, to the type of that element's list. -/
theorem resolves_array {e : TypeExpr} {ty : TypeId} (h : l.Resolves ns? (.array e) ty) :
    ∃ element i, l.Resolves ns? e element ∧ l.graph.identity? element = some i ∧
      l.graph.identity? ty = some (i ++ "[]") := by
  rw [Resolves, Scope.resolve] at h
  obtain ⟨⟨element, g₁⟩, he, h⟩ := except_bind_ok_iff.1 h
  obtain ⟨head, -, grown, known⟩ :=
    (Scope.resolve_agrees e (finished.findsAll ns?)).exists_right he
  have indexed := grown.indexed finished.of.indexed
  obtain ⟨keeps, identity⟩ := of_intern_eq indexed (Except.ok.inj h)
  have resolves : l.Resolves ns? e element :=
    Scope.resolve_again e (finished.findsAll ns?) he keeps
  rw [identityText_of_identity? known] at identity
  exact ⟨element, _, resolves, keeps.identity _ _ known, identity⟩

/-- A nullable expression resolves after what it wraps. -/
theorem resolves_nullable {e : TypeExpr} {ty : TypeId} (h : l.Resolves ns? (.nullable e) ty) :
    ∃ inner i, l.Resolves ns? e inner ∧ l.graph.identity? inner = some i ∧
      l.graph.identity? ty = some (l.graph.genericIdentity "Nullable" [inner]) := by
  rw [Resolves, Scope.resolve] at h
  obtain ⟨⟨inner, g₁⟩, he, h⟩ := except_bind_ok_iff.1 h
  obtain ⟨head, -, grown, known⟩ :=
    (Scope.resolve_agrees e (finished.findsAll ns?)).exists_right he
  have indexed := grown.indexed finished.of.indexed
  obtain ⟨keeps, identity⟩ := of_intern_eq indexed (Except.ok.inj h)
  have resolves : l.Resolves ns? e inner :=
    Scope.resolve_again e (finished.findsAll ns?) he keeps
  have ids : g₁.Identified [inner] [head.identity] := .cons known .nil
  rw [← genericIdentity_of_keeps ids keeps] at identity
  exact ⟨inner, _, resolves, keeps.identity _ _ known, identity⟩

theorem resolves_all {es : List TypeExpr} {tys : List TypeId}
    (h : l.scope.resolveAll ns? es l.graph = .ok (tys, l.graph)) :
    List.Forall₂ (l.Resolves ns?) es tys := by
  induction es generalizing tys with
  | nil => cases h; exact .nil
  | cons e rest ih =>
    have finds := finished.findsAll ns?
    rw [Scope.resolveAll] at h
    obtain ⟨⟨ty, g₁⟩, he, h⟩ := except_bind_ok_iff.1 h
    obtain ⟨⟨tys, g₂⟩, hr, h⟩ := except_bind_ok_iff.1 h
    cases h
    obtain ⟨-, -, grown, -⟩ := (Scope.resolve_agrees e finds).exists_right he
    have finds₁ := finds.mono grown.keeps
    obtain ⟨-, -, more, -⟩ := (Scope.resolveAll_agrees rest finds₁).exists_right hr
    exact .cons (Scope.resolve_again e finds he more.keeps)
      (ih (Scope.resolveAll_again rest finds₁ hr (.refl _)))

/-- A generic expression that is not found by name resolves after its arguments. -/
theorem resolves_generic {name : String} {args : List TypeExpr} {ty : TypeId}
    (unfound : l.scope.lookup ns? (TypeExpr.named name args).spelling = .ok none)
    (nonempty : ¬ args.isEmpty) (h : l.Resolves ns? (.named name args) ty) :
    ∃ tys is, List.Forall₂ (l.Resolves ns?) args tys ∧ l.graph.Identified tys is ∧
      l.graph.identity? ty =
        some (l.graph.genericIdentity (CollectionKind.ofName name).name tys) := by
  rcases Scope.resolve_named_cases h with ⟨_, found, -⟩ |
    ⟨-, ⟨empty, -⟩ | ⟨-, tys, g₁, all, eq⟩⟩
  · cases unfound.symm.trans found
  · exact absurd empty nonempty
  · have finds := finished.findsAll ns?
    obtain ⟨is, -, grown, ids⟩ := (Scope.resolveAll_agrees args finds).exists_right all
    have indexed := grown.indexed finished.of.indexed
    obtain ⟨keeps, identity⟩ := of_intern_eq indexed eq.symm
    have again := Scope.resolveAll_again args finds all keeps
    refine ⟨tys, is, finished.resolves_all again, keeps.identified ids, identity.trans ?_⟩
    exact congrArg some (genericIdentity_of_keeps ids keeps _).symm

/-- **What is resolved on the way** stands for a type of the graph. -/
theorem resolves_of_visits {e x : TypeExpr} (h : Visits l.scope ns? e x) {ty : TypeId}
    (resolves : l.Resolves ns? e ty) : ∃ ty', l.Resolves ns? x ty' := by
  induction h generalizing ty with
  | self => exact ⟨ty, resolves⟩
  | array _ ih =>
    obtain ⟨element, -, part, -⟩ := finished.resolves_array resolves
    exact ih part
  | nullable _ ih =>
    obtain ⟨inner, -, part, -⟩ := finished.resolves_nullable resolves
    exact ih part
  | @argument _ args _ _ unfound mem _ ih =>
    have nonempty : ¬ args.isEmpty := by simpa using List.ne_nil_of_mem mem
    obtain ⟨tys, -, parts, -⟩ := finished.resolves_generic unfound nonempty resolves
    obtain ⟨ty', -, part⟩ := exists_right_of_mem parts mem
    exact ih part

end Finished

end LoadedGraph

end GraphFile

end TypeSchema
