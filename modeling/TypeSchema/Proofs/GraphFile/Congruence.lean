import TypeSchema.Proofs.GraphFile.Parts

/-!
# Graph files — the spelling of generic arguments

A generic name that no entry has stands for an abstraction of what its arguments stand for, however
they are spelled.  But an entry is found by the spelling of its whole name, arguments included,
before the arguments are resolved.  So two generic names with arguments of the same types stand for
one type if no entry has either name; if an entry has one of them, they do if the type of the entry
is the abstraction that the other one stands for (`build_congruent`).
-/

namespace TypeSchema

open TypeGraph

namespace GraphFile

/-- Names are looked up in the same way from two spellings of one namespace. -/
theorem Scope.lookup_congr {ns? ns?' : Option String} (h : qualify ns? = qualify ns?') (s : Scope) :
    s.lookup ns? = s.lookup ns?' := by
  funext spelling
  rw [lookup, lookup, h]

namespace LoadedGraph

variable {l : LoadedGraph} {ns? : Option String}

/-- The two expressions are resolved to one type, which may be new. -/
def SameType (l : LoadedGraph) (ns? : Option String) (a b : TypeExpr) : Prop :=
  ∃ ty g g', l.scope.resolve ns? a l.graph = .ok (ty, g) ∧ l.scope.resolve ns? b g = .ok (ty, g')

/-- Expressions of the same type resolve to one handle. -/
theorem SameType.eq {a b : TypeExpr} {ty ty' : TypeId} (h : l.SameType ns? a b)
    (ha : l.Resolves ns? a ty) (hb : l.Resolves ns? b ty') : ty = ty' := by
  obtain ⟨_, _, _, ha', hb'⟩ := h
  cases Except.ok.inj (ha.symm.trans ha')
  cases Except.ok.inj (hb.symm.trans hb')
  rfl

/-- Expressions that are resolved to the same types, one by one, stand for the same types. -/
theorem eq_of_sameType {as bs : List TypeExpr} {tys tys' : List TypeId}
    (h : List.Forall₂ (l.SameType ns?) as bs) (ha : List.Forall₂ (l.Resolves ns?) as tys)
    (hb : List.Forall₂ (l.Resolves ns?) bs tys') : tys = tys' := by
  induction h generalizing tys tys' with
  | nil => cases ha; cases hb; rfl
  | cons same _ ih =>
    cases ha with
    | cons first more => cases hb with
      | cons first' more' => rw [same.eq first first', ih more more']

/-- The name of an entry stands for its type. -/
theorem Resolves.eq_of_found {name : String} {args : List TypeExpr} {ty t : TypeId}
    (h : l.Resolves ns? (.named name args) ty)
    (found : l.scope.lookup ns? (TypeExpr.named name args).spelling = .ok (some t)) : ty = t :=
  congrArg Prod.fst (Except.ok.inj (h.symm.trans (Scope.resolve_found found)))

/-- The type has the identity of the abstraction with these arguments. -/
def IsAbstraction (l : LoadedGraph) (ns? : Option String) (name : String) (args : List TypeExpr)
    (ty : TypeId) : Prop :=
  ∃ tys, List.Forall₂ (l.Resolves ns?) args tys ∧
    l.graph.identity? ty = some (l.graph.genericIdentity (CollectionKind.ofName name).name tys)

namespace Finished

variable {entries : List TypeEntry} {s : Scope} {g : TypeGraph} {heads : List (Name Head)}
  (finished : l.Finished entries s g heads)
include finished

/-- What a generic name that no entry has stands for is the only type of its identity. -/
theorem eq_iff_isAbstraction {name : String} {args : List TypeExpr} {ty t : TypeId}
    (unfound : l.scope.lookup ns? (TypeExpr.named name args).spelling = .ok none)
    (nonempty : ¬ args.isEmpty) (h : l.Resolves ns? (.named name args) ty) :
    t = ty ↔ l.IsAbstraction ns? name args t := by
  obtain ⟨tys, -, parts, -, identity⟩ := finished.resolves_generic unfound nonempty h
  constructor
  · rintro rfl
    exact ⟨tys, parts, identity⟩
  · rintro ⟨tys', parts', identity'⟩
    have unique : Relator.RightUnique (l.Resolves ns?) := fun _ _ _ h h' => h.eq h'
    obtain rfl := unique.forall₂ parts parts'
    exact finished.of.distinct _ _ _ identity' identity

end Finished

end LoadedGraph

/-- How the types of two generic names with the same outer name are related, if their arguments are
resolved to the same types. -/
structure LoadedGraph.Congruent (l : LoadedGraph) (ns? : Option String) (name : String)
    (as bs : List TypeExpr) (ty ty' : TypeId) : Prop where
  /-- Names of no entry stand for one type. -/
  unfound : l.scope.lookup ns? (TypeExpr.named name as).spelling = .ok none →
    l.scope.lookup ns? (TypeExpr.named name bs).spelling = .ok none → ty = ty'
  /-- The name of an entry stands for its type, and the other name for the abstraction. -/
  left : ∀ t, l.scope.lookup ns? (TypeExpr.named name as).spelling = .ok (some t) → ty = t ∧
    (l.scope.lookup ns? (TypeExpr.named name bs).spelling = .ok none →
      (ty = ty' ↔ l.IsAbstraction ns? name bs t))
  right : ∀ t, l.scope.lookup ns? (TypeExpr.named name bs).spelling = .ok (some t) → ty' = t ∧
    (l.scope.lookup ns? (TypeExpr.named name as).spelling = .ok none →
      (ty' = ty ↔ l.IsAbstraction ns? name as t))

/-- **The spelling of generic arguments.**  Two generic names in one namespace with the same outer
name, and with arguments that are resolved to the same types, stand for one type if neither is the
name of an entry.  The name of an entry stands for the type of the entry; another name stands for
that type exactly if the type has the identity of the abstraction that this name spells. -/
theorem build_congruent {entries : List TypeEntry} {l : LoadedGraph} (h : build entries = .ok l)
    {p p' : TypeEntry × Declaration} (hp : p ∈ entries.zip l.declared)
    (hp' : p' ∈ entries.zip l.declared) (object : p.1.kind = .object)
    (object' : p'.1.kind = .object) (ns : qualify p.1.ns? = qualify p'.1.ns?) {i j : Nat}
    {f f' : FieldEntry} (hf : p.1.fields[i]? = some f) (hf' : p'.1.fields[j]? = some f')
    {name : String} {as bs : List TypeExpr} (parsed : parseExpr f.type = .ok (.named name as))
    (parsed' : parseExpr f'.type = .ok (.named name bs)) (generic : as ≠ [])
    (same : List.Forall₂ (l.SameType p.1.ns?) as bs) :
    ∃ ty ty', FieldType entries l p i (.named name as) ty ∧
      FieldType entries l p' j (.named name bs) ty' ∧ l.Congruent p.1.ns? name as bs ty ty' := by
  obtain ⟨ty, typed⟩ := exists_fieldType h hp object hf parsed
  obtain ⟨ty', typed'⟩ := exists_fieldType h hp' object' hf' parsed'
  obtain ⟨s, g, heads, finished⟩ := build_finished h
  have resolves := typed.resolves
  have resolves' : l.Resolves p.1.ns? (.named name bs) ty' := by
    rw [LoadedGraph.Resolves, Scope.resolve_congr (Scope.lookup_congr ns _)]
    exact typed'.resolves
  have nonempty : ¬ as.isEmpty := by simpa using generic
  have nonempty' : ¬ bs.isEmpty := by
    rwa [List.isEmpty_iff_length_eq_zero, ← same.length_eq, ← List.isEmpty_iff_length_eq_zero]
  refine ⟨ty, ty', typed, typed', fun unfound unfound' => ?_, fun t found => ?_, fun t found => ?_⟩
  · obtain ⟨tys, -, parts, -, -⟩ := finished.resolves_generic unfound nonempty resolves
    obtain ⟨tys', -, parts', -, identity⟩ := finished.resolves_generic unfound' nonempty' resolves'
    obtain rfl := LoadedGraph.eq_of_sameType same parts parts'
    exact ((finished.eq_iff_isAbstraction unfound nonempty resolves).2 ⟨tys, parts, identity⟩).symm
  · obtain rfl := resolves.eq_of_found found
    exact ⟨rfl, fun unfound => finished.eq_iff_isAbstraction unfound nonempty' resolves'⟩
  · obtain rfl := resolves'.eq_of_found found
    exact ⟨rfl, fun unfound => finished.eq_iff_isAbstraction unfound nonempty resolves⟩

/-- What can be computed of two expressions that resolve to one handle. -/
theorem sameType_of_view {l : LoadedGraph} {ns? : Option String} {a b : TypeExpr}
    (h : (l.scope.resolve ns? a l.graph).toOption.bind (fun r =>
      (l.scope.resolve ns? b r.2).toOption.map fun r' => decide (r.1 = r'.1)) = some true) :
    l.SameType ns? a b := by
  obtain ⟨⟨ty, g⟩, ha, h⟩ := Option.bind_eq_some_iff.1 h
  obtain ⟨⟨ty', g'⟩, hb, same⟩ := Option.map_eq_some_iff.1 h
  obtain rfl := of_decide_eq_true same
  exact ⟨ty, g, g', toOption_eq_some_iff.1 ha, toOption_eq_some_iff.1 hb⟩

/-- The names that a generic expression with one argument consists of. -/
def genericNames? : TypeExpr → Option (String × String)
  | .named name [a] => (plainName? a).map (name, ·)
  | _ => none

theorem eq_of_genericNames? {e : TypeExpr} {name arg : String}
    (h : genericNames? e = some (name, arg)) : e = .named name [.named arg []] := by
  match e with
  | .named name' [a] =>
    obtain ⟨arg', plain, eq⟩ := Option.map_eq_some_iff.1 h
    cases eq
    rw [eq_of_plainName? plain]
  | .named _ [] => cases h
  | .named _ (_ :: _ :: _) => cases h
  | .array _ => cases h
  | .nullable _ => cases h

/-- Lists of texts, spelled in two ways. -/
def listsFile : List TypeEntry :=
  [{ bareEntry "Lists" with
      fields := [fieldOf "names" "List<string>", fieldOf "labels" "List<str>"] }]

/-- Two spellings of one list, in a file that is built: their fields have one type. -/
theorem build_congruent_lists : ∃ l p e e' ty, build listsFile = .ok l ∧
    p ∈ listsFile.zip l.declared ∧ FieldType listsFile l p 0 e ty ∧
    FieldType listsFile l p 1 e' ty := by
  let text (name : String) : TypeExpr := .named name []
  have seen : (build listsFile).toOption.map (fun l => (l.declared,
      (l.scope.lookup (some "app") "List<string>").toOption,
      (l.scope.lookup (some "app") "List<str>").toOption,
      (l.scope.resolve (some "app") (text "string") l.graph).toOption.bind fun r =>
        (l.scope.resolve (some "app") (text "str") r.2).toOption.map fun r' =>
          decide (r.1 = r'.1))) =
      some ([⟨"app.Lists", ⟨0⟩⟩], some none, some none, some true) := by decide +kernel
  obtain ⟨l, built, view⟩ := exists_build_of_view seen
  simp only [Prod.mk.injEq] at view
  obtain ⟨declared, unfound, unfound', same⟩ := view
  have read : ∀ arg src, (parseExpr src).toOption.bind genericNames? = some ("List", arg) →
      parseExpr src = .ok (.named "List" [text arg]) :=
    fun _ _ read => parseExpr_of_view genericNames? read fun _ => eq_of_genericNames?
  have hp : (listsFile[0], ⟨"app.Lists", ⟨0⟩⟩) ∈ listsFile.zip l.declared := by
    rw [declared]; exact List.mem_cons_self
  obtain ⟨ty, ty', typed, typed', eq⟩ := build_congruent built hp hp rfl rfl rfl (i := 0) rfl
    (j := 1) rfl (read "string" "List<string>" (by decide +kernel))
    (read "str" "List<str>" (by decide +kernel)) (by simp) (.cons (sameType_of_view same) .nil)
  obtain rfl := eq.unfound (toOption_eq_some_iff.1 unfound) (toOption_eq_some_iff.1 unfound')
  exact ⟨l, _, _, _, ty, built, hp, typed, typed'⟩

/-- A declared page of texts, and a reader of two pages. -/
def pagesFile : List TypeEntry :=
  [bareEntry "Page<string>",
    { bareEntry "Reader" with
      fields := [fieldOf "first" "Page<string>", fieldOf "second" "Page<str>"] }]

/-- An entry is found by the spelling of its arguments. -/
theorem not_build_congruent :
    ¬ ∀ (entries : List TypeEntry) (l : LoadedGraph), build entries = .ok l →
      ∀ p ∈ entries.zip l.declared, ∀ i j name as bs ty ty',
        FieldType entries l p i (.named name as) ty → FieldType entries l p j (.named name bs) ty' →
        List.Forall₂ (l.SameType p.1.ns?) as bs → ty = ty' := by
  intro congruent
  let text (name : String) : TypeExpr := .named name []
  let page (arg : String) : TypeExpr := .named "Page" [text arg]
  have seen : (build pagesFile).toOption.map (fun l => (l.declared,
      (l.scope.resolve (some "app") (page "string") l.graph).toOption.map (·.1),
      (l.scope.resolve (some "app") (page "str") l.graph).toOption.map (·.1),
      (l.scope.resolve (some "app") (text "string") l.graph).toOption.bind fun r =>
        (l.scope.resolve (some "app") (text "str") r.2).toOption.map fun r' =>
          decide (r.1 = r'.1))) =
      some ([⟨"app.Page<string>", ⟨2⟩⟩, ⟨"app.Reader", ⟨0⟩⟩], some ⟨2⟩, some ⟨3⟩, some true) := by
    decide +kernel
  obtain ⟨l, built, view⟩ := exists_build_of_view seen
  simp only [Prod.mk.injEq] at view
  obtain ⟨declared, first, second, same⟩ := view
  have read : ∀ arg src, (parseExpr src).toOption.bind genericNames? = some ("Page", arg) →
      parseExpr src = .ok (page arg) :=
    fun _ _ read => parseExpr_of_view genericNames? read fun _ => eq_of_genericNames?
  have hp : (pagesFile[1], ⟨"app.Reader", ⟨0⟩⟩) ∈ pagesFile.zip l.declared := by
    rw [declared]; exact .tail _ List.mem_cons_self
  obtain ⟨ty, typed⟩ := exists_fieldType built hp rfl (i := 0) rfl
    (read "string" "Page<string>" (by decide +kernel))
  obtain ⟨ty', typed'⟩ := exists_fieldType built hp rfl (i := 1) rfl
    (read "str" "Page<str>" (by decide +kernel))
  obtain rfl := congruent _ l built _ hp 0 1 _ _ _ _ _ typed typed'
    (.cons (sameType_of_view same) .nil)
  cases (typed.resolves.eq_of_view first).symm.trans (typed'.resolves.eq_of_view second)

end GraphFile

end TypeSchema
