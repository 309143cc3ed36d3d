import TypeSchema.Proofs.Graph.Identity
import TypeSchema.Proofs.GraphFile.Fields
import TypeSchema.Proofs.TypeExpr.Names

/-!
# Graph files — how graphs are made

The graph of a file is made in steps of three kinds (`Made`): a type that an expression asks for is
interned, a type is declared for an entry, or an entry changes a type that is declared for it
(`build_made`).  So an invariant of graphs needs to be proved for three steps only.

A type that no entry declares keeps the descriptor that it was interned with, which is `Natural`:
its shape is the one that its identity spells (`Made.natural_of_not`).  If the namespaces of the
entries have no brackets and no commas, the identities of all types are nested (`Made.nested`).
-/

namespace TypeSchema

open TypeGraph

namespace GraphFile

/-! ### Types that expressions ask for -/

/-- What an expression that is the name of no entry is interned with. -/
inductive Natural (g : TypeGraph) : TypeDescriptor → Prop where
  | scalar {keyword : String} {kind : ScalarKind} (h : ScalarKind.ofKeyword? keyword = some kind) :
      Natural g { identity := kind.name, name := kind.name, shape := .scalar kind }
  | array {element : TypeId} {i : String} (known : g.identity? element = some i) :
      Natural g {
        identity := i ++ "[]", name := "Array", genericArgs := [element], shape := .array element }
  | generic {name : String} (chars : ∀ c ∈ name.toList, TypeExpr.isNameChar c) {tys : List TypeId}
      (nonempty : tys ≠ []) {is : List String} (ids : g.Identified tys is) :
      Natural g (genericDescriptor g name tys)

section Identity

variable {g : TypeGraph} {tys : List TypeId} {is : List String} (ids : g.Identified tys is)
include ids

/-- The identity of a generic type is its name with the identities of its arguments in brackets. -/
theorem toList_genericIdentity (nonempty : tys ≠ []) (outer : String) :
    (g.genericIdentity outer tys).toList =
      outer.toList ++ '<' :: [','].intercalate (is.map String.toList) ++ ['>'] := by
  rw [genericIdentity, if_neg (by simpa using nonempty), ids.map_identityText]
  simp [String.toList_intercalate]

theorem toList_identity_genericDescriptor (nonempty : tys ≠ []) (name : String) :
    (genericDescriptor g name tys).identity.toList = (CollectionKind.ofName name).name.toList ++
      '<' :: [','].intercalate (is.map String.toList) ++ ['>'] :=
  toList_genericIdentity ids nonempty _

/-- Brackets close in it if they do in its parts. -/
theorem nested_genericIdentity {outer : String} (nested : Nested outer.toList)
    (args : ∀ i ∈ is, Nested i.toList) : Nested (g.genericIdentity outer tys).toList := by
  by_cases empty : tys = []
  · rw [genericIdentity, if_pos (by simpa using empty)]
    exact nested
  · rw [toList_genericIdentity ids empty]
    exact nested.bracketed (by simpa using args)

end Identity

/-- The name of a collection has the characters of names. -/
theorem isNameChar_ofName {name : String} (chars : ∀ c ∈ name.toList, TypeExpr.isNameChar c) :
    ∀ c ∈ (CollectionKind.ofName name).name.toList, TypeExpr.isNameChar c := by
  unfold CollectionKind.ofName
  split <;> first | exact List.all_eq_true.1 (by decide +kernel) | exact chars

/-- A text of name characters has no brackets. -/
theorem nested_of_chars {name : String} (chars : ∀ c ∈ name.toList, TypeExpr.isNameChar c) :
    Nested name.toList :=
  nested_of_plain fun c hc => by
    have char := chars c hc
    rw [List.mem_cons, List.mem_cons, List.mem_singleton]
    rintro (rfl | rfl | rfl) <;> exact absurd char (by decide)

namespace Natural

variable {g : TypeGraph} {d : TypeDescriptor}

theorem mono {g' : TypeGraph} (h : Natural g d) (keeps : g.Keeps g') : Natural g' d := by
  cases h with
  | scalar h => exact .scalar h
  | array known => exact .array (keeps.identity _ _ known)
  | generic chars nonempty ids =>
    rw [← genericDescriptor_of_keeps ids keeps]
    exact .generic chars nonempty (keeps.identified ids)

/-- The identity of a natural type is nested if those of its parts are. -/
theorem nested (h : Natural g d) (all : ∀ ty i, g.identity? ty = some i → Nested i.toList) :
    Nested d.identity.toList := by
  cases h with
  | scalar h =>
    refine nested_of_plain fun c hc => ?_
    have plain := ScalarKind.plain_name h c hc
    simp only [List.mem_cons, not_or] at plain ⊢
    exact ⟨plain.1, plain.2.1, plain.2.2.1, plain.2.2.2.2⟩
  | array known =>
    rw [String.toList_append]
    exact (all _ _ known).append (nested_of_plain (by simp))
  | generic chars nonempty ids =>
    refine nested_genericIdentity ids (nested_of_chars (isNameChar_ofName chars)) fun i hi => ?_
    obtain ⟨ty, -, known⟩ := exists_left_of_mem ids hi
    exact all ty i known

end Natural

/-! ### Steps -/

/-- The namespace of the entry has no brackets and no commas. -/
def TypeEntry.HasPlainNamespace (entry : TypeEntry) : Prop :=
  ∀ ns ∈ entry.ns?, ∀ c ∈ ns.toList, c ∉ ['<', ',', '>']

theorem nested_qualify {ns? : Option String} (plain : ∀ ns ∈ ns?, ∀ c ∈ ns.toList,
    c ∉ ['<', ',', '>']) {name : String} (nested : Nested name.toList) :
    Nested (qualify ns? name).toList := by
  cases ns? with
  | none => exact nested
  | some ns =>
    rw [qualify]
    split
    · exact nested
    · rw [String.toList_append, String.toList_append]
      exact ((nested_of_plain (plain ns rfl)).append (nested_of_plain (by simp))).append nested

/-- The graphs that are made for some entries, of whose types those with `D` are declared. -/
inductive Made (entries : List TypeEntry) (D : TypeId → Prop) : TypeGraph → Prop where
  | empty : Made entries D .empty
  /-- An expression asks for a type. -/
  | natural {g : TypeGraph} (h : Made entries D g) {d : TypeDescriptor} (natural : Natural g d) :
      Made entries D (g.intern d).2
  /-- A type is declared for an entry. -/
  | declared {g : TypeGraph} (h : Made entries D g) {entry : TypeEntry} (mem : entry ∈ entries)
      {name : String} (chars : ∀ c ∈ name.toList, TypeExpr.isNameChar c) {tys : List TypeId}
      {is : List String} (ids : g.Identified tys is)
      (own : D (g.declareGeneric (qualify entry.ns? name) tys).1) :
      Made entries D (g.declareGeneric (qualify entry.ns? name) tys).2
  /-- An entry changes its type. -/
  | defined {g : TypeGraph} (h : Made entries D g) {ty : TypeId} (own : D ty) (entry : TypeEntry)
      (shape : Shape) : Made entries D (g.modify ty (entry.redefine shape))

namespace Made

variable {entries : List TypeEntry} {D : TypeId → Prop} {g : TypeGraph}

/-- **A type that no entry declares is natural.** -/
theorem natural_of_not (h : Made entries D g) {ty : TypeId} {d : TypeDescriptor}
    (known : g.describe? ty = some d) (other : ¬ D ty) : Natural g d := by
  induction h generalizing ty d with
  | empty => cases known
  | @natural g _ d' natural ih =>
    have keeps := intern_keeps g d'
    rcases describe?_intern g d' ty with same | ⟨-, -, new⟩
    · exact (ih (same ▸ known) other).mono keeps
    · obtain rfl := Option.some.inj (new.symm.trans known)
      exact natural.mono keeps
  | @declared g _ _ _ _ _ tys _ _ own ih =>
    rcases describe?_intern g _ ty with same | ⟨-, same, -⟩
    · exact (ih (same ▸ known) other).mono (intern_keeps g _)
    · exact absurd (same ▸ own) other
  | @defined g _ ty' own entry shape ih =>
    have keeps : g.Keeps (g.modify ty' (entry.redefine shape)) :=
      modify_keeps g (f := entry.redefine shape) (fun _ => rfl) ty'
    rw [describe?_modify, if_neg (by rintro rfl; exact other own)] at known
    exact (ih known other).mono keeps

/-- **All identities are nested**, if the namespaces have no brackets and no commas. -/
theorem nested (h : Made entries D g) (plain : ∀ entry ∈ entries, entry.HasPlainNamespace)
    (ty : TypeId) (i : String) (known : g.identity? ty = some i) : Nested i.toList := by
  induction h generalizing ty i with
  | empty => cases known
  | @natural g _ d natural ih =>
    rcases describe?_intern g d ty with same | ⟨-, -, new⟩
    · exact ih ty i (by rwa [identity?, ← same])
    · rw [identity?, new] at known
      cases known
      exact natural.nested ih
  | @declared g _ entry mem _ chars _ is ids own ih =>
    rcases describe?_intern g _ ty with same | ⟨-, -, new⟩
    · exact ih ty i (by rwa [identity?, ← same])
    · rw [declareGeneric, identity?, new] at known
      cases known
      refine nested_genericIdentity ids (nested_qualify (plain entry mem) (nested_of_chars chars))
        fun i hi => ?_
      obtain ⟨ty, -, known⟩ := exists_left_of_mem ids hi
      exact ih ty i known
  | @defined g _ ty' own entry shape ih =>
    have same := identity?_modify (g := g) (f := entry.redefine shape) (fun _ => rfl) ty' ty
    exact ih ty i (same ▸ known)

end Made

/-! ### Resolving -/

section Run

variable {entries : List TypeEntry} {D : TypeId → Prop} {s : Scope} {ns? : Option String}
  {names : Denotation}

namespace Scope

mutual

/-- **Resolving an expression** interns natural types. -/
theorem resolve_made {g : TypeGraph} {r : TypeId × TypeGraph} : (e : TypeExpr) → e.Proper →
    s.Finds g ns? names → Made entries D g → s.resolve ns? e g = .ok r → Made entries D r.2
  | .array e, proper, finds, made, h => by
    rw [resolve] at h
    obtain ⟨⟨element, g₁⟩, he, h⟩ := except_bind_ok_iff.1 h
    cases h
    obtain ⟨head, -, -, identity⟩ := (resolve_agrees e finds).exists_right he
    have natural := Natural.array identity
    rw [← identityText_of_identity? identity] at natural
    exact .natural (resolve_made e proper.array finds made he) natural
  | .nullable e, proper, finds, made, h => by
    rw [resolve] at h
    obtain ⟨⟨inner, g₁⟩, he, h⟩ := except_bind_ok_iff.1 h
    cases h
    obtain ⟨head, -, -, identity⟩ := (resolve_agrees e finds).exists_right he
    have ids : g₁.Identified [inner] [head.identity] := .cons identity .nil
    have natural : Natural g₁ (genericDescriptor g₁ "Nullable" [inner]) :=
      .generic (List.all_eq_true.1 (by decide +kernel)) (by simp) ids
    exact .natural (resolve_made e proper.nullable finds made he) natural
  | .named name args, proper, finds, made, h => by
    rcases resolve_named_cases h with ⟨ty, -, rfl⟩ |
      ⟨-, ⟨-, kind, keyword, rfl⟩ | ⟨nonempty, tys, g₁, all, rfl⟩⟩
    · exact made
    · exact .natural made (.scalar keyword)
    · obtain ⟨is, denoted, -, ids⟩ := (resolveAll_agrees args finds).exists_right all
      have some : tys ≠ [] := fun none => nonempty <| by
        have length := (length_of_denoteAll denoted).symm.trans ids.length_eq.symm
        rw [none] at length
        exact List.isEmpty_iff_length_eq_zero.2 length
      exact .natural (resolveAll_made args proper.all finds made all)
        (.generic proper.chars some ids)

/-- Resolving expressions adds natural types only. -/
theorem resolveAll_made {g : TypeGraph} {r : List TypeId × TypeGraph} : (es : List TypeExpr) →
    TypeExpr.AllProper es → s.Finds g ns? names → Made entries D g →
      s.resolveAll ns? es g = .ok r → Made entries D r.2
  | [], _, _, made, h => by
    cases h
    exact made
  | e :: rest, proper, finds, made, h => by
    rw [resolveAll] at h
    obtain ⟨⟨ty, g₁⟩, he, h⟩ := except_bind_ok_iff.1 h
    obtain ⟨⟨tys, g₂⟩, hr, h⟩ := except_bind_ok_iff.1 h
    cases h
    obtain ⟨-, -, grown, -⟩ := (resolve_agrees e finds).exists_right he
    have made₁ := resolve_made e proper.head finds made he
    have made₂ := resolveAll_made rest proper.tail (finds.mono grown.keeps) made₁ hr
    exact made₂

end

end Scope

theorem proper_of_parseExpr {src : String} {e : TypeExpr} (h : parseExpr src = .ok e) : e.Proper :=
  TypeExpr.proper_of_parse (parse_of_parseExpr h)

/-! ### Declaring and defining -/

theorem declareEntry_made {s' : Scope} {g g' : TypeGraph} {entry : TypeEntry} {d : Declaration}
    (mem : entry ∈ entries) (finds : s.Finds g entry.ns? names) (made : Made entries D g)
    (h : declareEntry s g entry = .ok (d, s', g')) (own : D d.type) : Made entries D g' := by
  obtain ⟨name, args, tys, g₁, n, parsed, all, declared, -⟩ := exists_of_declareEntry h
  have proper := proper_of_parseExpr parsed
  obtain ⟨is, -, -, ids⟩ := (Scope.resolveAll_agrees args finds).exists_right all
  have made₁ := Scope.resolveAll_made args proper.all finds made all
  have own' : D (g₁.declareGeneric (qualify entry.ns? name) tys).1 := by rwa [declared]
  have made₂ := Made.declared made₁ mem proper.chars ids own'
  rwa [declared] at made₂

/-- Declarations add types of their own and natural ones. -/
theorem declareAll_made {s' : Scope} {g g' : TypeGraph} {known : List (Name Head)}
    {es : List (TypeEntry × Nat)} {placed : List (Nat × Declaration)}
    (mem : ∀ e ∈ es, e.1 ∈ entries) (hs : s.Names g known) (made : Made entries D g)
    (h : declareAll s g es = .ok (placed, s', g')) (own : ∀ d ∈ placed.map (·.2), D d.type) :
    Made entries D g' := by
  induction es generalizing s g known placed with
  | nil => cases h; exact made
  | cons e rest ih =>
    obtain ⟨⟨d, s₁, g₁⟩, hd, h⟩ := except_bind_ok_iff.1 h
    obtain ⟨⟨ds, s₂, g₂⟩, hr, h⟩ := except_bind_ok_iff.1 h
    cases h
    obtain ⟨n, -, declared⟩ := (declareEntry_agrees hs e.1).exists_right hd
    have made₁ := declareEntry_made (mem e List.mem_cons_self) (hs.finds _) made hd
      (own d List.mem_cons_self)
    exact ih (fun e he => mem e (List.mem_cons_of_mem _ he)) declared.names made₁ hr
      fun d hd => own d (List.mem_cons_of_mem _ hd)

/-- Building parts one after the other makes what building each of them makes. -/
theorem buildAll_made {α β : Type} {build : TypeGraph → α → Except BuildError (β × TypeGraph)}
    (step : ∀ {g a r}, s.Finds g ns? names → Made entries D g → build g a = .ok r →
      g.Keeps r.2 ∧ Made entries D r.2)
    {g : TypeGraph} {as : List α} {r : List β × TypeGraph} (finds : s.Finds g ns? names)
    (made : Made entries D g) (h : buildAll build g as = .ok r) :
    g.Keeps r.2 ∧ Made entries D r.2 := by
  induction as generalizing g r with
  | nil => cases h; exact ⟨.refl g, made⟩
  | cons a rest ih =>
    obtain ⟨⟨b, g₁⟩, hb, h⟩ := except_bind_ok_iff.1 h
    obtain ⟨⟨bs, g₂⟩, hr, h⟩ := except_bind_ok_iff.1 h
    cases h
    obtain ⟨keeps, made₁⟩ := step finds made hb
    obtain ⟨keeps', made₂⟩ := ih (finds.mono keeps) made₁ hr
    exact ⟨keeps.trans keeps', made₂⟩

theorem buildField_made {g : TypeGraph} {f : FieldEntry} {r : Field × TypeGraph}
    (finds : s.Finds g ns? names) (made : Made entries D g) (h : buildField s ns? g f = .ok r) :
    g.Keeps r.2 ∧ Made entries D r.2 := by
  refine ⟨(realizes_buildField.sound finds h).1.keeps, ?_⟩
  obtain ⟨e, parsed, h⟩ := except_bind_ok_iff.1 h
  obtain ⟨⟨ty, g₁⟩, resolved, h⟩ := except_bind_ok_iff.1 h
  cases h
  exact Scope.resolve_made e (proper_of_parseExpr (within_ok_iff.1 parsed)) finds made
    (within_ok_iff.1 resolved)

theorem buildCapability_made {g : TypeGraph} {src : String} {r : Capability × TypeGraph}
    (finds : s.Finds g ns? names) (made : Made entries D g)
    (h : buildCapability s ns? g src = .ok r) : g.Keeps r.2 ∧ Made entries D r.2 := by
  refine ⟨(realizes_buildCapability.sound finds h).1.keeps, ?_⟩
  obtain ⟨name, args, parsed, resolved, -⟩ := buildCapability_ok_iff.1 h
  exact Scope.resolveAll_made args (proper_of_parseExpr parsed).all finds made resolved

/-- Building a shape adds natural types only. -/
theorem buildShape_made {names : Option String → Denotation} {g : TypeGraph} {entry : TypeEntry}
    {r : Shape × TypeGraph} (finds : s.FindsAll g names) (made : Made entries D g)
    (h : buildShape s g entry = .ok r) : Made entries D r.2 := by
  cases kind : entry.kind with
  | scalar =>
    obtain ⟨-, -, rfl⟩ := (buildShape_scalar_ok_iff kind).1 h
    exact made
  | enumeration =>
    obtain ⟨-, -, rfl⟩ := (buildShape_enumeration_ok_iff kind).1 h
    exact made
  | object =>
    obtain ⟨xs, g₁, cs, g₂, hxs, hcs, rfl⟩ := (buildShape_object_ok_iff kind).1 h
    have own := finds entry.ns?
    obtain ⟨keeps, made₁⟩ := buildAll_made buildField_made own made hxs
    exact (buildAll_made buildCapability_made (own.mono keeps) made₁ hcs).2

/-- Definitions change declared types only. -/
theorem defineAll_made {names : Option String → Denotation} {g G : TypeGraph}
    {ds : List (TypeEntry × Declaration)} (finds : s.FindsAll g names) (made : Made entries D g)
    (h : defineAll s g ds = .ok G) (own : ∀ p ∈ ds, D p.2.type) : Made entries D G := by
  induction ds generalizing g with
  | nil => cases h; exact made
  | cons p rest ih =>
    obtain ⟨g₁, hd, h⟩ := except_bind_ok_iff.1 h
    have keeps := (defineEntry_defined finds hd).keeps
    obtain ⟨shape, g₂, built, rfl⟩ := defineEntry_ok_iff.1 hd
    have made₁ := (buildShape_made finds made built).defined (own p List.mem_cons_self) p.1 shape
    exact ih (finds.mono keeps) made₁ h fun p hp => own p (List.mem_cons_of_mem _ hp)

end Run

/-- The type is declared for an entry. -/
def LoadedGraph.Declares (l : LoadedGraph) (ty : TypeId) : Prop := ∃ d ∈ l.declared, d.type = ty

/-- **The graph of a file is made in such steps.** -/
theorem build_made {entries : List TypeEntry} {l : LoadedGraph} (h : build entries = .ok l) :
    Made entries l.Declares l.graph := by
  obtain ⟨s, g, heads, finished⟩ := build_finished h
  obtain ⟨placed, hp, perm⟩ := finished.placed
  refine defineAll_made finished.finds (declareAll_made (fun e he => ?_) Scope.names_empty .empty hp
    fun d hd => ⟨d, perm.mem_iff.1 hd, rfl⟩) finished.defined
      fun p hp => ⟨p.2, (List.of_mem_zip hp).2, rfl⟩
  exact List.fst_mem_of_mem_zipIdx ((perm_declarationOrder entries).mem_iff.1 he)

end GraphFile

end TypeSchema
