import TypeSchema.Proofs.GraphFile.Parts

/-!
# Graph files — the shapes of expressions

An expression stands for a type of the shape that it spells: a keyword for its scalar, `e[]` for the
arrays of `e`, and `e?` for `e` with null.  But types are found by their identities alone, and the
type of an entry may have the identity of a scalar or of a wrapper: then the keyword, or the
wrapper, stands for what the entry declares.  `build_shapes` says that this is the only way in which
the shape can be another one, as long as no namespace has brackets or commas.
-/

namespace TypeSchema

open TypeGraph

namespace GraphFile

/-! ### Natural types by their identities -/

namespace Natural

variable {g : TypeGraph} {d : TypeDescriptor}

/-- A natural type with the identity of a scalar is that scalar. -/
theorem scalar_of_identity (h : Natural g d) {keyword : String} {kind : ScalarKind}
    (isKeyword : ScalarKind.ofKeyword? keyword = some kind) (same : d.identity = kind.name) :
    d.shape = .scalar kind := by
  have plain := ScalarKind.plain_name isKeyword
  cases h with
  | scalar h => exact congrArg Shape.scalar (ScalarKind.eq_of_name_eq h isKeyword same)
  | array known =>
    refine absurd (plain ']' ?_) (by simp)
    rw [← same]
    simp
  | generic _ nonempty ids =>
    refine absurd (plain '<' ?_) (by simp)
    rw [← same, toList_identity_genericDescriptor ids nonempty]
    simp

/-- A natural type whose identity ends as an array's is an array. -/
theorem array_of_identity (h : Natural g d) {i : String} (same : d.identity = i ++ "[]") :
    ∃ element, g.identity? element = some i ∧ d.shape = .array element := by
  have last : d.identity.toList.getLast? = some ']' := by simp [same]
  cases h with
  | scalar h =>
    exact absurd (ScalarKind.plain_name h ']' (List.mem_of_getLast? last)) (by simp)
  | @array element i' known =>
    have texts := congrArg String.toList same
    rw [String.toList_append, String.toList_append] at texts
    exact ⟨element, String.toList_injective (List.append_cancel_right texts) ▸ known, rfl⟩
  | generic _ nonempty ids =>
    rw [toList_identity_genericDescriptor ids nonempty, List.getLast?_concat] at last
    cases last

theorem name_eq_nullable {name : String} (h : (CollectionKind.ofName name).name = "Nullable") :
    name = "Nullable" := by
  unfold CollectionKind.ofName at h
  split at h <;> first | exact absurd h (by decide) | exact h

/-- A natural type with the identity of a nullable one is nullable. -/
theorem nullable_of_identity (h : Natural g d) (distinct : g.Distinct)
    (nested : ∀ ty i, g.identity? ty = some i → Nested i.toList) {inner : TypeId} {i : String}
    (known : g.identity? inner = some i)
    (same : d.identity = g.genericIdentity "Nullable" [inner]) : d.shape = .nullable inner := by
  have ids : g.Identified [inner] [i] := .cons known .nil
  have text := congrArg String.toList same
  rw [toList_genericIdentity ids (by simp)] at text
  cases h with
  | scalar h =>
    refine absurd (ScalarKind.plain_name h '<' ?_) (by simp)
    rw [text]
    simp
  | array =>
    have last := congrArg List.getLast? text
    rw [List.getLast?_concat] at last
    simp at last
  | @generic name chars tys nonempty is ids' =>
    rw [toList_identity_genericDescriptor ids' nonempty] at text
    obtain ⟨outer, args⟩ := append_cons_inj
      (fun mem => absurd (isNameChar_ofName chars '<' mem) (by decide)) (by simp)
      (List.append_cancel_right text)
    obtain rfl := name_eq_nullable (String.toList_injective outer)
    rw [List.map_singleton, List.intercalate_singleton] at args
    cases ids' with
    | nil => exact absurd rfl nonempty
    | cons known' more =>
      cases more with
      | nil =>
        rw [List.map_singleton, List.intercalate_singleton] at args
        obtain rfl := String.toList_injective args
        exact congrArg Shape.nullable (distinct _ _ _ known' known)
      | cons =>
        -- the identity of what is wrapped would be a list of identities
        exact absurd args.symm ((nested _ _ known).ne_intercalate (nested _ _ known') _)

end Natural

/-! ### Types of entries -/

/-- No entry declares an array. -/
theorem TypeEntry.IsNamed.getLast?_ne {entry : TypeEntry} {n : Name Head} (h : entry.IsNamed n) :
    n.target.identity.toList.getLast? ≠ some ']' := by
  obtain ⟨name, is, parsed, -, -, -, target⟩ := h
  obtain ⟨nonempty, chars, -⟩ := TypeExpr.parse_named (parse_of_parseExpr parsed)
  intro last
  by_cases plain : is = []
  · rw [target, plain] at last
    have last : (qualify entry.ns? name).toList.getLast? = some ']' := last
    rw [getLast?_qualify _ nonempty] at last
    exact absurd (chars _ (List.mem_of_getLast? last)) (by decide)
  · rw [target, getLast?_generic plain] at last
    cases last

/-- What is declared for an entry is no scalar of a keyword and no wrapper. -/
structure DeclaredShape (d : TypeDescriptor) : Prop where
  scalar : ∀ {keyword kind}, ScalarKind.ofKeyword? keyword = some kind → d.shape ≠ .scalar kind
  nullable : ∀ inner, d.shape ≠ .nullable inner
  identity : d.identity.toList.getLast? ≠ some ']'

/-- A declared type has the shape that its entries give it. -/
theorem LoadedGraph.Finished.declaredShape {l : LoadedGraph} {entries : List TypeEntry} {s : Scope}
    {g : TypeGraph} {heads : List (Name Head)} (finished : l.Finished entries s g heads)
    {ty : TypeId} (declares : l.Declares ty) :
    ∃ d, l.graph.describe? ty = some d ∧ DeclaredShape d := by
  obtain ⟨dec, hdec, rfl⟩ := declares
  have of := finished.of
  obtain ⟨p, hp, rfl⟩ : ∃ p ∈ entries.zip l.declared, p.2 = dec := by
    rwa [← List.map_snd_zip (Nat.le_of_eq of.length), List.mem_map] at hdec
  obtain ⟨d, known, ⟨last, -, described, -⟩, -⟩ := of.decided hp
  obtain ⟨ns, -, named, declared⟩ := of.aligned
    ((forall₂_of_declareNames finished.read).imp fun _ _ ⟨_, h⟩ => TypeEntry.isNamed_of_nameIn h)
  obtain ⟨n, -, named, declared⟩ := exists_right_of_mem (forall₂_zip_left named declared) hp
  obtain ⟨_, known', identity⟩ := identity?_eq_some_iff.1 declared.identity
  obtain rfl := Option.some.inj (known.symm.trans known')
  refine ⟨d, known, fun {keyword kind} isKeyword same => ?_, fun inner same => ?_, ?_⟩
  · rw [same] at described
    cases described
    exact ScalarKind.ne_other isKeyword _ rfl
  · rw [same] at described
    cases described
  · exact identity ▸ named.getLast?_ne

/-! ### The shapes of expressions -/

/-- The type has the shape that the expression spells, where this is the name of a scalar, an array
or a wrapper, exactly if the type is not declared for an entry. -/
def LoadedGraph.Shows (l : LoadedGraph) (entries : List TypeEntry) (ns? : Option String)
    (ty : TypeId) : TypeExpr → Prop
  | .named name [] => l.scope.lookup ns? name = .ok none →
      ∃ kind, ScalarKind.ofKeyword? name = some kind ∧
        (l.graph.shape? ty = some (.scalar kind) ↔ ¬ l.Declares ty)
  | .named _ (_ :: _) => True
  | .array e => ∃ element, l.Resolves ns? e element ∧ l.graph.shape? ty = some (.array element)
  | .nullable e => ∃ inner, l.Resolves ns? e inner ∧
      ((∀ entry ∈ entries, entry.HasPlainNamespace) →
        (l.graph.shape? ty = some (.nullable inner) ↔ ¬ l.Declares ty))

section Shows

variable {entries : List TypeEntry} {l : LoadedGraph} (h : build entries = .ok l)
include h

/-- A type that is not declared for an entry has the shape that its identity spells. -/
theorem natural_of_not_declares {ty : TypeId} {i : String} (known : l.graph.identity? ty = some i)
    (other : ¬ l.Declares ty) :
    ∃ d, l.graph.shape? ty = some d.shape ∧ d.identity = i ∧ Natural l.graph d := by
  obtain ⟨d, known, identity⟩ := identity?_eq_some_iff.1 known
  exact ⟨d, by rw [shape?, known, Option.map_some], identity,
    (build_made h).natural_of_not known other⟩

/-- **What is resolved has the shape that it spells**, unless it is declared. -/
theorem shows_of_resolves {ns? : Option String} {x : TypeExpr} {ty : TypeId}
    (resolves : l.Resolves ns? x ty) : l.Shows entries ns? ty x := by
  obtain ⟨s, g, heads, finished⟩ := build_finished h
  have distinct := finished.of.distinct
  have declaredShape : ∀ {shape}, l.graph.shape? ty = some shape → l.Declares ty →
      ∃ d, d.shape = shape ∧ DeclaredShape d := fun seen declares => by
    obtain ⟨d, known, declared⟩ := finished.declaredShape declares
    rw [shape?, known] at seen
    exact ⟨d, Option.some.inj seen, declared⟩
  cases x with
  | named name args =>
    cases args with
    | nil =>
      intro unfound
      rcases Scope.resolve_named_cases resolves with ⟨_, found, -⟩ |
        ⟨-, ⟨-, kind, keyword, eq⟩ | ⟨nonempty, -⟩⟩
      · cases unfound.symm.trans found
      · have known := (of_intern_eq finished.of.indexed eq.symm).2
        refine ⟨kind, keyword, fun seen declares => ?_, fun other => ?_⟩
        · obtain ⟨d, same, declared⟩ := declaredShape seen declares
          exact declared.scalar keyword same
        · obtain ⟨d, seen, same, natural⟩ := natural_of_not_declares h known other
          rw [seen, natural.scalar_of_identity keyword same]
      · exact absurd rfl nonempty
    | cons => trivial
  | array e =>
    obtain ⟨element, i, part, known, identity⟩ := finished.resolves_array resolves
    have other : ¬ l.Declares ty := fun declares => by
      obtain ⟨d, known, declared⟩ := finished.declaredShape declares
      rw [identity?, known] at identity
      have same : d.identity = i ++ "[]" := Option.some.inj identity
      exact declared.identity (by simp [same])
    obtain ⟨d, seen, same, natural⟩ := natural_of_not_declares h identity other
    obtain ⟨element', known', shape⟩ := natural.array_of_identity same
    obtain rfl := distinct _ _ _ known' known
    exact ⟨element', part, seen.trans (congrArg some shape)⟩
  | nullable e =>
    obtain ⟨inner, i, part, known, identity⟩ := finished.resolves_nullable resolves
    refine ⟨inner, part, fun plain => ⟨fun seen declares => ?_, fun other => ?_⟩⟩
    · obtain ⟨d, same, declared⟩ := declaredShape seen declares
      exact declared.nullable inner same
    · obtain ⟨d, seen, same, natural⟩ := natural_of_not_declares h identity other
      have nested := (build_made h).nested plain
      rw [seen, natural.nullable_of_identity distinct nested known same]

end Shows

/-- **A resolved expression denotes what it says.**  The text of a field is an expression that
stands for a type, and so does every part of it that is resolved on the way.  `e[]` stands for the
arrays of what `e` stands for.  A keyword that is the name of no entry stands for its scalar, and
`e?` for what `e` stands for, or null, exactly if that type is not declared for an entry; the
wrapper needs namespaces without brackets and commas besides. -/
theorem build_shapes {entries : List TypeEntry} {l : LoadedGraph} (h : build entries = .ok l)
    {p : TypeEntry × Declaration} (hp : p ∈ entries.zip l.declared) (object : p.1.kind = .object)
    {i : Nat} {f : FieldEntry} (hf : p.1.fields[i]? = some f) :
    ∃ e ty, parseExpr f.type = .ok e ∧ FieldType entries l p i e ty ∧
      ∀ x, Visits l.scope p.1.ns? e x →
        ∃ ty', l.Resolves p.1.ns? x ty' ∧ l.Shows entries p.1.ns? ty' x := by
  obtain ⟨e, ty, parsed, typed⟩ := build_fields h hp object hf
  obtain ⟨s, g, heads, finished⟩ := build_finished h
  refine ⟨e, ty, parsed, typed, fun x visits => ?_⟩
  obtain ⟨ty', resolves⟩ := finished.resolves_of_visits visits typed.resolves
  exact ⟨ty', resolves, shows_of_resolves h resolves⟩

/-- The name that an expression wraps, if it is the wrapper of a plain one. -/
def wrappedName? : TypeExpr → Option String
  | .nullable e => plainName? e
  | _ => none

theorem eq_of_wrappedName? {e : TypeExpr} {name : String} (h : wrappedName? e = some name) :
    e = .nullable (.named name []) := by
  match e with
  | .nullable e => rw [eq_of_plainName? h]
  | .named _ _ => cases h
  | .array _ => cases h

/-- An inbox with a text that may be missing. -/
def inboxFile : List TypeEntry :=
  [{ bareEntry "Inbox" with fields := [fieldOf "text" "string?"] }]

/-- A field with a nullable type, in a file that is built. -/
theorem build_shapes_inbox : ∃ l e ty, build inboxFile = .ok l ∧
    FieldType inboxFile l (inboxFile[0], ⟨"app.Inbox", ⟨0⟩⟩) 0 e ty ∧
    l.graph.shape? ty = some (.nullable ⟨1⟩) ∧ l.graph.shape? ⟨1⟩ = some (.scalar .string) := by
  let text : TypeExpr := .named "string" []
  have seen : (build inboxFile).toOption.map (fun l =>
      (l.declared, (l.scope.lookup (some "app") "string").toOption,
        (l.scope.resolve (some "app") text l.graph).toOption.map (·.1),
        (l.scope.resolve (some "app") (.nullable text) l.graph).toOption.map (·.1))) =
      some ([⟨"app.Inbox", ⟨0⟩⟩], some none, some ⟨1⟩, some ⟨2⟩) := by decide +kernel
  obtain ⟨l, built, view⟩ := exists_build_of_view seen
  simp only [Prod.mk.injEq] at view
  obtain ⟨declared, unfound, textType, wrapperType⟩ := view
  have plain : ∀ entry ∈ inboxFile, entry.HasPlainNamespace := by
    simp [inboxFile, bareEntry, TypeEntry.HasPlainNamespace]
  have other : ∀ ty, l.Declares ty → ty = ⟨0⟩ := by
    simp [LoadedGraph.Declares, declared, eq_comm]
  obtain ⟨e, ty, parsed, typed, shown⟩ := build_shapes built
    (p := (inboxFile[0], ⟨"app.Inbox", ⟨0⟩⟩)) (by rw [declared]; exact List.mem_cons_self) rfl
    (i := 0) rfl
  have parsed' : parseExpr "string?" = .ok (.nullable text) :=
    parseExpr_of_view wrappedName? (by decide +kernel) fun _ => eq_of_wrappedName?
  obtain rfl := Except.ok.inj (parsed'.symm.trans parsed)
  obtain ⟨_, resolves, inner, part, wrapper⟩ := shown _ (.self _)
  obtain rfl := resolves.eq_of_view wrapperType
  obtain rfl := part.eq_of_view textType
  obtain ⟨_, resolves', scalar⟩ := shown _ (.nullable (.self _))
  obtain rfl := resolves'.eq_of_view textType
  obtain ⟨kind, keyword, scalar⟩ := scalar (toOption_eq_some_iff.1 unfound)
  obtain rfl : .string = kind := Option.some.inj keyword
  obtain rfl := typed.resolves.eq resolves
  exact ⟨l, _, _, built, typed, (wrapper plain).2 (by simpa using mt (other _) (by decide)),
    scalar.2 (mt (other _) (by decide))⟩

/-- A file type with contents, and a declared type of files that may be missing. -/
def namesakesFile : List TypeEntry :=
  [{ bareEntry "File" with
      ns? := none, fields := [fieldOf "content" "file", fieldOf "link" "File?"] },
    { bareEntry "Nullable<File>" with ns? := none }]

/-- The keyword `file` resolves to the declared `File`, and `File?` to the declared
`Nullable<File>`. -/
theorem namesakesFile_built : ∃ l, build namesakesFile = .ok l ∧
    l.declared = [⟨"File", ⟨0⟩⟩, ⟨"Nullable<File>", ⟨1⟩⟩] ∧
    l.scope.lookup none "file" = .ok none ∧
    (l.scope.resolve none (.named "file" []) l.graph).toOption.map (·.1) = some ⟨0⟩ ∧
    (l.scope.resolve none (.nullable (.named "File" [])) l.graph).toOption.map (·.1) =
      some ⟨1⟩ := by
  have seen : (build namesakesFile).toOption.map (fun l =>
      (l.declared, (l.scope.lookup none "file").toOption,
        (l.scope.resolve none (.named "file" []) l.graph).toOption.map (·.1),
        (l.scope.resolve none (.nullable (.named "File" [])) l.graph).toOption.map (·.1))) =
      some ([⟨"File", ⟨0⟩⟩, ⟨"Nullable<File>", ⟨1⟩⟩], some none, some ⟨0⟩, some ⟨1⟩) := by
    decide +kernel
  obtain ⟨l, built, view⟩ := exists_build_of_view seen
  simp only [Prod.mk.injEq] at view
  obtain ⟨declared, unfound, types⟩ := view
  exact ⟨l, built, declared, toOption_eq_some_iff.1 unfound, types⟩

/-- Whether the shape is a wrapper. -/
def isWrapper : Shape → Bool
  | .nullable _ => true
  | _ => false

/-- A namespace that reads like a list of types. -/
def listedFile : List TypeEntry :=
  [{ bareEntry "A" with ns? := none },
    { bareEntry "X" with ns? := some "B" },
    { bareEntry "X" with
      ns? := some "A,B", fields := [fieldOf "both" "Nullable<A,B.X>", fieldOf "own" "X?"] }]

/-- A keyword may stand for an entry with the name of the scalar, a wrapper for an entry with its
identity, and a wrapper for two types in a list if the namespace reads like one. -/
theorem not_build_shapes :
    (¬ ∀ (entries : List TypeEntry) (l : LoadedGraph), build entries = .ok l →
      ∀ p ∈ entries.zip l.declared, ∀ i name ty kind,
        FieldType entries l p i (.named name []) ty → l.scope.lookup p.1.ns? name = .ok none →
        ScalarKind.ofKeyword? name = some kind → l.graph.shape? ty = some (.scalar kind)) ∧
    (¬ ∀ (entries : List TypeEntry) (l : LoadedGraph), build entries = .ok l →
      (∀ entry ∈ entries, entry.HasPlainNamespace) →
      ∀ p ∈ entries.zip l.declared, ∀ i e ty, FieldType entries l p i (.nullable e) ty →
        ∃ inner, l.Resolves p.1.ns? e inner ∧ l.graph.shape? ty = some (.nullable inner)) ∧
    ¬ ∀ (entries : List TypeEntry) (l : LoadedGraph), build entries = .ok l →
      ∀ p ∈ entries.zip l.declared, ∀ i e ty, FieldType entries l p i (.nullable e) ty →
        ¬ l.Declares ty → ∃ inner, l.graph.shape? ty = some (.nullable inner) := by
  refine ⟨fun scalars => ?_, fun wrappers => ?_, fun wrappers => ?_⟩
  · obtain ⟨l, built, declared, unfound, contentType, -⟩ := namesakesFile_built
    have hp : (namesakesFile[0], ⟨"File", ⟨0⟩⟩) ∈ namesakesFile.zip l.declared := by
      rw [declared]; exact List.mem_cons_self
    have parsed : parseExpr "file" = .ok (.named "file" []) :=
      parseExpr_of_view plainName? (by decide +kernel) fun _ => eq_of_plainName?
    obtain ⟨ty, typed⟩ := exists_fieldType built hp rfl (i := 0) rfl parsed
    obtain rfl := typed.resolves.eq_of_view contentType
    obtain ⟨kind, keyword, shown⟩ := shows_of_resolves built typed.resolves unfound
    exact shown.1 (scalars _ l built _ hp 0 _ _ _ typed unfound keyword)
      ⟨⟨"File", ⟨0⟩⟩, by simp [declared], rfl⟩
  · obtain ⟨l, built, declared, -, -, linkType⟩ := namesakesFile_built
    have hp : (namesakesFile[0], ⟨"File", ⟨0⟩⟩) ∈ namesakesFile.zip l.declared := by
      rw [declared]; exact List.mem_cons_self
    have plain : ∀ entry ∈ namesakesFile, entry.HasPlainNamespace := by
      simp [namesakesFile, TypeEntry.HasPlainNamespace]
    have parsed : parseExpr "File?" = .ok (.nullable (.named "File" [])) :=
      parseExpr_of_view wrappedName? (by decide +kernel) fun _ => eq_of_wrappedName?
    obtain ⟨ty, typed⟩ := exists_fieldType built hp rfl (i := 1) rfl parsed
    obtain rfl := typed.resolves.eq_of_view linkType
    obtain ⟨inner, part, shown⟩ := shows_of_resolves built typed.resolves
    obtain ⟨inner', part', seen⟩ := wrappers _ l built plain _ hp 1 _ _ typed
    obtain rfl := part.eq part'
    exact (shown plain).1 seen ⟨⟨"Nullable<File>", ⟨1⟩⟩, by simp [declared], rfl⟩
  · have seen : (build listedFile).toOption.map (fun l => (l.declared,
        (l.scope.resolve (some "A,B") (.nullable (.named "X" [])) l.graph).toOption.map (·.1),
        (l.graph.shape? ⟨3⟩).map isWrapper)) =
        some ([⟨"A", ⟨0⟩⟩, ⟨"B.X", ⟨1⟩⟩, ⟨"A,B.X", ⟨2⟩⟩], some ⟨3⟩, some false) := by
      decide +kernel
    obtain ⟨l, built, view⟩ := exists_build_of_view seen
    simp only [Prod.mk.injEq] at view
    obtain ⟨declared, ownType, shape⟩ := view
    have hp : (listedFile[2], ⟨"A,B.X", ⟨2⟩⟩) ∈ listedFile.zip l.declared := by
      rw [declared]; exact .tail _ (.tail _ List.mem_cons_self)
    have parsed : parseExpr "X?" = .ok (.nullable (.named "X" [])) :=
      parseExpr_of_view wrappedName? (by decide +kernel) fun _ => eq_of_wrappedName?
    obtain ⟨ty, typed⟩ := exists_fieldType built hp rfl (i := 1) rfl parsed
    obtain rfl := typed.resolves.eq_of_view ownType
    have other : ¬ l.Declares ⟨3⟩ := by simp [LoadedGraph.Declares, declared]
    obtain ⟨inner, seen⟩ := wrappers _ l built _ hp 1 _ _ typed other
    rw [seen] at shape
    cases shape

end GraphFile

end TypeSchema
