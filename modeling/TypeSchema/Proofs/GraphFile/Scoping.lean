import TypeSchema.Proofs.GraphFile.AnyOrder
import TypeSchema.Proofs.GraphFile.Fields

/-!
# Graph files — the scoping rule

A name in a field stands for an entry of the namespace of the field, or else for the entry that is
qualified so, or else for the only namespaced entry that is spelled so (`ScopedTo`).  The rule is
about all entries of a file, in any order; a file with a field whose name several entries could
stand for cannot be built (`build_scoped`).
-/

namespace TypeSchema.GraphFile

/-! ### Namespaces -/

/-- A namespace changes a name unless it is empty. -/
theorem qualify_ne_iff {ns? : Option String} {name : String} :
    qualify ns? name ≠ name ↔ ns?.any (!·.isEmpty) := by
  cases ns? with
  | none => simp [qualify]
  | some ns =>
    by_cases empty : ns.isEmpty
    · simp [qualify, empty]
    · have longer : ns ++ "." ++ name ≠ name := fun same => by
        have lengths := congrArg String.length same
        simp only [String.length_append] at lengths
        have dot : ".".length = 1 := rfl
        omega
      simp [qualify, empty, longer]

/-- The entry has a namespace, and this spelling without it. -/
def TypeEntry.isSpelled (entry : TypeEntry) (spelling : String) : Bool :=
  entry.isNamespaced && entry.spelling? == some spelling

/-- A declared name has the spelling of its entry as an alias, if the entry has a namespace. -/
theorem Name.Declares.hasAlias_iff {p : TypeEntry × Declaration} {n : Name TypeId}
    (h : n.Declares p) (spelling : String) : n.hasAlias spelling ↔ p.1.isSpelled spelling := by
  have own : n.qualified ≠ n.spelling ↔ p.1.isNamespaced := h.qualified ▸ qualify_ne_iff
  simp [Name.hasAlias, TypeEntry.isSpelled, h.spelling, ← own]

/-! ### The rule -/

/-- The type that a spelling in a namespace stands for, if it stands for one of these entries. -/
structure ScopedTo (ps : List (TypeEntry × Declaration)) (ns? : Option String) (spelling : String)
    (ty : TypeId) : Prop where
  /-- An entry of the namespace comes first. -/
  own : ∀ q ∈ ps, q.1.qualified? = some (qualify ns? spelling) → ty = q.2.type
  /-- Then an entry that is qualified so. -/
  qualified : (∀ q ∈ ps, q.1.qualified? ≠ some (qualify ns? spelling)) →
    ∀ q ∈ ps, q.1.qualified? = some spelling → ty = q.2.type
  /-- Then a namespaced entry that is spelled so; there is no other one. -/
  bare : (∀ q ∈ ps, q.1.qualified? ≠ some (qualify ns? spelling)) →
    (∀ q ∈ ps, q.1.qualified? ≠ some spelling) →
    (ps.filter (·.1.isSpelled spelling)).length ≤ 1 ∧
      ∀ q ∈ ps.filter (·.1.isSpelled spelling), ty = q.2.type

/-- What the names of entries mean follows the rule. -/
theorem scopedTo_of_meaning {ps : List (TypeEntry × Declaration)} {names : List (Name TypeId)}
    (declares : List.Forall₂ Name.Declares ps names) (unambiguous : Unambiguous names)
    {ns? : Option String} {spelling : String} {found? : Option TypeId} {ty : TypeId}
    (meant : meaning names ns? spelling = .ok found?) (found : ∀ ty' ∈ found?, ty = ty') :
    ScopedTo ps ns? spelling ty := by
  have type_eq : ∀ {q : TypeEntry × Declaration} {n : Name TypeId}, n.Declares q →
      meaning names ns? spelling = .ok (some n.target) → ty = q.2.type := fun {q n} hn h => by
    rw [hn.declared]
    exact found _ (Except.ok.inj (meant.symm.trans h))
  have unnamed : ∀ {name : String}, (∀ q ∈ ps, q.1.qualified? ≠ some name) →
      ∀ n ∈ names, n.qualified ≠ name := fun none n hn same => by
    obtain ⟨q, hq, declares⟩ := exists_left_of_mem declares hn
    exact none q hq (declares.qualified?.trans (congrArg some same))
  refine ⟨fun q hq named => ?_, fun elsewhere q hq named => ?_, fun elsewhere unqualified => ?_⟩
  · obtain ⟨n, hn, declares⟩ := exists_right_of_mem declares hq
    have same := Option.some.inj (declares.qualified?.symm.trans named)
    exact type_eq declares (meaning_of_namespace unambiguous hn same)
  · obtain ⟨n, hn, declares⟩ := exists_right_of_mem declares hq
    have same := Option.some.inj (declares.qualified?.symm.trans named)
    exact type_eq declares (meaning_of_qualified unambiguous (unnamed elsewhere) hn same)
  · have aliased := meaning_of_alias (unnamed elsewhere) (unnamed unqualified)
    have shared : List.Forall₂ Name.Declares (ps.filter (·.1.isSpelled spelling))
        (names.filter (·.hasAlias spelling)) :=
      List.rel_filter (fun q n hn => (hn.hasAlias_iff spelling).symm) declares
    generalize ps.filter (·.1.isSpelled spelling) = spelled, names.filter (·.hasAlias spelling) =
      sharing at shared aliased
    match shared with
    | .nil => exact ⟨Nat.zero_le _, by simp⟩
    | .cons hn .nil => exact ⟨Nat.le_refl _, by simpa using type_eq hn aliased⟩
    | .cons _ (.cons _ _) => rw [aliased] at meant; cases meant

/-- **The scoping rule.**  The type of a field whose text is a name, plain or generic, is that of
the entry that the name stands for in the namespace of the field's own entry. -/
theorem build_scoped {entries : List TypeEntry} {l : LoadedGraph} (h : build entries = .ok l)
    {p : TypeEntry × Declaration} (hp : p ∈ entries.zip l.declared) (object : p.1.kind = .object)
    {i : Nat} {f : FieldEntry} (hf : p.1.fields[i]? = some f) {name : String}
    {args : List TypeExpr} (parsed : parseExpr f.type = .ok (.named name args)) :
    ∃ ty, FieldType entries l p i (.named name args) ty ∧
      ScopedTo (entries.zip l.declared) p.1.ns? (TypeExpr.named name args).spelling ty := by
  obtain ⟨ty, typed⟩ := exists_fieldType h hp object hf parsed
  obtain ⟨s, g, heads, finished⟩ := build_finished h
  obtain ⟨names, declares, unambiguous, -, lists⟩ := finished.listed
  refine ⟨ty, typed, ?_⟩
  rcases Scope.resolve_named_cases typed.resolves with ⟨ty', found, eq⟩ | ⟨unfound, -⟩
  · rw [lists.lookup_eq] at found
    exact scopedTo_of_meaning declares unambiguous found (by cases eq; simp)
  · rw [lists.lookup_eq] at unfound
    exact scopedTo_of_meaning declares unambiguous unfound (by simp)

/-- A text that is read as a name, plain or generic. -/
theorem exists_named {src spelling : String}
    (h : ((parseExpr src).toOption.filter fun e => (outerName? e).isSome).map (·.spelling) =
      some spelling) :
    ∃ name args, parseExpr src = .ok (.named name args) ∧
      (TypeExpr.named name args).spelling = spelling := by
  obtain ⟨e, read, same⟩ := Option.map_eq_some_iff.1 h
  obtain ⟨read, isNamed⟩ := Option.filter_eq_some_iff.1 read
  cases e with
  | named name args => exact ⟨name, args, toOption_eq_some_iff.1 read, same⟩
  | array e => cases isNamed
  | nullable e => cases isNamed

/-- Lines in two namespaces, and an order that has both of them and a page. -/
def ordersFile : List TypeEntry :=
  [{ bareEntry "Order" with
      ns? := some "shop"
      fields := [fieldOf "line" "Line", fieldOf "old" "legacy.Line",
        fieldOf "page" "Page< legacy.Line >"] },
    { bareEntry "Line" with ns? := some "shop" },
    { bareEntry "Line" with ns? := some "legacy" },
    { bareEntry "Page<legacy.Line>" with ns? := some "legacy" }]

/-- The first line is that of the shop, and the page is that of the other namespace. -/
theorem build_scoped_orders : ∃ l p, build ordersFile = .ok l ∧ p ∈ ordersFile.zip l.declared ∧
    p.1.kind = .object ∧ (∃ e, FieldType ordersFile l p 0 e ⟨1⟩) ∧
    (∃ e, FieldType ordersFile l p 1 e ⟨2⟩) ∧ ∃ e, FieldType ordersFile l p 2 e ⟨3⟩ := by
  let ds : List Declaration := [⟨"shop.Order", ⟨0⟩⟩, ⟨"shop.Line", ⟨1⟩⟩, ⟨"legacy.Line", ⟨2⟩⟩,
    ⟨"legacy.Page<legacy.Line>", ⟨3⟩⟩]
  have declared : (build ordersFile).toOption.map (·.declared) = some ds := by decide +kernel
  obtain ⟨l, built, declared⟩ := exists_build_of_view declared
  let p : TypeEntry × Declaration := (ordersFile[0], ⟨"shop.Order", ⟨0⟩⟩)
  have hp : p ∈ ordersFile.zip l.declared := declared ▸ List.mem_cons_self
  have field : ∀ (spelling : String) {i f ty}, p.1.fields[i]? = some f →
      ((parseExpr f.type).toOption.filter fun e => (outerName? e).isSome).map (·.spelling) =
        some spelling →
      (∀ ty', ScopedTo (ordersFile.zip ds) (some "shop") spelling ty' → ty' = ty) →
      ∃ e, FieldType ordersFile l p i e ty := by
    intro spelling i f ty hf read same
    obtain ⟨_, _, parsed, rfl⟩ := exists_named read
    obtain ⟨ty', typed, rule⟩ := build_scoped built hp rfl hf parsed
    rw [declared] at rule
    obtain rfl := same ty' rule
    exact ⟨_, typed⟩
  refine ⟨l, p, built, hp, rfl, field "Line" rfl (by decide +kernel) fun ty rule => ?_,
    field "legacy.Line" rfl (by decide +kernel) fun ty rule => ?_,
    field "Page<legacy.Line>" rfl (by decide +kernel) fun ty rule => ?_⟩
  · exact rule.own (ordersFile[1], ⟨"shop.Line", ⟨1⟩⟩) (.tail _ (.head _)) (by decide +kernel)
  · exact rule.qualified (by decide +kernel) (ordersFile[2], ⟨"legacy.Line", ⟨2⟩⟩)
      (.tail _ (.tail _ (.head _))) (by decide +kernel)
  · exact (rule.bare (by decide +kernel) (by decide +kernel)).2
      (ordersFile[3], ⟨"legacy.Page<legacy.Line>", ⟨3⟩⟩)
      (List.mem_filter.2 ⟨.tail _ (.tail _ (.tail _ (.head _))), by decide +kernel⟩)

end TypeSchema.GraphFile
