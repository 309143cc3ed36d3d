import TypeSchema.Proofs.GraphFile.Definitions
import TypeSchema.Proofs.TypeExpr.Parser

/-!
# Graph files — entries and their types

Building the graph of a file reads the names of its entries and defines their types
(`build_ok`, `exists_build`): each type is born with the head of an entry, or of a part of generic
arguments, and is then defined by the entries that are declared as it.

Entries without generic arguments have types of their own, because the identity of a type with
arguments ends in a bracket (`TypeEntry.IsNamed.qualified_eq`).  Generic entries that are spelled
differently may have one type, and then the last of them decides (`build_definitions`).
-/

namespace TypeSchema

open TypeGraph

namespace GraphFile

/-! ### Building a graph -/

/-- The entries in the order in which they are declared. -/
def declarationList (entries : List TypeEntry) : List TypeEntry :=
  (declarationOrder entries).map (·.1)

/-- The graph is that of the entries, which are declared under these names. -/
structure LoadedGraph.Of (l : LoadedGraph) (entries : List TypeEntry) (names : List (Name Head)) :
    Prop where
  length : l.declared.length = entries.length
  indexed : l.graph.Indexed
  /-- The declarations belong to the names, in the order in which they are made. -/
  declared : ∃ ds, (entries.zip l.declared).Perm ((declarationList entries).zip ds) ∧
    List.Forall₂ (Declaration.Of l.graph) ds names
  /-- Each type is born when entries are declared, and defined by its entries. -/
  types : ∀ d ∈ l.declared, ∃ born desc, l.graph.describe? d.type = some desc ∧
    (born.example? = none ∧ ∃ h, Borne [] (declarationList entries) h ∧ l.graph.Heads born h) ∧
    Redefined (meaning names) l.graph (entriesOf d.type (entries.zip l.declared)) born desc
  described : ∀ e ∈ entries, ∃ shape, e.Describes (meaning names e.ns?) l.graph shape

/-- In the graph of a file no two types have one identity. -/
theorem LoadedGraph.Of.distinct {l : LoadedGraph} {entries : List TypeEntry}
    {names : List (Name Head)} (h : l.Of entries names) : l.graph.Distinct := h.indexed.distinct

theorem Scope.names_empty : Scope.Names {} .empty [] :=
  ⟨indexed_empty, [], Scope.lists_empty, .nil⟩

/-- After all declarations every namespace finds what the names mean. -/
theorem DeclaredAll.findsAll {entries : List (TypeEntry × Nat)} {g : TypeGraph}
    {r : List (Nat × Declaration) × Scope × TypeGraph} {names : List (Name Head)}
    (h : DeclaredAll [] entries g r names) : r.2.1.FindsAll r.2.2 (meaning names) :=
  fun ns? => h.names.finds ns?

/-- The names are read and the entries defined, one after the other. -/
theorem build_ok {entries : List TypeEntry} {l : LoadedGraph} (h : build entries = .ok l) :
    ∃ names, declareNames [] (declarationList entries) = .ok names ∧ l.Of entries names := by
  obtain ⟨⟨placed, s, g₁⟩, hp, h⟩ := except_bind_ok_iff.1 h
  obtain ⟨G, hd, h⟩ := except_bind_ok_iff.1 h
  cases h
  obtain ⟨names, named, all⟩ := (declareAll_agrees Scope.names_empty).exists_right hp
  have defined := defineAll_defined all.findsAll hd
  have zip : inFileOrder entries placed =
      entries.zip ((inFileOrder entries placed).map (·.2)) :=
    List.zip_of_prod (map_fst_inFileOrder all.positions) rfl
  have perm := perm_inFileOrder all.positions
  have keeps : ∀ d n, Declaration.Of g₁ d n → Declaration.Of G d n := fun d n of =>
    ⟨of.qualified, defined.keeps.identity _ _ of.identity⟩
  refine ⟨names, named, ?_, ?_, ⟨placed.map (·.2), zip ▸ perm, all.declared.imp keeps⟩, ?_, ?_⟩
  · simpa using congrArg List.length (map_fst_inFileOrder all.positions)
  · exact defined.keeps.indexed (all.grown.indexed indexed_empty)
  · intro d hd
    obtain ⟨e, he, rfl⟩ := List.mem_map.1 hd
    have made : e.2 ∈ placed.map (·.2) := (List.of_mem_zip (perm.mem_iff.1 he)).2
    obtain ⟨n, -, of⟩ := exists_right_of_mem all.declared made
    obtain ⟨born, known, -⟩ := identity?_eq_some_iff.1 of.identity
    obtain ⟨desc, hdesc, redefined⟩ := defined.types e.2.type born known
    rcases all.grown.new e.2.type born known with old | ⟨example?, head, borne, heads⟩
    · simp [describe?, TypeGraph.empty] at old
    · exact ⟨born, desc, hdesc, ⟨example?, head, borne, defined.keeps.heads heads⟩,
        zip ▸ redefined⟩
  · intro e he
    rw [← map_fst_inFileOrder all.positions] at he
    obtain ⟨p, hp, rfl⟩ := List.mem_map.1 he
    exact defined.described p hp

/-- If the names can be read and each entry describes a shape, the graph can be built. -/
theorem exists_build {entries : List TypeEntry} {names : List (Name Head)}
    (named : declareNames [] (declarationList entries) = .ok names)
    (described : ∀ e ∈ entries, ∃ g shape, e.Describes (meaning names e.ns?) g shape) :
    ∃ l, build entries = .ok l := by
  obtain ⟨⟨placed, s, g₁⟩, hp, all⟩ := (declareAll_agrees Scope.names_empty).exists_left named
  obtain ⟨G, hG⟩ : ∃ G, defineAll s g₁ (inFileOrder entries placed) = .ok G :=
    exists_defineAll all.findsAll fun p hp => described p.1 <| by
      rw [← map_fst_inFileOrder all.positions]
      exact List.mem_map_of_mem hp
  exact ⟨_, except_bind_ok_iff.2 ⟨_, hp, except_bind_ok_iff.2 ⟨_, hG, rfl⟩⟩⟩

/-- A graph is built if something can be seen of it. -/
theorem exists_build_of_view {α : Type} {entries : List TypeEntry} {view : LoadedGraph → α} {a : α}
    (h : (build entries).toOption.map view = some a) :
    ∃ l, build entries = .ok l ∧ view l = a := by
  cases built : build entries with
  | error e => rw [built] at h; cases h
  | ok l => rw [built] at h; exact ⟨l, rfl, Option.some.inj h⟩

/-! ### Entries and names -/

/-- What holds of the entries and their names in the order of declarations holds in the order of the
file. -/
theorem LoadedGraph.Of.aligned {l : LoadedGraph} {entries : List TypeEntry}
    {names : List (Name Head)} (h : l.Of entries names) {R : TypeEntry → Name Head → Prop}
    (hR : List.Forall₂ R (declarationList entries) names) :
    ∃ ns, ns.Perm names ∧ List.Forall₂ R entries ns ∧
      List.Forall₂ (Declaration.Of l.graph) l.declared ns := by
  obtain ⟨ds, perm, of⟩ := h.declared
  obtain ⟨ns, pairs, perm'⟩ := List.perm_comp_forall₂ perm (forall₂_zip_left hR of)
  refine ⟨ns, perm', ?_, ?_⟩
  · rw [← List.map_fst_zip (Nat.le_of_eq h.length.symm), List.forall₂_map_left_iff]
    exact pairs.imp fun _ _ h => h.1
  · rw [← List.map_snd_zip (Nat.le_of_eq h.length), List.forall₂_map_left_iff]
    exact pairs.imp fun _ _ h => h.2

/-- The names and the identity are those of the entry, for some identities of its arguments. -/
def TypeEntry.IsNamed (entry : TypeEntry) (n : Name Head) : Prop :=
  ∃ name is, parseExpr entry.name = .ok (.named name entry.args) ∧
    is.length = entry.args.length ∧ n.spelling = (TypeExpr.named name entry.args).spelling ∧
    n.qualified = qualify entry.ns? n.spelling ∧
    n.target = .generic (qualify entry.ns? name) (simpleName (qualify entry.ns? name)) is

theorem length_of_denoteAll {names : Denotation} {es : List TypeExpr} {is : List String}
    (h : TypeExpr.denoteAll names es = .ok is) : is.length = es.length := by
  induction es generalizing is with
  | nil => cases h; rfl
  | cons e rest ih =>
    rw [TypeExpr.denoteAll] at h
    obtain ⟨head, -, h⟩ := except_bind_ok_iff.1 h
    obtain ⟨more, hmore, h⟩ := except_bind_ok_iff.1 h
    cases h
    rw [List.length_cons, List.length_cons, ih hmore]

/-- The name that an entry is given is one of its own. -/
theorem TypeEntry.isNamed_of_nameIn {entry : TypeEntry} {names : Denotation} {n : Name Head}
    (h : entry.nameIn names = .ok n) : entry.IsNamed n := by
  obtain ⟨e, parsed, h⟩ := except_bind_ok_iff.1 h
  cases e with
  | array e => cases h
  | nullable e => cases h
  | named name args =>
    obtain ⟨is, denoted, h⟩ := except_bind_ok_iff.1 h
    cases h
    have parsed := within_ok_iff.1 parsed
    have args_eq := TypeEntry.args_eq parsed
    exact ⟨name, is, args_eq ▸ parsed, args_eq ▸ length_of_denoteAll (within_ok_iff.1 denoted),
      args_eq ▸ rfl, rfl, rfl⟩

theorem parse_of_parseExpr {src : String} {e : TypeExpr} (h : parseExpr src = .ok e) :
    TypeExpr.parse src = .ok e := by
  unfold parseExpr at h
  split at h
  · next parsed => cases h; exact parsed
  · cases h

/-- A qualified name ends as the name does. -/
theorem getLast?_qualify (ns? : Option String) {name : String} (nonempty : name.toList ≠ []) :
    (qualify ns? name).toList.getLast? = name.toList.getLast? := by
  unfold qualify
  split
  · split
    · rfl
    · rw [String.toList_append, List.getLast?_append, List.getLast?_eq_some_getLast nonempty,
        Option.some_or]
  · rfl

/-- The identity of a generic type ends with a bracket. -/
theorem getLast?_generic {outer name : String} {args : List String} (nonempty : args ≠ []) :
    (Head.generic outer name args).identity.toList.getLast? = some '>' := by
  have some : args.isEmpty = false := by simpa using nonempty
  simp only [Head.generic, some, Bool.false_eq_true, if_false, String.toList_append,
    List.getLast?_append]
  rfl

/-- An entry without generic arguments shares its identity with no other entry. -/
theorem TypeEntry.IsNamed.qualified_eq {entry other : TypeEntry} {n m : Name Head}
    (hn : entry.IsNamed n) (hm : other.IsNamed m) (plain : entry.args = [])
    (same : m.target.identity = n.target.identity) : m.qualified = n.qualified := by
  obtain ⟨name, is, parsed, length, spelling, qualified, target⟩ := hn
  obtain ⟨name', is', parsed', length', spelling', qualified', target'⟩ := hm
  obtain ⟨nonempty, chars, -⟩ := TypeExpr.parse_named (parse_of_parseExpr parsed)
  obtain rfl : is = [] := List.eq_nil_of_length_eq_zero (length.trans (by rw [plain]; rfl))
  have own : n.target.identity = qualify entry.ns? name := by rw [target]; rfl
  by_cases plain' : other.args = []
  · obtain rfl : is' = [] := List.eq_nil_of_length_eq_zero (length'.trans (by rw [plain']; rfl))
    have own' : m.target.identity = qualify other.ns? name' := by rw [target']; rfl
    rw [qualified, qualified', spelling, spelling', plain, plain', TypeExpr.spelling,
      TypeExpr.spelling, ← own, ← own', same]
  · -- the identity of a type with arguments ends in a bracket, and no name does
    have nonempty' : is' ≠ [] := fun h => plain' (List.eq_nil_of_length_eq_zero (by
      rw [← length', h, List.length_nil]))
    have last : name.toList.getLast? = some '>' := by
      rw [← getLast?_qualify entry.ns? nonempty, ← own, ← same, target',
        getLast?_generic nonempty']
    have bracket := chars '>' (List.mem_of_getLast? last)
    exact absurd bracket (by decide)

/-! ### Types of their own -/

/-- Where no other element has its key, an element is the only one that passes. -/
theorem filter_eq_singleton {α β : Type} {f : α → β} {l : List α} {q : α → Bool} {a : α}
    (nodup : (l.map f).Nodup) (mem : a ∈ l) (self : q a) (only : ∀ b ∈ l, q b → f b = f a) :
    l.filter q = [a] := by
  have eq : ∀ b ∈ l.filter q, b = a := fun b hb => by
    obtain ⟨hb, hq⟩ := List.mem_filter.1 hb
    exact List.inj_on_of_nodup_map nodup hb mem (only b hb hq)
  have hmem : a ∈ l.filter q := List.mem_filter.2 ⟨mem, self⟩
  have hnodup : (l.filter q).Nodup := (List.Nodup.of_map f nodup).filter q
  match hl : l.filter q with
  | [] => rw [hl] at hmem; cases hmem
  | [b] => rw [eq b (hl ▸ List.mem_cons_self)]
  | b :: c :: rest =>
    rw [hl] at hnodup eq
    have same : b = c := (eq b (by simp)).trans (eq c (by simp)).symm
    simp [same] at hnodup

/-- An entry whose type has an identity that belongs to no other name has a type of its own. -/
theorem entriesOf_eq_singleton {R : TypeEntry → Name Head → Prop} {entries : List TypeEntry}
    {ds : List Declaration} {g : TypeGraph} {names : List (Name Head)}
    (named : List.Forall₂ R entries names) (declared : List.Forall₂ (Declaration.Of g) ds names)
    (unambiguous : Unambiguous names) {p : TypeEntry × Declaration} (hp : p ∈ entries.zip ds)
    (only : ∀ n m other, R p.1 n → R other m → m ∈ names →
      m.target.identity = n.target.identity → m.qualified = n.qualified) :
    entriesOf p.2.type (entries.zip ds) = [p.1] := by
  have pairs := forall₂_zip_left named declared
  have nodup : ((entries.zip ds).map (·.2.qualified)).Nodup := by
    rw [map_eq_map pairs fun _ _ h => h.2.qualified]
    exact unambiguous
  obtain ⟨n, -, hn, of⟩ := exists_right_of_mem pairs hp
  have own : (entries.zip ds).filter (·.2.type = p.2.type) = [p] := by
    refine filter_eq_singleton nodup hp (by simp) fun q hq same => ?_
    obtain ⟨m, mem, hm, of'⟩ := exists_right_of_mem pairs hq
    have types : q.2.type = p.2.type := by simpa using same
    have identities := of'.identity.symm.trans (types ▸ of.identity)
    rw [of.qualified, of'.qualified, only n m q.1 hn hm mem (Option.some.inj identities)]
  rw [entriesOf, own, List.map_singleton]

/-- The entry defines all that the descriptor says. -/
structure TypeEntry.Defines (entry : TypeEntry) (names : Denotation) (g : TypeGraph)
    (d : TypeDescriptor) : Prop where
  shape : entry.Describes names g d.shape
  constraints : d.constraints = entry.constraints
  example? : d.example? = entry.example?

/-- The last entry decides on the shape and the constraints, and the last one that has an example on
the example. -/
structure DecidedBy (names : Option String → Denotation) (g : TypeGraph) (entries : List TypeEntry)
    (d : TypeDescriptor) : Prop where
  last : ∃ entry, entries.getLast? = some entry ∧ entry.Describes (names entry.ns?) g d.shape ∧
    d.constraints = entry.constraints
  example? : d.example? = (entries.filterMap (·.example?)).getLast?

/-- A type that one entry decides is the one that the entry defines. -/
theorem DecidedBy.defines {names : Option String → Denotation} {g : TypeGraph} {entry : TypeEntry}
    {d : TypeDescriptor} (h : DecidedBy names g [entry] d) :
    entry.Defines (names entry.ns?) g d := by
  obtain ⟨last, hlast, described, constraints⟩ := h.last
  obtain rfl := Option.some.inj hlast
  refine ⟨described, constraints, ?_⟩
  rw [h.example?]
  cases example? : entry.example? <;> simp [example?]

/-- The types of the entries are decided by their entries. -/
theorem LoadedGraph.Of.decided {l : LoadedGraph} {entries : List TypeEntry}
    {names : List (Name Head)} (h : l.Of entries names) {p : TypeEntry × Declaration}
    (hp : p ∈ entries.zip l.declared) : ∃ desc, l.graph.describe? p.2.type = some desc ∧
      DecidedBy (meaning names) l.graph (entriesOf p.2.type (entries.zip l.declared)) desc := by
  obtain ⟨born, desc, hdesc, ⟨example?, -⟩, redefined⟩ := h.types p.2 (List.of_mem_zip hp).2
  have mem : p.1 ∈ entriesOf p.2.type (entries.zip l.declared) :=
    List.mem_map_of_mem (List.mem_filter.2 ⟨hp, by simp⟩)
  obtain ⟨last, hlast⟩ := Option.ne_none_iff_exists'.1 fun none =>
    List.ne_nil_of_mem mem (List.getLast?_eq_none_iff.1 none)
  refine ⟨desc, hdesc, ⟨last, hlast, redefined.last last hlast⟩, ?_⟩
  rw [redefined.example?, example?, Option.or_none]

/-- **Entries keep their definitions.**  The graph of a file has a declaration for each entry, in
the order of the file and under its qualified name.  Two entries have one type only if both have
generic arguments and their types have the same identity.  Of the entries of a type the last one
decides on the shape and the constraints, and the last one with an example decides on the example;
so an entry with a type of its own defines all that its descriptor says, and its fields have the
types that the texts in the file denote. -/
theorem build_definitions {entries : List TypeEntry} {l : LoadedGraph}
    (h : build entries = .ok l) :
    ∃ names : List (Name Head), Unambiguous names ∧ List.Forall₂ TypeEntry.IsNamed entries names ∧
      List.Forall₂ (Declaration.Of l.graph) l.declared names ∧ l.graph.Distinct ∧
      (∀ p ∈ entries.zip l.declared, p.1.args = [] →
        entriesOf p.2.type (entries.zip l.declared) = [p.1]) ∧
      ∀ p ∈ entries.zip l.declared, ∃ desc, l.graph.describe? p.2.type = some desc ∧
        DecidedBy (meaning names) l.graph (entriesOf p.2.type (entries.zip l.declared)) desc ∧
        (entriesOf p.2.type (entries.zip l.declared) = [p.1] →
          p.1.Defines (meaning names p.1.ns?) l.graph desc) := by
  obtain ⟨names', read, of⟩ := build_ok h
  have unambiguous' := unambiguous_of_declareNames read
  obtain ⟨names, perm, named, declared⟩ := of.aligned
    ((forall₂_of_declareNames read).imp fun _ _ ⟨_, h⟩ => TypeEntry.isNamed_of_nameIn h)
  have unambiguous : Unambiguous names := (perm.map _).nodup_iff.2 unambiguous'
  refine ⟨names, unambiguous, named, declared, of.distinct, fun p hp plain => ?_, fun p hp => ?_⟩
  · exact entriesOf_eq_singleton named declared unambiguous hp
      fun _ _ _ hn hm _ => hn.qualified_eq hm plain
  · obtain ⟨desc, hdesc, decided⟩ := of.decided hp
    rw [← meaning_perm perm unambiguous] at decided
    exact ⟨desc, hdesc, decided, fun own => (own ▸ decided).defines⟩

/-- An object without fields in a namespace. -/
def bareEntry (name : String) : TypeEntry :=
  { name, ns? := some "app", kind := .object, fields := [], members := [], repr? := none,
    implements := [], constraints := [], example? := none }

/-- A page of widgets that is an object, and one that is a scalar. -/
def spelledTwice : List TypeEntry :=
  [bareEntry "Widget",
    { bareEntry "Page<Widget>" with
      fields := [{ name := "first", type := "Widget", required := true, constraints := [],
                   example? := none }]
      example? := some (.string "page") },
    { bareEntry "Page<app.Widget>" with kind := .scalar }]

/-- Two spellings of one generic type, both declared: one handle for both. -/
theorem spelledTwice_built : ∃ (l : LoadedGraph) (widget page again : String),
    build spelledTwice = .ok l ∧ l.declared = [⟨widget, ⟨0⟩⟩, ⟨page, ⟨1⟩⟩, ⟨again, ⟨1⟩⟩] := by
  have declared : (build spelledTwice).toOption.map (·.declared) =
      some [⟨"app.Widget", ⟨0⟩⟩, ⟨"app.Page<Widget>", ⟨1⟩⟩, ⟨"app.Page<app.Widget>", ⟨1⟩⟩] := by
    decide +kernel
  obtain ⟨l, built, declared⟩ := exists_build_of_view declared
  exact ⟨l, _, _, _, built, declared⟩

/-- The pages are one type: the scalar, with the example of the object. -/
theorem build_definitions_spelledTwice : ∃ l desc, build spelledTwice = .ok l ∧
    l.declared.map (·.type) = [⟨0⟩, ⟨1⟩, ⟨1⟩] ∧ l.graph.describe? ⟨1⟩ = some desc ∧
    desc.shape = .scalar (.other "Page") ∧ desc.example? = some (.string "page") := by
  obtain ⟨l, widget, page, again, built, declared⟩ := spelledTwice_built
  obtain ⟨names, -, -, -, -, -, decided⟩ := build_definitions built
  rw [declared] at decided
  obtain ⟨desc, hdesc, ⟨⟨last, hlast, described, -⟩, example?⟩, -⟩ := decided
    (spelledTwice[2], ⟨again, ⟨1⟩⟩) (by simp [spelledTwice])
  refine ⟨l, desc, built, by rw [declared]; rfl, hdesc, ?_, example?⟩
  obtain rfl := Option.some.inj hlast
  have outer : (parseExpr "Page<app.Widget>").toOption.bind outerName? = some "Page" := by
    decide +kernel
  generalize desc.shape = shape at described
  cases described with
  | scalar kind parsed =>
    rw [show parseExpr "Page<app.Widget>" = _ from parsed] at outer
    rw [show outerName? _ = _ from outer, Option.getD_some]
  | enumeration kind => cases kind
  | object kind => cases kind

/-- Entries that are not spelled alike may be declared as one type, and the last one of them
decides on the shape. -/
theorem not_build_definitions :
    (¬ ∀ (entries : List TypeEntry) (l : LoadedGraph), build entries = .ok l →
      (l.declared.map (·.type)).Nodup) ∧
    ¬ ∀ (entries : List TypeEntry) (l : LoadedGraph), build entries = .ok l →
      ∀ p ∈ entries.zip l.declared, ∃ names desc, l.graph.describe? p.2.type = some desc ∧
        p.1.Defines names l.graph desc := by
  obtain ⟨l, widget, page, again, built, declared⟩ := spelledTwice_built
  refine ⟨fun distinct => ?_, fun own => ?_⟩
  · have nodup := distinct _ l built
    simp [declared] at nodup
  · -- the shape cannot be described by both of the pages
    have own := own _ l built
    rw [declared] at own
    obtain ⟨_, desc, hdesc, object⟩ := own (spelledTwice[1], ⟨page, ⟨1⟩⟩) (by simp [spelledTwice])
    obtain ⟨_, desc', hdesc', scalar⟩ := own (spelledTwice[2], ⟨again, ⟨1⟩⟩)
      (by simp [spelledTwice])
    obtain rfl := Option.some.inj (hdesc.symm.trans hdesc')
    have object := object.shape
    have scalar := scalar.shape
    generalize desc.shape = shape at object scalar
    cases object with
    | object => cases scalar with
      | object kind => cases kind
    | scalar kind => cases kind
    | enumeration kind => cases kind

end GraphFile

end TypeSchema
