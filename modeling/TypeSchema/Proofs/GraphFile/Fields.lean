import TypeSchema.Proofs.GraphFile.Entries

/-!
# Graph files — the types of fields

An expression that has been resolved while the graph was built is there when the graph is finished:
resolving it again gives the same type and adds nothing (`Scope.resolve_again`).  So the type that
an expression stands for can be read off the finished graph: `LoadedGraph.scope` gives the names
that are in scope there, and `LoadedGraph.Resolves` says that an expression is resolved to a type of
the graph.

Every field of an object has such a type (`build_fields`).
-/

namespace TypeSchema

open TypeGraph

namespace GraphFile

/-! ### Resolving again -/

/-- What a generic type with these arguments is interned with, if no entry has its name. -/
def genericDescriptor (g : TypeGraph) (name : String) (tys : List TypeId) : TypeDescriptor where
  identity := g.genericIdentity (CollectionKind.ofName name).name tys
  name := (CollectionKind.ofName name).name
  genericArgs := tys
  shape := match name, tys with
    | "Nullable", [inner] => .nullable inner
    | "KeyValuePair", [key, value] => .pair key value
    | _, _ => .collection (.ofName name) tys

/-- The description of a generic type does not depend on what is added later. -/
theorem genericDescriptor_of_keeps {g G : TypeGraph} {tys : List TypeId} {is : List String}
    (ids : g.Identified tys is) (keeps : g.Keeps G) (name : String) :
    genericDescriptor G name tys = genericDescriptor g name tys := by
  unfold genericDescriptor
  rw [genericIdentity_of_keeps ids keeps]

/-- A generic type is a collection, unless its name and its arguments say otherwise. -/
theorem genericDescriptor_of_other {g : TypeGraph} {name : String} {tys : List TypeId}
    (other : ∀ inner, name = "Nullable" → tys = [inner] → False)
    (other' : ∀ key value, name = "KeyValuePair" → tys = [key, value] → False) :
    genericDescriptor g name tys =
      { identity := g.genericIdentity (CollectionKind.ofName name).name tys
        name := (CollectionKind.ofName name).name
        genericArgs := tys
        shape := .collection (.ofName name) tys } := by
  unfold genericDescriptor
  split
  · exact (other _ rfl rfl).elim
  · exact (other' _ _ rfl rfl).elim
  · rfl

namespace Scope

variable {s : Scope} {ns? : Option String} {name : String} {args : List TypeExpr}
  {g G : TypeGraph}

section Named

/-- A name that is found is resolved to what it means. -/
theorem resolve_found {ty : TypeId}
    (found : s.lookup ns? (TypeExpr.named name args).spelling = .ok (some ty)) :
    s.resolve ns? (.named name args) g = .ok (ty, g) := by
  rw [resolve, found]
  rfl

variable (unfound : s.lookup ns? (TypeExpr.named name args).spelling = .ok none)
include unfound

/-- A keyword that is not found is a scalar. -/
theorem resolve_keyword (empty : args.isEmpty) {kind : ScalarKind}
    (keyword : ScalarKind.ofKeyword? name = some kind) :
    s.resolve ns? (.named name args) g = .ok (g.scalar kind) := by
  rw [resolve, unfound]
  simp only [bind, Except.bind, empty, keyword, if_true]
  rfl

/-- A generic name that is not found is interned after its arguments. -/
theorem resolve_generic (nonempty : ¬ args.isEmpty) {tys : List TypeId} {g₁ : TypeGraph}
    (resolved : s.resolveAll ns? args g = .ok (tys, g₁)) :
    s.resolve ns? (.named name args) g = .ok (g₁.intern (genericDescriptor g₁ name tys)) := by
  rw [resolve, unfound]
  simp only [bind, Except.bind, nonempty, resolved, Bool.false_eq_true, if_false]
  split
  · rfl
  · rfl
  · next other other' => rw [genericDescriptor_of_other other other']; rfl

end Named

/-- **How a name is resolved**: to the type of an entry, to a scalar, or to a generic type. -/
theorem resolve_named_cases {r : TypeId × TypeGraph}
    (h : s.resolve ns? (.named name args) g = .ok r) :
    (∃ ty, s.lookup ns? (TypeExpr.named name args).spelling = .ok (some ty) ∧ r = (ty, g)) ∨
    s.lookup ns? (TypeExpr.named name args).spelling = .ok none ∧
      ((args.isEmpty ∧ ∃ kind, ScalarKind.ofKeyword? name = some kind ∧ r = g.scalar kind) ∨
        ¬ args.isEmpty ∧ ∃ tys g₁, s.resolveAll ns? args g = .ok (tys, g₁) ∧
          r = g₁.intern (genericDescriptor g₁ name tys)) := by
  have resolved := h
  rw [resolve] at h
  obtain ⟨found?, found, h⟩ := except_bind_ok_iff.1 h
  cases found? with
  | some ty => cases h; exact .inl ⟨ty, found, rfl⟩
  | none =>
    refine .inr ⟨found, ?_⟩
    simp only at h
    split at h
    · next empty =>
      cases keyword : ScalarKind.ofKeyword? name with
      | none => rw [keyword] at h; cases h
      | some kind => rw [keyword] at h; cases h; exact .inl ⟨empty, kind, rfl, rfl⟩
    · next nonempty =>
      obtain ⟨⟨tys, g₁⟩, all, -⟩ := except_bind_ok_iff.1 h
      rw [resolve_generic found nonempty all] at resolved
      exact .inr ⟨nonempty, tys, g₁, all, (Except.ok.inj resolved).symm⟩

variable {names : Denotation}

mutual

/-- **An expression that has been resolved** is resolved to the same type later, and adds
nothing. -/
theorem resolve_again {g : TypeGraph} {ty : TypeId} {g' : TypeGraph} : (e : TypeExpr) →
    s.Finds g ns? names → s.resolve ns? e g = .ok (ty, g') → g'.Keeps G →
      s.resolve ns? e G = .ok (ty, G)
  | .array e, finds, h, keeps => by
    rw [resolve] at h
    obtain ⟨⟨element, g₁⟩, he, h⟩ := except_bind_ok_iff.1 h
    obtain ⟨head, -, grown, identity⟩ := (resolve_agrees e finds).exists_right he
    have indexed := grown.indexed finds.indexed
    obtain ⟨keeps₁, again⟩ := intern_again indexed (Except.ok.inj h) keeps
    rw [resolve, resolve_again e finds he keeps₁]
    refine congrArg Except.ok (again _ ?_)
    simp only [identityText_of_identity? identity,
      identityText_of_identity? (keeps₁.identity _ _ identity)]
  | .nullable e, finds, h, keeps => by
    rw [resolve] at h
    obtain ⟨⟨inner, g₁⟩, he, h⟩ := except_bind_ok_iff.1 h
    obtain ⟨head, -, grown, identity⟩ := (resolve_agrees e finds).exists_right he
    have indexed := grown.indexed finds.indexed
    have ids : g₁.Identified [inner] [head.identity] := .cons identity .nil
    obtain ⟨keeps₁, again⟩ := intern_again indexed (Except.ok.inj h) keeps
    rw [resolve, resolve_again e finds he keeps₁]
    exact congrArg Except.ok (again _ (genericIdentity_of_keeps ids keeps₁ _))
  | .named name args, finds, h, keeps => by
    rcases resolve_named_cases h with ⟨ty, found, eq⟩ |
      ⟨unfound, ⟨empty, kind, keyword, eq⟩ | ⟨nonempty, tys, g₁, all, eq⟩⟩
    · cases eq
      exact resolve_found found
    · obtain ⟨-, again⟩ := intern_again finds.indexed eq.symm keeps
      rw [resolve_keyword unfound empty keyword]
      exact congrArg Except.ok (again _ rfl)
    · obtain ⟨is, -, grown, ids⟩ := (resolveAll_agrees args finds).exists_right all
      have indexed := grown.indexed finds.indexed
      obtain ⟨keeps₁, again⟩ := intern_again indexed eq.symm keeps
      rw [resolve_generic unfound nonempty (resolveAll_again args finds all keeps₁)]
      exact congrArg Except.ok (again _ (genericIdentity_of_keeps ids keeps₁ _))

/-- Expressions that were resolved are resolved again to the same types. -/
theorem resolveAll_again {g : TypeGraph} {tys : List TypeId} {g' : TypeGraph} :
    (es : List TypeExpr) → s.Finds g ns? names → s.resolveAll ns? es g = .ok (tys, g') →
      g'.Keeps G → s.resolveAll ns? es G = .ok (tys, G)
  | [], _, h, _ => by
    cases h
    rfl
  | e :: rest, finds, h, keeps => by
    rw [resolveAll] at h
    obtain ⟨⟨ty, g₁⟩, he, h⟩ := except_bind_ok_iff.1 h
    obtain ⟨⟨tys, g₂⟩, hr, h⟩ := except_bind_ok_iff.1 h
    cases h
    obtain ⟨-, -, grown, -⟩ := (resolve_agrees e finds).exists_right he
    have finds₁ := finds.mono grown.keeps
    obtain ⟨-, -, more, -⟩ := (resolveAll_agrees rest finds₁).exists_right hr
    rw [resolveAll, resolve_again e finds he (more.keeps.trans keeps)]
    simp only [bind, Except.bind, resolveAll_again rest finds₁ hr keeps]
    rfl

end

section Congruence

variable {s' : Scope} {ns?' : Option String}

mutual

/-- Expressions are resolved by what their spellings stand for. -/
theorem resolve_congr (same : s.lookup ns? = s'.lookup ns?') (g : TypeGraph) : (e : TypeExpr) →
    s.resolve ns? e g = s'.resolve ns?' e g
  | .array e => by rw [resolve, resolve, resolve_congr same g e]
  | .nullable e => by rw [resolve, resolve, resolve_congr same g e]
  | .named name args => by rw [resolve, resolve, same, resolveAll_congr same g args]

/-- Scopes that look up the same resolve the same. -/
theorem resolveAll_congr (same : s.lookup ns? = s'.lookup ns?') (g : TypeGraph) :
    (es : List TypeExpr) → s.resolveAll ns? es g = s'.resolveAll ns?' es g
  | [] => rfl
  | e :: rest => by
    rw [resolveAll, resolveAll, resolve_congr same g e]
    exact bind_congr fun ⟨ty, g₁⟩ => by simp only [resolveAll_congr same g₁ rest]

end

end Congruence

/-- The order of the names that are listed does not matter. -/
theorem Lists.perm {names names' : List (Name TypeId)} (h : s.Lists names)
    (perm : names.Perm names') (unambiguous : Unambiguous names) : s.Lists names' := by
  have unambiguous' : Unambiguous names' := (perm.map _).nodup_iff.1 unambiguous
  refine ⟨fun q => ?_, fun spelling => ?_⟩
  · rw [h.qualified]
    congr 1
    ext n
    rw [unambiguous.find?_eq_some_iff, unambiguous'.find?_eq_some_iff, perm.mem_iff]
  · rw [h.aliases, sole_perm (perm.filter _)]

end Scope

/-! ### Names of the entries -/

/-- The name of an entry without blanks. -/
def TypeEntry.spelling? (entry : TypeEntry) : Option String :=
  (parseExpr entry.name).toOption.map (·.spelling)

/-- The name of an entry without blanks, qualified with its namespace. -/
def TypeEntry.qualified? (entry : TypeEntry) : Option String :=
  entry.spelling?.map (qualify entry.ns?)

/-- The entry has a namespace. -/
def TypeEntry.isNamespaced (entry : TypeEntry) : Bool := entry.ns?.any (!·.isEmpty)

/-- The name stands for the type of a declared entry. -/
structure Name.Declares (p : TypeEntry × Declaration) (n : Name TypeId) : Prop where
  spelling : p.1.spelling? = some n.spelling
  qualified : n.qualified = qualify p.1.ns? n.spelling
  declared : p.2 = ⟨n.qualified, n.target⟩

theorem Name.Declares.qualified? {p : TypeEntry × Declaration} {n : Name TypeId}
    (h : n.Declares p) : p.1.qualified? = some n.qualified := by
  rw [TypeEntry.qualified?, h.spelling, Option.map_some, h.qualified]

/-- The names that are in scope when the fields of the entries are resolved. -/
def LoadedGraph.scope (l : LoadedGraph) : Scope where
  qualified := .ofList (l.declared.map fun d => (d.qualified, d.type))
  aliases := l.aliases

/-- In the namespace the expression stands for a type of the graph. -/
def LoadedGraph.Resolves (l : LoadedGraph) (ns? : Option String) (e : TypeExpr) (ty : TypeId) :
    Prop :=
  l.scope.resolve ns? e l.graph = .ok (ty, l.graph)

/-- **How an entry is declared**: as the generic type of its outer name and its arguments, under a
new name. -/
theorem exists_of_declareEntry {s s' : Scope} {g g' : TypeGraph} {entry : TypeEntry}
    {d : Declaration} (h : declareEntry s g entry = .ok (d, s', g')) :
    ∃ name args tys g₁ n, parseExpr entry.name = .ok (.named name args) ∧
      s.resolveAll entry.ns? args g = .ok (tys, g₁) ∧
      g₁.declareGeneric (qualify entry.ns? name) tys = (d.type, g') ∧
      Name.Declares (entry, d) n ∧ ¬ s.qualified.contains n.qualified ∧ s' = s.addName n := by
  obtain ⟨e, parsed, -⟩ := except_bind_ok_iff.1 h
  have parsed := within_ok_iff.1 parsed
  cases e with
  | array e => simp only [declareEntry, parsed] at h; cases h
  | nullable e => simp only [declareEntry, parsed] at h; cases h
  | named name args =>
    rw [declareEntry_eq parsed] at h
    obtain ⟨⟨tys, g₁⟩, all, h⟩ := except_bind_ok_iff.1 h
    simp only at h
    split at h
    · cases h
    · next fresh =>
      cases h
      refine ⟨name, args, tys, g₁, ⟨_, _, _⟩, parsed, within_ok_iff.1 all, rfl, ⟨?_, rfl, rfl⟩,
        fresh, rfl⟩
      rw [TypeEntry.spelling?, parsed]
      rfl

/-- **Entries are declared under their names**, none of them twice. -/
theorem declareAll_listed {s s' : Scope} {g g' : TypeGraph} {es : List (TypeEntry × Nat)}
    {placed : List (Nat × Declaration)} {known : List (Name TypeId)} (lists : s.Lists known)
    (unambiguous : Unambiguous known) (h : declareAll s g es = .ok (placed, s', g')) :
    ∃ names, List.Forall₂ Name.Declares ((es.map (·.1)).zip (placed.map (·.2))) names ∧
      Unambiguous (known ++ names) ∧ s'.Lists (known ++ names) := by
  induction es generalizing s g placed known with
  | nil =>
    cases h
    exact ⟨[], .nil, by rwa [List.append_nil], by rwa [List.append_nil]⟩
  | cons e rest ih =>
    obtain ⟨⟨d, s₁, g₁⟩, hd, h⟩ := except_bind_ok_iff.1 h
    obtain ⟨⟨ds, s₂, g₂⟩, hr, h⟩ := except_bind_ok_iff.1 h
    cases h
    obtain ⟨-, -, -, -, n, -, -, -, declares, fresh, rfl⟩ := exists_of_declareEntry hd
    have fresh := mt lists.contains_iff.2 fresh
    obtain ⟨names, declared, all, lists₂⟩ :=
      ih (lists.add fresh) (unambiguous_append_singleton.2 ⟨unambiguous, fresh⟩) hr
    rw [List.append_assoc, List.singleton_append] at all lists₂
    exact ⟨n :: names, .cons declares declared, all, lists₂⟩

/-- A map made from names finds them. -/
theorem get?_ofList_names {names : List (Name TypeId)} (unambiguous : Unambiguous names)
    (q : String) : (SortedMap.ofList (names.map fun n => (n.qualified, n.target))).get? q =
      (names.find? (·.qualified == q)).map (·.target) := by
  have nodup : ((names.map fun n => (n.qualified, n.target)).map (·.1)).Nodup := by
    rw [List.map_map]
    exact unambiguous
  ext ty
  rw [← SortedMap.mem_toList_iff, SortedMap.mem_toList_ofList_iff nodup, List.mem_map,
    Option.map_eq_some_iff]
  refine exists_congr fun n => ?_
  rw [unambiguous.find?_eq_some_iff, Prod.mk.injEq, and_assoc]

/-- The graph of some entries is finished from a scope and a graph, with `heads` for the types of
the names in scope. -/
structure LoadedGraph.Finished (l : LoadedGraph) (entries : List TypeEntry) (s : Scope)
    (g : TypeGraph) (heads : List (Name Head)) : Prop where
  placed : ∃ placed, declareAll {} .empty (declarationOrder entries) = .ok (placed, s, g) ∧
    (placed.map (·.2)).Perm l.declared
  read : declareNames [] (declarationList entries) = .ok heads
  of : l.Of entries heads
  finds : s.FindsAll g (meaning heads)
  defined : defineAll s g (entries.zip l.declared) = .ok l.graph
  /-- The names in scope are those of the entries. -/
  listed : ∃ names, List.Forall₂ Name.Declares (entries.zip l.declared) names ∧
    Unambiguous names ∧ s.Lists names ∧ l.scope.Lists names

/-- **How a graph is built**: its entries are declared, and then defined. -/
theorem build_finished {entries : List TypeEntry} {l : LoadedGraph} (h : build entries = .ok l) :
    ∃ s g heads, l.Finished entries s g heads := by
  obtain ⟨heads, read, of⟩ := build_ok h
  obtain ⟨⟨placed, s, g⟩, hp, h⟩ := except_bind_ok_iff.1 h
  obtain ⟨G, hd, h⟩ := except_bind_ok_iff.1 h
  cases h
  obtain ⟨heads', read', all⟩ := (declareAll_agrees Scope.names_empty).exists_right hp
  obtain rfl := Except.ok.inj (read.symm.trans read')
  obtain ⟨made, declares, unambiguous, lists⟩ :=
    declareAll_listed Scope.lists_empty List.nodup_nil hp
  rw [List.nil_append] at unambiguous lists
  obtain ⟨names, declares, perm⟩ :=
    List.perm_comp_forall₂ (perm_inFileOrder all.positions) declares
  have unambiguous' : Unambiguous names := (perm.map _).nodup_iff.2 unambiguous
  have lists' := lists.perm perm.symm unambiguous
  have zip : inFileOrder entries placed =
      entries.zip ((inFileOrder entries placed).map (·.2)) :=
    List.zip_of_prod (map_fst_inFileOrder all.positions) rfl
  have placed_perm := (perm_inFileOrder all.positions).map (·.2)
  rw [List.map_snd_zip (by simpa using (congrArg List.length all.positions).le)] at placed_perm
  refine ⟨s, g, heads, ⟨placed, hp, placed_perm.symm⟩, read, of, all.findsAll, zip ▸ hd, names,
    zip ▸ declares, unambiguous', lists', fun q => ?_, lists'.aliases⟩
  rw [← get?_ofList_names unambiguous']
  refine congrArg (fun m => SortedMap.get? (.ofList m) q) ?_
  rw [List.map_map]
  exact map_eq_map declares fun p n declares => by simp [declares.declared]

namespace LoadedGraph.Finished

variable {l : LoadedGraph} {entries : List TypeEntry} {s : Scope} {g : TypeGraph}
  {heads : List (Name Head)} (h : l.Finished entries s g heads)
include h

/-- The names that are in scope while fields are resolved are those of the finished graph. -/
theorem lookup_eq : l.scope.lookup = s.lookup := by
  obtain ⟨names, -, -, lists, lists'⟩ := h.listed
  funext ns? spelling
  rw [lists.lookup_eq, lists'.lookup_eq]

theorem keeps : g.Keeps l.graph := (defineAll_defined h.finds h.defined).keeps

theorem findsAll : l.scope.FindsAll l.graph (meaning heads) := fun ns? =>
  ⟨h.of.indexed, fun spelling => by
    rw [h.lookup_eq]
    exact (h.finds.mono h.keeps ns?).named spelling⟩

end LoadedGraph.Finished

/-! ### Fields -/

/-- The types of fields are resolved, and can be resolved again. -/
theorem buildFields_resolve {s : Scope} {ns? : Option String} {names : Denotation}
    {g g' G : TypeGraph} {fs : List FieldEntry} {xs : List Field} (finds : s.Finds g ns? names)
    (h : buildAll (buildField s ns?) g fs = .ok (xs, g')) (keeps : g'.Keeps G)
    {f : FieldEntry} (hf : f ∈ fs) :
    ∃ e ty, parseExpr f.type = .ok e ∧ s.resolve ns? e G = .ok (ty, G) := by
  induction fs generalizing g xs with
  | nil => cases hf
  | cons f' rest ih =>
    obtain ⟨⟨x, g₁⟩, hx, h⟩ := except_bind_ok_iff.1 h
    obtain ⟨⟨more, g₂⟩, hmore, h⟩ := except_bind_ok_iff.1 h
    cases h
    have finds₁ := finds.mono (realizes_buildField.sound finds hx).1.keeps
    have keeps₁ := (realizes_buildFields.sound finds₁ hmore).1.keeps.trans keeps
    rcases List.mem_cons.1 hf with rfl | hf
    · obtain ⟨e, parsed, hx⟩ := except_bind_ok_iff.1 hx
      obtain ⟨⟨ty, g₃⟩, resolved, hx⟩ := except_bind_ok_iff.1 hx
      cases hx
      exact ⟨e, ty, within_ok_iff.1 parsed,
        Scope.resolve_again e finds (within_ok_iff.1 resolved) keeps₁⟩
    · exact ih finds₁ hmore hf

/-- In the finished graph the expression of a field resolves to the field's type, and adds nothing.
-/
theorem defineAll_resolve {s : Scope} {names : Option String → Denotation} {g G : TypeGraph}
    {ds : List (TypeEntry × Declaration)} (finds : s.FindsAll g names)
    (h : defineAll s g ds = .ok G) {p : TypeEntry × Declaration} (hp : p ∈ ds)
    (object : p.1.kind = .object) {f : FieldEntry} (hf : f ∈ p.1.fields) :
    ∃ e ty, parseExpr f.type = .ok e ∧ s.resolve p.1.ns? e G = .ok (ty, G) := by
  induction ds generalizing g with
  | nil => cases hp
  | cons q rest ih =>
    obtain ⟨g₁, hd, h⟩ := except_bind_ok_iff.1 h
    have first := defineEntry_defined finds hd
    have finds₁ := finds.mono first.keeps
    rcases List.mem_cons.1 hp with rfl | hp
    · obtain ⟨shape, g₂, built, rfl⟩ := defineEntry_ok_iff.1 hd
      obtain ⟨xs, g₃, cs, g₄, hxs, hcs, eq⟩ := (buildShape_object_ok_iff object).1 built
      cases eq
      have own := finds p.1.ns?
      have fieldsKeep := (realizes_buildFields.sound own hxs).1.keeps
      have offersKeep := (realizes_buildCapabilities.sound (own.mono fieldsKeep) hcs).1.keeps
      have redefined : g₂.Keeps (g₂.modify p.2.type (p.1.redefine (.object ⟨xs, cs⟩))) :=
        modify_keeps g₂ (f := p.1.redefine _) (fun _ => rfl) p.2.type
      have rest := (defineAll_defined finds₁ h).keeps
      exact buildFields_resolve own hxs (offersKeep.trans (redefined.trans rest)) hf
    · exact ih finds₁ h hp

/-- The entry decides on the shape of its type: it is the last one that is declared as it. -/
def Decides (entries : List TypeEntry) (l : LoadedGraph) (p : TypeEntry × Declaration) : Prop :=
  (entriesOf p.2.type (entries.zip l.declared)).getLast? = some p.1

/-- The field of an entry is of the type: its text, an expression, stands for the type, and where
the entry decides on the shape of its type, the field of the object is of the type. -/
structure FieldType (entries : List TypeEntry) (l : LoadedGraph) (p : TypeEntry × Declaration)
    (i : Nat) (e : TypeExpr) (ty : TypeId) : Prop where
  resolves : l.Resolves p.1.ns? e ty
  seen : Decides entries l p → ∃ o x, l.graph.shape? p.2.type = some (.object o) ∧
    o.fields[i]? = some x ∧ x.type = ty

/-- **Every field has a type.** -/
theorem build_fields {entries : List TypeEntry} {l : LoadedGraph} (h : build entries = .ok l)
    {p : TypeEntry × Declaration} (hp : p ∈ entries.zip l.declared) (object : p.1.kind = .object)
    {i : Nat} {f : FieldEntry} (hf : p.1.fields[i]? = some f) :
    ∃ e ty, parseExpr f.type = .ok e ∧ FieldType entries l p i e ty := by
  obtain ⟨s, g, heads, finished⟩ := build_finished h
  have of := finished.of
  obtain ⟨e, ty, parsed, resolved⟩ := defineAll_resolve finished.finds finished.defined
    hp object (List.mem_of_getElem? hf)
  rw [← Scope.resolve_congr (congrFun finished.lookup_eq _)] at resolved
  refine ⟨e, ty, parsed, resolved, fun decides => ?_⟩
  obtain ⟨desc, known, ⟨last, hlast, described, -⟩, -⟩ := of.decided hp
  obtain rfl := Option.some.inj (hlast.symm.trans decides)
  generalize shape : desc.shape = shape at described
  cases described with
  | scalar kind => rw [object] at kind; cases kind
  | enumeration kind => rw [object] at kind; cases kind
  | @object o _ fields =>
    obtain ⟨x, hx, describes⟩ := exists_right_of_getElem? fields hf
    obtain ⟨e', head, parsed', denoted, identity⟩ := describes.type
    obtain rfl := Except.ok.inj (parsed.symm.trans parsed')
    obtain ⟨head', denoted', -, identity'⟩ :=
      (Scope.resolve_agrees e (finished.findsAll _)).exists_right resolved
    obtain rfl := Except.ok.inj (denoted.symm.trans denoted')
    exact ⟨o, x, by rw [shape?, known, Option.map_some, shape], hx,
      of.distinct _ _ _ identity identity'⟩

/-- **Every field of a built file has the type that its expression resolves to.** -/
theorem exists_fieldType {entries : List TypeEntry} {l : LoadedGraph} (h : build entries = .ok l)
    {p : TypeEntry × Declaration} (hp : p ∈ entries.zip l.declared) (object : p.1.kind = .object)
    {i : Nat} {f : FieldEntry} (hf : p.1.fields[i]? = some f) {e : TypeExpr}
    (parsed : parseExpr f.type = .ok e) : ∃ ty, FieldType entries l p i e ty := by
  obtain ⟨e', ty, parsed', typed⟩ := build_fields h hp object hf
  obtain rfl := Except.ok.inj (parsed.symm.trans parsed')
  exact ⟨ty, typed⟩

/-- A text is read as the only expression of which something can be seen. -/
theorem parseExpr_of_view {α : Type} {src : String} (view : TypeExpr → Option α) {a : α}
    {e : TypeExpr} (read : (parseExpr src).toOption.bind view = some a)
    (only : ∀ e', view e' = some a → e' = e) : parseExpr src = .ok e := by
  obtain ⟨e', parsed, seen⟩ := Option.bind_eq_some_iff.1 read
  rw [← only e' seen]
  exact toOption_eq_some_iff.1 parsed

/-- The name that an expression is, if it is a plain one. -/
def plainName? : TypeExpr → Option String
  | .named name [] => some name
  | _ => none

theorem eq_of_plainName? {e : TypeExpr} {name : String} (h : plainName? e = some name) :
    e = .named name [] := by
  match e with
  | .named name' [] => rw [Option.some.inj h]
  | .named _ (_ :: _) => cases h
  | .array _ => cases h
  | .nullable _ => cases h

/-- A field of a type. -/
def fieldOf (name type : String) : FieldEntry :=
  { name, type, required := false, constraints := [], example? := none }

end GraphFile

end TypeSchema
