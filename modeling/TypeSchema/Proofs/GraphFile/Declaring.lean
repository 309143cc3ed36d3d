import TypeSchema.Proofs.GraphFile.Names

/-!
# Graph files — declaring entries

Declaring entries can be followed without graphs and their numbers: `declareNames` reads the names
of the entries and the heads of their types one after the other, each among the names before.
Declaring the entries in a graph agrees with it (`declareAll_agrees`): both fail with the same
error, or every declared type has the identity that is read, and every type of the graph has the
head of an entry or of a part of its generic arguments.
-/

namespace TypeSchema

open TypeGraph

namespace GraphFile

/-- The generic arguments in the name of an entry. -/
def TypeEntry.args (entry : TypeEntry) : List TypeExpr :=
  match parseExpr entry.name with
  | .ok (.named _ args) => args
  | _ => []

/-- The names of an entry and the head of its type, given what the names in scope denote. -/
def TypeEntry.nameIn (entry : TypeEntry) (names : Denotation) : Except BuildError (Name Head) := do
  match ← within (.inTypeName entry.name) (parseExpr entry.name) with
  | .named name args =>
    let identities ← within (.inArguments entry.name) (TypeExpr.denoteAll names args)
    let spelling := (TypeExpr.named name args).spelling
    let outer := qualify entry.ns? name
    return ⟨qualify entry.ns? spelling, spelling, .generic outer (simpleName outer) identities⟩
  | _ => throw (.wrappedName entry.name)

/-- The name of an entry that is declared after others. -/
def TypeEntry.nameAfter (entry : TypeEntry) (names : List (Name Head)) :
    Except BuildError (Name Head) := do
  let n ← entry.nameIn (meaning names entry.ns?)
  if n.qualified ∈ names.map (·.qualified) then throw (.declaredTwice n.qualified) else return n

/-- The names of entries that are declared in order, after others. -/
def declareNames (names : List (Name Head)) : List TypeEntry → Except BuildError (List (Name Head))
  | [] => return []
  | entry :: rest => do
    let n ← entry.nameAfter names
    let more ← declareNames (names ++ [n]) rest
    return n :: more

/-- The head is that of the type of an entry, or of a part of its generic arguments. -/
def TypeEntry.Bears (entry : TypeEntry) (names : Denotation) (h : Head) : Prop :=
  Mentioned names (TypeExpr.partsAll entry.args) h ∨ ∃ n, entry.nameIn names = .ok n ∧ n.target = h

/-- An entry that is declared in order bears the head. -/
def Borne (names : List (Name Head)) : List TypeEntry → Head → Prop
  | [], _ => False
  | entry :: rest, h => entry.Bears (meaning names entry.ns?) h ∨
    ∃ n, entry.nameAfter names = .ok n ∧ Borne (names ++ [n]) rest h

/-! ### One entry -/

/-- The graph is indexed, and the scope lists names for types of these heads. -/
structure Scope.Names (s : Scope) (g : TypeGraph) (names : List (Name Head)) : Prop where
  indexed : g.Indexed
  listed : ∃ listed, s.Lists listed ∧
    SameNames (fun ty h => g.identity? ty = some h.identity) listed names

theorem SameNames.qualified {α β : Type} {R : α → β → Prop} {names : List (Name α)}
    {names' : List (Name β)} (h : SameNames R names names') :
    names.map (·.qualified) = names'.map (·.qualified) :=
  map_eq_map h fun _ _ h => h.qualified

namespace Scope.Names

variable {s : Scope} {g g' : TypeGraph} {names : List (Name Head)}

/-- A scope that names the declared entries finds what they mean. -/
theorem finds (h : s.Names g names) (ns? : Option String) : s.Finds g ns? (meaning names ns?) := by
  obtain ⟨indexed, listed, lists, same⟩ := h
  exact ⟨indexed, fun spelling => lists.lookup_eq ns? spelling ▸ same.meaning ns? spelling⟩

theorem mono (h : s.Names g names) (keeps : g.Keeps g') : s.Names g' names := by
  obtain ⟨indexed, listed, lists, same⟩ := h
  exact ⟨keeps.indexed indexed, listed, lists,
    same.imp fun n m h => ⟨h.qualified, h.spelling, keeps.identity _ _ h.target⟩⟩

/-- A qualified name is taken exactly if one of the names has it. -/
theorem contains_iff (h : s.Names g names) {q : String} :
    s.qualified.contains q ↔ q ∈ names.map (·.qualified) := by
  obtain ⟨-, listed, lists, same⟩ := h
  rw [lists.contains_iff, same.qualified]

/-- One more name, for a type with its identity, keeps the scope named. -/
theorem add (h : s.Names g names) {n : Name Head} {ty : TypeId}
    (identity : g.identity? ty = some n.target.identity)
    (fresh : n.qualified ∉ names.map (·.qualified)) :
    (s.addName ⟨n.qualified, n.spelling, ty⟩).Names g (names ++ [n]) := by
  obtain ⟨indexed, listed, lists, same⟩ := h
  refine ⟨indexed, _, lists.add (same.qualified ▸ fresh), ?_⟩
  exact List.rel_append same (.cons ⟨rfl, rfl, identity⟩ .nil)

end Scope.Names

/-- An entry is declared under its name. -/
structure DeclaredAs (names : List (Name Head)) (entry : TypeEntry) (g : TypeGraph)
    (r : Declaration × Scope × TypeGraph) (n : Name Head) : Prop where
  grown : Grown (entry.Bears (meaning names entry.ns?)) g r.2.2
  qualified : r.1.qualified = n.qualified
  identity : r.2.2.identity? r.1.type = some n.target.identity
  names : r.2.1.Names r.2.2 (names ++ [n])

/-- Saying where an error occurred keeps two outcomes in agreement. -/
theorem within_agrees {α β : Type} {R : α → β → Prop} {x : Except BuildError α}
    {y : Except BuildError β} (h : Agree R x y) (place : BuildError → BuildError) :
    Agree R (within place x) (within place y) := by
  cases h with
  | ok h => exact .ok h
  | error e => exact .error _

section Named

variable {s : Scope} {g : TypeGraph} {entry : TypeEntry} {name : String} {args : List TypeExpr}
  (parsed : parseExpr entry.name = .ok (.named name args))
include parsed

theorem TypeEntry.args_eq : entry.args = args := by
  simp only [TypeEntry.args, parsed]

/-- The names of an entry, once the head of its type is known. -/
theorem TypeEntry.nameIn_eq (names : Denotation) :
    entry.nameIn names = (do
      let identities ← within (.inArguments entry.name) (TypeExpr.denoteAll names args)
      return ⟨qualify entry.ns? (TypeExpr.named name args).spelling,
        (TypeExpr.named name args).spelling,
        .generic (qualify entry.ns? name) (simpleName (qualify entry.ns? name)) identities⟩) := by
  simp only [TypeEntry.nameIn, parsed, within]
  rfl

/-- An entry is declared like a generic one, also when it has no arguments. -/
theorem declareEntry_eq :
    declareEntry s g entry = (do
      let (tys, g₁) ← within (.inArguments entry.name) (s.resolveAll entry.ns? args g)
      let (ty, g₂) := g₁.declareGeneric (qualify entry.ns? name) tys
      let spelling := (TypeExpr.named name args).spelling
      let qualified := qualify entry.ns? spelling
      if s.qualified.contains qualified then throw (.declaredTwice qualified)
      else return (⟨qualified, ty⟩, s.addName ⟨qualified, spelling, ty⟩, g₂)) := by
  simp only [declareEntry, parsed, within, Scope.addName]
  cases args with
  | nil => rfl
  | cons a rest =>
    simp only [bind, Except.bind]
    cases s.resolveAll entry.ns? (a :: rest) g with
    | error e => rfl
    | ok r => rfl

end Named

/-- **Declaring an entry agrees with reading its name.** -/
theorem declareEntry_agrees {s : Scope} {g : TypeGraph} {names : List (Name Head)}
    (hs : s.Names g names) (entry : TypeEntry) :
    Agree (DeclaredAs names entry g) (declareEntry s g entry) (entry.nameAfter names) := by
  cases parsed : parseExpr entry.name with
  | error e =>
    simp only [declareEntry, TypeEntry.nameAfter, TypeEntry.nameIn, parsed]
    exact .error _
  | ok expr =>
    cases expr with
    | array e =>
      simp only [declareEntry, TypeEntry.nameAfter, TypeEntry.nameIn, parsed]
      exact .error _
    | nullable e =>
      simp only [declareEntry, TypeEntry.nameAfter, TypeEntry.nameIn, parsed]
      exact .error _
    | named name args =>
      have nameIn := TypeEntry.nameIn_eq parsed (meaning names entry.ns?)
      rw [declareEntry_eq parsed, TypeEntry.nameAfter, nameIn, bind_assoc]
      refine (within_agrees (Scope.resolveAll_agrees args (hs.finds entry.ns?)) _).bind
        fun ⟨tys, g₁⟩ is denoted ⟨grown, ids⟩ => ?_
      rw [denoted] at nameIn
      obtain ⟨declared, identity⟩ : Resolved (entry.Bears (meaning names entry.ns?)) g
          (g₁.declareGeneric (qualify entry.ns? name) tys) _ :=
        .intern hs.indexed grown (fun h hm => .inl (TypeEntry.args_eq parsed ▸ hm))
          (.generic ids (qualify entry.ns? name) (simpleName (qualify entry.ns? name)) (.object {}))
          (.inr ⟨_, nameIn, rfl⟩) rfl
      have names' := hs.mono declared.keeps
      simp only [pure_bind, hs.contains_iff]
      split
      · exact .error _
      · next fresh =>
        exact .ok ⟨declared, rfl, identity, names'.add (n := ⟨_, _, _⟩) identity fresh⟩

/-! ### All entries -/

/-- The declaration is that of the name. -/
structure Declaration.Of (g : TypeGraph) (d : Declaration) (n : Name Head) : Prop where
  qualified : d.qualified = n.qualified
  identity : g.identity? d.type = some n.target.identity

/-- Entries are declared under their names, after others. -/
structure DeclaredAll (known : List (Name Head)) (entries : List (TypeEntry × Nat)) (g : TypeGraph)
    (r : List (Nat × Declaration) × Scope × TypeGraph) (names : List (Name Head)) : Prop where
  grown : Grown (Borne known (entries.map (·.1))) g r.2.2
  positions : r.1.map (·.1) = entries.map (·.2)
  declared : List.Forall₂ (Declaration.Of r.2.2) (r.1.map (·.2)) names
  names : r.2.1.Names r.2.2 (known ++ names)

/-- **Declaring entries agrees with reading their names.** -/
theorem declareAll_agrees {s : Scope} {g : TypeGraph} {known : List (Name Head)}
    {entries : List (TypeEntry × Nat)} (hs : s.Names g known) :
    Agree (DeclaredAll known entries g) (declareAll s g entries)
      (declareNames known (entries.map (·.1))) := by
  induction entries generalizing s g known with
  | nil => exact .ok ⟨.refl _ g, rfl, .nil, (List.append_nil known).symm ▸ hs⟩
  | cons e rest ih =>
    obtain ⟨entry, i⟩ := e
    rw [declareAll, List.map_cons, declareNames]
    refine (declareEntry_agrees hs entry).bind fun ⟨d, s₁, g₁⟩ n named first => ?_
    refine (ih first.names).bind fun ⟨placed, s₂, g₂⟩ names _ more => .ok ?_
    refine ⟨?_, congrArg (i :: ·) more.positions, .cons ?_ more.declared, ?_⟩
    · exact (first.grown.mono fun _ h => .inl h).trans
        (more.grown.mono fun _ h => .inr ⟨n, named, h⟩)
    · exact ⟨first.qualified, more.grown.keeps.identity _ _ first.identity⟩
    · have names' := more.names
      rwa [List.append_assoc, List.singleton_append] at names'

/-- An entry gets its name if it is read among the known ones and its qualified name is free. -/
theorem nameAfter_ok_iff {entry : TypeEntry} {names : List (Name Head)} {n : Name Head} :
    entry.nameAfter names = .ok n ↔
      entry.nameIn (meaning names entry.ns?) = .ok n ∧ n.qualified ∉ names.map (·.qualified) := by
  rw [TypeEntry.nameAfter, except_bind_ok_iff]
  constructor
  · rintro ⟨m, hm, h⟩
    split at h
    · cases h
    · next fresh => cases h; exact ⟨hm, fresh⟩
  · rintro ⟨hn, fresh⟩
    exact ⟨n, hn, if_neg fresh⟩

/-- Names are given one after the other, each among those before it. -/
theorem declareNames_cons_ok_iff {known names : List (Name Head)} {entry : TypeEntry}
    {rest : List TypeEntry} : declareNames known (entry :: rest) = .ok names ↔
      ∃ n more, entry.nameAfter known = .ok n ∧ declareNames (known ++ [n]) rest = .ok more ∧
        names = n :: more := by
  rw [declareNames]
  constructor
  · intro h
    obtain ⟨n, hn, h⟩ := except_bind_ok_iff.1 h
    obtain ⟨more, hmore, h⟩ := except_bind_ok_iff.1 h
    exact ⟨n, more, hn, hmore, (Except.ok.inj h).symm⟩
  · rintro ⟨n, more, hn, hmore, rfl⟩
    exact except_bind_ok_iff.2 ⟨n, hn, except_bind_ok_iff.2 ⟨more, hmore, rfl⟩⟩

/-- No two entries are declared under one name. -/
theorem Unambiguous.declareNames {known names : List (Name Head)} {entries : List TypeEntry}
    (h : Unambiguous known) (hd : declareNames known entries = .ok names) :
    Unambiguous (known ++ names) := by
  induction entries generalizing known names with
  | nil => cases hd; rwa [List.append_nil]
  | cons entry rest ih =>
    obtain ⟨n, more, hn, hmore, rfl⟩ := declareNames_cons_ok_iff.1 hd
    have fresh := (nameAfter_ok_iff.1 hn).2
    have all := ih (unambiguous_append_singleton.2 ⟨h, fresh⟩) hmore
    rwa [List.append_assoc, List.singleton_append] at all

/-- Names that are all given are unambiguous. -/
theorem unambiguous_of_declareNames {names : List (Name Head)} {entries : List TypeEntry}
    (h : declareNames [] entries = .ok names) : Unambiguous names := by
  have empty : Unambiguous ([] : List (Name Head)) := List.nodup_nil
  exact empty.declareNames h

/-- Each entry has its name among other names. -/
theorem forall₂_of_declareNames {known names : List (Name Head)} {entries : List TypeEntry}
    (h : declareNames known entries = .ok names) :
    List.Forall₂ (fun entry n => ∃ names, entry.nameIn names = .ok n) entries names := by
  induction entries generalizing known names with
  | nil => cases h; exact .nil
  | cons entry rest ih =>
    obtain ⟨n, more, hn, hmore, rfl⟩ := declareNames_cons_ok_iff.1 h
    exact .cons ⟨_, (nameAfter_ok_iff.1 hn).1⟩ (ih hmore)

/-! ### The order of the file -/

/-- Declarations are made in another order than that of the file. -/
theorem perm_declarationOrder (entries : List TypeEntry) :
    (declarationOrder entries).Perm entries.zipIdx :=
  List.perm_append_comm.trans (List.filter_append_perm (fun e => e.1.isGeneric) entries.zipIdx)

/-- No position is declared twice. -/
theorem nodup_positions (entries : List TypeEntry) :
    ((declarationOrder entries).map (·.2)).Nodup :=
  ((perm_declarationOrder entries).map _).nodup_iff.2 (by simp [List.nodup_range'])

/-- A declaration is found at its position. -/
theorem lookup_of_nodup {placed : List (Nat × Declaration)} (nodup : (placed.map (·.1)).Nodup)
    {i : Nat} {d : Declaration} (h : (i, d) ∈ placed) : placed.lookup i = some d := by
  obtain ⟨before, after, rfl⟩ := List.append_of_mem h
  refine List.lookup_eq_some_iff.2 ⟨before, after, rfl, fun p hp => ?_⟩
  rw [List.map_append, List.map_cons] at nodup
  have other := (List.nodup_append.1 nodup).2.2 p.1 (List.mem_map_of_mem hp) i List.mem_cons_self
  simpa using Ne.symm other

/-- Entry by entry the declaration at its position is found. -/
theorem filterMap_lookup {placed : List (Nat × Declaration)} (nodup : (placed.map (·.1)).Nodup)
    {es : List (TypeEntry × Nat)} {ps : List (Nat × Declaration)}
    (same : ps.map (·.1) = es.map (·.2)) (sub : ps ⊆ placed) :
    es.filterMap (fun e => (placed.lookup e.2).map (e.1, ·)) =
      List.zip (es.map (·.1)) (ps.map (·.2)) := by
  induction es generalizing ps with
  | nil => rfl
  | cons e rest ih =>
    cases ps with
    | nil => cases same
    | cons p ps =>
      obtain ⟨head, tail⟩ : p.1 = e.2 ∧ _ := List.cons.inj same
      have here : placed.lookup e.2 = some p.2 :=
        head ▸ lookup_of_nodup nodup (sub List.mem_cons_self)
      simp only [List.filterMap_cons, here, Option.map_some, List.map_cons, List.zip_cons_cons]
      rw [ih tail (List.subset_of_cons_subset sub)]

section FileOrder

variable {entries : List TypeEntry} {placed : List (Nat × Declaration)}
  (positions : placed.map (·.1) = (declarationOrder entries).map (·.2))
include positions

/-- The declarations in the order of the file are those that were made. -/
theorem perm_inFileOrder : (inFileOrder entries placed).Perm
    (List.zip ((declarationOrder entries).map (·.1)) (placed.map (·.2))) := by
  have nodup : (placed.map (·.1)).Nodup := positions ▸ nodup_positions entries
  rw [← filterMap_lookup nodup positions (List.Subset.refl _)]
  exact ((perm_declarationOrder entries).filterMap _).symm

/-- There is one declaration for each entry, in the order of the file. -/
theorem map_fst_inFileOrder : (inFileOrder entries placed).map (·.1) = entries := by
  have nodup : (placed.map (·.1)).Nodup := positions ▸ nodup_positions entries
  have all : ∀ e ∈ entries.zipIdx, ((placed.lookup e.2).map (e.1, ·)).map (·.1) = some e.1 := by
    intro e he
    have placed' : e.2 ∈ placed.map (·.1) :=
      positions ▸ List.mem_map_of_mem ((perm_declarationOrder entries).mem_iff.2 he)
    obtain ⟨⟨i, d⟩, hp, rfl⟩ := List.mem_map.1 placed'
    rw [lookup_of_nodup nodup hp]
    rfl
  rw [inFileOrder, List.map_filterMap, List.filterMap_congr all]
  simp [← Function.comp_def some]

end FileOrder

end GraphFile

end TypeSchema
