import TypeSchema.Proofs.GraphFile.Settled

/-!
# Graph files — declaring in any order

Entries may be declared in any order if each of them has the same name whatever is declared before
it (`declareNames_ok_iff`).  `OrderFree` asks for it: generic arguments mean what they mean among
the plain entries, which come first in every order (`OrderFree.nameAmong_before`).  It also asks
that the type of an entry belongs to no other entry, and that it has the head that is read off the
name of the entry, whatever it was born from.
-/

namespace TypeSchema

namespace GraphFile

/-! ### Files whose order does not matter -/

/-- The names of an entry among other names. -/
def TypeEntry.nameAmong (entry : TypeEntry) (names : List (Name Head)) :
    Except BuildError (Name Head) :=
  entry.nameIn (meaning names entry.ns?)

/-- The names of some entries among other names, without those that cannot be read. -/
def namesAmong (names : List (Name Head)) (entries : List TypeEntry) : List (Name Head) :=
  entries.filterMap fun entry => (entry.nameAmong names).toOption

/-- The names of the plain entries, which have no generic arguments and need no other names. -/
def plainNames (entries : List TypeEntry) : List (Name Head) :=
  namesAmong [] (entries.filter (!·.isGeneric))

/-- The entry is named so among the plain entries. -/
def Reads (entries : List TypeEntry) (entry : TypeEntry) (n : Name Head) : Prop :=
  entry.nameAmong (plainNames entries) = .ok n

/-- What the generic arguments of the entries are made of, and the namespaces of the entries. -/
def argumentParts (entries : List TypeEntry) : List (Option String × TypeExpr) :=
  entries.flatMap fun entry => (TypeExpr.partsAll entry.args).map (entry.ns?, ·)

/-- Generic arguments in the names of entries mean what they mean among the plain entries, and no
two entries have one type. -/
structure OrderFree (entries : List TypeEntry) : Prop where
  /-- Entries whose types have one identity are qualified alike. -/
  apart : ∀ n ∈ namesAmong (plainNames entries) entries,
    ∀ m ∈ namesAmong (plainNames entries) entries,
      n.target.identity = m.target.identity → n.qualified = m.qualified
  /-- What may stand for a generic entry denotes its type without it. -/
  settled : ∀ a ∈ argumentParts entries,
    ∀ m ∈ namesAmong (plainNames entries) (entries.filter (·.isGeneric)),
      m.answers a.1 a.2.spelling →
        (a.2.denote (meaning (plainNames entries) a.1)).toOption = some m.target
  /-- What denotes a type with the identity of an entry denotes the type of that entry. -/
  born : ∀ a ∈ argumentParts entries, ∀ m ∈ namesAmong (plainNames entries) entries,
    ∀ h ∈ (a.2.denote (meaning (plainNames entries) a.1)).toOption,
      h.identity = m.target.identity → h = m.target

instance (entries : List TypeEntry) : Decidable (OrderFree entries) :=
  decidable_of_iff (_ ∧ _ ∧ _) ⟨fun ⟨a, b, c⟩ => ⟨a, b, c⟩, fun h => ⟨h.apart, h.settled, h.born⟩⟩

theorem mem_namesAmong_iff {names : List (Name Head)} {entries : List TypeEntry} {n : Name Head} :
    n ∈ namesAmong names entries ↔ ∃ entry ∈ entries, entry.nameAmong names = .ok n := by
  simp [namesAmong, toOption_eq_some_iff]

theorem mem_argumentParts {entries : List TypeEntry} {entry : TypeEntry} (he : entry ∈ entries)
    {e : TypeExpr} (h : e ∈ TypeExpr.partsAll entry.args) :
    (entry.ns?, e) ∈ argumentParts entries :=
  List.mem_flatMap.2 ⟨entry, he, List.mem_map_of_mem h⟩

/-! ### Declaring in any order -/

/-- The name of an entry depends on what its arguments denote. -/
theorem TypeEntry.nameIn_congr {entry : TypeEntry} {names names' : Denotation}
    (same : TypeExpr.denoteAll names entry.args = TypeExpr.denoteAll names' entry.args) :
    entry.nameIn names = entry.nameIn names' := by
  cases parsed : parseExpr entry.name with
  | error e => simp only [nameIn, parsed]; rfl
  | ok expr =>
    cases expr with
    | array e => simp only [nameIn, parsed]; rfl
    | nullable e => simp only [nameIn, parsed]; rfl
    | named name args =>
      rw [nameIn_eq parsed, nameIn_eq parsed, ← args_eq parsed, same]

/-- An entry that is not generic has no arguments. -/
theorem TypeEntry.args_eq_nil {entry : TypeEntry} (h : ¬ entry.isGeneric) : entry.args = [] := by
  unfold args
  split
  · next name args parsed =>
    by_contra some
    have bracket := (TypeExpr.parse_named (parse_of_parseExpr parsed)).2.2 some
    exact h (by simpa [isGeneric] using bracket)
  · rfl

/-- The names of a plain entry are the same among all names. -/
theorem TypeEntry.nameIn_plain {entry : TypeEntry} (h : ¬ entry.isGeneric)
    (names names' : Denotation) : entry.nameIn names = entry.nameIn names' :=
  nameIn_congr (by rw [args_eq_nil h]; rfl)

/-- Names can be declared in an order if each entry is named as `R` says, whatever was declared
before. -/
theorem declareNames_ok_iff {R : TypeEntry → Name Head → Prop} {known names : List (Name Head)}
    {entries : List TypeEntry} (unambiguous : Unambiguous known)
    (step : ∀ before entry after ms, entries = before ++ entry :: after →
      List.Forall₂ R before ms → Unambiguous (known ++ ms) →
      ∀ n, entry.nameAmong (known ++ ms) = .ok n ↔ R entry n) :
    declareNames known entries = .ok names ↔
      List.Forall₂ R entries names ∧ Unambiguous (known ++ names) := by
  induction entries generalizing known names with
  | nil =>
    rw [declareNames, List.forall₂_nil_left_iff]
    constructor
    · intro h; cases h; exact ⟨rfl, by rwa [List.append_nil]⟩
    · rintro ⟨rfl, -⟩; rfl
  | cons entry rest ih =>
    have first : ∀ n, entry.nameAmong known = .ok n ↔ R entry n := by
      simpa using step [] entry rest [] rfl .nil (by simpa using unambiguous)
    have later : ∀ {n more}, R entry n → Unambiguous (known ++ [n]) →
        (declareNames (known ++ [n]) rest = .ok more ↔
          List.Forall₂ R rest more ∧ Unambiguous (known ++ n :: more)) := by
      intro n more hn h
      have split : ∀ l : List (Name Head), known ++ [n] ++ l = known ++ n :: l := by simp
      rw [ih h fun before e after ms he hms => ?_, split]
      rw [split]
      exact step (entry :: before) e after (n :: ms) (congrArg _ he) (.cons hn hms)
    rw [declareNames_cons_ok_iff]
    constructor
    · rintro ⟨n, more, hn, hmore, rfl⟩
      obtain ⟨named, new⟩ := nameAfter_ok_iff.1 hn
      have hR := (first n).1 named
      have one := unambiguous_append_singleton.2 ⟨unambiguous, new⟩
      obtain ⟨hrest, all⟩ := (later hR one).1 hmore
      exact ⟨.cons hR hrest, all⟩
    · rintro ⟨hall, all⟩
      cases hall with
      | cons hn hrest =>
        rename_i n more
        have one : Unambiguous (known ++ [n]) := by
          have sub : (known ++ [n]).Sublist (known ++ n :: more) :=
            List.Sublist.append_left (List.singleton_sublist.2 List.mem_cons_self) _
          exact all.sublist (sub.map _)
        have new := (unambiguous_append_singleton.1 one).2
        exact ⟨n, more, nameAfter_ok_iff.2 ⟨(first n).2 hn, new⟩,
          (later hn one).2 ⟨hrest, all⟩, rfl⟩

/-- Plain entries come first. -/
theorem declarationList_eq (entries : List TypeEntry) : declarationList entries =
    entries.filter (!·.isGeneric) ++ entries.filter (·.isGeneric) := by
  have part : ∀ p : TypeEntry → Bool,
      (entries.zipIdx.filter fun e => p e.1).map (·.1) = entries.filter p := fun p => by
    conv_rhs => rw [← List.zipIdx_map_fst 0 entries, List.filter_map]
    rfl
  rw [declarationList, declarationOrder, List.map_append, part (!·.isGeneric), part (·.isGeneric)]

/-- Entries are declared once each, in some order. -/
theorem perm_declarationList (entries : List TypeEntry) :
    (declarationList entries).Perm entries := by
  have perm := (perm_declarationOrder entries).map (·.1)
  rwa [List.zipIdx_map_fst] at perm

/-- All plain entries are declared before a generic one. -/
theorem exists_between {es before after : List TypeEntry} {entry : TypeEntry}
    (split : declarationList es = before ++ entry :: after) (generic : entry.isGeneric) :
    ∃ between, before = es.filter (!·.isGeneric) ++ between ∧ ∀ e ∈ between, e.isGeneric := by
  rw [declarationList_eq] at split
  rcases List.append_eq_append_iff.1 split with ⟨between, rfl, rest⟩ | ⟨left, first, rest⟩
  · refine ⟨between, rfl, fun e he => ?_⟩
    have hmem : e ∈ es.filter (·.isGeneric) := rest ▸ List.mem_append_left _ he
    exact (List.mem_filter.1 hmem).2
  · cases left with
    | nil => exact ⟨[], by simpa using first.symm, by simp⟩
    | cons e left =>
      obtain ⟨rfl, -⟩ := List.cons.inj rest
      have hmem : entry ∈ es.filter (!·.isGeneric) :=
        first ▸ List.mem_append_right _ List.mem_cons_self
      simpa [generic] using (List.mem_filter.1 hmem).2

section Reads

variable {entries es : List TypeEntry}

/-- A plain name is among the names, whatever the others mean. -/
theorem mem_namesAmong_of_mem_plainNames {n : Name Head} (h : n ∈ plainNames entries) :
    n ∈ namesAmong (plainNames entries) entries := by
  obtain ⟨e, he, hn⟩ := mem_namesAmong_iff.1 h
  obtain ⟨he, plain⟩ := List.mem_filter.1 he
  exact mem_namesAmong_iff.2 ⟨e, he, (TypeEntry.nameIn_plain (by simpa using plain) _ _).trans hn⟩

/-- The names of the plain entries are read in any order. -/
theorem perm_plainNames {plain : List TypeEntry} {ms : List (Name Head)}
    (perm : plain.Perm (entries.filter (!·.isGeneric)))
    (h : List.Forall₂ (Reads entries) plain ms) : ms.Perm (plainNames entries) := by
  have bare : ∀ e ∈ plain, ¬ e.isGeneric := fun e he => by
    simpa using (List.mem_filter.1 (perm.mem_iff.1 he)).2
  have names : namesAmong [] plain = ms := by
    clear perm
    induction h with
    | nil => rfl
    | @cons e n _ _ hn _ ih =>
      have hn' : e.nameAmong [] = .ok n :=
        (TypeEntry.nameIn_plain (bare e List.mem_cons_self) _ _).trans hn
      rw [namesAmong, List.filterMap_cons, hn', ← ih fun e he => bare e (List.mem_cons_of_mem _ he)]
      rfl
  exact names ▸ perm.filterMap _

end Reads

namespace OrderFree

variable {entries es before after : List TypeEntry} {entry : TypeEntry} {ms : List (Name Head)}
  (free : OrderFree entries) (perm : es.Perm entries)
include free perm

/-- **What is declared before an entry** changes nothing for its generic arguments. -/
theorem settled_before (split : declarationList es = before ++ entry :: after)
    (read : List.Forall₂ (Reads entries) before ms) (unambiguous : Unambiguous ms) {name : String}
    {args : List TypeExpr} (hx : .named name args ∈ TypeExpr.partsAll entry.args) :
    Settled (meaning ms entry.ns?) (meaning (plainNames entries) entry.ns?)
      (.named name args) := by
  have mem : ∀ e ∈ before ++ entry :: after, e ∈ entries := fun e he =>
    perm.mem_iff.1 ((perm_declarationList es).mem_iff.1 (split ▸ he))
  have generic : entry.isGeneric := by
    by_contra plain
    rw [TypeEntry.args_eq_nil plain] at hx
    cases hx
  obtain ⟨between, rfl, isGeneric⟩ := exists_between split generic
  obtain ⟨plain, more, rfl, hplain, hmore⟩ := forall₂_append_left read
  have perm' := (perm_plainNames (perm.filter _) hplain).append_right more
  have unambiguous' := (perm'.map _).nodup_iff.1 unambiguous
  have genericNames : ∀ m ∈ more,
      m ∈ namesAmong (plainNames entries) (entries.filter (·.isGeneric)) := fun m hm => by
    obtain ⟨e, he, hm⟩ := exists_left_of_mem hmore hm
    exact mem_namesAmong_iff.2 ⟨e, List.mem_filter.2
      ⟨mem e (by simp [he]), isGeneric e he⟩, hm⟩
  have allNames : ∀ m ∈ plainNames entries ++ more,
      m ∈ namesAmong (plainNames entries) entries := fun m hm => by
    rcases List.mem_append.1 hm with hm | hm
    · exact mem_namesAmong_of_mem_plainNames hm
    · obtain ⟨e, he, hm⟩ := mem_namesAmong_iff.1 (genericNames m hm)
      exact mem_namesAmong_iff.2 ⟨e, (List.mem_filter.1 he).1, hm⟩
  rw [meaning_perm perm' unambiguous]
  refine settled_append unambiguous' (fun n hn m hm same => ?_) fun m hm answers => ?_
  · exact free.apart n (allNames n hn) m (allNames m hm) (congrArg _ same)
  · have part := mem_argumentParts (mem entry (by simp)) hx
    exact toOption_eq_some_iff.1 (free.settled _ part m (genericNames m hm) answers)

/-- An entry has the same names whatever is declared before it. -/
theorem nameAmong_before (split : declarationList es = before ++ entry :: after)
    (read : List.Forall₂ (Reads entries) before ms) (unambiguous : Unambiguous ms) :
    entry.nameAmong ms = entry.nameAmong (plainNames entries) :=
  TypeEntry.nameIn_congr
    (denoteAll_congr _ fun _ _ hx => free.settled_before perm split read unambiguous hx)

/-- **Names are declared in any order** if they can be read and are different. -/
theorem declareNames_ok_iff {rest : List TypeEntry} {names : List (Name Head)}
    (split : declarationList es = before ++ rest) :
    declareNames [] before = .ok names ↔
      List.Forall₂ (Reads entries) before names ∧ Unambiguous names := by
  refine GraphFile.declareNames_ok_iff List.nodup_nil
    fun first entry last ms split' read unambiguous n => ?_
  rw [List.nil_append] at unambiguous ⊢
  have split'' : declarationList es = first ++ entry :: (last ++ rest) := by
    rw [split, split', List.append_assoc, List.cons_append]
  rw [free.nameAmong_before perm split'' read unambiguous]
  rfl

/-- **All entries can be declared exactly if each can be read among all names and no name is given
twice.** -/
theorem declareNames_all_ok_iff {names : List (Name Head)} :
    declareNames [] (declarationList es) = .ok names ↔
      List.Forall₂ (Reads entries) (declarationList es) names ∧ Unambiguous names :=
  free.declareNames_ok_iff perm (List.append_nil _).symm

end OrderFree

/-- A file without generic entries has no order. -/
theorem orderFree_of_plain {entries : List TypeEntry} (plain : ∀ e ∈ entries, ¬ e.isGeneric) :
    OrderFree entries := by
  have absent : ∀ a, a ∉ argumentParts entries := fun a ha => by
    obtain ⟨e, he, ha⟩ := List.mem_flatMap.1 ha
    rw [TypeEntry.args_eq_nil (plain e he)] at ha
    cases ha
  refine ⟨fun n hn m hm same => ?_, fun a ha => absurd ha (absent a),
    fun a ha => absurd ha (absent a)⟩
  obtain ⟨e, he, hn⟩ := mem_namesAmong_iff.1 hn
  obtain ⟨e', -, hm⟩ := mem_namesAmong_iff.1 hm
  exact ((TypeEntry.isNamed_of_nameIn hn).qualified_eq (TypeEntry.isNamed_of_nameIn hm)
    (TypeEntry.args_eq_nil (plain e he)) same.symm).symm

end GraphFile

end TypeSchema
