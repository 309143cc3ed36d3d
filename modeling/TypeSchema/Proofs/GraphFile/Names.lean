import TypeSchema.Proofs.GraphFile.Readings
import TypeSchema.Proofs.RelatedLists
import TypeSchema.Proofs.SortedMap

/-!
# Graph files — names in scope

A `Name` is how an entry can be spelled, together with what it stands for; `meaning` finds what a
spelling stands for among some names.  The order of the names does not matter, as long as no two of
them are qualified alike (`meaning_perm`).

A scope lists the names that have been declared (`Scope.Lists`), and looks spellings up as `meaning`
does (`Scope.Lists.lookup_eq`).
-/

namespace TypeSchema.GraphFile

/-- How an entry can be spelled, qualified and bare, and what it stands for. -/
structure Name (α : Type) where
  qualified : String
  spelling : String
  target : α
  deriving DecidableEq

variable {α β : Type}

/-- The bare spelling is an alias of the name: it is not the qualified one. -/
def Name.hasAlias (n : Name α) (spelling : String) : Bool :=
  n.qualified != n.spelling && n.spelling == spelling

/-- What an alias stands for if these are the names that have it: the only one of them. -/
def sole (spelling : String) : List (Name α) → Except BuildError (Option α)
  | [] => .ok none
  | [n] => .ok (some n.target)
  | _ :: _ :: _ => .error (.ambiguous spelling)

/-- What a spelling stands for in a namespace: an entry of the namespace comes first, then one that
is qualified so, then the only one with that alias. -/
def meaning (names : List (Name α)) (ns? : Option String) (spelling : String) :
    Except BuildError (Option α) :=
  match names.find? (·.qualified == qualify ns? spelling) with
  | some n => .ok (some n.target)
  | none =>
    match names.find? (·.qualified == spelling) with
    | some n => .ok (some n.target)
    | none => sole spelling (names.filter (·.hasAlias spelling))

/-! ### Names in another order -/

/-- No two names are qualified alike. -/
abbrev Unambiguous (names : List (Name α)) : Prop := (names.map (·.qualified)).Nodup

/-- A qualified name is one name's. -/
theorem Unambiguous.eq {names : List (Name α)} (h : Unambiguous names) {n m : Name α}
    (hn : n ∈ names) (hm : m ∈ names) (same : n.qualified = m.qualified) : n = m :=
  List.inj_on_of_nodup_map h hn hm same

theorem unambiguous_append_singleton {names : List (Name α)} {n : Name α} :
    Unambiguous (names ++ [n]) ↔
      Unambiguous names ∧ n.qualified ∉ names.map (·.qualified) := by
  rw [Unambiguous, List.map_append, List.map_singleton, ← List.concat_eq_append,
    List.nodup_concat]
  exact and_comm

/-- Among unambiguous names the one with a qualified name is found. -/
theorem Unambiguous.find?_eq_some_iff {names : List (Name α)} (h : Unambiguous names) {q : String}
    {n : Name α} :
    names.find? (·.qualified == q) = some n ↔ n ∈ names ∧ n.qualified = q := by
  constructor
  · exact fun found => ⟨List.mem_of_find?_eq_some found, by simpa using List.find?_some found⟩
  · rintro ⟨hn, rfl⟩
    cases found : names.find? (·.qualified == n.qualified) with
    | none => simpa using List.find?_eq_none.1 found n hn
    | some m =>
      rw [h.eq (List.mem_of_find?_eq_some found) hn (by simpa using List.find?_some found)]

/-- Whether a name is the only one does not depend on the order. -/
theorem sole_perm {names names' : List (Name α)} (perm : names.Perm names') (spelling : String) :
    sole spelling names = sole spelling names' := by
  match names, names', perm.length_eq with
  | [], [], _ => rfl
  | [n], [m], _ => rw [List.singleton_perm_singleton.1 perm]
  | _ :: _ :: _, _ :: _ :: _, _ => rfl

/-- A name among those of a spelling is what it means, unless it is ambiguous. -/
theorem sole_eq_of_mem {spelling : String} {names : List (Name α)} {n : Name α} (hn : n ∈ names)
    (unfailing : ∀ e, sole spelling names ≠ .error e) :
    sole spelling names = .ok (some n.target) := by
  match names with
  | [] => cases hn
  | [m] => rw [List.mem_singleton.1 hn]; rfl
  | _ :: _ :: _ => exact absurd rfl (unfailing _)

/-- A second name with an alias makes it ambiguous. -/
theorem sole_append (spelling : String) (names : List (Name α)) (n : Name α) :
    sole spelling (names ++ [n]) =
      if names.isEmpty then .ok (some n.target) else .error (.ambiguous spelling) := by
  match names with
  | [] => rfl
  | [_] => rfl
  | _ :: _ :: _ => rfl

/-- **The order of names does not matter.** -/
theorem meaning_perm {names names' : List (Name α)} (perm : names.Perm names')
    (h : Unambiguous names) : meaning names = meaning names' := by
  have h' : Unambiguous names' := (perm.map _).nodup_iff.1 h
  have found : ∀ q, names.find? (·.qualified == q) = names'.find? (·.qualified == q) := fun q => by
    ext n
    rw [h.find?_eq_some_iff, h'.find?_eq_some_iff, perm.mem_iff]
  funext ns? spelling
  simp only [meaning, found, sole_perm (perm.filter _)]

/-! ### Names for other things -/

/-- The names are the same, and what they stand for is related. -/
structure Name.Same (R : α → β → Prop) (n : Name α) (m : Name β) : Prop where
  qualified : n.qualified = m.qualified
  spelling : n.spelling = m.spelling
  target : R n.target m.target

/-- The names are the same, one by one, and what they stand for is related. -/
abbrev SameNames (R : α → β → Prop) : List (Name α) → List (Name β) → Prop :=
  List.Forall₂ (Name.Same R)

theorem SameNames.find? {R : α → β → Prop} {names : List (Name α)} {names' : List (Name β)}
    (h : SameNames R names names') (q : String) :
    Option.Rel (Name.Same R) (names.find? (·.qualified == q))
      (names'.find? (·.qualified == q)) := by
  induction h with
  | nil => exact .none
  | cons hn _ ih =>
    simp only [List.find?_cons, hn.qualified]
    split
    · exact .some hn
    · exact ih

theorem SameNames.sole {R : α → β → Prop} {names : List (Name α)} {names' : List (Name β)}
    (h : SameNames R names names') (spelling : String) :
    Agree (Option.Rel R) (sole spelling names) (GraphFile.sole spelling names') := by
  match h with
  | .nil => exact .ok .none
  | .cons hn .nil => exact .ok (.some hn.target)
  | .cons _ (.cons _ _) => exact .error _

/-- Names that are the same but for their targets mean related things. -/
theorem SameNames.meaning {R : α → β → Prop} {names : List (Name α)} {names' : List (Name β)}
    (h : SameNames R names names') (ns? : Option String) (spelling : String) :
    Agree (Option.Rel R) (meaning names ns? spelling) (GraphFile.meaning names' ns? spelling) := by
  have aliases : SameNames R (names.filter (·.hasAlias spelling))
      (names'.filter (·.hasAlias spelling)) :=
    List.rel_filter (fun n m hn => by simp [Name.hasAlias, hn.qualified, hn.spelling]) h
  have inNamespace := h.find? (qualify ns? spelling)
  have qualified := h.find? spelling
  unfold GraphFile.meaning
  generalize names.find? (·.qualified == qualify ns? spelling) = n?,
    names'.find? (·.qualified == qualify ns? spelling) = n?' at inNamespace ⊢
  cases inNamespace with
  | some hn => exact .ok (.some hn.target)
  | none =>
    generalize names.find? (·.qualified == spelling) = n?,
      names'.find? (·.qualified == spelling) = n?' at qualified ⊢
    cases qualified with
    | some hn => exact .ok (.some hn.target)
    | none => exact aliases.sole spelling

/-! ### Scopes -/

/-- What an alias stands for by its entry in a scope. -/
def Alias.meaning (spelling : String) : Option Alias → Except BuildError (Option TypeId)
  | none => .ok none
  | some (.unique ty) => .ok (some ty)
  | some .ambiguous => .error (.ambiguous spelling)

namespace Scope

/-- The scope lists these names. -/
structure Lists (s : Scope) (names : List (Name TypeId)) : Prop where
  qualified : ∀ q, s.qualified.get? q = (names.find? (·.qualified == q)).map (·.target)
  aliases : ∀ spelling, Alias.meaning spelling (s.aliases.get? spelling) =
    sole spelling (names.filter (·.hasAlias spelling))

theorem lists_empty : Lists {} [] := ⟨fun _ => rfl, fun _ => rfl⟩

/-- **A scope looks a spelling up among its names.** -/
theorem Lists.lookup_eq {s : Scope} {names : List (Name TypeId)} (h : s.Lists names)
    (ns? : Option String) (spelling : String) :
    s.lookup ns? spelling = GraphFile.meaning names ns? spelling := by
  simp only [lookup, GraphFile.meaning, h.qualified, ← h.aliases]
  cases names.find? (·.qualified == qualify ns? spelling) with
  | some n => rfl
  | none =>
    cases names.find? (·.qualified == spelling) with
    | some n => rfl
    | none => cases s.aliases.get? spelling with
      | none => rfl
      | some a => cases a <;> rfl

/-- The scope with the names of one more entry. -/
def addName (s : Scope) (n : Name TypeId) : Scope :=
  if n.qualified = n.spelling then { s with qualified := s.qualified.insert n.qualified n.target }
  else addAlias { s with qualified := s.qualified.insert n.qualified n.target } n.spelling n.target

/-- A scope contains the qualified names that it lists. -/
theorem Lists.contains_iff {s : Scope} {names : List (Name TypeId)} (h : s.Lists names)
    {q : String} : s.qualified.contains q ↔ q ∈ names.map (·.qualified) := by
  rw [SortedMap.contains_iff, h.qualified]
  cases found : names.find? (·.qualified == q) with
  | none =>
    have absent : ∀ n ∈ names, ¬ n.qualified = q := by simpa using found
    simpa using absent
  | some n =>
    have hq : n.qualified = q := by simpa using List.find?_some found
    have mem : q ∈ names.map (·.qualified) :=
      List.mem_map.2 ⟨n, List.mem_of_find?_eq_some found, hq⟩
    simp [mem]

theorem addName_qualified (s : Scope) (n : Name TypeId) :
    (s.addName n).qualified = s.qualified.insert n.qualified n.target := by
  unfold addName
  split <;> rfl

/-- A second name of a spelling makes it ambiguous. -/
theorem get?_aliases_addName (s : Scope) (n : Name TypeId) (spelling : String) :
    (s.addName n).aliases.get? spelling =
      if n.hasAlias spelling then
        some (match s.aliases.get? spelling with
          | some _ => .ambiguous
          | none => .unique n.target)
      else s.aliases.get? spelling := by
  unfold addName Name.hasAlias
  by_cases bare : n.qualified = n.spelling
  · simp [bare]
  · by_cases same : spelling = n.spelling
    · subst same
      cases found : s.aliases.get? n.spelling <;> simp [bare, addAlias, found]
    · simp [bare, addAlias, same, Ne.symm same]

/-- One more name is listed if its qualified name is new. -/
theorem Lists.add {s : Scope} {names : List (Name TypeId)} (h : s.Lists names) {n : Name TypeId}
    (fresh : n.qualified ∉ names.map (·.qualified)) : (s.addName n).Lists (names ++ [n]) := by
  refine ⟨fun q => ?_, fun spelling => ?_⟩
  · have absent : names.find? (·.qualified == n.qualified) = none := by
      simpa using fresh
    rw [addName_qualified, SortedMap.get?_insert, h.qualified, List.find?_append]
    by_cases hq : q = n.qualified
    · simp [hq, absent]
    · have other : (n.qualified == q) = false := by simpa using fun e => hq e.symm
      simp [hq, other]
  · have before := h.aliases spelling
    rw [get?_aliases_addName, List.filter_append, List.filter_singleton]
    by_cases shared : n.hasAlias spelling
    · rw [if_pos shared, shared, cond_true, sole_append]
      generalize names.filter (·.hasAlias spelling) = sharing, s.aliases.get? spelling = entry
        at before ⊢
      match sharing, entry, before with
      | [], none, _ => rfl
      | _ :: _, some _, _ => rfl
      | [], some (.unique _), before => cases before
      | [], some .ambiguous, before => cases before
      | [_], none, before => cases before
      | _ :: _ :: _, none, before => cases before
    · simpa [shared] using before

end Scope

end TypeSchema.GraphFile
