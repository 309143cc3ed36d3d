import TypeSchema.Proofs.GraphFile.Requests
import TypeSchema.Proofs.GraphFile.Scoping

/-!
# Graph files — finding types by name

A loaded graph finds a type by a name as it stands outside of all namespaces: as the qualified name
of an entry, or else as the spelling of entries of one namespace.  Every other name is taken for an
identity (`LoadedGraph.find?_eq`), also one that is ambiguous: entries of several namespaces that
are spelled alike are not found by their spelling, but if a text of the file asks for a type with
this identity, such as a scalar, that type is found (`build_find`).
-/

namespace TypeSchema

open TypeGraph

namespace GraphFile

/-! ### Names that are spelled alike -/

/-- A qualified name says which namespace it is of. -/
theorem eq_of_qualify_eq {ns? ns?' : Option String} {name : String}
    (own : ns?.any (!·.isEmpty)) (own' : ns?'.any (!·.isEmpty))
    (same : qualify ns? name = qualify ns?' name) : ns? = ns?' := by
  cases ns? with
  | none => cases own
  | some ns =>
    cases ns?' with
    | none => cases own'
    | some ns' =>
      have filled : ns.isEmpty = false := by simpa using own
      have filled' : ns'.isEmpty = false := by simpa using own'
      have texts : ns ++ "." ++ name = ns' ++ "." ++ name := by
        simpa only [qualify, filled, filled', Bool.false_eq_true, if_false] using same
      have chars := congrArg String.toList texts
      simp only [String.toList_append, List.append_assoc] at chars
      rw [String.toList_injective (List.append_cancel_right chars)]

/-- Two names with an alias make it ambiguous. -/
theorem sole_of_ne {α : Type} {spelling : String} {names : List (Name α)} {n m : Name α}
    (hn : n ∈ names) (hm : m ∈ names) (ne : n ≠ m) :
    sole spelling names = .error (.ambiguous spelling) := by
  match names with
  | [] => cases hn
  | [_] => exact absurd ((List.mem_singleton.1 hn).trans (List.mem_singleton.1 hm).symm) ne
  | _ :: _ :: _ => rfl

/-- Only entries with a namespace are found by their spelling alone. -/
theorem TypeEntry.isSpelled_iff {entry : TypeEntry} {name : String} :
    entry.isSpelled name ↔ entry.isNamespaced ∧ entry.spelling? = some name := by
  simp [TypeEntry.isSpelled]

/-- The name of an entry that is spelled so is qualified with the namespace of the entry. -/
theorem Name.Declares.qualified_eq {p : TypeEntry × Declaration} {n : Name TypeId}
    (h : n.Declares p) {name : String} (spelled : p.1.isSpelled name) :
    n.qualified = qualify p.1.ns? name := by
  have spelling := (TypeEntry.isSpelled_iff.1 spelled).2
  rw [h.qualified, Option.some.inj (h.spelling.symm.trans spelling)]

section Spelled

variable {ps : List (TypeEntry × Declaration)} {names : List (Name TypeId)}
  (declares : List.Forall₂ Name.Declares ps names) {name : String}
include declares

/-- A name is looked up among the aliases if no entry is qualified so. -/
theorem meaning_of_unqualified (unqualified : ∀ p ∈ ps, p.1.qualified? ≠ some name) :
    meaning names none name = sole name (names.filter (·.hasAlias name)) := by
  have absent : ∀ n ∈ names, n.qualified ≠ name := fun n hn same => by
    obtain ⟨p, hp, declares⟩ := exists_left_of_mem declares hn
    exact unqualified p hp (declares.qualified?.trans (congrArg some same))
  exact meaning_of_alias absent absent

/-- The entries of one namespace that are spelled alike are one entry. -/
theorem filter_hasAlias_eq (unambiguous : Unambiguous names) {p : TypeEntry × Declaration}
    {n : Name TypeId} (hn : n ∈ names) (own : n.Declares p) (spelled : p.1.isSpelled name)
    (only : ∀ q ∈ ps, q.1.isSpelled name → q.1.ns? = p.1.ns?) :
    names.filter (·.hasAlias name) = [n] := by
  have shared := (own.hasAlias_iff name).2 spelled
  refine filter_eq_singleton unambiguous hn shared fun m hm shared' => ?_
  obtain ⟨q, hq, other⟩ := exists_left_of_mem declares hm
  have spelled' := (other.hasAlias_iff name).1 shared'
  rw [other.qualified_eq spelled', own.qualified_eq spelled, only q hq spelled']

/-- Entries of two namespaces have two names. -/
theorem sole_of_namespaces {p q : TypeEntry × Declaration} (hp : p ∈ ps) (hq : q ∈ ps)
    (spelled : p.1.isSpelled name) (spelled' : q.1.isSpelled name) (apart : p.1.ns? ≠ q.1.ns?) :
    sole name (names.filter (·.hasAlias name)) = .error (.ambiguous name) := by
  obtain ⟨n, hn, own⟩ := exists_right_of_mem declares hp
  obtain ⟨m, hm, other⟩ := exists_right_of_mem declares hq
  have shared := (own.hasAlias_iff name).2 spelled
  have shared' := (other.hasAlias_iff name).2 spelled'
  refine sole_of_ne (List.mem_filter.2 ⟨hn, shared⟩) (List.mem_filter.2 ⟨hm, shared'⟩) ?_
  rintro rfl
  have same := (own.qualified_eq spelled).symm.trans (other.qualified_eq spelled')
  exact apart (eq_of_qualify_eq (TypeEntry.isSpelled_iff.1 spelled).1
    (TypeEntry.isSpelled_iff.1 spelled').1 same)

end Spelled

/-! ### Finding -/

/-- **How a name is found**: as it is looked up outside of all namespaces, and else among the
identities of all types. -/
theorem LoadedGraph.find?_eq {entries : List TypeEntry} {l : LoadedGraph}
    (h : build entries = .ok l) (name : String) :
    l.find? name = (l.scope.lookup none name).toOption.join.or (l.graph.find? name) := by
  obtain ⟨s, g, heads, finished⟩ := build_finished h
  obtain ⟨names, declares, unambiguous, -, lists⟩ := finished.listed
  have declared : l.declared = names.map fun n => ⟨n.qualified, n.target⟩ := by
    rw [← List.map_snd_zip (Nat.le_of_eq finished.of.length)]
    exact map_eq_map declares fun _ _ h => h.declared
  have found : l.scope.qualified.get? name =
      (l.declared.find? (·.qualified == name)).map (·.type) := by
    rw [lists.qualified, declared, List.find?_map, Option.map_map]
    rfl
  have aliases : l.scope.aliases = l.aliases := rfl
  rw [LoadedGraph.find?, Scope.lookup, qualify, found, aliases]
  cases l.declared.find? (·.qualified == name) with
  | some d => rfl
  | none =>
    -- an ambiguous name is looked for among the identities, like an unknown one
    cases l.aliases.get? name with
    | none => rfl
    | some a => cases a <;> rfl

/-- **Finding types by name.**  An entry is found by its qualified name.  A name that is not
qualified finds the entry that is spelled so if all of these are of one namespace.  If they are of
several ones it finds none of them: it finds the type of this identity, if the file asks for one. -/
theorem build_find {entries : List TypeEntry} {l : LoadedGraph} (h : build entries = .ok l) :
    l.declared.length = entries.length ∧
    (∀ p ∈ entries.zip l.declared,
      p.1.qualified? = some p.2.qualified ∧ l.find? p.2.qualified = some p.2.type) ∧
    ∀ name, (∀ e ∈ entries, e.qualified? ≠ some name) →
      (∀ p ∈ entries.zip l.declared, p.1.isSpelled name →
        (∀ e ∈ entries, e.isSpelled name → e.ns? = p.1.ns?) → l.find? name = some p.2.type) ∧
      ∀ e ∈ entries, ∀ e' ∈ entries, e.isSpelled name → e'.isSpelled name → e.ns? ≠ e'.ns? →
        (∀ ty, l.find? name = some ty ↔ l.graph.identity? ty = some name) ∧
          (l.find? name = none ↔ name ∉ fileRequests entries) := by
  obtain ⟨s, g, heads, finished⟩ := build_finished h
  obtain ⟨names, declares, unambiguous, -, lists⟩ := finished.listed
  have find : ∀ name, l.find? name =
      (meaning names none name).toOption.join.or (l.graph.find? name) := fun name => by
    rw [LoadedGraph.find?_eq h, lists.lookup_eq]
  have entry : ∀ p ∈ entries.zip l.declared, p.1 ∈ entries := fun p hp => (List.of_mem_zip hp).1
  have declaration : ∀ e ∈ entries, ∃ p ∈ entries.zip l.declared, p.1 = e := fun e he => by
    rw [← List.map_fst_zip (Nat.le_of_eq finished.of.length.symm)] at he
    exact List.mem_map.1 he
  refine ⟨finished.of.length, fun p hp => ?_, fun name unqualified => ⟨?_, ?_⟩⟩
  · obtain ⟨n, hn, own⟩ := exists_right_of_mem declares hp
    rw [own.declared, find, meaning_of_namespace unambiguous hn rfl]
    exact ⟨own.qualified?, rfl⟩
  · intro p hp spelled only
    obtain ⟨n, hn, own⟩ := exists_right_of_mem declares hp
    rw [find, meaning_of_unqualified declares fun p hp => unqualified p.1 (entry p hp),
      filter_hasAlias_eq declares unambiguous hn own spelled fun q hq => only q.1 (entry q hq),
      own.declared]
    rfl
  · intro e he e' he' spelled spelled' apart
    obtain ⟨p, hp, rfl⟩ := declaration e he
    obtain ⟨q, hq, rfl⟩ := declaration e' he'
    have byIdentity : l.find? name = l.graph.find? name := by
      rw [find, meaning_of_unqualified declares fun p hp => unqualified p.1 (entry p hp),
        sole_of_namespaces declares hp hq spelled spelled' apart]
      rfl
    have indexed := finished.of.indexed
    have absent : l.graph.find? name = none ↔ ¬ l.graph.Has name :=
      indexed.find?_eq_none_iff.trans not_exists.symm
    rw [byIdentity]
    exact ⟨fun ty => indexed.find?_eq_some_iff, absent.trans (not_congr (build_has h name))⟩

/-- In the file with lines of two namespaces, a line of one of them is found, the only order is, and
no line is found without its namespace. -/
theorem build_find_orders : ∃ l, build ordersFile = .ok l ∧ l.find? "legacy.Line" = some ⟨2⟩ ∧
    l.find? "Order" = some ⟨0⟩ ∧ l.find? "Line" = none := by
  let ds : List Declaration := [⟨"shop.Order", ⟨0⟩⟩, ⟨"shop.Line", ⟨1⟩⟩, ⟨"legacy.Line", ⟨2⟩⟩,
    ⟨"legacy.Page<legacy.Line>", ⟨3⟩⟩]
  have declared : (build ordersFile).toOption.map (·.declared) = some ds := by decide +kernel
  obtain ⟨l, built, declared⟩ := exists_build_of_view declared
  obtain ⟨-, qualified, names⟩ := build_find built
  rw [declared] at qualified names
  refine ⟨l, built, ?_, ?_, ?_⟩
  · exact (qualified (ordersFile[2], ⟨"legacy.Line", ⟨2⟩⟩) (.tail _ (.tail _ (.head _)))).2
  · exact (names "Order" (by decide +kernel)).1 (ordersFile[0], ⟨"shop.Order", ⟨0⟩⟩) (.head _)
      (by decide +kernel) (by decide +kernel)
  · have shop : ordersFile[1] ∈ ordersFile := .tail _ (.head _)
    have legacy : ordersFile[2] ∈ ordersFile := .tail _ (.tail _ (.head _))
    have lines := (names "Line" (by decide +kernel)).2 _ shop _ legacy (by decide +kernel)
      (by decide +kernel) (by decide)
    exact lines.2.2 (by decide +kernel)

/-- Dates of two namespaces, and an order with a date that is neither of them. -/
def datesFile : List TypeEntry :=
  [{ bareEntry "Date" with ns? := some "shop" },
    { bareEntry "Date" with ns? := some "legacy" },
    { bareEntry "Order" with ns? := some "shop", fields := [fieldOf "placed" "date"] }]

/-- An ambiguous name may be found: it is the identity of a scalar here. -/
theorem not_build_find : ¬ ∀ (entries : List TypeEntry) (l : LoadedGraph), build entries = .ok l →
    ∀ name, (∀ e ∈ entries, e.qualified? ≠ some name) → ∀ e ∈ entries, ∀ e' ∈ entries,
      e.isSpelled name → e'.isSpelled name → e.ns? ≠ e'.ns? → l.find? name = none := by
  intro unfound
  have found : (build datesFile).toOption.map (·.find? "Date") = some (some ⟨3⟩) := by
    decide +kernel
  obtain ⟨l, built, found⟩ := exists_build_of_view found
  have none := unfound datesFile l built "Date" (by decide +kernel) datesFile[0] (.head _)
    datesFile[1] (.tail _ (.head _)) (by decide +kernel) (by decide +kernel) (by decide)
  exact Option.some_ne_none _ (found.symm.trans none)

end GraphFile

end TypeSchema
