import TypeSchema.Proofs.Schema.Mentions

/-!
# Schema — renaming components

`n.rename f` is a node with other identifiers for the components that it names: the one it stands
for and the one it expands.  `a.Renames S a'` says that two arenas have the same nodes but for their
identifiers, which `S` ties together.  Nothing that is done to an arena looks at identifiers, so
arenas that are changed alike stay related: one lemma for each change.
-/

namespace TypeSchema

/-! ### Nodes with other identifiers -/

/-- The kind with other identifiers. -/
def NodeKind.rename (f : String → String) : NodeKind → NodeKind
  | placeholder p => placeholder { p with identifier? := p.identifier?.map f }
  | reference r => reference { r with identifier := f r.identifier }
  | primitive p => primitive p
  | null => null
  | anyOf ids => anyOf ids
  | oneOf ids => oneOf ids
  | allOf ids => allOf ids

namespace SchemaNode

/-- The node with other identifiers. -/
def rename (f : String → String) (n : SchemaNode) : SchemaNode :=
  { n with kind := n.kind.rename f, identifier? := n.identifier?.map f }

/-- The node names the component: it stands for it or expands it. -/
def Occurs (n : SchemaNode) (id : String) : Prop := n.PointsTo id ∨ n.identifier? = some id

theorem rename_rename (f h : String → String) (n : SchemaNode) :
    (n.rename f).rename h = n.rename (h ∘ f) := by
  unfold rename
  cases n.kind <;> simp [NodeKind.rename]

/-- Renamings that agree on the identifiers of a node rename it alike. -/
theorem rename_congr {f h : String → String} {n : SchemaNode}
    (agree : ∀ id, n.Occurs id → f id = h id) : n.rename f = n.rename h := by
  have own : n.identifier?.map f = n.identifier?.map h := by
    cases hi : n.identifier? with
    | none => rfl
    | some id => rw [Option.map_some, Option.map_some, agree id (.inr hi)]
  have kind : n.kind.rename f = n.kind.rename h := by
    cases hk : n.kind with
    | placeholder p =>
      have stands : p.identifier?.map f = p.identifier?.map h := by
        cases hi : p.identifier? with
        | none => rfl
        | some id => rw [Option.map_some, Option.map_some, agree id (.inl (.inr ⟨p, hk, hi⟩))]
      simp only [NodeKind.rename, stands]
    | reference r => simp only [NodeKind.rename, agree _ (.inl (.inl ⟨r, hk, rfl⟩))]
    | primitive _ | null | anyOf _ | oneOf _ | allOf _ => rfl
  simp only [rename, own, kind]

/-- The nodes are the same but for their identifiers, which are tied together. -/
def Renames (S : String → String → Prop) (n n' : SchemaNode) : Prop :=
  ∃ f, n' = n.rename f ∧ ∀ id, n.Occurs id → S id (f id)

variable {S S' : String → String → Prop} {n n' : SchemaNode}

theorem Renames.mono (h : n.Renames S n') (sub : ∀ id id', S id id' → S' id id') :
    n.Renames S' n' :=
  let ⟨f, renamed, tied⟩ := h
  ⟨f, renamed, fun id occurs => sub _ _ (tied id occurs)⟩

/-- A node without identifiers. -/
theorem Renames.of_plain (S : String → String → Prop) {n : SchemaNode}
    (plain : ∀ id, ¬ n.Occurs id) : n.Renames S n := by
  refine ⟨id, ?_, fun id occurs => absurd occurs (plain id)⟩
  have same : n.kind.rename id = n.kind := by
    cases n.kind <;> simp [NodeKind.rename]
  simp [rename, same]

theorem Renames.isShared_eq (h : n.Renames S n') : n'.isShared = n.isShared := by
  obtain ⟨f, rfl, -⟩ := h
  unfold rename isShared
  cases n.kind <;> rfl

theorem Renames.isNull_eq (h : n.Renames S n') : n'.isNull = n.isNull := by
  obtain ⟨f, rfl, -⟩ := h
  unfold rename isNull
  cases n.kind <;> rfl

theorem Renames.keywords_eq (h : n.Renames S n') : n'.keywords = n.keywords := by
  obtain ⟨f, rfl, -⟩ := h
  rfl

/-- A change that does not look at identifiers. -/
theorem Renames.changed (h : n.Renames S n') {c : SchemaNode → SchemaNode}
    (commutes : ∀ f n, c (n.rename f) = (c n).rename f)
    (occurs : ∀ n id, (c n).Occurs id → n.Occurs id) : (c n).Renames S (c n') := by
  obtain ⟨f, rfl, tied⟩ := h
  exact ⟨f, commutes f n, fun id hid => tied id (occurs n id hid)⟩

theorem rename_addAlternative (f : String → String) (n : SchemaNode) (c : NodeId) :
    Arena.addAlternative (n.rename f) c = (Arena.addAlternative n c).rename f := by
  unfold Arena.addAlternative rename
  cases hk : n.kind <;> simp [NodeKind.rename, hk]

theorem occurs_of_addAlternative {n : SchemaNode} {c : NodeId} {id : String}
    (h : (Arena.addAlternative n c).Occurs id) : n.Occurs id := by
  unfold Arena.addAlternative at h
  split at h
  · exact h.imp (fun points => by simp [PointsTo] at points) fun h => h
  · exact h.imp (fun points => by simp [PointsTo] at points) fun h => h
  · exact h

end SchemaNode

/-! ### Arenas with other identifiers -/

namespace Arena

/-- The arena with other identifiers. -/
def rename (f : String → String) (a : Arena) : Arena := ⟨a.nodes.map (·.rename f)⟩

theorem get?_rename (f : String → String) (a : Arena) (id : NodeId) :
    (a.rename f).get? id = (a.get? id).map (·.rename f) := by
  simp [get?, rename]

/-- The arenas have the same nodes but for their identifiers, which are tied together. -/
def Renames (S : String → String → Prop) (a a' : Arena) : Prop :=
  ∀ id, Option.Rel (SchemaNode.Renames S) (a.get? id) (a'.get? id)

namespace Renames

variable {S S' : String → String → Prop} {a a' : Arena}

theorem mono (h : a.Renames S a') (sub : ∀ id id', S id id' → S' id id') : a.Renames S' a' := by
  intro id
  have related := h id
  cases hn : a.get? id <;> cases hn' : a'.get? id <;> rw [hn, hn'] at related <;> cases related
  · exact .none
  · next renamed => exact .some (renamed.mono sub)

theorem empty (S : String → String → Prop) : ({} : Arena).Renames S {} := fun id => by
  have none : ({} : Arena).get? id = none := rfl
  rw [none]
  exact .none

/-- What both arenas have under a number. -/
theorem cases (h : a.Renames S a') (id : NodeId) :
    (a.get? id = none ∧ a'.get? id = none) ∨
      ∃ n n', a.get? id = some n ∧ a'.get? id = some n' ∧ n.Renames S n' := by
  have related := h id
  cases hn : a.get? id <;> cases hn' : a'.get? id <;> rw [hn, hn'] at related <;> cases related
  · exact .inl ⟨rfl, rfl⟩
  · next renamed => exact .inr ⟨_, _, rfl, rfl, renamed⟩

theorem size_eq (h : a.Renames S a') : a'.size = a.size := by
  have absent : ∀ id, a.get? id = none ↔ a'.get? id = none := by
    intro id
    rcases h.cases id with ⟨hn, hn'⟩ | ⟨n, n', hn, hn', -⟩ <;> simp [hn, hn']
  refine Nat.le_antisymm ?_ ?_
  · exact get?_eq_none_iff.1 ((absent ⟨a.size⟩).1 (get?_eq_none_iff.2 (Nat.le_refl _)))
  · exact get?_eq_none_iff.1 ((absent ⟨a'.size⟩).2 (get?_eq_none_iff.2 (Nat.le_refl _)))

theorem isShared_eq (h : a.Renames S a') (id : NodeId) : a'.isShared id = a.isShared id := by
  rcases h.cases id with ⟨hn, hn'⟩ | ⟨n, n', hn, hn', renamed⟩
  · simp [isShared, hn, hn']
  · simp [isShared, hn, hn', renamed.isShared_eq]

theorem isNull_eq (h : a.Renames S a') (id : NodeId) : a'.isNull id = a.isNull id := by
  rcases h.cases id with ⟨hn, hn'⟩ | ⟨n, n', hn, hn', renamed⟩
  · simp [isNull, hn, hn']
  · simp [isNull, hn, hn', renamed.isNull_eq]

theorem alternatives?_eq (h : a.Renames S a') (id : NodeId) :
    a'.alternatives? id = a.alternatives? id := by
  rcases h.cases id with ⟨hn, hn'⟩ | ⟨n, n', hn, hn', f, rfl, -⟩
  · simp [alternatives?, hn, hn']
  · simp only [alternatives?, hn, hn', Option.bind_some, SchemaNode.rename]
    cases n.kind <;> rfl

theorem keywords_eq (h : a.Renames S a') (id : NodeId) :
    (a'.get? id).map (·.keywords) = (a.get? id).map (·.keywords) := by
  rcases h.cases id with ⟨hn, hn'⟩ | ⟨n, n', hn, hn', renamed⟩
  · simp [hn, hn']
  · simp [hn, hn', renamed.keywords_eq]

/-! ### Changes -/

/-- Nodes that differ by a renaming are added to both arenas. -/
theorem push (h : a.Renames S a') {n n' : SchemaNode} (hn : n.Renames S n') :
    (a.push n).2.Renames S (a'.push n').2 := by
  intro id
  rw [get?_push, get?_push, h.size_eq]
  split
  · exact .some hn
  · exact h id

/-- A change that commutes with renaming is made in both. -/
theorem modify (h : a.Renames S a') (id : NodeId) {c : SchemaNode → SchemaNode}
    (commutes : ∀ f n, c (n.rename f) = (c n).rename f)
    (occurs : ∀ n id, (c n).Occurs id → n.Occurs id) :
    (a.modify id c).Renames S (a'.modify id c) := by
  intro j
  rw [get?_modify, get?_modify]
  split
  · rcases h.cases id with ⟨hn, hn'⟩ | ⟨n, n', hn, hn', renamed⟩
    · rw [hn, hn']
      exact .none
    · rw [hn, hn']
      exact .some (renamed.changed commutes occurs)
  · exact h j

/-- Keywords are set alike. -/
theorem mark (h : a.Renames S a') (patterns : PatternCheck) (id : NodeId) (member : String)
    (constraints : List Constraint) :
    (a'.mark patterns id member constraints).1 = (a.mark patterns id member constraints).1 ∧
      (a'.mark patterns id member constraints).2.2 = (a.mark patterns id member constraints).2.2 ∧
      (a.mark patterns id member constraints).2.1.Renames S
        (a'.mark patterns id member constraints).2.1 := by
  have same : a'.keywordsAt id = a.keywordsAt id := congrArg (·.getD {}) (h.keywords_eq id)
  simp only [Arena.mark, same]
  exact ⟨trivial, trivial, h.modify id (fun _ _ => rfl) fun _ _ hid => hid⟩

/-- Constraints are applied alike. -/
theorem annotate (h : a.Renames S a') (patterns : PatternCheck) (id : NodeId) (member : String)
    (constraints : List Constraint) :
    (a'.annotate patterns id member constraints).1 = (a.annotate patterns id member constraints).1 ∧
      (a'.annotate patterns id member constraints).2.2 =
        (a.annotate patterns id member constraints).2.2 ∧
      (a.annotate patterns id member constraints).2.1.Renames S
        (a'.annotate patterns id member constraints).2.1 := by
  rw [annotate_eq, annotate_eq, h.isShared_eq]
  by_cases hc : constraints.isEmpty
  · rw [if_pos hc, if_pos hc]
    exact ⟨rfl, rfl, h⟩
  · rw [if_neg hc, if_neg hc]
    cases a.isShared id with
    | false => exact h.mark patterns id member constraints
    | true =>
      have wrapped : (a.wrap id).2.Renames S (a'.wrap id).2 :=
        h.push (.of_plain S fun _ hid => by simp [SchemaNode.Occurs, SchemaNode.PointsTo] at hid)
      have number : (a'.wrap id).1 = (a.wrap id).1 := congrArg NodeId.mk h.size_eq
      rw [if_pos rfl, if_pos rfl, number]
      exact wrapped.mark patterns _ member constraints

/-- Null is admitted alike. -/
theorem applyNull (h : a.Renames S a') (encoding : NullEncoding) (id : NodeId) (nullable : Bool) :
    (a'.applyNull encoding id nullable).1 = (a.applyNull encoding id nullable).1 ∧
      (a.applyNull encoding id nullable).2.Renames S (a'.applyNull encoding id nullable).2 := by
  have plain : ∀ n : SchemaNode, n.identifier? = none → (∀ id, ¬ n.PointsTo id) → n.Renames S n :=
    fun n own points => .of_plain S fun id hid =>
      hid.elim (points id) fun e => by rw [own] at e; cases e
  have flagged : ∀ nullable, (a.modify id ({ · with nullable })).Renames S
      (a'.modify id ({ · with nullable })) :=
    fun _ => h.modify id (fun _ _ => rfl) fun _ _ hid => hid
  have leaf : (a.push { kind := .null }).2.Renames S (a'.push { kind := .null }).2 :=
    h.push (plain _ rfl fun id hp => by simp [SchemaNode.PointsTo] at hp)
  cases nullable with
  | false =>
    simp only [Arena.applyNull, clearNullFlag, h.isShared_eq]
    cases a.isShared id with
    | true => exact ⟨rfl, h⟩
    | false => exact ⟨rfl, flagged false⟩
  | true =>
    simp only [Arena.applyNull, if_true, admitNull, h.isShared_eq, h.alternatives?_eq]
    cases encoding with
    | flag =>
      cases a.isShared id with
      | true =>
        exact ⟨congrArg NodeId.mk h.size_eq,
          h.push (plain _ rfl fun id hp => by simp [SchemaNode.PointsTo] at hp)⟩
      | false => exact ⟨rfl, flagged true⟩
    | union =>
      cases a.alternatives? id with
      | none =>
        simp only [nullLeaf, push_fst, h.size_eq]
        exact ⟨congrArg NodeId.mk leaf.size_eq,
          leaf.push (plain _ rfl fun id hp => by simp [SchemaNode.PointsTo] at hp)⟩
      | some ids =>
        have nulls : a'.isNull = a.isNull := funext h.isNull_eq
        simp only [nulls]
        cases ids.any a.isNull with
        | true => exact ⟨rfl, h⟩
        | false =>
          simp only [nullLeaf, push_fst, h.size_eq]
          exact ⟨rfl, leaf.modify id (fun f n => SchemaNode.rename_addAlternative f n _)
            fun n _ => SchemaNode.occurs_of_addAlternative⟩

/-- Arenas whose identifiers get the same names are then the same. -/
theorem rename_eq (h : a.Renames S a') {f f' : String → String}
    (named : ∀ id id', S id id' → f' id' = f id) : a'.rename f' = a.rename f := by
  have found : ∀ id, (a'.rename f').get? id = (a.rename f).get? id := by
    intro id
    rw [get?_rename, get?_rename]
    rcases h.cases id with ⟨hn, hn'⟩ | ⟨n, n', hn, hn', e, rfl, tied⟩
    · rw [hn, hn']
      rfl
    · rw [hn, hn', Option.map_some, Option.map_some, SchemaNode.rename_rename]
      exact congrArg some (SchemaNode.rename_congr fun id occurs => named _ _ (tied id occurs))
  have nodes : (a'.rename f').nodes = (a.rename f).nodes :=
    Array.ext_getElem? fun i => found ⟨i⟩
  exact congrArg Arena.mk nodes

/-- Every identifier of a node is tied to another. -/
theorem exists_tied (h : a.Renames S a') {node : NodeId} {n : SchemaNode}
    (hn : a.get? node = some n) {id : String} (occurs : n.Occurs id) : ∃ id', S id id' := by
  rcases h.cases node with ⟨hn', -⟩ | ⟨n', _, hn', -, f, -, tied⟩
  · rw [hn] at hn'
    cases hn'
  · obtain rfl : n' = n := Option.some.inj (hn'.symm.trans hn)
    exact ⟨f id, tied id occurs⟩

end Renames

end Arena

end TypeSchema
