import TypeSchema.Proofs.Schema.Grounded

/-!
# Schema — which nodes admit null

A node admits null by its flag, or by being a union of null with one other node, depending on the
encoding (`Arena.AdmitsNull`).  One that does neither is `Arena.WithoutNull`.  Constraints put on a
node, or on a node around it, leave it what it was; admitting null makes one of the second kind one
of the first, and does nothing that counts to one of the first (`Arena.AdmitsNull.applyNull`): so
null is admitted once, however often it is asked for.

`Arena.Encoded` says that no node has what only the other encoding uses.
-/

namespace TypeSchema

/-- The node has nothing that only the other encoding uses: no flag with unions, and no null and no
union with flags. -/
def NullEncoding.Allows : NullEncoding → SchemaNode → Prop
  | .flag, n => n.kind ≠ .null ∧ ∀ ids, n.kind ≠ .anyOf ids ∧ n.kind ≠ .oneOf ids
  | .union, n => n.nullable = false

/-- The node is neither null nor a union. -/
structure SchemaNode.IsSingle (n : SchemaNode) : Prop where
  notNull : n.kind ≠ .null
  notUnion : ∀ ids, n.kind ≠ .anyOf ids ∧ n.kind ≠ .oneOf ids

namespace SchemaNode

theorem isSingle_allOf (ids : List NodeId) (nullable : Bool) :
    ({ kind := .allOf ids, nullable } : SchemaNode).IsSingle :=
  ⟨nofun, fun _ => ⟨nofun, nofun⟩⟩

theorem isSingle_of_isShared {n : SchemaNode} (h : n.isShared) : n.IsSingle := by
  constructor
  · intro hk; simp [isShared, hk] at h
  · intro ids
    constructor <;> intro hk <;> simp [isShared, hk] at h

theorem isSingle_of_primitive {n : SchemaNode} (h : ∃ p, n.kind = .primitive p) : n.IsSingle := by
  obtain ⟨p, hp⟩ := h
  exact ⟨by simp [hp], by simp [hp]⟩

/-- The node has nothing that only the other encoding uses, and no flag if it is a stand-in. -/
structure Encoded (enc : NullEncoding) (n : SchemaNode) : Prop where
  allowed : enc.Allows n
  standin : n.isShared → n.nullable = false

/-- A node that is no union and has no flag is encoded either way. -/
theorem IsSingle.encoded {n : SchemaNode} (single : n.IsSingle) (unflagged : n.nullable = false)
    (enc : NullEncoding) : n.Encoded enc := by
  refine ⟨?_, fun _ => unflagged⟩
  cases enc with
  | flag => exact ⟨single.notNull, single.notUnion⟩
  | union => exact unflagged

/-- Only the kind and the flag count. -/
theorem Encoded.of_same {enc : NullEncoding} {n n' : SchemaNode} (h : n.Encoded enc)
    (kind : n'.kind = n.kind) (nullable : n'.nullable = n.nullable) : n'.Encoded enc := by
  obtain ⟨allowed, standin⟩ := h
  refine ⟨?_, fun shared => ?_⟩
  · cases enc with
    | flag => simpa only [NullEncoding.Allows, kind] using allowed
    | union => exact nullable.trans allowed
  · rw [nullable]
    refine standin ?_
    simpa only [isShared, kind] using shared

end SchemaNode

namespace Arena

variable {enc : NullEncoding} {a : Arena} {id : NodeId}

/-- The node admits null: it has the flag, or it is a union of one other node and null. -/
def AdmitsNull (a : Arena) : NullEncoding → NodeId → Prop
  | .flag, id => ∃ n, a.get? id = some n ∧ n.nullable = true
  | .union, id => ∃ n part null m, a.get? id = some n ∧ n.kind = .anyOf [part, null] ∧
      a.get? part = some m ∧ m.IsSingle ∧ a.get? null = some { kind := .null }

/-- The node has no flag and is no union. -/
def WithoutNull (a : Arena) (id : NodeId) : Prop :=
  ∃ n, a.get? id = some n ∧ n.nullable = false ∧ n.IsSingle

/-- No node has what only the other encoding uses, and no stand-in has a flag. -/
def Encoded (enc : NullEncoding) (a : Arena) : Prop := a.All (·.Encoded enc)

/-! ### What stays as it is -/

theorem WithoutNull.mono {a' : Arena} (h : a.WithoutNull id)
    (kept : ∀ n, a.get? id = some n → a'.get? id = some n) : a'.WithoutNull id := by
  obtain ⟨n, hn, unflagged, single⟩ := h
  exact ⟨n, kept n hn, unflagged, single⟩

/-- A node admits null as long as no node up to it changes. -/
theorem AdmitsNull.mono {a' : Arena} (ground : a.Grounded) (h : a.AdmitsNull enc id)
    (kept : ∀ j n, j.index ≤ id.index → a.get? j = some n → a'.get? j = some n) :
    a'.AdmitsNull enc id := by
  cases enc with
  | flag =>
    obtain ⟨n, hn, flagged⟩ := h
    exact ⟨n, kept id n (Nat.le_refl _) hn, flagged⟩
  | union =>
    obtain ⟨n, part, null, m, hn, kind, hm, single, hnull⟩ := h
    have below : ∀ c ∈ [part, null], c.index ≤ id.index := fun c hc =>
      Nat.le_of_lt <| ground.backward id n hn c <|
        SchemaNode.mem_edges_of_mem_children (by simp [SchemaNode.children, kind, hc])
    exact ⟨n, part, null, m, kept id n (Nat.le_refl _) hn, kind,
      kept _ _ (below part (by simp)) hm, single, kept _ _ (below null (by simp)) hnull⟩

/-! ### Adding nodes -/

theorem encoded_empty : Encoded enc {} := fun id n h => by simp [get?] at h

theorem Encoded.push (h : a.Encoded enc) {n : SchemaNode} (single : n.IsSingle)
    (unflagged : n.nullable = false) : (a.push n).2.Encoded enc :=
  All.push h (single.encoded unflagged enc)

theorem withoutNull_push (a : Arena) {n : SchemaNode} (single : n.IsSingle)
    (unflagged : n.nullable = false) : (a.push n).2.WithoutNull ⟨a.size⟩ :=
  ⟨n, get?_push_self a n, unflagged, single⟩

/-- A stand-in admits no null by itself. -/
theorem Encoded.withoutNull (h : a.Encoded enc) (shared : a.isShared id) : a.WithoutNull id := by
  obtain ⟨n, hn, hs⟩ := isShared_iff.1 shared
  exact ⟨n, hn, (h id n hn).standin hs, SchemaNode.isSingle_of_isShared hs⟩

/-! ### Constraints and examples -/

section

variable (patterns : PatternCheck) (member : String) (constraints : List Constraint)

/-- Constraints keep null encoded as it was. -/
theorem Encoded.annotate (h : a.Encoded enc) :
    (a.annotate patterns id member constraints).2.1.Encoded enc := by
  unfold Arena.annotate
  split
  · exact h
  · by_cases hs : a.isShared id
    · simp only [hs, if_true]
      exact (h.push (SchemaNode.isSingle_allOf [id] false) rfl).modify
        fun n hn => hn.of_same rfl rfl
    · simp only [hs]
      exact All.modify h fun n hn => hn.of_same rfl rfl

/-- A node without null has none with constraints on it or around it. -/
theorem WithoutNull.annotate (h : a.WithoutNull id) :
    (a.annotate patterns id member constraints).2.1.WithoutNull
      (a.annotate patterns id member constraints).1 := by
  obtain ⟨n, hn, unflagged, single⟩ := h
  by_cases hs : n.isShared
  · have shared : a.isShared id := isShared_iff.2 ⟨n, hn, hs⟩
    unfold Arena.annotate
    split
    · exact ⟨n, hn, unflagged, single⟩
    · simp only [wrap, push_fst]
      have wrapper := a.get?_push_self { kind := .allOf [id] }
      refine ⟨_, by rw [get?_modify, if_pos rfl, wrapper, Option.map_some], rfl, ?_⟩
      exact ⟨nofun, fun _ => ⟨nofun, nofun⟩⟩
  · obtain ⟨same, hget⟩ := annotate_own hn hs patterns member constraints
    rw [same]
    exact ⟨_, hget, unflagged, single.notNull, single.notUnion⟩

/-- A node that admits null does so with constraints on it. -/
theorem AdmitsNull.annotate (ground : a.Grounded) (encoded : a.Encoded enc)
    (h : a.AdmitsNull enc id) :
    (a.annotate patterns id member constraints).2.1.AdmitsNull enc
      (a.annotate patterns id member constraints).1 := by
  cases enc with
  | flag =>
    obtain ⟨n, hn, flagged⟩ := h
    have own : ¬ n.isShared := fun hs => by
      rw [(encoded id n hn).standin hs] at flagged
      cases flagged
    obtain ⟨same, hget⟩ := annotate_own hn own patterns member constraints
    rw [same]
    exact ⟨_, hget, flagged⟩
  | union =>
    obtain ⟨n, part, null, m, hn, kind, hm, single, hnull⟩ := h
    have own : ¬ n.isShared := by simp [SchemaNode.isShared, kind]
    have below : ∀ c ∈ [part, null], c.index < id.index := fun c hc =>
      ground.backward id n hn c <|
        SchemaNode.mem_edges_of_mem_children (by simp [SchemaNode.children, kind, hc])
    have dressed := annotate_dressed patterns a id member constraints
    obtain ⟨same, hget⟩ := annotate_own hn own patterns member constraints
    rw [same]
    exact ⟨_, part, null, m, hget, kind,
      get?_dressed_below dressed (below part (by simp)) hm, single,
      get?_dressed_below dressed (below null (by simp)) hnull⟩

end

/-! ### Null -/

theorem Encoded.clearNullFlag (h : a.Encoded enc) : (a.clearNullFlag id).Encoded enc := by
  unfold Arena.clearNullFlag
  split
  · exact h
  · refine All.modify h fun n hn => ?_
    cases enc with
    | flag => exact ⟨hn.allowed, fun _ => rfl⟩
    | union => exact ⟨rfl, fun _ => rfl⟩

theorem WithoutNull.clearNullFlag (h : a.WithoutNull id) :
    (a.clearNullFlag id).WithoutNull id := by
  obtain ⟨n, hn, unflagged, single⟩ := h
  unfold Arena.clearNullFlag
  split
  · exact ⟨n, hn, unflagged, single⟩
  · exact ⟨{ n with nullable := false }, by simp [get?_modify, hn], rfl, single.notNull,
      single.notUnion⟩

/-- Admitting null keeps null encoded. -/
theorem Encoded.admitNull (h : a.Encoded enc) : (a.admitNull enc id).2.Encoded enc := by
  cases enc with
  | flag =>
    unfold Arena.admitNull
    by_cases hs : a.isShared id
    · simp only [hs, if_true]
      have single := SchemaNode.isSingle_allOf [id] true
      exact All.push h ⟨⟨single.notNull, single.notUnion⟩, nofun⟩
    · simp only [hs]
      refine All.modify_at h fun n hn hP => ⟨hP.allowed, fun shared => ?_⟩
      exact absurd (isShared_iff.2 ⟨n, hn, shared⟩) hs
  | union =>
    have null : (a.push { kind := .null }).2.Encoded .union := All.push h ⟨rfl, fun _ => rfl⟩
    unfold Arena.admitNull
    cases a.alternatives? id with
    | none => exact All.push null ⟨rfl, fun _ => rfl⟩
    | some ids =>
      simp only
      split
      · exact h
      · refine All.modify null fun n hn => ?_
        unfold addAlternative
        split
        · exact ⟨hn.allowed, fun _ => hn.allowed⟩
        · exact ⟨hn.allowed, fun _ => hn.allowed⟩
        · exact hn

/-- **Admitting null once is enough, and asking for it again changes nothing.** -/
theorem AdmitsNull.applyNull (h : a.AdmitsNull enc id ∨ a.WithoutNull id) :
    (a.applyNull enc id true).2.AdmitsNull enc (a.applyNull enc id true).1 := by
  simp only [Arena.applyNull, if_true, admitNull]
  cases enc with
  | flag =>
    obtain ⟨n, hn⟩ : ∃ n, a.get? id = some n := by
      rcases h with ⟨n, hn, -⟩ | ⟨n, hn, -⟩ <;> exact ⟨n, hn⟩
    simp only
    split
    · exact ⟨{ kind := .allOf [id], nullable := true }, get?_push_self a _, rfl⟩
    · exact ⟨{ n with nullable := true }, by simp [get?_modify, hn], rfl⟩
  | union =>
    simp only
    rcases h with h | ⟨n, hn, unflagged, single⟩
    · have admits := h
      obtain ⟨n, part, null, m, hn, kind, hm, hsingle, hnull⟩ := h
      have union : a.alternatives? id = some [part, null] := by simp [alternatives?, hn, kind]
      have any : [part, null].any a.isNull := by simp [isNull, hnull, SchemaNode.isNull]
      simp only [union, any, if_true]
      exact admits
    · have union : a.alternatives? id = none := by
        simp only [alternatives?, hn, Option.bind_some]
        split
        · next ids hk => exact absurd hk (single.notUnion ids).1
        · next ids hk => exact absurd hk (single.notUnion ids).2
        · rfl
      simp only [union, nullLeaf, push_fst]
      refine ⟨_, id, ⟨a.size⟩, n, get?_push_self _ _, rfl, ?_, single, ?_⟩
      · exact keeps_push _ _ (keeps_push _ _ hn)
      · exact keeps_push _ _ (get?_push_self a _)

end Arena

end TypeSchema
