import TypeSchema.Proofs.Schema.Grounded

/-!
# Schema — null is admitted once, and in one place

A node carries null by its flag, or by being a union that has null among its alternatives
(`Arena.CarriesNull`).  Whatever a node is, admitting null gives one that carries it
(`carriesNull_admitNull`), and what carries null stays as it is (`admitNull_of_carriesNull`): so it
is admitted once.  The node that is given is decorated and no other node changes, nor does that node
if it is a stand-in.

`applyNull_idempotent` puts this together.  The edges of the arena are still inside it
(`EdgesInside.dressed`), so null can be applied to its nodes again.
-/

namespace TypeSchema

theorem SchemaNode.sameBody_nullable (nullable : Bool) (n : SchemaNode) :
    n.SameBody { n with nullable } := rfl

namespace Arena

variable {enc : NullEncoding} {a : Arena} {id : NodeId} {n : SchemaNode}

/-- The node admits null: it has the flag, or it is a union with null among its alternatives. -/
def CarriesNull (a : Arena) : NullEncoding → NodeId → Prop
  | .flag, id => ∃ n, a.get? id = some n ∧ n.nullable = true
  | .union, id => ∃ n ids, a.get? id = some n ∧ (n.kind = .anyOf ids ∨ n.kind = .oneOf ids) ∧
      ∃ null ∈ ids, a.isNull null

/-- Every edge leads to a node of the arena. -/
def EdgesInside (a : Arena) : Prop := a.All fun m => ∀ c ∈ m.edges, c.index < a.size

theorem alternatives?_of_kind {ids : List NodeId} (hn : a.get? id = some n)
    (union : n.kind = .anyOf ids ∨ n.kind = .oneOf ids) : a.alternatives? id = some ids := by
  rw [alternatives?, hn]
  rcases union with hk | hk <;> simp [hk]

theorem carriesNull_union_iff : a.CarriesNull .union id ↔
    ∃ ids, a.alternatives? id = some ids ∧ ids.any a.isNull := by
  constructor
  · rintro ⟨n, ids, hn, union, null⟩
    exact ⟨ids, alternatives?_of_kind hn union, List.any_eq_true.2 null⟩
  · rintro ⟨ids, halt, null⟩
    obtain ⟨n, hn, union⟩ := alternatives?_eq_some halt
    exact ⟨n, ids, hn, union, List.any_eq_true.1 null⟩

theorem addAlternative_kind {ids : List NodeId} (union : n.kind = .anyOf ids ∨ n.kind = .oneOf ids)
    (c : NodeId) : (addAlternative n c).kind = .anyOf (ids ++ [c]) ∨
      (addAlternative n c).kind = .oneOf (ids ++ [c]) := by
  rcases union with hk | hk
  · exact .inl (by simp only [addAlternative, hk])
  · exact .inr (by simp only [addAlternative, hk])

theorem mem_edges_addAlternative {c c' : NodeId} (h : c' ∈ (addAlternative n c).edges) :
    c' ∈ n.edges ∨ c' = c := by
  unfold addAlternative at h
  split at h
  · next ids hk =>
    simp only [SchemaNode.edges, SchemaNode.children, hk, List.mem_append] at h ⊢
    grind
  · next ids hk =>
    simp only [SchemaNode.edges, SchemaNode.children, hk, List.mem_append] at h ⊢
    grind
  · exact .inl h

/-! ### Once -/

/-- A change that leaves the node as it is leaves the arena as it is. -/
theorem modify_eq_self {f : SchemaNode → SchemaNode} (hn : a.get? id = some n) (same : f n = n) :
    a.modify id f = a := by
  have nodes : (a.modify id f).nodes = a.nodes := by
    refine Array.ext_getElem? fun i => ?_
    have there : (a.modify id f).get? ⟨i⟩ = a.get? ⟨i⟩ := by
      rw [get?_modify]
      split
      · next here => rw [here, hn, Option.map_some, same]
      · rfl
    exact there
  cases a
  exact congrArg Arena.mk nodes

/-- **What carries null stays as it is.** -/
theorem admitNull_of_carriesNull (h : a.CarriesNull enc id) (own : ¬ a.isShared id) :
    a.admitNull enc id = (id, a) := by
  cases enc with
  | flag =>
    obtain ⟨n, hn, flagged⟩ := h
    rw [admitNull, if_neg own, modify_eq_self hn (by cases n; cases flagged; rfl)]
  | union =>
    obtain ⟨ids, halt, null⟩ := carriesNull_union_iff.1 h
    simp only [admitNull, halt, null, if_true]

/-- **Whatever admits null carries it**, and is no stand-in. -/
theorem carriesNull_admitNull (enc : NullEncoding) (hn : a.get? id = some n) :
    (a.admitNull enc id).2.CarriesNull enc (a.admitNull enc id).1 ∧
      ¬ (a.admitNull enc id).2.isShared (a.admitNull enc id).1 := by
  cases enc with
  | flag =>
    by_cases hs : a.isShared id
    · rw [admitNull, if_pos hs]
      exact ⟨⟨_, get?_push_self a _, rfl⟩, not_isShared_wrap a id true⟩
    · rw [admitNull, if_neg hs]
      refine ⟨⟨_, by rw [get?_modify, if_pos rfl, hn, Option.map_some], rfl⟩, ?_⟩
      rwa [isShared_modify (SchemaNode.sameBody_nullable true)]
  | union =>
    suffices h : (a.admitNull .union id).2.CarriesNull .union (a.admitNull .union id).1 by
      obtain ⟨ids, halt, -⟩ := carriesNull_union_iff.1 h
      exact ⟨h, not_isShared_of_alternatives? halt⟩
    -- what is pushed for null is there in the end
    have null : a.nullLeaf.2.isNull ⟨a.size⟩ := by
      rw [isNull_iff]
      exact ⟨_, get?_push_self a _, rfl⟩
    cases halt : a.alternatives? id with
    | none =>
      simp only [admitNull, halt]
      exact ⟨_, [id, ⟨a.size⟩], get?_push_self _ _, .inl rfl, ⟨a.size⟩, by simp,
        (keeps_push _ _).isNull null⟩
    | some ids =>
      simp only [admitNull, halt]
      split
      · next there => exact carriesNull_union_iff.2 ⟨ids, halt, there⟩
      · obtain ⟨m, hm, union⟩ := alternatives?_eq_some halt
        have other : (⟨a.size⟩ : NodeId) ≠ id := fun e => by
          have := lt_size_of_get? hm
          rw [← e] at this
          exact Nat.lt_irrefl _ this
        refine ⟨addAlternative m ⟨a.size⟩, ids ++ [⟨a.size⟩], ?_, addAlternative_kind union _,
          ⟨a.size⟩, by simp, ?_⟩
        · rw [get?_modify, if_pos rfl]
          exact congrArg (Option.map _) (keeps_push a _ hm)
        · rw [isNull, get?_modify, if_neg other]
          exact null

/-! ### In one place -/

theorem alternatives?_eq_of_get? {a' : Arena} {j : NodeId} (h : a'.get? j = a.get? j) :
    a'.alternatives? j = a.alternatives? j := by
  rw [alternatives?, alternatives?, h]

/-- No union gets null as one more alternative that has null already. -/
theorem alternatives?_admitNull (enc : NullEncoding) (id : NodeId) {j : NodeId} {ids : List NodeId}
    (halt : a.alternatives? j = some ids) (null : ids.any a.isNull) :
    (a.admitNull enc id).2.alternatives? j = some ids := by
  by_cases hj : j = id
  · subst hj
    cases enc with
    | flag =>
      rw [admitNull, if_neg (not_isShared_of_alternatives? halt),
        alternatives?_modify (SchemaNode.sameBody_nullable true)]
      exact halt
    | union =>
      rw [admitNull_of_carriesNull (carriesNull_union_iff.2 ⟨ids, halt, null⟩)
        (not_isShared_of_alternatives? halt)]
      exact halt
  · obtain ⟨m, hm, -⟩ := alternatives?_eq_some halt
    have kept := get?_dressed_of_ne (applyNull_dressed a enc id true) hj hm
    exact (alternatives?_eq_of_get? (kept.trans hm.symm)).trans halt

/-- Taking the flag off changes the flag of the node at most. -/
theorem clearNullFlag_frame (hn : a.get? id = some n) :
    (a.clearNullFlag id).size = a.size ∧ (∀ j, j ≠ id → (a.clearNullFlag id).get? j = a.get? j) ∧
      (∃ nullable, (a.clearNullFlag id).get? id = some { n with nullable }) ∧
      (n.isShared → (a.clearNullFlag id).get? id = some n) := by
  rw [clearNullFlag, isShared_eq hn]
  cases n.isShared with
  | true => exact ⟨rfl, fun _ _ => rfl, ⟨n.nullable, hn⟩, fun _ => hn⟩
  | false =>
    simp only [Bool.false_eq_true, if_false]
    refine ⟨size_modify _ _ _, fun j hj => by rw [get?_modify, if_neg hj], ⟨false, ?_⟩,
      False.elim⟩
    rw [get?_modify, if_pos rfl, hn, Option.map_some]

/-- A node with edges to what is there, itself included, keeps edges inside. -/
theorem EdgesInside.push (h : a.EdgesInside) (edges : ∀ c ∈ n.edges, c.index < a.size + 1) :
    (a.push n).2.EdgesInside := by
  unfold EdgesInside
  rw [size_push]
  exact All.push (h.imp fun m hm c hc => Nat.lt_succ_of_lt (hm c hc)) edges

theorem EdgesInside.modify (h : a.EdgesInside) {f : SchemaNode → SchemaNode}
    (edges : ∀ m : SchemaNode, (∀ c ∈ m.edges, c.index < a.size) →
      ∀ c ∈ (f m).edges, c.index < a.size) : (a.modify id f).EdgesInside := by
  unfold EdgesInside
  rw [size_modify]
  exact All.modify h edges

/-- Decorating a node leads to no node that is not there. -/
theorem EdgesInside.dressed {a' : Arena} {id' : NodeId} (hd : Dressed a id a' id')
    (h : a.EdgesInside) (inside : id.index < a.size) : a'.EdgesInside := by
  induction hd with
  | refl => exact h
  | @more a a₁ a' id id₁ id' hd _ ih =>
    have null : (a.push { kind := .null }).2.EdgesInside := h.push nofun
    cases hd with
    | mark _ body =>
      refine ih (h.modify fun m hm => ?_) (by rwa [size_modify])
      rwa [(body m).edges_eq]
    | wrap _ nullable =>
      refine ih (h.push fun c hc => ?_) (by simp)
      have hc : c ∈ [id] := hc
      rw [List.mem_singleton.1 hc]
      exact Nat.lt_succ_of_lt inside
    | unite _ =>
      refine ih (null.push fun c hc => ?_) (by simp)
      have hc : c ∈ [id, ⟨a.size⟩] := hc
      rw [size_push]
      rcases List.mem_pair.1 hc with rfl | rfl
      · omega
      · exact Nat.lt_add_right 1 (Nat.lt_succ_self a.size)
    | extend _ _ =>
      refine ih (null.modify fun m hm c hc => ?_) (by rw [size_modify, size_push]; omega)
      rcases mem_edges_addAlternative hc with hc | rfl
      · exact hm c hc
      · simp

/-- **Null is admitted once, and in one place.**  The node that is given back carries null, and
applying it to that node again changes nothing.  A union that has null stays as it is; so does every
other node that was there, and the node itself if it is a stand-in.  Taking null off changes at most
the flag of the node. -/
theorem applyNull_idempotent (enc : NullEncoding) (hn : a.get? id = some n) :
    (∀ id' a', a.applyNull enc id true = (id', a') →
      a'.CarriesNull enc id' ∧ a'.applyNull enc id' true = (id', a') ∧
      (∀ j ids, a.alternatives? j = some ids → ids.any a.isNull → a'.alternatives? j = some ids) ∧
      (∀ j m, j ≠ id → a.get? j = some m → a'.get? j = some m) ∧
      (n.isShared → a'.get? id = some n) ∧
      (a.EdgesInside → a'.EdgesInside)) ∧
    ∀ id' a', a.applyNull enc id false = (id', a') →
      id' = id ∧ a'.size = a.size ∧ (∀ j, j ≠ id → a'.get? j = a.get? j) ∧
      (∃ nullable, a'.get? id = some { n with nullable }) ∧
      (n.isShared → a'.get? id = some n) := by
  constructor
  · intro id' a' h
    have dressed := applyNull_dressed a enc id true
    have admitted : a.admitNull enc id = (id', a') := h
    obtain ⟨carries, own⟩ := carriesNull_admitNull enc hn
    rw [h] at dressed
    rw [admitted] at carries own
    refine ⟨carries, admitNull_of_carriesNull carries own, fun j ids halt null => ?_,
      fun j m hj hm => get?_dressed_of_ne dressed hj hm, fun shared => ?_,
      fun inside => inside.dressed dressed (lt_size_of_get? hn)⟩
    · have kept := alternatives?_admitNull enc id halt null
      rwa [admitted] at kept
    · exact (Keeps.refl a).dressed dressed (.inr (isShared_iff.2 ⟨n, hn, shared⟩)) |>.1 hn
  · rintro _ _ ⟨⟩
    exact ⟨rfl, clearNullFlag_frame hn⟩

/-- A string, and a reference to it. -/
def referred : Arena :=
  ((empty.push (.ofPrimitive .string)).2.push
    { kind := .reference { typeName := "Name", identifier := "Name", target := ⟨0⟩ } }).2

/-- A reference that admits null is put into a union, and admitting null again changes nothing. -/
theorem referred_null : ∃ n, referred.get? ⟨1⟩ = some n ∧ n.isShared ∧
    ∃ a, referred.applyNull .union ⟨1⟩ true = (⟨3⟩, a) ∧ a.CarriesNull .union ⟨3⟩ ∧
      a.applyNull .union ⟨3⟩ true = (⟨3⟩, a) ∧ a.get? ⟨1⟩ = some n := by
  obtain ⟨n, hn, shared⟩ : ∃ n, referred.get? ⟨1⟩ = some n ∧ n.isShared := ⟨_, rfl, rfl⟩
  obtain ⟨a, ha⟩ : ∃ a, referred.applyNull .union ⟨1⟩ true = (⟨3⟩, a) := ⟨_, rfl⟩
  obtain ⟨carries, again, -, -, standIn, -⟩ := (applyNull_idempotent .union hn).1 ⟨3⟩ a ha
  exact ⟨n, hn, shared, a, ha, carries, again, standIn shared⟩

end Arena

end TypeSchema
