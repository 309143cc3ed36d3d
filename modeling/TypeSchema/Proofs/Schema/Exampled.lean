import TypeSchema.Proofs.Schema.Annotation
import TypeSchema.Proofs.Schema.Nullable

/-!
# Schema — the example of a field, and what is put around it

The example of a field is set on the node in use unless that is a stand-in, which must stay as it
is.  Then it is lost: unlike constraints and null, an example gets no node around the stand-in.
`Arena.BearsExample` says that a node has the example, or that it was lost, and `Arena.OrBeside`
that this is so of a node or of what there is beside null.

Constraints and null are put on the node in use and around it, and leave this as it is
(`KeepsExample.annotate`, `KeepsExample.admitNull`).
-/

namespace TypeSchema

/-- A stand-in, or a node without an example around one. -/
inductive Arena.Veils (a : Arena) : NodeId → Prop where
  | bare {id : NodeId} {m : SchemaNode} (standIn : a.get? id = some m) (shared : m.isShared) :
      Veils a id
  | around {id part : NodeId} {n m : SchemaNode} (node : a.get? id = some n)
      (kind : n.kind = .allOf [part]) (none : n.example? = none) (standIn : a.get? part = some m)
      (shared : m.isShared) : Veils a id

/-- A node that stands for itself has the example, or it was lost on a stand-in. -/
inductive Arena.BearsExample (a : Arena) (v : Json) (why : Prop) (id : NodeId) : Prop where
  | own {n : SchemaNode} (node : a.get? id = some n) (own : ¬ n.isShared) (single : n.IsSingle)
      (given : n.example? = some v) : BearsExample a v why id
  | lost (veils : a.Veils id) (because : why) : BearsExample a v why id

/-- It is true of the node, or of what there is beside null. -/
inductive Arena.OrBeside (a : Arena) (P : NodeId → Prop) (id : NodeId) : Prop where
  | alone (part : P id) : OrBeside a P id
  | beside {part null : NodeId} {n : SchemaNode} (node : a.get? id = some n)
      (kind : n.kind = .anyOf [part, null]) (none : n.example? = none) (part : P part)
      (null : a.get? null = some { kind := .null }) : OrBeside a P id

/-- The node, or what there is beside null, has the example, or it was lost. -/
abbrev Arena.KeepsExample (a : Arena) (v : Json) (why : Prop) (id : NodeId) : Prop :=
  a.OrBeside (a.BearsExample v why) id

namespace Arena

variable {a a' : Arena} {v : Json} {why : Prop} {id : NodeId}

/-! ### Stand-ins -/

namespace Veils

theorem single (h : a.Veils id) : ∃ n, a.get? id = some n ∧ n.IsSingle := by
  cases h with
  | bare standIn shared => exact ⟨_, standIn, SchemaNode.isSingle_of_isShared shared⟩
  | around node kind _ _ _ => exact ⟨_, node, by simp [kind], by simp [kind]⟩

/-- The node around a stand-in is marked. -/
theorem modify (h : a.Veils id) (own : ¬ a.isShared id) {f : SchemaNode → SchemaNode}
    (kind : ∀ n, (f n).kind = n.kind) (given : ∀ n, (f n).example? = n.example?) :
    (a.modify id f).Veils id := by
  cases h with
  | bare standIn shared => exact absurd (isShared_iff.2 ⟨_, standIn, shared⟩) own
  | @around part n m node hkind none standIn shared =>
    have other : part ≠ id := by
      rintro rfl
      exact own (isShared_iff.2 ⟨m, standIn, shared⟩)
    refine .around ?_ ((kind n).trans hkind) ((given n).trans none)
      (by rw [get?_modify, if_neg other, standIn]) shared
    rw [get?_modify, if_pos rfl, node, Option.map_some]

/-- It stays one if no node but unions changes. -/
theorem kept (h : a.Veils id)
    (kept : ∀ j n, (∀ ids, n.kind ≠ .anyOf ids) → a.get? j = some n → a'.get? j = some n) :
    a'.Veils id := by
  have single : ∀ {m : SchemaNode}, m.isShared → ∀ ids, m.kind ≠ .anyOf ids :=
    fun shared ids => ((SchemaNode.isSingle_of_isShared shared).notUnion ids).1
  cases h with
  | bare standIn shared => exact .bare (kept _ _ (single shared) standIn) shared
  | around node kind none standIn shared =>
    exact .around (kept _ _ (by simp [kind]) node) kind none (kept _ _ (single shared) standIn)
      shared

/-- It stays one as long as no node up to it changes. -/
theorem stays (ground : a.Grounded) (h : a.Veils id)
    (kept : ∀ j n, j.index ≤ id.index → a.get? j = some n → a'.get? j = some n) : a'.Veils id := by
  cases h with
  | bare standIn shared => exact .bare (kept _ _ (Nat.le_refl _) standIn) shared
  | @around part n m node kind none standIn shared =>
    have below : part.index < id.index := ground.backward id n node part <|
      SchemaNode.mem_edges_of_mem_children (by simp [SchemaNode.children, kind])
    exact .around (kept _ _ (Nat.le_refl _) node) kind none (kept _ _ (Nat.le_of_lt below) standIn)
      shared

end Veils

theorem veils_wrap {m : SchemaNode} (hm : a.get? id = some m) (shared : m.isShared)
    (nullable : Bool) : (a.push { kind := .allOf [id], nullable }).2.Veils ⟨a.size⟩ :=
  .around (get?_push_self _ _) rfl rfl (keeps_push _ _ hm) shared

/-! ### Examples -/

namespace BearsExample

/-- A node that is no stand-in is marked. -/
theorem modify (h : a.BearsExample v why id) (own : ¬ a.isShared id)
    {f : SchemaNode → SchemaNode} (kind : ∀ n, (f n).kind = n.kind)
    (given : ∀ n, (f n).example? = n.example?) : (a.modify id f).BearsExample v why id := by
  cases h with
  | @own n node hown single hgiven =>
    refine .own ?_ ?_ ⟨?_, ?_⟩ ((given n).trans hgiven)
    · rw [get?_modify, if_pos rfl, node, Option.map_some]
    · simpa only [SchemaNode.isShared, kind] using hown
    · exact kind n ▸ single.notNull
    · exact kind n ▸ single.notUnion
  | lost veils because => exact .lost (veils.modify own kind given) because

/-- An example is borne as long as the nodes on the way to it are kept. -/
theorem kept (h : a.BearsExample v why id)
    (kept : ∀ j n, (∀ ids, n.kind ≠ .anyOf ids) → a.get? j = some n → a'.get? j = some n) :
    a'.BearsExample v why id := by
  cases h with
  | own node own single given =>
    exact .own (kept _ _ (fun ids => (single.notUnion ids).1) node) own single given
  | lost veils because => exact .lost (veils.kept kept) because

theorem stays (ground : a.Grounded) (h : a.BearsExample v why id)
    (kept : ∀ j n, j.index ≤ id.index → a.get? j = some n → a'.get? j = some n) :
    a'.BearsExample v why id := by
  cases h with
  | own node own single given => exact .own (kept _ _ (Nat.le_refl _) node) own single given
  | lost veils because => exact .lost (veils.stays ground kept) because

/-- A new node around a stand-in. -/
theorem wrapped (h : a.BearsExample v why id) (shared : a.isShared id) (nullable : Bool) :
    (a.push { kind := .allOf [id], nullable }).2.BearsExample v why ⟨a.size⟩ := by
  obtain ⟨m, hm, hs⟩ := isShared_iff.1 shared
  cases h with
  | own node own _ _ =>
    cases hm.symm.trans node
    exact absurd hs own
  | lost _ because => exact .lost (veils_wrap hm hs nullable) because

/-- Constraints are put on the node, or on a new node around a stand-in. -/
theorem annotate (h : a.BearsExample v why id) (patterns : PatternCheck) (member : String)
    (constraints : List Constraint) :
    (a.annotate patterns id member constraints).2.1.BearsExample v why
      (a.annotate patterns id member constraints).1 := by
  rw [annotate_eq]
  split
  · exact h
  · split
    · next shared =>
      exact (h.wrapped shared false).modify (not_isShared_wrap a id false) (fun _ => rfl)
        fun _ => rfl
    · next own => exact h.modify own (fun _ => rfl) fun _ => rfl

theorem clearNullFlag (h : a.BearsExample v why id) :
    (a.clearNullFlag id).BearsExample v why id := by
  unfold Arena.clearNullFlag
  split
  · exact h
  · next own => exact h.modify own (fun _ => rfl) fun _ => rfl

theorem admitFlag (h : a.BearsExample v why id) :
    (a.admitNull .flag id).2.BearsExample v why (a.admitNull .flag id).1 := by
  simp only [Arena.admitNull]
  split
  · next shared => exact h.wrapped shared true
  · next own => exact h.modify own (fun _ => rfl) fun _ => rfl

theorem single (h : a.BearsExample v why id) : ∃ n, a.get? id = some n ∧ n.IsSingle := by
  cases h with
  | own node _ single _ => exact ⟨_, node, single⟩
  | lost veils _ => exact veils.single

theorem alternatives?_eq (h : a.BearsExample v why id) : a.alternatives? id = none := by
  obtain ⟨n, hn, single⟩ := h.single
  cases union : a.alternatives? id with
  | none => rfl
  | some ids =>
    obtain ⟨m, hm, kind⟩ := alternatives?_eq_some union
    cases hn.symm.trans hm
    exact (not_or.2 (single.notUnion ids) kind).elim

/-- The node becomes an alternative beside null. -/
theorem unite (h : a.BearsExample v why id) :
    (a.admitNull .union id).2.KeepsExample v why (a.admitNull .union id).1 := by
  simp only [Arena.admitNull, h.alternatives?_eq, nullLeaf, push_fst]
  refine .beside (get?_push_self _ _) rfl rfl (h.kept fun j n _ hn => ?_)
    (keeps_push _ _ (get?_push_self a _))
  exact keeps_push _ _ (keeps_push _ _ hn)

end BearsExample

namespace KeepsExample

theorem modify (h : a.KeepsExample v why id) (own : ¬ a.isShared id)
    {f : SchemaNode → SchemaNode} (kind : ∀ n, (f n).kind = n.kind)
    (given : ∀ n, (f n).example? = n.example?) : (a.modify id f).KeepsExample v why id := by
  cases h with
  | alone part => exact .alone (part.modify own kind given)
  | @beside part null n node hkind none bears hnull =>
    -- the union is not among its parts
    have marked : ∀ j m, (∀ ids, m.kind ≠ .anyOf ids) → a.get? j = some m →
        (a.modify id f).get? j = some m := by
      intro j m single hm
      have other : j ≠ id := by
        rintro rfl
        cases hm.symm.trans node
        exact single _ hkind
      rw [get?_modify, if_neg other, hm]
    refine .beside ?_ ((kind n).trans hkind) ((given n).trans none) (bears.kept marked)
      (marked _ _ (by simp) hnull)
    rw [get?_modify, if_pos rfl, node, Option.map_some]

/-- Constraints keep an example. -/
theorem annotate (h : a.KeepsExample v why id) (patterns : PatternCheck) (member : String)
    (constraints : List Constraint) :
    (a.annotate patterns id member constraints).2.1.KeepsExample v why
      (a.annotate patterns id member constraints).1 := by
  have keeps := h
  cases h with
  | alone part => exact .alone (part.annotate patterns member constraints)
  | beside node kind _ _ _ =>
    have own : ¬ a.isShared id := by
      rw [isShared_eq node]
      simp [SchemaNode.isShared, kind]
    rw [annotate_eq, if_neg own]
    split
    · exact keeps
    · exact modify keeps own (fun _ => rfl) fun _ => rfl

/-- **Null is admitted beside the example, or on its node.** -/
theorem admitNull (h : a.KeepsExample v why id) (enc : NullEncoding) :
    (a.admitNull enc id).2.KeepsExample v why (a.admitNull enc id).1 := by
  have keeps := h
  cases h with
  | alone part =>
    cases enc with
    | flag => exact .alone part.admitFlag
    | union => exact part.unite
  | @beside part other n node kind _ _ null =>
    cases enc with
    | flag =>
      have own : ¬ a.isShared id := by
        rw [isShared_eq node]
        simp [SchemaNode.isShared, kind]
      simp only [Arena.admitNull, if_neg own]
      exact modify keeps own (fun _ => rfl) fun _ => rfl
    | union =>
      have alternatives : a.alternatives? id = some [part, other] := by
        simp only [alternatives?, node, Option.bind_some, kind]
      have any : [part, other].any a.isNull := by simp [isNull, null, SchemaNode.isNull]
      simp only [Arena.admitNull, alternatives, any, if_true]
      exact keeps

theorem stays (ground : a.Grounded) (h : a.KeepsExample v why id)
    (kept : ∀ j n, j.index ≤ id.index → a.get? j = some n → a'.get? j = some n) :
    a'.KeepsExample v why id := by
  cases h with
  | alone part => exact .alone (part.stays ground kept)
  | @beside part other n node kind none bears null =>
    have below : ∀ c ∈ [part, other], c.index ≤ id.index := fun c hc =>
      Nat.le_of_lt <| ground.backward id n node c <|
        SchemaNode.mem_edges_of_mem_children (by simp [SchemaNode.children, kind, hc])
    have inside := bears.stays ground fun j m hj => kept j m (hj.trans (below part (by simp)))
    exact .beside (kept _ _ (Nat.le_refl _) node) kind none inside
      (kept _ _ (below other (by simp)) null)

end KeepsExample

/-! ### Setting an example -/

/-- Constraints are taken by the node itself unless it is a stand-in; what is a stand-in after them
was one before, and got none. -/
theorem annotate_single {n : SchemaNode} (hn : a.get? id = some n) (single : n.IsSingle)
    (patterns : PatternCheck) (member : String) (constraints : List Constraint) :
    ∃ m, (a.annotate patterns id member constraints).2.1.get?
        (a.annotate patterns id member constraints).1 = some m ∧ m.IsSingle ∧
      (m.isShared → n.isShared ∧ constraints = []) := by
  by_cases shared : n.isShared
  · rw [annotate_eq, isShared_eq hn, shared]
    split
    · next none => exact ⟨n, hn, single, fun _ => ⟨rfl, List.isEmpty_iff.1 none⟩⟩
    · rw [if_pos rfl]
      have wrapper : (a.wrap id).2.get? ⟨a.size⟩ = some { kind := .allOf [id] } :=
        get?_push_self a _
      simp only [wrap, push_fst] at wrapper ⊢
      rw [mark_eq patterns member wrapper, get?_modify, if_pos rfl, wrapper]
      have own : ¬ SchemaNode.isShared { kind := .allOf [id] } := Bool.false_ne_true
      exact ⟨_, rfl, ⟨by simp, by simp⟩, fun shared => absurd shared own⟩
  · obtain ⟨same, hget⟩ := annotate_own hn shared patterns member constraints
    rw [same]
    exact ⟨_, hget, ⟨single.notNull, single.notUnion⟩, fun hs => absurd hs shared⟩

end Arena

end TypeSchema
