import TypeSchema.Proofs.Meaning.Rendering
import TypeSchema.Proofs.Schema.Arena

/-!
# Schema — ways through an arena

From a node a way leads into what is inside its values (`SchemaNode.inner`: properties, items and
additional properties) or on to a schema for the same value (`SchemaNode.beside`: the parts of a
union or of an intersection).  A reference is not followed.  `Arena.Path` counts the steps of the
first kind and collects the identifiers of the nodes that it leaves.

`Arena.Placed` says that everything below a node is there, that no way from it goes deeper than the
limit, and that every placeholder below it is where it is due.  Decorating a node changes nothing
that is inside a node, and adds null beside one at most, so what is placed stays placed
(`Arena.Placed.dressed_rest`).
-/

namespace TypeSchema

namespace SchemaNode

/-- The nodes for what is inside the values. -/
def inner (n : SchemaNode) : List NodeId :=
  n.properties.toList.map (·.2) ++ n.items?.toList ++ n.additional?.toList

/-- The nodes for the same values. -/
def beside (n : SchemaNode) : List NodeId :=
  match n.kind with
  | .anyOf ids | .oneOf ids | .allOf ids => ids
  | _ => []

theorem children_eq (n : SchemaNode) : n.children = n.inner ++ n.beside := rfl

end SchemaNode

/-- A placeholder that is due after `k` steps down past nodes with these identifiers: one for the
depth only at the limit, and one that points to a component from a cycle only inside of it. -/
structure Placeholder.Due (p : Placeholder) (limit k : Nat) (names : List String) : Prop where
  depth : p.reason = .depth → k = limit
  cycle : p.reason = .cycle → ∀ i, p.identifier? = some i → i ∈ names

namespace Arena

variable {a a' : Arena} {limit k : Nat} {names : List String} {id id' : NodeId}

/-- A way from `root` to a node: `k` of its steps lead into a node, and the nodes that it leaves
have the identifiers `names`. -/
inductive Path (a : Arena) (root : NodeId) : Nat → List String → NodeId → Prop where
  | start : Path a root 0 [] root
  | inner {k : Nat} {names : List String} {id child : NodeId} {n : SchemaNode}
      (way : Path a root k names id) (node : a.get? id = some n) (step : child ∈ n.inner) :
      Path a root (k + 1) (n.identifier?.toList ++ names) child
  | beside {k : Nat} {names : List String} {id child : NodeId} {n : SchemaNode}
      (way : Path a root k names id) (node : a.get? id = some n) (step : child ∈ n.beside) :
      Path a root k (n.identifier?.toList ++ names) child

/-- The node is there, `k` steps down past nodes with the identifiers `names`, and so is all that is
below it; nothing is below the limit, and the placeholders are due. -/
inductive Placed (a : Arena) (limit : Nat) : Nat → List String → NodeId → Prop where
  | intro {k : Nat} {names : List String} {id : NodeId} {n : SchemaNode}
      (node : a.get? id = some n) (within : k ≤ limit)
      (due : ∀ p, n.kind = .placeholder p → p.Due limit k names)
      (inner : ∀ c ∈ n.inner, Placed a limit (k + 1) (n.identifier?.toList ++ names) c)
      (beside : ∀ c ∈ n.beside, Placed a limit k (n.identifier?.toList ++ names) c) :
      Placed a limit k names id

/-- What a way from a node leads to is placed if the node is. -/
theorem Placed.of_path {root : NodeId} (h : a.Placed limit 0 [] root)
    (way : a.Path root k names id) : a.Placed limit k names id := by
  induction way with
  | start => exact h
  | inner _ node step ih =>
    obtain @⟨_, _, _, n, hn, _, _, inner, _⟩ := ih
    obtain rfl := Option.some.inj (hn.symm.trans node)
    exact inner _ step
  | beside _ node step ih =>
    obtain @⟨_, _, _, n, hn, _, _, _, beside⟩ := ih
    obtain rfl := Option.some.inj (hn.symm.trans node)
    exact beside _ step

theorem Placed.within (h : a.Placed limit k names id) : k ≤ limit := by
  cases h
  assumption

/-- A placeholder on a path is due there. -/
theorem Placed.due (h : a.Placed limit k names id) {n : SchemaNode} (node : a.get? id = some n)
    {p : Placeholder} (kind : n.kind = .placeholder p) : p.Due limit k names := by
  obtain @⟨_, _, _, n', hn, _, due, _, _⟩ := h
  obtain rfl := Option.some.inj (hn.symm.trans node)
  exact due p kind

/-! ### Changes -/

/-- The node is there, and nothing is below it. -/
def IsLeaf (a : Arena) (id : NodeId) : Prop :=
  ∃ n, a.get? id = some n ∧ n.inner = [] ∧ n.beside = [] ∧ ∀ p, n.kind ≠ .placeholder p

theorem IsLeaf.placed (h : a.IsLeaf id) (within : k ≤ limit) : a.Placed limit k names id := by
  obtain ⟨n, node, inner, beside, kind⟩ := h
  refine .intro node within (fun p hp => absurd hp (kind p)) (fun c hc => ?_) fun c hc => ?_
  · rw [inner] at hc; cases hc
  · rw [beside] at hc; cases hc

/-- Inside `n'` is what is inside `n`, and beside it are leaves at most that are not beside `n`. -/
structure Follows (a' : Arena) (n n' : SchemaNode) : Prop where
  identifier : n'.identifier? = n.identifier?
  inner : n'.inner = n.inner
  kind : ∀ p, n'.kind = .placeholder p → n.kind = .placeholder p
  beside : ∀ c ∈ n'.beside, c ∈ n.beside ∨ a'.IsLeaf c

theorem Follows.refl (a' : Arena) (n : SchemaNode) : a'.Follows n n :=
  ⟨rfl, rfl, fun _ h => h, fun _ h => .inl h⟩

theorem Follows.of_sameBody {n n' : SchemaNode} (h : n.SameBody n') : a'.Follows n n' := by
  rw [h]
  exact ⟨rfl, rfl, fun _ h => h, fun _ h => .inl h⟩

/-- What is placed stays so if every node is followed by one. -/
theorem Placed.followed (follows : ∀ id n, a.get? id = some n →
    ∃ n', a'.get? id = some n' ∧ a'.Follows n n') (h : a.Placed limit k names id) :
    a'.Placed limit k names id := by
  induction h with
  | @intro k names id n node within due _ _ ihInner ihBeside =>
    obtain ⟨n', node', identifier, inner, kind, beside⟩ := follows id n node
    refine .intro node' within (fun p hp => due p (kind p hp)) (fun c hc => ?_) fun c hc => ?_
    · rw [identifier]
      exact ihInner c (inner ▸ hc)
    · rw [identifier]
      rcases beside c hc with hc | leaf
      · exact ihBeside c hc
      · exact leaf.placed within

theorem Placed.kept (keeps : a.Keeps a') (h : a.Placed limit k names id) :
    a'.Placed limit k names id :=
  h.followed fun _ n node => ⟨n, keeps node, .refl a' n⟩

theorem Placed.modified {f : SchemaNode → SchemaNode} {target : NodeId}
    (follows : ∀ n, a.get? target = some n → (a.modify target f).Follows n (f n))
    (h : a.Placed limit k names id) : (a.modify target f).Placed limit k names id := by
  refine h.followed fun id n node => ?_
  rw [get?_modify]
  split
  · next e =>
    subst e
    exact ⟨f n, by rw [node]; rfl, follows n node⟩
  · exact ⟨n, node, .refl _ n⟩

theorem isLeaf_null (a : Arena) : (a.push { kind := .null }).2.IsLeaf ⟨a.size⟩ :=
  ⟨{ kind := .null }, by simp [get?_push], rfl, rfl, fun _ h => by cases h⟩

theorem IsLeaf.modified {f : SchemaNode → SchemaNode} {target : NodeId} (h : a.IsLeaf id)
    (other : id ≠ target) : (a.modify target f).IsLeaf id := by
  obtain ⟨n, node, rest⟩ := h
  exact ⟨n, by rw [get?_modify, if_neg other, node], rest⟩

/-- An alternative that is a leaf goes beside a union. -/
theorem follows_addAlternative (n : SchemaNode) (leaf : a'.IsLeaf id) :
    a'.Follows n (addAlternative n id) := by
  unfold addAlternative
  split
  case h_1 ids kind | h_2 ids kind =>
    refine ⟨rfl, rfl, fun p hp => (nomatch hp), fun c hc => ?_⟩
    rcases List.mem_append.1 (show c ∈ ids ++ [id] from hc) with hc | hc
    · exact .inl (by simpa [SchemaNode.beside, kind] using hc)
    · exact .inr (List.mem_singleton.1 hc ▸ leaf)
  case h_3 => exact .refl a' n

/-- One change of the node in use leaves all others placed. -/
theorem Placed.dress_rest {j : NodeId} (hd : Dress a id a' id') (h : a.Placed limit k names j) :
    a'.Placed limit k names j := by
  cases hd with
  | mark _ body => exact h.modified fun n _ => .of_sameBody (body n)
  | wrap _ _ => exact h.kept (keeps_push _ _)
  | unite _ => exact h.kept ((keeps_push _ _).trans (keeps_push _ _))
  | @extend ids union _ =>
    have other : (⟨a.size⟩ : NodeId) ≠ id := by
      rintro rfl
      obtain ⟨n, node, -⟩ := alternatives?_eq_some union
      exact Nat.lt_irrefl _ (lt_size_of_get? node)
    exact (h.kept (keeps_push _ _)).modified fun n _ =>
      follows_addAlternative n ((isLeaf_null a).modified other)

/-- The node around a placed one is placed. -/
theorem Placed.wrapped (h : a.Placed limit k names id) {n : SchemaNode}
    (node : a.get? id' = some n) (inner : n.inner = []) (identifier : n.identifier? = none)
    (kind : ∀ p, n.kind ≠ .placeholder p)
    (beside : ∀ c ∈ n.beside, c = id ∨ a.IsLeaf c) : a.Placed limit k names id' := by
  refine .intro node h.within (fun p hp => absurd hp (kind p))
    (fun c hc => by rw [inner] at hc; cases hc) fun c hc => ?_
  rw [identifier]
  rcases beside c hc with rfl | leaf
  · exact h
  · exact leaf.placed h.within

/-- What is placed stays placed when a node is dressed. -/
theorem Placed.dress (hd : Dress a id a' id') (h : a.Placed limit k names id) :
    a'.Placed limit k names id' := by
  have stays := h.dress_rest hd
  cases hd with
  | mark _ _ => exact stays
  | extend _ _ => exact stays
  | wrap _ nullable =>
    exact stays.wrapped (n := { kind := .allOf [id], nullable }) (by simp [get?_push]) rfl rfl
      (fun _ h => by cases h) fun c hc => .inl (List.mem_singleton.1 hc)
  | unite _ =>
    obtain ⟨m, hm, rest⟩ := isLeaf_null a
    have null : ((a.push { kind := .null }).2.push { kind := .anyOf [id, ⟨a.size⟩] }).2.IsLeaf
        ⟨a.size⟩ := ⟨m, keeps_push _ _ hm, rest⟩
    refine stays.wrapped (n := { kind := .anyOf [id, ⟨a.size⟩] }) ?_ rfl rfl
      (fun _ h => by cases h) fun c hc => ?_
    · rw [get?_push, if_pos (size_push _ _).symm]
    · rcases List.mem_cons.1 (show c ∈ [id, ⟨a.size⟩] from hc) with rfl | hc
      · exact .inl rfl
      · exact .inr (List.mem_singleton.1 hc ▸ null)

/-- **Decorating leaves every placed node placed.** -/
theorem Placed.dressed_rest {j : NodeId} (hd : Dressed a id a' id')
    (h : a.Placed limit k names j) : a'.Placed limit k names j := by
  induction hd with
  | refl => exact h
  | more hd _ ih => exact ih (h.dress_rest hd)

/-- A placed node is placed when it is decorated. -/
theorem Placed.dressed (hd : Dressed a id a' id') (h : a.Placed limit k names id) :
    a'.Placed limit k names id' := by
  induction hd with
  | refl => exact h
  | more hd _ ih => exact ih (h.dress hd)

end Arena

end TypeSchema
