import TypeSchema.Proofs.Schema.Arena

/-!
# Schema — counting nodes

`a.count p` is how many nodes of an arena have a property.  Adding a node counts it (`count_push`).
A property that decorating neither gives nor takes (`Undecorated`) is counted the same before and
after (`count_dressed`), and is the same for each node that was there (`any_get?_dressed`).
-/

namespace TypeSchema

/-- Decorating neither gives a node the property nor takes it, and adds no node that has it. -/
structure Undecorated (p : SchemaNode → Bool) : Prop where
  mark : ∀ n n' : SchemaNode, n.SameBody n' → p n' = p n
  wrap : ∀ id nullable, p { kind := .allOf [id], nullable } = false
  null : p { kind := .null } = false
  union : ∀ id id', p { kind := .anyOf [id, id'] } = false
  extend : ∀ n id, p (Arena.addAlternative n id) = p n

namespace Arena

variable {p : SchemaNode → Bool} {a a' : Arena} {id id' j : NodeId}

/-- How many nodes have a property. -/
def count (p : SchemaNode → Bool) (a : Arena) : Nat := a.nodes.toList.countP p

theorem count_push (p : SchemaNode → Bool) (a : Arena) (n : SchemaNode) :
    (a.push n).2.count p = a.count p + if p n then 1 else 0 := by
  simp [count, push, List.countP_append, List.countP_cons]

/-- A change that does not touch the property does not change the count. -/
theorem count_modify {f : SchemaNode → SchemaNode} (same : ∀ n, p (f n) = p n) (a : Arena)
    (id : NodeId) : (a.modify id f).count p = a.count p := by
  have values : ∀ (l : List SchemaNode) (i : Nat), (l.modify i f).countP p = l.countP p := by
    intro l i
    induction l generalizing i with
    | nil => simp
    | cons n rest ih => cases i <;> simp [List.countP_cons, same, ih]
  simp [count, modify, values]

/-- Dressing adds no node that counts. -/
theorem count_dressed (hp : Undecorated p) (h : Dressed a id a' id') : a'.count p = a.count p := by
  induction h with
  | refl => rfl
  | more h _ ih =>
    rw [ih]
    cases h with
    | mark _ body => exact count_modify (fun n => hp.mark n _ (body n)) _ _
    | wrap _ nullable => simp [count_push, hp.wrap]
    | unite _ => simp [count_push, hp.null, hp.union]
    | extend _ _ =>
      rw [count_modify fun n => hp.extend n _, count_push, hp.null]
      simp

/-- A node that is there has the property after decorating if it has it before. -/
theorem any_get?_dressed (hp : Undecorated p) (h : Dressed a id a' id') {n : SchemaNode}
    (hn : a.get? j = some n) : (a'.get? j).any p = p n := by
  -- a node that is changed
  have modify : ∀ {a : Arena} {id : NodeId} {f : SchemaNode → SchemaNode} {n : SchemaNode},
      (∀ n, p (f n) = p n) → a.get? j = some n →
      ∃ m, (a.modify id f).get? j = some m ∧ p m = p n := by
    intro a id f n same hn
    rw [get?_modify]
    split
    · next e => exact ⟨f n, by rw [← e, hn, Option.map_some], same n⟩
    · exact ⟨n, hn, rfl⟩
  suffices ∃ m, a'.get? j = some m ∧ p m = p n by
    obtain ⟨m, hm, same⟩ := this
    rw [hm, Option.any_some, same]
  induction h generalizing n with
  | refl => exact ⟨n, hn, rfl⟩
  | @more a a₁ a' id id₁ id' h _ ih =>
    suffices ∃ m, a₁.get? j = some m ∧ p m = p n by
      obtain ⟨m, hm, same⟩ := this
      obtain ⟨l, hl, same'⟩ := ih hm
      exact ⟨l, hl, same'.trans same⟩
    cases h with
    | mark _ body => exact modify (fun n => hp.mark n _ (body n)) hn
    | wrap _ _ => exact ⟨n, keeps_push _ _ hn, rfl⟩
    | unite _ => exact ⟨n, keeps_push _ _ (keeps_push _ _ hn), rfl⟩
    | extend _ _ => exact modify (fun n => hp.extend n _) (keeps_push _ _ hn)

end Arena

end TypeSchema
