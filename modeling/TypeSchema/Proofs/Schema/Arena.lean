import TypeSchema.Schema.Nullability

/-!
# Schema — arenas that grow

A generation adds nodes to its arena and goes back to a node only to decorate it: to set its
keywords, its example or its flag for null.  `Dressed a id a' id'` says that `a'` is `a` after the
node `id` was decorated, and that `id'` is the node to use from then on: `id` itself, or a new node
around it.

* `annotate_dressed`, `applyNull_dressed`: constraints and null decorate.
* `Arena.Keeps`: every node of the first arena is there in the second, unchanged.
* `Arena.All`: what holds of every node.
-/

namespace TypeSchema

namespace Arena

/-! ### Nodes of a changed arena -/

theorem get?_push (a : Arena) (n : SchemaNode) (id : NodeId) :
    (a.push n).2.get? id = if id.index = a.size then some n else a.get? id := by
  simp only [get?, push, size, Array.getElem?_push]
  rfl

theorem get?_push_self (a : Arena) (n : SchemaNode) : (a.push n).2.get? ⟨a.size⟩ = some n := by
  rw [get?_push, if_pos rfl]

theorem push_fst (a : Arena) (n : SchemaNode) : (a.push n).1 = ⟨a.size⟩ := rfl

@[simp] theorem size_push (a : Arena) (n : SchemaNode) : (a.push n).2.size = a.size + 1 := by
  simp [push, size]

/-- What is inside an arena is inside a larger one. -/
theorem inside_push {a : Arena} {ids : List NodeId} (inside : ∀ c ∈ ids, c.index < a.size)
    (n : SchemaNode) : ∀ c ∈ ids, c.index < (a.push n).2.size := by
  intro c hc
  rw [size_push]
  exact Nat.lt_succ_of_lt (inside c hc)

theorem get?_push_push_self (a : Arena) (m n : SchemaNode) :
    ((a.push m).2.push n).2.get? ⟨a.size + 1⟩ = some n := by
  rw [get?_push, size_push, if_pos rfl]

@[simp] theorem size_modify (a : Arena) (id : NodeId) (f : SchemaNode → SchemaNode) :
    (a.modify id f).size = a.size := by
  simp [modify, size]

theorem get?_modify (a : Arena) (id : NodeId) (f : SchemaNode → SchemaNode) (j : NodeId) :
    (a.modify id f).get? j = if j = id then (a.get? id).map f else a.get? j := by
  simp only [get?, modify, Array.getElem?_modify]
  by_cases h : j = id
  · simp [h]
  · have : id.index ≠ j.index := fun e => h (by cases id; cases j; simp_all)
    simp [this, h]

theorem get?_eq_none_iff {a : Arena} {id : NodeId} : a.get? id = none ↔ a.size ≤ id.index := by
  simp [get?, size]

theorem lt_size_of_get? {a : Arena} {id : NodeId} {n : SchemaNode} (h : a.get? id = some n) :
    id.index < a.size :=
  Nat.lt_of_not_le fun hle => by rw [get?_eq_none_iff.2 hle] at h; cases h

theorem exists_get? {a : Arena} {id : NodeId} (h : id.index < a.size) : ∃ n, a.get? id = some n :=
  Option.ne_none_iff_exists'.1 fun hn => by have := get?_eq_none_iff.1 hn; omega

theorem isShared_iff {a : Arena} {id : NodeId} :
    a.isShared id ↔ ∃ n, a.get? id = some n ∧ n.isShared := by
  simp only [isShared]
  cases a.get? id <;> simp

theorem isShared_eq {a : Arena} {id : NodeId} {n : SchemaNode} (h : a.get? id = some n) :
    a.isShared id = n.isShared := by
  simp [isShared, h]

/-! ### Every node -/

/-- `P` holds of every node. -/
def All (P : SchemaNode → Prop) (a : Arena) : Prop := ∀ id n, a.get? id = some n → P n

theorem all_iff {P : SchemaNode → Prop} {a : Arena} : a.All P ↔ ∀ n ∈ a.nodes.toList, P n := by
  simp only [All, get?, Array.mem_toList_iff, Array.mem_iff_getElem?]
  exact ⟨fun h n ⟨i, hi⟩ => h ⟨i⟩ n hi, fun h id n hn => h n ⟨id.index, hn⟩⟩

instance {P : SchemaNode → Prop} [DecidablePred P] (a : Arena) : Decidable (a.All P) :=
  decidable_of_iff _ all_iff.symm

theorem All.imp {P Q : SchemaNode → Prop} {a : Arena} (h : a.All P) (hPQ : ∀ n, P n → Q n) :
    a.All Q := fun id n hn => hPQ n (h id n hn)

/-- What holds of a new node and of all others holds of all. -/
theorem All.push {P : SchemaNode → Prop} {a : Arena} (h : a.All P) {n : SchemaNode} (hn : P n) :
    (a.push n).2.All P := by
  intro id m hm
  rw [get?_push] at hm
  split at hm
  · cases hm; exact hn
  · exact h id m hm

theorem All.modify {P : SchemaNode → Prop} {a : Arena} (h : a.All P) {id : NodeId}
    {f : SchemaNode → SchemaNode} (hf : ∀ n, P n → P (f n)) : (a.modify id f).All P := by
  intro j m hm
  rw [get?_modify] at hm
  split at hm
  · obtain ⟨n, hn, rfl⟩ := Option.map_eq_some_iff.1 hm
    exact hf n (h id n hn)
  · exact h j m hm

/-- Changing one node has to keep what holds of that node only. -/
theorem All.modify_at {P : SchemaNode → Prop} {a : Arena} (h : a.All P) {id : NodeId}
    {f : SchemaNode → SchemaNode} (hf : ∀ n, a.get? id = some n → P n → P (f n)) :
    (a.modify id f).All P := by
  intro j m hm
  rw [get?_modify] at hm
  split at hm
  · obtain ⟨n, hn, rfl⟩ := Option.map_eq_some_iff.1 hm
    exact hf n hn (h id n hn)
  · exact h j m hm

/-! ### Nodes that stay -/

/-- Every node of `a` is in `a'` as it was. -/
def Keeps (a a' : Arena) : Prop := ∀ ⦃id n⦄, a.get? id = some n → a'.get? id = some n

theorem Keeps.refl (a : Arena) : a.Keeps a := fun _ _ h => h

theorem Keeps.trans {a b c : Arena} (hab : a.Keeps b) (hbc : b.Keeps c) : a.Keeps c :=
  fun _ _ h => hbc (hab h)

theorem keeps_push (a : Arena) (n : SchemaNode) : a.Keeps (a.push n).2 := by
  intro id m hm
  have := lt_size_of_get? hm
  rw [get?_push, if_neg (by omega), hm]

theorem Keeps.size_le {a a' : Arena} (h : a.Keeps a') : a.size ≤ a'.size := by
  refine Nat.le_of_not_lt fun hlt => ?_
  obtain ⟨n, hn⟩ : ∃ n, a.get? ⟨a'.size⟩ = some n := exists_get? hlt
  exact Nat.lt_irrefl _ (lt_size_of_get? (h hn))

theorem Keeps.isShared {a a' : Arena} (h : a.Keeps a') {id : NodeId} (hs : a.isShared id) :
    a'.isShared id := by
  obtain ⟨n, hn, hs⟩ := isShared_iff.1 hs
  exact isShared_iff.2 ⟨n, h hn, hs⟩

/-! ### Decorating a node -/

end Arena

/-- `n'` is `n` with other keywords, another example or another flag for null. -/
def SchemaNode.SameBody (n n' : SchemaNode) : Prop :=
  n' = { n with nullable := n'.nullable, keywords := n'.keywords, example? := n'.example? }

/-- One change to the node `id` that is in use. -/
inductive Dress : Arena → NodeId → Arena → NodeId → Prop where
  /-- A node that is not shared is marked. -/
  | mark {a : Arena} {id : NodeId} {f : SchemaNode → SchemaNode} (unshared : ¬ a.isShared id)
      (body : ∀ n : SchemaNode, n.SameBody (f n)) : Dress a id (a.modify id f) id
  /-- A shared node gets a node around it. -/
  | wrap {a : Arena} {id : NodeId} (shared : a.isShared id) (nullable : Bool) :
      Dress a id (a.push { kind := .allOf [id], nullable }).2 ⟨a.size⟩
  /-- A node becomes an alternative beside null. -/
  | unite {a : Arena} {id : NodeId} (single : a.alternatives? id = none) :
      Dress a id ((a.push { kind := .null }).2.push { kind := .anyOf [id, ⟨a.size⟩] }).2
        ⟨a.size + 1⟩
  /-- A union without null gets null as one more alternative. -/
  | extend {a : Arena} {id : NodeId} {ids : List NodeId} (union : a.alternatives? id = some ids)
      (withoutNull : ids.any a.isNull = false) :
      Dress a id ((a.push { kind := .null }).2.modify id (Arena.addAlternative · ⟨a.size⟩)) id

/-- Some changes, one after the other. -/
inductive Dressed : Arena → NodeId → Arena → NodeId → Prop where
  | refl (a : Arena) (id : NodeId) : Dressed a id a id
  | more {a a₁ a' : Arena} {id id₁ id' : NodeId} (h : Dress a id a₁ id₁)
      (t : Dressed a₁ id₁ a' id') : Dressed a id a' id'

namespace Dressed

theorem one {a a' : Arena} {id id' : NodeId} (h : Dress a id a' id') : Dressed a id a' id' :=
  .more h (.refl _ _)

theorem trans {a a₁ a' : Arena} {id id₁ id' : NodeId} (h₁ : Dressed a id a₁ id₁)
    (h₂ : Dressed a₁ id₁ a' id') : Dressed a id a' id' := by
  induction h₁ with
  | refl => exact h₂
  | more h _ ih => exact .more h (ih h₂)

end Dressed

namespace Arena

theorem not_isShared_wrap (a : Arena) (id : NodeId) (nullable : Bool) :
    ¬ (a.push { kind := .allOf [id], nullable }).2.isShared ⟨a.size⟩ := by
  rw [isShared_eq (n := { kind := .allOf [id], nullable }) (by simp [get?_push])]
  simp [SchemaNode.isShared]

/-- The keywords of a node. -/
def keywordsAt (a : Arena) (id : NodeId) : Keywords := ((a.get? id).map (·.keywords)).getD {}

/-- Constraints become keywords of this very node. -/
def mark (patterns : PatternCheck) (a : Arena) (id : NodeId) (member : String)
    (constraints : List Constraint) : NodeId × Arena × List DiagnosticEvent :=
  let (keywords, events) := (a.keywordsAt id).applyAll patterns member constraints
  (id, a.modify id ({ · with keywords }), events)

/-- Constraints become keywords of a node, or of one around it if it must stay as it is. -/
theorem annotate_eq (patterns : PatternCheck) (a : Arena) (id : NodeId) (member : String)
    (constraints : List Constraint) : a.annotate patterns id member constraints =
      if constraints.isEmpty then (id, a, [])
      else if a.isShared id then (a.wrap id).2.mark patterns (a.wrap id).1 member constraints
      else a.mark patterns id member constraints := by
  unfold annotate
  cases a.isShared id <;> rfl

/-- Applying constraints decorates a node. -/
theorem annotate_dressed (patterns : PatternCheck) (a : Arena) (id : NodeId) (member : String)
    (constraints : List Constraint) :
    Dressed a id (a.annotate patterns id member constraints).2.1
      (a.annotate patterns id member constraints).1 := by
  rw [annotate_eq]
  by_cases hc : constraints.isEmpty
  · rw [if_pos hc]
    exact .refl _ _
  · rw [if_neg hc]
    by_cases hs : a.isShared id
    · rw [if_pos hs]
      exact .more (.wrap hs false) (.one (.mark (not_isShared_wrap a id false) fun n => rfl))
    · rw [if_neg hs]
      exact .one (.mark hs fun n => rfl)

/-- Constraints on a node that is not shared become its keywords. -/
theorem annotate_own {a : Arena} {id : NodeId} {n : SchemaNode} (hn : a.get? id = some n)
    (own : ¬ n.isShared) (patterns : PatternCheck) (member : String)
    (constraints : List Constraint) :
    (a.annotate patterns id member constraints).1 = id ∧
      (a.annotate patterns id member constraints).2.1.get? id =
        some { n with keywords := (n.keywords.applyAll patterns member constraints).1 } := by
  have unshared : ¬ a.isShared id := isShared_eq hn ▸ own
  unfold annotate
  cases constraints with
  | nil => exact ⟨rfl, hn⟩
  | cons c rest => simp [unshared, get?_modify, hn]

/-- Admitting null, and taking the flag off, decorates a node. -/
theorem applyNull_dressed (a : Arena) (encoding : NullEncoding) (id : NodeId) (nullable : Bool) :
    Dressed a id (a.applyNull encoding id nullable).2 (a.applyNull encoding id nullable).1 := by
  cases nullable with
  | false =>
    simp only [applyNull, clearNullFlag]
    by_cases hs : a.isShared id
    · simp only [hs, if_true]
      exact .refl _ _
    · simp only [hs]
      exact .one (.mark hs fun n => rfl)
  | true =>
    simp only [applyNull, if_true, admitNull]
    cases encoding with
    | flag =>
      by_cases hs : a.isShared id
      · simp only [hs, if_true]
        exact .one (.wrap hs true)
      · simp only [hs]
        exact .one (.mark hs fun n => rfl)
    | union =>
      cases hu : a.alternatives? id with
      | none => simpa [nullLeaf, push_fst] using Dressed.one (.unite hu)
      | some ids =>
        simp only
        by_cases hn : ids.any a.isNull
        · rw [if_pos hn]
          exact .refl _ _
        · rw [if_neg hn]
          exact .one (.extend hu (by simpa using hn))

end Arena

/-! ### What decorating keeps -/

/-- `P` holds of the nodes that decorating adds, and of a node after it if it does before. -/
structure Decorable (P : SchemaNode → Prop) : Prop where
  mark : ∀ n n' : SchemaNode, n.SameBody n' → P n → P n'
  wrap : ∀ id nullable, P { kind := .allOf [id], nullable }
  null : P { kind := .null }
  union : ∀ id id', P { kind := .anyOf [id, id'] }
  extend : ∀ n id, P n → P (Arena.addAlternative n id)

namespace Arena

theorem All.dressed {P : SchemaNode → Prop} (hP : Decorable P) {a a' : Arena} {id id' : NodeId}
    (h : Dressed a id a' id') (ha : a.All P) : a'.All P := by
  induction h with
  | refl => exact ha
  | more h _ ih =>
    refine ih ?_
    cases h with
    | mark _ body => exact ha.modify fun n => hP.mark n _ (body n)
    | wrap _ nullable => exact ha.push (hP.wrap _ nullable)
    | unite _ => exact (ha.push hP.null).push (hP.union _ _)
    | extend _ _ => exact (ha.push hP.null).modify fun n => hP.extend n _

theorem alternatives?_eq_some {a : Arena} {id : NodeId} {ids : List NodeId}
    (h : a.alternatives? id = some ids) :
    ∃ n, a.get? id = some n ∧ (n.kind = .anyOf ids ∨ n.kind = .oneOf ids) := by
  simp only [alternatives?, Option.bind_eq_some_iff] at h
  obtain ⟨n, hn, h⟩ := h
  refine ⟨n, hn, ?_⟩
  cases hk : n.kind <;> simp_all

theorem not_isShared_of_alternatives? {a : Arena} {id : NodeId} {ids : List NodeId}
    (h : a.alternatives? id = some ids) : ¬ a.isShared id := by
  obtain ⟨n, hn, hk⟩ := alternatives?_eq_some h
  rw [isShared_eq hn]
  rcases hk with hk | hk <;> simp [SchemaNode.isShared, hk]

/-- The node was added after `a₀`, or is a stand-in that stays as it is. -/
def Apart (a₀ a : Arena) (id : NodeId) : Prop := a₀.size ≤ id.index ∨ a.isShared id

theorem keeps_modify {a₀ a : Arena} {id : NodeId} (h : a₀.Keeps a) (hid : a₀.size ≤ id.index)
    (f : SchemaNode → SchemaNode) : a₀.Keeps (a.modify id f) := by
  intro j n hn
  have hne : j ≠ id := fun e => by have := lt_size_of_get? hn; subst e; omega
  rw [get?_modify, if_neg hne, h hn]

theorem Apart.le_of_not_isShared {a₀ a : Arena} {id : NodeId} (h : a₀.Apart a id)
    (hs : ¬ a.isShared id) : a₀.size ≤ id.index := h.resolve_right hs

/-- Decorating a node that is apart from an earlier arena leaves that arena as it was, and the node
to use from then on is apart from it, too. -/
theorem Keeps.dressed {a₀ a a' : Arena} {id id' : NodeId} (h : Dressed a id a' id')
    (ha : a₀.Keeps a) (hid : a₀.Apart a id) : a₀.Keeps a' ∧ a₀.Apart a' id' := by
  induction h with
  | refl => exact ⟨ha, hid⟩
  | @more a a₁ a' id id₁ id' h _ ih =>
    have hle := ha.size_le
    suffices a₀.Keeps a₁ ∧ a₀.Apart a₁ id₁ from ih this.1 this.2
    cases h with
    | mark hs _ =>
      have hnew := hid.le_of_not_isShared hs
      exact ⟨keeps_modify ha hnew _, .inl hnew⟩
    | wrap _ _ => exact ⟨ha.trans (keeps_push _ _), .inl hle⟩
    | unite _ =>
      exact ⟨(ha.trans (keeps_push _ _)).trans (keeps_push _ _), .inl (Nat.le_succ_of_le hle)⟩
    | extend hu _ =>
      have hnew := hid.le_of_not_isShared (not_isShared_of_alternatives? hu)
      exact ⟨keeps_modify (ha.trans (keeps_push _ _)) hnew _, .inl hnew⟩

theorem size_dressed {a a' : Arena} {id id' : NodeId} (h : Dressed a id a' id') :
    a.size ≤ a'.size := by
  induction h with
  | refl => exact Nat.le_refl _
  | more h _ ih =>
    refine Nat.le_trans ?_ ih
    cases h with
    | mark _ _ => exact Nat.le_of_eq (size_modify ..).symm
    | wrap _ _ => rw [size_push]; exact Nat.le_succ _
    | unite _ => simp only [size_push]; omega
    | extend _ _ => rw [size_modify, size_push]; exact Nat.le_succ _

/-- Decorating neither changes nor adds a stand-in. -/
theorem get?_of_dressed_isShared {a a' : Arena} {id id' : NodeId} (h : Dressed a id a' id')
    {j : NodeId} {n : SchemaNode} (hn : a'.get? j = some n) (shared : n.isShared) :
    a.get? j = some n := by
  -- a node that is added is none
  have push : ∀ {a : Arena} {m : SchemaNode}, ¬ m.isShared →
      (a.push m).2.get? j = some n → a.get? j = some n := by
    intro a m hm h
    rw [get?_push] at h
    split at h
    · cases h; exact absurd shared hm
    · exact h
  -- and a node that is changed was none
  have modify : ∀ {a : Arena} {id : NodeId} {f : SchemaNode → SchemaNode},
      (∀ m, a.get? id = some m → (f m).isShared → False) →
      (a.modify id f).get? j = some n → a.get? j = some n := by
    intro a id f hf h
    rw [get?_modify] at h
    split at h
    · obtain ⟨m, hm, rfl⟩ := Option.map_eq_some_iff.1 h
      exact (hf m hm shared).elim
    · exact h
  induction h with
  | refl => exact hn
  | more h _ ih =>
    have hn₁ := ih hn
    cases h with
    | @mark f unshared body =>
      refine modify (fun m hm hs => unshared ?_) hn₁
      rw [body m] at hs
      exact isShared_iff.2 ⟨m, hm, hs⟩
    | wrap _ _ => exact push (by simp [SchemaNode.isShared]) hn₁
    | unite _ =>
      exact push (by simp [SchemaNode.isShared]) (push (by simp [SchemaNode.isShared]) hn₁)
    | extend union _ =>
      refine push (by simp [SchemaNode.isShared]) (modify (fun m hm hs => ?_) hn₁)
      obtain ⟨m', hm', hk⟩ := alternatives?_eq_some union
      obtain rfl : m' = m := Option.some.inj ((keeps_push _ _ hm').symm.trans hm)
      rcases hk with hk | hk <;> simp [addAlternative, hk, SchemaNode.isShared] at hs

/-- Decorating a node changes no other node. -/
theorem get?_dressed_of_ne {a a' : Arena} {id id' : NodeId} (h : Dressed a id a' id') {j : NodeId}
    {n : SchemaNode} (hne : j ≠ id) (hn : a.get? j = some n) : a'.get? j = some n := by
  induction h with
  | refl => exact hn
  | @more a a₁ a' id id₁ id' h _ ih =>
    have inside := lt_size_of_get? hn
    -- a node that is added around `id` is not `j`
    have new : ∀ {k}, a.size ≤ k → j ≠ ⟨k⟩ := fun hk e => by subst e; exact absurd inside (by simpa)
    cases h with
    | mark _ _ => exact ih hne (by rw [get?_modify, if_neg hne, hn])
    | wrap _ _ => exact ih (new (Nat.le_refl _)) (keeps_push _ _ hn)
    | unite _ => exact ih (new (Nat.le_succ _)) (keeps_push _ _ (keeps_push _ _ hn))
    | extend _ _ => exact ih hne (by rw [get?_modify, if_neg hne, keeps_push _ _ hn])

/-- Decorating a node changes none that was added before it. -/
theorem get?_dressed_below {a a' : Arena} {id id' : NodeId} (h : Dressed a id a' id') {j : NodeId}
    {n : SchemaNode} (hj : j.index < id.index) (hn : a.get? j = some n) : a'.get? j = some n :=
  get?_dressed_of_ne h (fun e => Nat.lt_irrefl _ (e ▸ hj)) hn

/-- A node after decorating has the properties and the identifier that it had before, or is new and
has none. -/
theorem origin_of_dressed {a a' : Arena} {id id' : NodeId} (h : Dressed a id a' id') {j : NodeId}
    {n : SchemaNode} (hn : a'.get? j = some n) :
    (∃ m, a.get? j = some m ∧ m.properties = n.properties ∧ m.identifier? = n.identifier?) ∨
      n.identifier? = none := by
  -- a node that is added
  have push : ∀ {a : Arena} {l m : SchemaNode}, l.identifier? = none →
      (a.push l).2.get? j = some m → a.get? j = some m ∨ m.identifier? = none := by
    intro a l m hl h
    rw [get?_push] at h
    split at h
    · cases h; exact .inr hl
    · exact .inl h
  -- a node that is changed
  have modify : ∀ {a : Arena} {id : NodeId} {f : SchemaNode → SchemaNode} {m : SchemaNode},
      (∀ n, (f n).properties = n.properties ∧ (f n).identifier? = n.identifier?) →
      (a.modify id f).get? j = some m →
      ∃ l, a.get? j = some l ∧ l.properties = m.properties ∧ l.identifier? = m.identifier? := by
    intro a id f m hf h
    rw [get?_modify] at h
    split at h
    · next e =>
      obtain ⟨l, hl, rfl⟩ := Option.map_eq_some_iff.1 h
      exact ⟨l, e ▸ hl, (hf l).1.symm, (hf l).2.symm⟩
    · exact ⟨m, h, rfl, rfl⟩
  induction h with
  | refl => exact .inl ⟨n, hn, rfl, rfl⟩
  | more h _ ih =>
    rcases ih hn with ⟨m, hm, properties, identifier⟩ | none
    · rw [← properties, ← identifier]
      cases h with
      | mark _ body => exact .inl (modify (fun n => by rw [body n]; exact ⟨rfl, rfl⟩) hm)
      | wrap _ _ => exact (push rfl hm).imp_left fun h => ⟨m, h, rfl, rfl⟩
      | unite _ =>
        rcases push rfl hm with hm | none
        · exact (push rfl hm).imp_left fun h => ⟨m, h, rfl, rfl⟩
        · exact .inr none
      | extend _ _ =>
        have same : ∀ (n : SchemaNode) (c : NodeId),
            (addAlternative n c).properties = n.properties ∧
              (addAlternative n c).identifier? = n.identifier? := fun n c => by
          unfold addAlternative
          split <;> exact ⟨rfl, rfl⟩
        obtain ⟨l, hl, hlp, hli⟩ := modify (fun n => same n _) hm
        rw [← hlp, ← hli]
        exact (push rfl hl).imp_left fun h => ⟨l, h, rfl, rfl⟩
    · exact .inr none

/-- The node is there and stands for itself. -/
def Own (a : Arena) (id : NodeId) : Prop := ∃ n, a.get? id = some n ∧ ¬ n.isShared

theorem Own.not_isShared {a : Arena} {id : NodeId} (h : a.Own id) : ¬ a.isShared id := by
  obtain ⟨n, hn, hs⟩ := h
  rwa [isShared_eq hn]

/-- A new node is its own. -/
theorem own_push (a : Arena) {n : SchemaNode} (h : ¬ n.isShared) : (a.push n).2.Own ⟨a.size⟩ :=
  ⟨n, by simp [get?_push], h⟩

/-- Decorating a node that stands for itself gives one that does. -/
theorem Own.dressed {a a' : Arena} {id id' : NodeId} (own : a.Own id)
    (h : Dressed a id a' id') : a'.Own id' := by
  induction h with
  | refl => exact own
  | @more a a₁ a' id id₁ id' h _ ih =>
    refine ih ?_
    obtain ⟨n, hn, hs⟩ := own
    cases h with
    | @mark f _ body =>
      refine ⟨f n, by simp [get?_modify, hn], ?_⟩
      rw [body n]
      exact hs
    | wrap shared _ => exact absurd (isShared_eq hn ▸ shared) hs
    | unite _ =>
      refine ⟨{ kind := .anyOf [id, ⟨a.size⟩] }, ?_, by simp [SchemaNode.isShared]⟩
      rw [get?_push, if_pos (size_push _ _).symm]
    | @extend ids union _ =>
      obtain ⟨m, hm, hk⟩ := alternatives?_eq_some union
      have hm' := keeps_push a { kind := .null } hm
      refine ⟨addAlternative m ⟨a.size⟩, by simp [get?_modify, hm'], ?_⟩
      rcases hk with hk | hk <;> simp [addAlternative, hk, SchemaNode.isShared]

end Arena

end TypeSchema
