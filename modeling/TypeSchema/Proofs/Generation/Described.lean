import TypeSchema.Proofs.Meaning.Agreement

/-!
# Generation — every node describes its type

Without constraints a generation changes an arena in three ways only: it adds a node, it marks one,
and it adds null beside one.  All three keep an arena `Plain`: children come before their parents,
no node has bounds, and every union has null among its alternatives, so null is never added to a
union that is there.

In every state of such a generation a placeholder that names a component is there for the type that
the component is noted with, and a recorded component describes its type (`Traversal.Sound`).  The
node that a generation gives describes the type it was asked for (`nodeFor_built`), if no
placeholder is without a component.
-/

namespace TypeSchema

open Build

/-! ### Plain arenas -/

/-- A placeholder names a component. -/
def SchemaNode.Named (n : SchemaNode) : Prop :=
  ∀ p, n.kind = .placeholder p → p.identifier?.isSome

instance (n : SchemaNode) : Decidable n.Named :=
  match h : n.kind with
  | .placeholder p => decidable_of_iff p.identifier?.isSome (by simp [SchemaNode.Named, h])
  | .primitive _ | .null | .anyOf _ | .oneOf _ | .allOf _ | .reference _ =>
    .isTrue (by simp [SchemaNode.Named, h])

namespace Arena

/-- A readable arena whose unions all have null among their alternatives. -/
structure Plain (a : Arena) : Prop extends a.Readable where
  unions : ∀ id ids, a.alternatives? id = some ids → ids.any a.isNull

/-- A null node stays one in a larger arena. -/
theorem Extends.isNull {a a' : Arena} (h : a.Extends a') {id : NodeId} (hn : a.isNull id) :
    a'.isNull id := by
  simp only [Arena.isNull, Option.any_eq_true] at *
  obtain ⟨n, hn, hnull⟩ := hn
  obtain ⟨n', hn', hlike⟩ := h hn
  refine ⟨n', hn', ?_⟩
  simpa [SchemaNode.isNull, hlike.kind_eq] using hnull

/-- Whether a node is shared is the same in a larger arena. -/
theorem Extends.isShared {a a' : Arena} (h : a.Extends a') {id : NodeId} {n : SchemaNode}
    (hn : a.get? id = some n) : a'.isShared id = n.isShared := by
  obtain ⟨n', hn', hlike⟩ := h hn
  rw [isShared_eq hn']
  simp [SchemaNode.isShared, hlike.kind_eq]

theorem Extends.size_le {a a' : Arena} (h : a.Extends a') : a.size ≤ a'.size := by
  refine Nat.le_of_not_lt fun hlt => ?_
  obtain ⟨n, hn⟩ : ∃ n, a.get? ⟨a'.size⟩ = some n := exists_get? hlt
  obtain ⟨n', hn', -⟩ := h hn
  exact Nat.lt_irrefl _ (lt_size_of_get? hn')

theorem Extends.named {a a' : Arena} (h : a.Extends a') (named : a'.All SchemaNode.Named) :
    a.All SchemaNode.Named := by
  intro id n hn p hp
  obtain ⟨n', hn', hlike⟩ := h hn
  exact named id n' hn' p (hlike.kind_eq.trans hp)

/-- The alternatives of a node depend on its kind alone. -/
theorem alternatives?_congr {a a' : Arena} {id id' : NodeId} {n n' : SchemaNode}
    (h : a.get? id = some n) (h' : a'.get? id' = some n') (kind : n'.kind = n.kind) :
    a'.alternatives? id' = a.alternatives? id := by
  simp only [alternatives?, h, h', Option.bind_some, kind]

theorem plain_empty : Plain {} := by
  have none : ∀ id, get? {} id = none := fun id => by simp [get?]
  refine ⟨⟨fun id n h => ?_, fun id n h => ?_⟩, fun id ids h => ?_⟩
  · rw [none] at h; cases h
  · rw [none] at h; cases h
  · simp [alternatives?, none] at h

/-- A node without keywords keeps an arena plain, if its children are there and a union has null. -/
theorem Plain.push {a : Arena} (h : a.Plain) {n : SchemaNode} (bare : n.keywords = {})
    (children : ∀ c ∈ n.children, c.index < a.size)
    (union : ∀ ids, n.kind = .anyOf ids ∨ n.kind = .oneOf ids → ids.any a.isNull) :
    (a.push n).2.Plain := by
  refine ⟨⟨fun id m hm c hc => ?_, h.bare.push bare⟩, fun id ids hids => ?_⟩
  · rw [get?_push] at hm
    split at hm
    · next hid => cases hm; exact hid ▸ children c hc
    · exact h.ranked id m hm c hc
  · obtain ⟨m, hm, hkind⟩ := alternatives?_eq_some hids
    have hnull : ids.any a.isNull := by
      rw [get?_push] at hm
      split at hm
      · cases hm; exact union ids hkind
      · refine h.unions id ids ?_
        rw [alternatives?, hm]
        rcases hkind with hk | hk <;> simp [hk]
    obtain ⟨c, hc, hcn⟩ := List.any_eq_true.1 hnull
    exact List.any_eq_true.2 ⟨c, hc, (extends_push a n).isNull hcn⟩

/-- Marking nodes keeps an arena plain. -/
theorem Plain.of_extends {a a' : Arena} (h : a.Plain) (extends_ : a.Extends a')
    (size : a'.size = a.size) : a'.Plain := by
  -- no nodes are added, so each one was there
  have origin : ∀ {id n'}, a'.get? id = some n' → ∃ n, a.get? id = some n ∧ n.Alike n' := by
    intro id n' hn'
    obtain ⟨n, hn⟩ := exists_get? (size ▸ lt_size_of_get? hn')
    obtain ⟨n'', hn'', hlike⟩ := extends_ hn
    obtain rfl : n'' = n' := Option.some.inj (hn''.symm.trans hn')
    exact ⟨n, hn, hlike⟩
  refine ⟨⟨fun id n' hn' c hc => ?_, fun id n' hn' => ?_⟩, fun id ids hids => ?_⟩
  · obtain ⟨n, hn, hlike⟩ := origin hn'
    exact h.ranked id n hn c (hlike.children_eq ▸ hc)
  · obtain ⟨n, hn, hlike⟩ := origin hn'
    exact hlike.keywords_eq.trans (h.bare id n hn)
  · obtain ⟨n', hn', -⟩ := alternatives?_eq_some hids
    obtain ⟨n, hn, hlike⟩ := origin hn'
    rw [alternatives?_congr hn hn' hlike.kind_eq] at hids
    obtain ⟨c, hc, hcn⟩ := List.any_eq_true.1 (h.unions id ids hids)
    exact List.any_eq_true.2 ⟨c, hc, extends_.isNull hcn⟩

end Arena

/-! ### The nodes that are added -/

theorem SchemaNode.IsPlain.not_isShared {n : SchemaNode} (h : n.IsPlain) : ¬ n.isShared := by
  obtain ⟨⟨p, hp⟩, -⟩ := h
  simp [isShared, hp]

/-- Leaf nodes have neither keywords nor children. -/
theorem leafNode?_childless {gen : Generator} {d : TypeDescriptor} {cls : Classification}
    {n : SchemaNode} {events : List DiagnosticEvent} (h : leafNode? gen d cls = some (n, events)) :
    n.keywords = {} ∧ n.children = [] := by
  obtain ⟨_, _, _, _, rfl, -⟩ := SchemaNode.isPartless_leafNode? h
  exact ⟨rfl, rfl⟩

/-- A collection's node has no keywords, and its children are the nodes of its parts. -/
theorem collectionNode?_children {cls : Classification} {ids : List NodeId} {n : SchemaNode}
    (h : cls.collectionNode? ids = some n) : n.keywords = {} ∧ ∀ c ∈ n.children, c ∈ ids := by
  unfold Classification.collectionNode? at h
  split at h
  case h_1 element items => cases h; exact ⟨rfl, fun c hc => hc⟩
  case h_2 value values => cases h; exact ⟨rfl, fun c hc => hc⟩
  case h_3 key value keyNode valueNode =>
    cases h
    refine ⟨rfl, fun c hc => ?_⟩
    simp only [SchemaNode.children, List.mem_append, List.mem_map] at hc
    rcases hc with ((⟨e, he, rfl⟩ | hc) | hc) | hc
    · have hlist := SortedMap.mem_of_mem_ofList he
      simp only [List.mem_cons, List.not_mem_nil, or_false] at hlist
      rcases hlist with rfl | rfl
      · exact List.mem_cons_self
      · exact List.mem_cons_of_mem _ List.mem_cons_self
    · cases hc
    · cases hc
    · cases hc
  case h_4 => cases h

/-- An object's node has no keywords, and its children are the nodes of its fields. -/
theorem objectNode_children (gen : Generator) (o : ObjectShape) (identifier : String)
    (ids : List NodeId) : (objectNode gen o identifier ids).keywords = {} ∧
      ∀ c ∈ (objectNode gen o identifier ids).children, c ∈ ids := by
  simp only [objectNode]
  refine ⟨by rw [SchemaNode.withFields_eq]; rfl, fun c hc => ?_⟩
  simp only [SchemaNode.children, List.mem_append, List.mem_map] at hc
  rcases hc with ((⟨e, he, rfl⟩ | hc) | hc) | hc
  · rw [SchemaNode.properties_withFields] at he
    obtain ⟨q, hq, rfl⟩ := List.mem_map.1 (SortedMap.mem_of_mem_ofList he)
    exact (List.of_mem_zip hq).2
  · rw [SchemaNode.withFields_eq] at hc; cases hc
  · rw [SchemaNode.withFields_eq] at hc; cases hc
  · rw [SchemaNode.withFields_eq] at hc; cases hc

/-! ### Steps on the arena -/

/-- The node stays the one to use, and nodes are marked only. -/
structure Marked (t : Traversal) (id : NodeId) (t' : Traversal) (id' : NodeId) : Prop where
  node : id' = id
  rest : t' = { t with arena := t'.arena }
  extends_ : t.arena.Extends t'.arena
  size : t'.arena.size = t.arena.size

namespace Marked

theorem refl (t : Traversal) (id : NodeId) : Marked t id t id := ⟨rfl, rfl, .refl _, rfl⟩

theorem trans {t t₁ t' : Traversal} {id id₁ id' : NodeId} (h : Marked t id t₁ id₁)
    (h' : Marked t₁ id₁ t' id') : Marked t id t' id' := by
  refine ⟨h'.node.trans h.node, ?_, h.extends_.trans h'.extends_, h'.size.trans h.size⟩
  rw [h'.rest, h.rest]

theorem modify (t : Traversal) (id : NodeId) {j : NodeId} {f : SchemaNode → SchemaNode}
    (hf : ∀ n : SchemaNode, n.Alike (f n)) :
    Marked t id { t with arena := t.arena.modify j f } id := by
  refine ⟨rfl, rfl, fun k n hn => ?_, Arena.size_modify _ _ _⟩
  simp only [Arena.Shows, Arena.get?_modify]
  by_cases hk : k = j
  · subst hk
    exact ⟨f n, by simp [hn], hf n⟩
  · exact ⟨n, by simp [hk, hn], .refl n⟩

end Marked

/-- Without constraints there is nothing to do. -/
theorem annotate_unconstrained {patterns : PatternCheck} {id id' : NodeId} {member : String}
    {t t' : Traversal} (h : annotate patterns id member [] t = .ok id' t') : id' = id ∧ t' = t := by
  cases h
  simp

/-- An example is a mark on a node. -/
theorem setExample_marked {id : NodeId} {v : Json} {t t' : Traversal}
    (h : setExample id v t = .ok () t') : Marked t id t' id := by
  cases h
  by_cases hs : t.arena.isShared id
  · simp only [hs, if_true]
    exact .refl _ _
  · simp only [hs]
    exact .modify t id fun n => rfl

/-- A type that does not admit null has at most a mark taken off its node. -/
theorem clearNull_marked {encoding : NullEncoding} {id id' : NodeId} {t t' : Traversal}
    (h : applyNull encoding id false t = .ok id' t') : Marked t id t' id' := by
  cases h
  simp only [Arena.clearNullFlag]
  by_cases hs : t.arena.isShared id
  · simp only [hs, if_true]
    exact .refl _ _
  · simp only [hs]
    exact .modify t id fun n => rfl

/-- Without constraints a node is marked at most. -/
theorem decorate_marked {gen : Generator} {d : TypeDescriptor} {field? : Option Field}
    {id id' : NodeId} {t t' : Traversal} (free : d.constraints = [])
    (freeField : ∀ f, field? = some f → f.constraints = [])
    (h : decorate gen d field? id t = .ok id' t') : Marked t id t' id' := by
  obtain ⟨id₁, t₁, ha, h⟩ := bind_ok_iff.1 h
  obtain ⟨id₂, t₂, hf, hn⟩ := bind_ok_iff.1 h
  rw [free] at ha
  obtain ⟨rfl, rfl⟩ := annotate_unconstrained ha
  have field : Marked t₁ id₁ t₂ id₂ := by
    cases field? with
    | none => cases hf; exact .refl _ _
    | some f =>
      obtain ⟨id₃, t₃, hfa, hr⟩ := bind_ok_iff.1 hf
      rw [freeField f rfl] at hfa
      obtain ⟨rfl, rfl⟩ := annotate_unconstrained hfa
      cases he : f.example? with
      | none => simp only [he] at hr; cases hr; exact .refl _ _
      | some v =>
        simp only [he] at hr
        obtain ⟨_, t₄, hs, hp⟩ := bind_ok_iff.1 hr
        cases hp
        exact setExample_marked hs
  exact field.trans (clearNull_marked hn)

/-- Null is added beside a node, unless the node is a union, which has null already. -/
theorem wrapNull_plain {gen : Generator} (faithful : gen.Faithful) {d : TypeDescriptor}
    {id id' : NodeId} {t t' : Traversal} (free : d.constraints = []) (plain : t.arena.Plain)
    (h : wrapNull gen d id t = .ok id' t') :
    (∃ ids, t.arena.alternatives? id = some ids ∧ id' = id ∧ t' = t) ∨
      (id' = ⟨t.arena.size + 1⟩ ∧
        t' = (t.pushed { kind := .null }).pushed { kind := .anyOf [id, ⟨t.arena.size⟩] }) := by
  obtain ⟨id₁, t₁, ha, hn⟩ := bind_ok_iff.1 h
  rw [free] at ha
  obtain ⟨rfl, rfl⟩ := annotate_unconstrained ha
  have hunion : gen.config.nullEncoding = .union := by
    rw [Config.nullEncoding, faithful.version]; rfl
  obtain ⟨hid, ht⟩ : id' = (t₁.arena.applyNull .union id₁ true).1 ∧
      t' = { t₁ with arena := (t₁.arena.applyNull .union id₁ true).2 } := by
    rw [hunion] at hn
    cases hn
    exact ⟨rfl, rfl⟩
  simp only [Arena.applyNull, if_true, Arena.admitNull] at hid ht
  cases hu : t₁.arena.alternatives? id₁ with
  | some ids =>
    simp only [hu, plain.unions id₁ ids hu, if_true] at hid ht
    exact .inl ⟨ids, rfl, hid, ht⟩
  | none =>
    simp only [hu, Arena.nullLeaf, Arena.push_fst, Arena.size_push] at hid ht
    exact .inr ⟨hid, ht⟩

/-! ### Sound states -/

/-- The component is noted for the type. -/
def Traversal.Notes (t : Traversal) (i : String) (ty : TypeId) : Prop :=
  t.components.get? i = some ty

/-- What holds in every state of a generation without constraints. -/
structure Traversal.Sound (gen : Generator) (g : TypeGraph) (t : Traversal) : Prop where
  linked : t.Linked g
  coherent : t.registry.Coherent
  plain : t.arena.Plain
  /-- Components are noted for objects. -/
  objects : ∀ i ty, t.Notes i ty → ∃ o, g.HasClass ty (.object (some o))
  /-- A placeholder that names a component is there for the type of the component. -/
  cuts : ∀ ty reason id, t.guard.placeholders.lookup (ty, reason) = some id →
    ∃ n p, t.arena.get? id = some n ∧ n.kind = .placeholder p ∧
      ∀ i, p.identifier? = some i → t.Notes i ty
  /-- A recorded component describes its type. -/
  expanded : t.arena.All SchemaNode.Named → ∀ i node ty, t.identifiers.get? i = some node →
    t.Notes i ty → t.arena.Describes gen g t.Notes node ty ∧ ¬ t.arena.isShared node

/-- What building the node `id` of a type from `t` to `t'` comes to. -/
structure Built (gen : Generator) (g : TypeGraph) (ty : TypeId) (t : Traversal) (id : NodeId)
    (t' : Traversal) : Prop where
  sound : t'.Sound gen g
  extends_ : t.arena.Extends t'.arena
  bound : id.index < t'.arena.size
  describes : t'.arena.All SchemaNode.Named → t'.arena.Describes gen g t'.Notes id ty

namespace Traversal.Sound

variable {gen : Generator} {g : TypeGraph} {t t' : Traversal}

/-- A change that goes on from the arena, keeps what is noted, and adds neither placeholders nor
components. -/
theorem of_extends (h : t.Sound gen g) (linked : t'.Linked g) (coherent : t'.registry.Coherent)
    (plain : t'.arena.Plain) (extends_ : t.arena.Extends t'.arena)
    (notes : ∀ i ty, t.Notes i ty → t'.Notes i ty)
    (objects : ∀ i ty, t'.Notes i ty → ∃ o, g.HasClass ty (.object (some o)))
    (placeholders : t'.guard.placeholders = t.guard.placeholders)
    (identifiers : t'.identifiers = t.identifiers) : t'.Sound gen g := by
  refine ⟨linked, coherent, plain, objects, fun ty reason id hl => ?_,
    fun named i node ty hi hty => ?_⟩
  · rw [placeholders] at hl
    obtain ⟨n, p, hn, hp, hnoted⟩ := h.cuts ty reason id hl
    obtain ⟨n', hn', hlike⟩ := extends_ hn
    exact ⟨n', p, hn', hlike.kind_eq.trans hp, fun i hi => notes i ty (hnoted i hi)⟩
  · rw [identifiers] at hi
    obtain ⟨ty₀, hty₀⟩ := SortedMap.contains_iff.1
      (h.linked.expanded i (SortedMap.contains_iff.2 ⟨node, hi⟩))
    obtain rfl : ty₀ = ty := Option.some.inj ((notes i ty₀ hty₀).symm.trans hty)
    obtain ⟨hdesc, hown⟩ := h.expanded (extends_.named named) i node ty₀ hi hty₀
    obtain ⟨n, hn⟩ := hdesc.exists_get?
    rw [Arena.isShared_eq hn] at hown
    exact ⟨hdesc.mono notes extends_, by rwa [extends_.isShared hn]⟩

theorem begin {w : Workspace} (coherent : w.registry.Coherent) :
    (w.begin gen).Sound gen g := by
  refine ⟨linked_begin g w gen, coherent, Arena.plain_empty, fun i ty h => ?_,
    fun ty reason id h => ?_, fun _ i node ty h => ?_⟩
  · simp [Notes, Workspace.begin, EmptyCollection.emptyCollection] at h
  · simp [Workspace.begin, Guard.new] at h
  · simp [Workspace.begin, EmptyCollection.emptyCollection] at h

/-- A change of anything that is not spoken of. -/
theorem of_eq (h : t.Sound gen g) (ha : t'.arena = t.arena) (hr : t'.registry = t.registry)
    (hc : t'.components = t.components) (hi : t'.identifiers = t.identifiers)
    (hp : t'.guard.placeholders = t.guard.placeholders) : t'.Sound gen g :=
  h.of_extends (h.linked.of_eq ha hr hc hi) (hr ▸ h.coherent) (ha ▸ h.plain) (ha ▸ .refl _)
    (fun _ _ hn => by rwa [Notes, hc]) (fun i ty hn => h.objects i ty (by rwa [Notes, hc] at hn))
    hp hi

theorem reported (h : t.Sound gen g) (events : List DiagnosticEvent) :
    (t.reported events).Sound gen g := h.of_eq rfl rfl rfl rfl rfl

theorem opened (h : t.Sound gen g) (ty : TypeId) : (t.opened ty).Sound gen g :=
  h.of_eq rfl rfl rfl rfl rfl

theorem closed (h : t.Sound gen g) : t.closed.Sound gen g := h.of_eq rfl rfl rfl rfl rfl

/-- A new node keeps a traversal sound, under the conditions of `Plain.push`. -/
theorem pushed (h : t.Sound gen g) {n : SchemaNode} (linked : (t.pushed n).Linked g)
    (bare : n.keywords = {}) (children : ∀ c ∈ n.children, c.index < t.arena.size)
    (union : ∀ ids, n.kind = .anyOf ids ∨ n.kind = .oneOf ids → ids.any t.arena.isNull) :
    (t.pushed n).Sound gen g :=
  h.of_extends linked h.coherent (h.plain.push bare children union) (Arena.extends_push _ _)
    (fun _ _ hn => hn) h.objects rfl rfl

/-- A node of a primitive type may be added if its children are there. -/
theorem pushed_primitive (h : t.Sound gen g) {n : SchemaNode} (plain : n.IsPlain)
    (bare : n.keywords = {}) (children : ∀ c ∈ n.children, c.index < t.arena.size) :
    (t.pushed n).Sound gen g := by
  refine h.pushed (h.linked.pushed_plain plain) bare children fun ids hk => ?_
  obtain ⟨⟨p, hp⟩, -⟩ := plain
  rw [hp] at hk
  rcases hk with hk | hk <;> cases hk

/-- A mark keeps a traversal sound. -/
theorem marked (h : t.Sound gen g) {id id' : NodeId} (m : Marked t id t' id')
    (linked : t'.Linked g) : t'.Sound gen g := by
  refine h.of_extends linked ?_ (h.plain.of_extends m.extends_ m.size) m.extends_ ?_ ?_ ?_ ?_
  · rw [m.rest]; exact h.coherent
  · rw [m.rest]; exact fun _ _ hn => hn
  · rw [m.rest]; exact h.objects
  · rw [m.rest]
  · rw [m.rest]

/-- A type that gets its identifier is the one that the component is noted with. -/
theorem claimed (h : t.Sound gen g) (distinct : g.Distinct) {ty : TypeId} {o : ObjectShape}
    (known : g.HasClass ty (.object (some o))) {id : String} {r : Registry}
    {events : List DiagnosticEvent} (ha : t.registry.assign g ty = .ok (id, r, events)) :
    (t.claimed ty id r events).Sound gen g ∧ (t.claimed ty id r events).Notes id ty := by
  obtain ⟨hgrows, hheld⟩ := Registry.assign_spec ha
  have notes : ∀ i ty', (t.claimed ty id r events).Notes i ty' ↔
      t.Notes i ty' ∨ i = id ∧ ty' = ty := by
    intro i ty'
    simp only [Notes, Traversal.claimed, SortedMap.get?_insertNew]
    by_cases hi : i = id
    · subst hi
      cases hold : t.components.get? i with
      | none => simp [eq_comm]
      | some ty₀ =>
        -- two types with different identities never hold one identifier
        have heq : ty₀ = ty := (h.coherent.assign ha).type_eq distinct
          ((h.linked.held i ty₀ hold).mono hgrows) hheld
        simp [heq, eq_comm]
    · simp [hi]
  refine ⟨h.of_extends (h.linked.claimed ha) (h.coherent.assign ha) h.plain (.refl _)
    (fun i ty' hn => (notes i ty').2 (.inl hn)) (fun i ty' hn => ?_) rfl rfl,
    (notes id ty).2 (.inr ⟨rfl, rfl⟩)⟩
  rcases (notes i ty').1 hn with hn | ⟨-, rfl⟩
  · exact h.objects i ty' hn
  · exact ⟨o, known⟩

/-- A type gets a placeholder that names a component noted for the type, or none. -/
theorem cut (h : t.Sound gen g) {v : Visit} (hv : ∀ i, v.identifier? = some i → t.Notes i v.type)
    (reason : CutReason) : (t.cut v reason).2.Sound gen g ∧
      t.arena.Extends (t.cut v reason).2.arena ∧
      ∃ n p, (t.cut v reason).2.arena.get? (t.cut v reason).1 = some n ∧
        n.kind = .placeholder p ∧
          ∀ i, p.identifier? = some i → (t.cut v reason).2.Notes i v.type := by
  have linked : (t.cut v reason).2.Linked g :=
    h.linked.cut (fun i hi => SortedMap.contains_iff.2 ⟨_, hv i hi⟩) reason
  revert linked
  unfold Traversal.cut Guard.placeholder
  cases hl : t.guard.placeholders.lookup (v.type, reason) with
  | some id => exact fun _ => ⟨h.of_eq rfl rfl rfl rfl rfl, .refl _, h.cuts _ _ _ hl⟩
  | none =>
    intro linked
    have extends_ := Arena.extends_push t.arena
      { kind := .placeholder ⟨v.typeName, v.identifier?, reason⟩ }
    have hnew := Arena.get?_push t.arena
      { kind := .placeholder ⟨v.typeName, v.identifier?, reason⟩ } ⟨t.arena.size⟩
    rw [if_pos rfl] at hnew
    refine ⟨⟨linked, h.coherent, ?_, h.objects, fun ty' reason' id hl' => ?_,
      fun named i node ty hi hty => ?_⟩, extends_, _, _, hnew, rfl, hv⟩
    · exact h.plain.push rfl (fun _ hc => (List.not_mem_nil hc).elim) (by simp)
    · rw [List.lookup_cons] at hl'
      split at hl'
      · next heq =>
        cases hl'
        obtain ⟨rfl, rfl⟩ := Prod.mk.inj (eq_of_beq heq)
        exact ⟨_, _, hnew, rfl, hv⟩
      · obtain ⟨n, p, hn, hp, hi⟩ := h.cuts ty' reason' id hl'
        exact ⟨n, p, Arena.keeps_push _ _ hn, hp, hi⟩
    · obtain ⟨hdesc, hown⟩ := h.expanded (extends_.named named) i node ty hi hty
      obtain ⟨n, hn⟩ := hdesc.exists_get?
      rw [Arena.isShared_eq hn] at hown
      exact ⟨hdesc.mono (fun _ _ h => h) extends_, by rwa [extends_.isShared hn]⟩

/-- A component is recorded that describes the type it is noted with. -/
theorem recorded (h : t.Sound gen g) {id : String} {ty : TypeId} (noted : t.Notes id ty)
    (node : NodeId) (describes : t.arena.All SchemaNode.Named →
      t.arena.Describes gen g t.Notes node ty ∧ ¬ t.arena.isShared node) :
    (t.recorded id node).Sound gen g := by
  refine ⟨h.linked.recorded (SortedMap.contains_iff.2 ⟨ty, noted⟩) node, h.coherent, h.plain,
    h.objects, h.cuts, fun named i node' ty' hi hty => ?_⟩
  simp only [Traversal.recorded, SortedMap.get?_insertNew] at hi
  split at hi
  · next heq =>
    subst heq
    cases hold : t.identifiers.get? i with
    | some node₀ =>
      rw [hold] at hi
      cases hi
      exact h.expanded named i node₀ ty' hold hty
    | none =>
      rw [hold] at hi
      cases hi
      obtain rfl : ty = ty' := Option.some.inj (noted.symm.trans hty)
      exact describes named
  · exact h.expanded named i node' ty' hi hty

end Traversal.Sound

/-! ### Expansions -/

section

variable {gen : Generator} {g : TypeGraph} {descend : Descent} {ty : TypeId} {d : TypeDescriptor}
  {cls : Classification} {field? : Option Field} {t t' : Traversal} {id : NodeId}

/-- What is known of a part: it keeps the stack and, unless its field has constraints, it is
built. -/
def Descent.Builds (gen : Generator) (g : TypeGraph) (descend : Descent) : Prop :=
  ∀ ty field? t id t', descend ty field? t = .ok id t' → t.Returns t' ∧
    ((∀ f, field? = some f → f.constraints = []) → t.Sound gen g → Built gen g ty t id t')

/-- The parts are built one after the other. -/
structure BuiltAll (gen : Generator) (g : TypeGraph) (parts : List (TypeId × Option Field))
    (t : Traversal) (ids : List NodeId) (t' : Traversal) : Prop where
  returns : t.Returns t'
  sound : t'.Sound gen g
  extends_ : t.arena.Extends t'.arena
  length : ids.length = parts.length
  bound : ∀ c ∈ ids, c.index < t'.arena.size
  describes : t'.arena.All SchemaNode.Named →
    ∀ p ∈ parts.zip ids, t'.arena.Describes gen g t'.Notes p.2 p.1.1

/-- Parts that are built one after the other are all there at the end. -/
theorem Visits.built (step : descend.Builds gen g) {parts : List (TypeId × Option Field)}
    {ids : List NodeId} (h : Visits descend parts t ids t')
    (free : ∀ part ∈ parts, ∀ f, part.2 = some f → f.constraints = []) (ht : t.Sound gen g) :
    BuiltAll gen g parts t ids t' := by
  induction h with
  | nil t =>
    exact ⟨.refl t, ht, .refl _, rfl, fun _ h => (List.not_mem_nil h).elim,
      fun _ _ h => (List.not_mem_nil h).elim⟩
  | @cons ty field? rest t t₁ t₂ id ids head tail ih =>
    obtain ⟨hret, hbuilt⟩ := step ty field? t id t₁ head
    have first := hbuilt (free _ List.mem_cons_self) ht
    have more := ih (fun part hp => free part (List.mem_cons_of_mem _ hp)) first.sound
    refine ⟨hret.trans more.returns, more.sound, first.extends_.trans more.extends_,
      congrArg (· + 1) more.length, fun c hc => ?_, fun named p hp => ?_⟩
    · rcases List.mem_cons.1 hc with rfl | hc
      · exact Nat.lt_of_lt_of_le first.bound more.extends_.size_le
      · exact more.bound c hc
    · rcases List.mem_cons.1 hp with rfl | hp
      · exact (first.describes (more.extends_.named named)).mono
          (fun _ _ hn => more.returns.1.components hn) more.extends_
      · exact more.describes named p hp

/-- The fields of an object have no constraints. -/
theorem TypeGraph.Unconstrained.parts (plain : g.Unconstrained) (known : g.HasClass ty cls)
    {limit? : Option Nat} {part : TypeId × Option Field} (hp : part ∈ cls.parts limit?) (f : Field)
    (hf : part.2 = some f) : f.constraints = [] := by
  cases cls with
  | object o? =>
    cases o? with
    | none => cases hp
    | some o =>
      obtain ⟨f', hf', rfl⟩ := List.mem_map.1 hp
      cases hf
      obtain ⟨desc, hdesc, hcls⟩ := known
      refine plain.fields ty o ?_ f (mem_of_mem_sortedFields (mem_of_mem_keptFields hf'))
      rw [TypeGraph.shape?, hdesc, Option.map_some, TypeGraph.shape_of_classify_eq_object hcls]
  | sequence element => obtain rfl := List.mem_singleton.1 hp; cases hf
  | map value => obtain rfl := List.mem_singleton.1 hp; cases hf
  | pair key value =>
    simp only [Classification.parts, List.mem_cons, List.not_mem_nil, or_false] at hp
    rcases hp with rfl | rfl <;> cases hf
  | _ => cases hp

/-- A type whose expansion is cut off is described if the placeholder names a component. -/
theorem Traversal.Sound.built_cut (ht : t.Sound gen g) {v : Visit}
    (hv : ∀ i, v.identifier? = some i → t.Notes i v.type) (reason : CutReason) :
    Built gen g v.type t (t.cut v reason).1 (t.cut v reason).2 := by
  obtain ⟨hsound, hext, n, p, hn, hp, hnoted⟩ := ht.cut hv reason
  refine ⟨hsound, hext, Arena.lt_size_of_get? hn, fun named => ?_⟩
  obtain ⟨i, hi⟩ := Option.isSome_iff_exists.1 (named _ n hn p hp)
  obtain ⟨o, known⟩ := hsound.objects i v.type (hnoted i hi)
  exact .pointed known hn (.inr ⟨p, hp, hi⟩) (hnoted i hi)

/-- The newest node is the one that was added. -/
theorem Traversal.shows_pushed (t : Traversal) (n : SchemaNode) :
    (t.pushed n).arena.Shows ⟨t.arena.size⟩ n :=
  ⟨n, by simp [Traversal.pushed, Arena.get?_push], .refl n⟩

/-- An object is built from its fields: the node is added twice, recorded and to be used. -/
theorem BuiltAll.object {o : ObjectShape} {identifier : String} {ids : List NodeId}
    (all : BuiltAll gen g ((Classification.object (some o)).parts gen.config.memberThreshold?) t
      ids t') (hclass : g.HasClass ty (.object (some o))) (noted : t'.Notes identifier ty) :
    Built gen g ty t ⟨t'.arena.size + 1⟩
      (((t'.pushed (objectNode gen o identifier ids)).recorded identifier
        ⟨t'.arena.size⟩).pushed (objectNode gen o identifier ids)).closed := by
  obtain ⟨bare, children⟩ := objectNode_children gen o identifier ids
  have hplain := SchemaNode.isPlain_objectNode gen o identifier ids
  -- the node describes the type wherever it is added
  have describes : ∀ {a : Arena} {id : NodeId}, t'.arena.Extends a → a.All SchemaNode.Named →
      a.Shows id (objectNode gen o identifier ids) → a.Describes gen g t'.Notes id ty :=
    fun hext named hshows => .object hclass all.length hshows fun p hp =>
      (all.describes (hext.named named) p hp).mono (fun _ _ hn => hn) hext
  have hext₁ := Arena.extends_push t'.arena (objectNode gen o identifier ids)
  have component := all.sound.pushed_primitive hplain bare fun c hc => all.bound c (children c hc)
  have recorded := component.recorded noted ⟨t'.arena.size⟩ fun named => by
    refine ⟨describes hext₁ named (t'.shows_pushed _), ?_⟩
    rw [Arena.isShared_eq (n := objectNode gen o identifier ids)
      (by simp [Traversal.pushed, Arena.get?_push])]
    exact hplain.not_isShared
  have hext₂ := Arena.extends_push (t'.pushed (objectNode gen o identifier ids)).arena
    (objectNode gen o identifier ids)
  have copy := recorded.pushed_primitive hplain bare fun c hc =>
    Nat.lt_of_lt_of_le (all.bound c (children c hc)) hext₁.size_le
  refine ⟨copy.closed, all.extends_.trans (hext₁.trans hext₂), ?_, fun named => ?_⟩
  · simp [Traversal.closed, Traversal.pushed, Traversal.recorded]
  · refine describes (hext₁.trans hext₂) named ⟨_, ?_, .refl _⟩
    simp [Traversal.pushed, Traversal.recorded, Traversal.closed, Arena.get?_push]

/-- An expansion builds a node that its type describes, given that building its parts does. -/
theorem Expansion.built (plain : g.Unconstrained) (distinct : g.Distinct)
    (step : descend.Builds gen g) (known : g.describe? ty = some d)
    (hcls : g.classify d.shape = cls) (h : Expansion gen g descend ty d cls t id t')
    (ht : t.Sound gen g) : Built gen g ty t id t' := by
  have hclass : g.HasClass ty cls := ⟨d, known, hcls⟩
  have free : ∀ part ∈ cls.parts gen.config.memberThreshold?, ∀ f, part.2 = some f →
      f.constraints = [] := fun part hp => plain.parts hclass hp
  cases h with
  | @leaf _ _ n events node =>
    obtain ⟨bare, childless⟩ := leafNode?_childless node
    refine ⟨(ht.reported events).pushed_primitive (SchemaNode.isPlain_leafNode? node) bare
      (by simp [childless]), Arena.extends_push _ _, by simp [Traversal.pushed, Traversal.reported],
      fun _ => .leaf known (hcls ▸ node) ((t.reported events).shows_pushed n)⟩
  | @cut _ _ reason collection _ =>
    exact ht.built_cut (v := ⟨ty, d.name, none⟩) (fun i hi => by cases hi) reason
  | @collection _ _ t₁ ids n opens parts node _ =>
    have all := parts.built step free (ht.opened ty)
    obtain ⟨bare, children⟩ := collectionNode?_children node
    have hpush := all.sound.pushed_primitive (SchemaNode.isPlain_collectionNode? node) bare
      fun c hc => all.bound c (children c hc)
    have hext := Arena.extends_push t₁.arena n
    refine ⟨hpush.closed, all.extends_.trans hext, by simp [Traversal.closed, Traversal.pushed],
      fun named => ?_⟩
    exact .collection hclass node (t₁.shows_pushed n) fun p hp =>
      (all.describes (hext.named named) p hp).mono (fun _ _ hn => hn) hext
  | @reference o _ identifier r events target assigned _ =>
    obtain ⟨hsound, noted⟩ := ht.claimed distinct hclass assigned
    have points : SchemaNode.PointsTo
        { kind := .reference ⟨d.name, identifier, target⟩ } identifier := .inl ⟨_, rfl, rfl⟩
    have linked : ((t.claimed ty identifier r events).pushed
        { kind := .reference ⟨d.name, identifier, target⟩ }).Linked g := by
      refine hsound.linked.pushed (by simp [SchemaNode.AtomicLiterals]) fun i hp => ?_
      rcases hp with ⟨r', hr, rfl⟩ | ⟨p, hp, -⟩
      · cases hr
        exact SortedMap.contains_iff.2 ⟨ty, noted⟩
      · cases hp
    have hpush := hsound.pushed linked rfl (fun _ hc => (List.not_mem_nil hc).elim) (by simp)
    refine ⟨hpush, Arena.extends_push _ _, by simp [Traversal.pushed, Traversal.claimed],
      fun _ => .pointed hclass (n := { kind := .reference ⟨d.name, identifier, target⟩ })
        (by simp [Traversal.pushed, Traversal.claimed, Arena.get?_push]) points noted⟩
  | @cutObject o _ identifier r events reason assigned _ _ =>
    -- noting the component once more changes nothing
    obtain ⟨hsound, noted⟩ := ht.claimed distinct hclass assigned
    have hcut := hsound.built_cut (v := ⟨ty, d.name, identifier⟩)
      (fun i hi => by cases hi; exact noted) reason
    exact ⟨hcut.sound, hcut.extends_, hcut.bound, hcut.describes⟩
  | @object o _ t₁ identifier r events ids assigned _ _ parts _ =>
    obtain ⟨hsound, noted⟩ := ht.claimed distinct hclass assigned
    have all := parts.built step free ((hsound.opened ty).reported (objectEvents gen d o))
    have hobject := all.object hclass (all.returns.1.components noted)
    exact ⟨hobject.sound, hobject.extends_, hobject.bound, hobject.describes⟩

/-! ### Steps -/

/-- A faithful generator overrides nothing. -/
theorem lookup?_of_faithful (faithful : gen.Faithful) (names : List String) :
    gen.overrides.lookup? names = none := by
  rw [faithful.overrides]
  simp [Overrides.lookup?]

/-- A node with alternatives describes a type that admits null. -/
theorem Arena.Describes.nullable_of_union {a : Arena} {R : String → TypeId → Prop}
    (h : a.Describes gen g R id ty) {ids : List NodeId} (union : a.alternatives? id = some ids) :
    ∃ inner, g.HasClass ty (.nullable inner) := by
  obtain ⟨n, hn, hkind⟩ := Arena.alternatives?_eq_some union
  have primitive : ∀ {m : SchemaNode}, a.Shows id m → (∃ p, m.kind = .primitive p) → False := by
    rintro m ⟨n', hn', hlike⟩ ⟨p, hp⟩
    obtain rfl : n' = n := Option.some.inj (hn'.symm.trans hn)
    rw [hlike.kind_eq, hp] at hkind
    rcases hkind with hk | hk <;> cases hk
  cases h with
  | leaf _ node shows => exact (primitive shows (SchemaNode.isPlain_leafNode? node).1).elim
  | collection _ node shows _ =>
    exact (primitive shows (SchemaNode.isPlain_collectionNode? node).1).elim
  | object _ _ shows _ => exact (primitive shows (SchemaNode.isPlain_objectNode _ _ _ _).1).elim
  | pointed _ node points _ =>
    obtain rfl := Option.some.inj (hn.symm.trans node)
    rcases points with ⟨r, hr, -⟩ | ⟨p, hp, -⟩
    · rw [hr] at hkind; rcases hkind with hk | hk <;> cases hk
    · rw [hp] at hkind; rcases hkind with hk | hk <;> cases hk
  | nullable known _ _ _ => exact ⟨_, known⟩
  | again known _ _ => exact ⟨_, known⟩

/-- A wrapper is described by a union of null and what describes the inner type. -/
theorem Built.withNull {inner : TypeId} (first : Built gen g inner t id t')
    (hclass : g.HasClass ty (.nullable inner)) :
    Built gen g ty t ⟨t'.arena.size + 1⟩
      ((t'.pushed { kind := .null }).pushed { kind := .anyOf [id, ⟨t'.arena.size⟩] }) := by
  have hext := Arena.extends_push t'.arena { kind := .null }
  have hsize : (t'.pushed { kind := .null }).arena.size = t'.arena.size + 1 := Arena.size_push _ _
  have hnode : (t'.pushed { kind := .null }).arena.get? ⟨t'.arena.size⟩ =
      some { kind := .null } := by simp [Traversal.pushed, Arena.get?_push]
  have hnull : (t'.pushed { kind := .null }).Sound gen g := by
    refine first.sound.pushed ?_ rfl (fun _ hc => (List.not_mem_nil hc).elim) (by simp)
    exact first.sound.linked.pushed (by simp [SchemaNode.AtomicLiterals]) fun i hp => by
      simp [SchemaNode.PointsTo] at hp
  have hext' := hext.trans (Arena.extends_push (t'.pushed { kind := .null }).arena
    { kind := .anyOf [id, ⟨t'.arena.size⟩] })
  refine ⟨hnull.pushed ?_ rfl (fun c hc => ?_) fun ids hk => ?_, first.extends_.trans hext', ?_,
    fun named => ?_⟩
  · exact hnull.linked.pushed (by simp [SchemaNode.AtomicLiterals]) fun i hp => by
      simp [SchemaNode.PointsTo] at hp
  · have hc : c ∈ [id, ⟨t'.arena.size⟩] := hc
    simp only [List.mem_cons, List.not_mem_nil, or_false] at hc
    rcases hc with rfl | rfl
    · exact hsize ▸ Nat.lt_succ_of_lt first.bound
    · exact hsize ▸ Nat.lt_succ_self _
  · have hids : ids = [id, ⟨t'.arena.size⟩] := by
      rcases hk with hk | hk
      · exact (NodeKind.anyOf.inj hk).symm
      · cases hk
    rw [hids]
    simp [Arena.isNull, hnode, SchemaNode.isNull]
  · simp [Traversal.pushed]
  · refine .nullable hclass ⟨_, ?_, .refl _⟩ (Arena.extends_push _ _ hnode)
      ((first.describes (hext'.named named)).mono (fun _ _ hn => hn) hext')
    simp [Traversal.pushed, Arena.get?_push]

/-- A step builds a node that its type describes, given that the descent does. -/
theorem Step.built (faithful : gen.Faithful) (plain : g.Unconstrained) (distinct : g.Distinct)
    (step : descend.Builds gen g) (known : g.describe? ty = some d)
    (h : Step gen g descend ty field? d t id t')
    (freeField : ∀ f, field? = some f → f.constraints = []) (ht : t.Sound gen g) :
    Built gen g ty t id t' := by
  have free := plain.types ty d known
  cases h with
  | @wrapped inner _ t₁ _ id₁ _ hcls part finish =>
    have hclass : g.HasClass ty (.nullable inner) := ⟨d, known, hcls⟩
    obtain ⟨-, hbuilt⟩ := step _ _ _ _ _ part
    have first := hbuilt freeField ht
    rcases wrapNull_plain faithful free first.sound.plain finish with
      ⟨ids, union, rfl, rfl⟩ | ⟨rfl, rfl⟩
    · -- the inner type admits null already
      refine ⟨first.sound, first.extends_, first.bound, fun named => ?_⟩
      have hdesc := first.describes named
      obtain ⟨innermost, twice⟩ := hdesc.nullable_of_union union
      exact .again hclass twice hdesc
    · exact first.withNull hclass
  | overridden lookup _ _ =>
    rw [lookup?_of_faithful faithful] at lookup
    cases lookup
  | @expanded _ t₀ t₁ _ id₁ _ _ overrideless expansion finish =>
    obtain ⟨ht₀, harena⟩ : t₀.Sound gen g ∧ t₀.arena = t.arena := by
      rcases overrideFor_ok overrideless with ⟨o, ho, -⟩ | ⟨-, rfl | rfl⟩
      · cases ho
      · exact ⟨ht, rfl⟩
      · exact ⟨ht.of_eq rfl rfl rfl rfl rfl, rfl⟩
    have first := expansion.built plain distinct step known rfl ht₀
    have mark := decorate_marked free freeField finish
    have linked := first.sound.linked.decorated (decorate_decorated finish)
    refine ⟨first.sound.marked mark linked, harena ▸ first.extends_.trans mark.extends_, ?_,
      fun named => ?_⟩
    · rw [mark.node, mark.size]; exact first.bound
    · rw [mark.node]
      refine (first.describes (mark.extends_.named named)).mono (fun i ty' hn => ?_) mark.extends_
      rw [mark.rest]
      exact hn

/-- **What a generation gives for a type describes the type.** -/
theorem nodeFor_built (faithful : gen.Faithful) (plain : g.Unconstrained) (distinct : g.Distinct)
    {levels : Nat} (h : nodeFor gen g levels ty field? t = .ok id t')
    (free : ∀ f, field? = some f → f.constraints = []) (ht : t.Sound gen g) :
    Built gen g ty t id t' := by
  have both := nodeFor_induction
    (P := fun ty field? t id t' => t.Returns t' ∧
      ((∀ f, field? = some f → f.constraints = []) → t.Sound gen g → Built gen g ty t id t'))
    (fun descend step ty field? d t id t' known hs =>
      ⟨hs.returns fun ty field? t id t' h => (step ty field? t id t' h).1,
        hs.built faithful plain distinct step known⟩)
    levels ty field? t id t' h
  exact both.2 free ht

end

/-! ### Roots stand for themselves -/

/-- A root is never cut off, and no component is recorded before it, so its node is its own. -/
theorem nodeFor_own {gen : Generator} {g : TypeGraph} {levels : Nat} {ty : TypeId}
    {field? : Option Field} {t t' : Traversal} {id : NodeId}
    (h : nodeFor gen g levels ty field? t = .ok id t') (idle : t.guard.active = [])
    (room : 0 < t.guard.maxDepth) (fresh : ∀ i, t.identifiers.get? i = none) :
    t'.arena.Own id := by
  refine nodeFor_induction (P := fun _ _ t id t' => t.guard.active = [] → 0 < t.guard.maxDepth →
    (∀ i, t.identifiers.get? i = none) → t'.arena.Own id) ?_ levels ty field? t id t' h idle room
    fresh
  intro descend step ty field? d t id t' _ hs idle room fresh
  cases hs with
  | wrapped _ part finish =>
    exact (step _ _ _ _ _ part idle room fresh).dressed (wrapNull_decorated finish).dressed
  | @overridden o _ _ _ _ _ finish =>
    exact (Arena.own_push _ (SchemaNode.isPlain_override o).not_isShared).dressed
      (decorate_decorated finish).dressed
  | @expanded _ t₀ t₁ _ id₁ _ _ overrideless expansion finish =>
    obtain ⟨hguard, hidentifiers⟩ : t₀.guard = t.guard ∧ t₀.identifiers = t.identifiers := by
      rcases overrideFor_ok overrideless with ⟨o, ho, -⟩ | ⟨-, rfl | rfl⟩
      · cases ho
      · exact ⟨rfl, rfl⟩
      · exact ⟨rfl, rfl⟩
    -- nothing is open yet
    have uncut : ∀ {reason}, t₀.guard.cutReason? ty ≠ some reason := by
      intro reason
      simp [hguard, Guard.cutReason?, Guard.isExpanding, Guard.depth, idle, Nat.ne_of_gt room]
    refine Arena.Own.dressed ?_ (decorate_decorated finish).dressed
    generalize g.classify d.shape = cls at expansion
    cases expansion with
    | leaf node => exact Arena.own_push _ (SchemaNode.isPlain_leafNode? node).not_isShared
    | cut _ closed => exact absurd closed uncut
    | collection _ _ node _ =>
      exact Arena.own_push _ (SchemaNode.isPlain_collectionNode? node).not_isShared
    | reference _ expanded => rw [hidentifiers, fresh] at expanded; cases expanded
    | cutObject _ _ closed => exact absurd closed uncut
    | @object o _ t₁ identifier r events ids _ _ _ _ _ =>
      have hown := Arena.own_push (t₁.pushed (objectNode gen o identifier ids)).arena
        (SchemaNode.isPlain_objectNode gen o identifier ids).not_isShared
      rw [Traversal.pushed, Arena.size_push] at hown
      exact hown

/-! ### Generations -/

/-- What is known of a schema that was generated for a type. -/
structure GeneratedSchema.Describes (gen : Generator) (g : TypeGraph) (s : GeneratedSchema)
    (ty : TypeId) : Prop where
  readable : s.arena.Readable
  own : ¬ s.arena.isShared s.root
  root : s.arena.Describes gen g (fun i ty => s.components.get? i = some ty) s.root ty
  expanded : ∀ i node ty', s.identifiers.get? i = some node → s.components.get? i = some ty' →
    s.arena.Describes gen g (fun i ty => s.components.get? i = some ty) node ty' ∧
      ¬ s.arena.isShared node

/-- **A generated schema describes its type, and its components describe theirs.** -/
theorem generate_describes {gen : Generator} (faithful : gen.Faithful) {g : TypeGraph}
    (plain : g.Unconstrained) (distinct : g.Distinct) {root : TypeId} {w w' : Workspace}
    {s : GeneratedSchema} (h : generate gen g root w = .ok s w')
    (coherent : w.registry.Coherent) :
    w'.registry.Coherent ∧ (s.arena.All SchemaNode.Named → s.Describes gen g root) := by
  obtain ⟨t, hn, hs, rfl⟩ := generate_ok h
  have built := nodeFor_built faithful plain distinct hn (fun _ hf => by cases hf)
    (.begin coherent)
  have own := (nodeFor_own hn rfl (Nat.le_max_left 1 _) fun _ => rfl).not_isShared
  refine ⟨built.sound.coherent, fun named => ?_⟩
  rw [hs] at named ⊢
  exact ⟨built.sound.plain.toReadable, own, built.describes named, built.sound.expanded named⟩

end TypeSchema
