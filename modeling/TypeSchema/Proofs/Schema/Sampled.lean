import TypeSchema.Proofs.Schema.Grounded

/-!
# Schema — samples in a growing arena

A sample depends on the nodes up to its own only (`Arena.Grounded.sample_below`), so it stays what
it is when nodes are added and later ones are decorated (`Arena.Grounded.sample_kept`).

Admitting null does not change a sample, in either encoding (`Arena.Grounded.sample_admitNull`): a
flag is not looked at, and of a union the alternative that is not null counts, which was there
before.

Constraints and examples change it.  `a.SampledLike id a' id'` says of two nodes, each in its arena,
that their samples are the same and stay the same when both are decorated alike
(`Arena.SampledLike.annotate`).
-/

namespace TypeSchema

namespace SchemaNode

/-- A sample depends on which of the nodes that the node leads to are null. -/
theorem sample_congr_isNull {n : SchemaNode} {isNull isNull' : NodeId → Bool}
    {child : NodeId → Json} (h : ∀ c ∈ n.edges, isNull c = isNull' c) :
    n.sample isNull child = n.sample isNull' child := by
  have first : ∀ ids, n.kind = .anyOf ids ∨ n.kind = .oneOf ids →
      ids.find? (fun id => !isNull id) = ids.find? (fun id => !isNull' id) := by
    intro ids hk
    rw [← List.head?_filter, ← List.head?_filter]
    refine congrArg _ (List.filter_congr fun c hc => ?_)
    rw [h c (mem_edges_of_mem_children ?_)]
    rcases hk with hk | hk <;> simp [children, hk, hc]
  unfold sample
  split
  · rfl
  · rfl
  · split
    case h_8 ids hk => rw [first ids (.inl hk)]
    case h_9 ids hk => rw [first ids (.inr hk)]
    all_goals rfl

end SchemaNode

namespace Arena

variable {a a' a₁ : Arena} {id id' : NodeId}

/-! ### Samples that stay -/

/-- **A sample depends on the nodes up to its own.** -/
theorem Grounded.sample_below (h : a.Grounded) (h₁ : a₁.Grounded) {k : Nat} (inside : k ≤ a.size)
    (agree : ∀ c : NodeId, c.index < k → a₁.get? c = a.get? c) {c : NodeId} (hc : c.index < k) :
    a₁.sample c = a.sample c := by
  -- by the number of the node, as its edges lead back
  suffices ∀ i, ∀ c : NodeId, c.index = i → c.index < k → a₁.sample c = a.sample c from
    this _ c rfl hc
  intro i
  induction i using Nat.strongRecOn with
  | _ i ih =>
    rintro c rfl hc
    obtain ⟨n, hn⟩ : ∃ n, a.get? c = some n := exists_get? (Nat.lt_of_lt_of_le hc inside)
    rw [h.sample_eq hn, h₁.sample_eq ((agree c hc).trans hn)]
    have below : ∀ e ∈ n.edges, e.index < c.index := h.backward c n hn
    rw [SchemaNode.sample_congr fun e he =>
      ih e.index (below e he) e rfl (Nat.lt_trans (below e he) hc)]
    refine SchemaNode.sample_congr_isNull fun e he => ?_
    simp only [isNull, agree e (Nat.lt_trans (below e he) hc)]

/-- A node is sampled in one arena as in the other if both agree on all that it leads to. -/
theorem Grounded.resample_below (h : a.Grounded) (h₁ : a₁.Grounded) {k : Nat} (inside : k ≤ a.size)
    (agree : ∀ c : NodeId, c.index < k → a₁.get? c = a.get? c) {n : SchemaNode}
    (below : ∀ c ∈ n.edges, c.index < k) :
    n.sample a₁.isNull a₁.sample = n.sample a.isNull a.sample := by
  rw [SchemaNode.sample_congr fun c hc => h.sample_below h₁ inside agree (below c hc)]
  refine SchemaNode.sample_congr_isNull fun c hc => ?_
  simp only [isNull, agree c (below c hc)]

/-- The samples of an arena stay what they are in all that keeps its nodes. -/
theorem Grounded.sample_kept {b : Arena} (h : a.Grounded) (h₁ : a₁.Grounded) (kept : b.Keeps a)
    (kept₁ : b.Keeps a₁) {c : NodeId} (hc : c.index < b.size) : a₁.sample c = a.sample c := by
  refine h.sample_below h₁ kept.size_le (fun e he => ?_) hc
  obtain ⟨n, hn⟩ : ∃ n, b.get? e = some n := exists_get? he
  rw [kept hn, kept₁ hn]

theorem Grounded.sample_push (h : a.Grounded) {n : SchemaNode} (h₁ : (a.push n).2.Grounded)
    {c : NodeId} (hc : c.index < a.size) : (a.push n).2.sample c = a.sample c :=
  h.sample_kept h₁ (.refl a) (keeps_push a n) hc

theorem isNull_push (a : Arena) (n : SchemaNode) {c : NodeId} (hc : c.index < a.size) :
    (a.push n).2.isNull c = a.isNull c := by
  simp only [isNull, get?_push, if_neg (Nat.ne_of_lt hc)]

theorem Grounded.wrap (h : a.Grounded) (shared : a.isShared id) : (a.wrap id).2.Grounded :=
  (h.dressed (.inr shared) (.one (.wrap shared false))).1

/-- A wrapper has the sample of what it wraps. -/
theorem Grounded.sample_wrap (h : a.Grounded) (shared : a.isShared id) :
    (a.wrap id).2.sample id = a.sample id := by
  have outer : a.Outermost id := .inr shared
  exact h.sample_push (h.wrap shared) outer.lt_size

/-- Marking a node changes nothing for the nodes that it leads to. -/
theorem Grounded.resample_modify (h : a.Grounded) {n m : SchemaNode} (hn : a.get? id = some n)
    {f : SchemaNode → SchemaNode} (body : ∀ n : SchemaNode, n.SameBody (f n))
    (edges : m.edges = n.edges) :
    m.sample (a.modify id f).isNull (a.modify id f).sample = m.sample a.isNull a.sample := by
  refine h.resample_below (h.mark body) (Nat.le_of_lt (lt_size_of_get? hn)) (fun e he => ?_)
    fun c hc => h.backward id n hn c (edges ▸ hc)
  rw [get?_modify, if_neg fun same => Nat.lt_irrefl _ (same ▸ he)]

/-! ### Admitting null -/

/-- Decorating makes no node null. -/
theorem not_isNull_dressed (h : Dressed a id a' id') (hid : ¬ a.isNull id) : ¬ a'.isNull id' := by
  have last : ∀ {a : Arena} {n : SchemaNode}, n.kind ≠ .null →
      ¬ (a.push n).2.isNull ⟨a.size⟩ := by
    intro a n hn null
    obtain ⟨m, hm, hk⟩ := isNull_iff.1 null
    rw [get?_push_self] at hm
    cases hm
    exact hn hk
  induction h with
  | refl => exact hid
  | @more a a₁ a' id id₁ id' h _ ih =>
    refine ih ?_
    cases h with
    | mark _ body => rwa [isNull_modify body]
    | wrap _ _ => exact last (by simp)
    | unite _ =>
      have := last (a := (a.push { kind := .null }).2) (n := { kind := .anyOf [id, ⟨a.size⟩] })
        (by simp)
      rwa [size_push] at this
    | @extend ids union _ =>
      intro null
      obtain ⟨m, hm, hk⟩ := isNull_iff.1 null
      rw [get?_modify, if_pos rfl] at hm
      obtain ⟨n, hn, hkind⟩ := alternatives?_eq_some union
      rw [keeps_push a _ hn, Option.map_some, Option.some.injEq] at hm
      subst hm
      rcases hkind with hkind | hkind <;> simp [addAlternative, hkind] at hk

/-- **Admitting null changes no sample.** -/
theorem Grounded.sample_admitNull (h : a.Grounded) (outer : a.Outermost id)
    (hid : ¬ a.isNull id) (encoding : NullEncoding) :
    (a.admitNull encoding id).2.sample (a.admitNull encoding id).1 = a.sample id := by
  have inside := outer.lt_size
  have grounded : (a.admitNull encoding id).2.Grounded :=
    (h.dressed outer (a.applyNull_dressed encoding id true)).1
  cases encoding with
  | flag =>
    by_cases shared : a.isShared id
    · -- the sample of a node around one other
      simp only [admitNull, shared, if_true, push_fst] at grounded ⊢
      rw [grounded.sample_eq (get?_push_self a _)]
      exact h.sample_push grounded inside
    · obtain ⟨n, hn⟩ : ∃ n, a.get? id = some n := exists_get? inside
      simp only [admitNull, shared, Bool.false_eq_true, if_false]
      have body : ∀ n : SchemaNode, n.SameBody { n with nullable := true } := fun n => rfl
      have there : (a.modify id ({ · with nullable := true })).get? id =
          some { n with nullable := true } := by
        rw [get?_modify, if_pos rfl, hn, Option.map_some]
      rw [h.sample_eq hn, (h.mark body).sample_eq there]
      exact h.resample_modify hn body (body n).edges_eq
  | union =>
    simp only [admitNull] at grounded ⊢
    cases union : a.alternatives? id with
    | some ids => simp only [h.unions id ids union, if_true]
    | none =>
      simp only [union, nullLeaf] at grounded ⊢
      rw [push_fst a] at grounded ⊢
      have kept := (keeps_push a { kind := .null }).trans
        (keeps_push _ { kind := .anyOf [id, ⟨a.size⟩] })
      have single : ((a.push { kind := .null }).2.push { kind := .anyOf [id, ⟨a.size⟩] }).2.isNull
          id = false := by
        rw [isNull_push _ _ (by rw [size_push]; omega), isNull_push _ _ inside]
        simpa using hid
      rw [push_fst, size_push, grounded.sample_eq (get?_push_push_self a _ _)]
      simp only [SchemaNode.sample, List.find?_cons, single]
      exact h.sample_kept grounded (.refl a) kept inside

/-! ### Decorating alike -/

/-- The two nodes are sampled alike, whatever keywords and example both of them have. -/
structure Resamples (a : Arena) (n : SchemaNode) (a' : Arena) (n' : SchemaNode) : Prop where
  shared : n'.isShared = n.isShared
  keywords : n'.keywords = n.keywords
  example? : n'.example? = n.example?
  sample : ∀ keywords example?,
    { n' with keywords, example? }.sample a'.isNull a'.sample =
      { n with keywords, example? }.sample a.isNull a.sample

/-- The nodes of two arenas are sampled alike, and still are when both are decorated alike. -/
def SampledLike (a : Arena) (id : NodeId) (a' : Arena) (id' : NodeId) : Prop :=
  ∃ n n', a.get? id = some n ∧ a'.get? id' = some n' ∧ a.Resamples n a' n'

namespace SampledLike

theorem isShared_eq (h : a.SampledLike id a' id') : a'.isShared id' = a.isShared id := by
  obtain ⟨n, n', hn, hn', like⟩ := h
  rw [Arena.isShared_eq hn, Arena.isShared_eq hn', like.shared]

/-- Nodes that are sampled alike have the same sample. -/
theorem sample_eq (h : a.SampledLike id a' id') (ground : a.Grounded) (ground' : a'.Grounded) :
    a'.sample id' = a.sample id := by
  obtain ⟨n, n', hn, hn', like⟩ := h
  rw [ground.sample_eq hn, ground'.sample_eq hn']
  calc n'.sample a'.isNull a'.sample
    _ = { n' with keywords := n.keywords, example? := n.example? }.sample a'.isNull a'.sample := by
      rw [← like.keywords, ← like.example?]
    _ = n.sample a.isNull a.sample := like.sample n.keywords n.example?

/-- Marking both nodes alike. -/
theorem modify (h : a.SampledLike id a' id') (ground : a.Grounded) (ground' : a'.Grounded)
    {f f' : SchemaNode → SchemaNode} (body : ∀ n : SchemaNode, n.SameBody (f n))
    (body' : ∀ n : SchemaNode, n.SameBody (f' n))
    (alike : ∀ n n' : SchemaNode, n'.keywords = n.keywords → n'.example? = n.example? →
      (f' n').keywords = (f n).keywords ∧ (f' n').example? = (f n).example?) :
    (a.modify id f).SampledLike id (a'.modify id' f') id' := by
  obtain ⟨n, n', hn, hn', like⟩ := h
  obtain ⟨keywords, example?⟩ := alike n n' like.keywords like.example?
  refine ⟨f n, f' n', by rw [get?_modify, if_pos rfl, hn, Option.map_some],
    by rw [get?_modify, if_pos rfl, hn', Option.map_some], ?_, keywords, example?, ?_⟩
  · rw [body n, body' n']
    exact like.shared
  · intro k e
    -- no flag for null is looked at
    have marked : ∀ {a : Arena} {id : NodeId} {n : SchemaNode} {f : SchemaNode → SchemaNode},
        a.Grounded → a.get? id = some n → (∀ n : SchemaNode, n.SameBody (f n)) →
        { f n with keywords := k, example? := e }.sample (a.modify id f).isNull
          (a.modify id f).sample =
        { n with keywords := k, example? := e }.sample a.isNull a.sample := by
      intro a id n f ground hn body
      rw [body n]
      exact ground.resample_modify (m := { n with
        nullable := (f n).nullable, keywords := k, example? := e }) hn body rfl
    rw [marked ground hn body, marked ground' hn' body']
    exact like.sample k e

/-- A new node around each of them. -/
theorem wrapped (h : a.SampledLike id a' id') (ground : a.Grounded) (ground' : a'.Grounded)
    (shared : a.isShared id) :
    (a.wrap id).2.SampledLike (a.wrap id).1 (a'.wrap id').2 (a'.wrap id').1 := by
  have shared' : a'.isShared id' := h.isShared_eq.trans shared
  have same : (a'.wrap id').2.sample id' = (a.wrap id).2.sample id := by
    rw [ground.sample_wrap shared, ground'.sample_wrap shared']
    exact h.sample_eq ground ground'
  refine ⟨_, _, get?_push_self a _, get?_push_self a' _, rfl, rfl, rfl, fun k e => ?_⟩
  cases e with
  | some v => rfl
  | none => exact same

/-- **The same constraints on both nodes.** -/
theorem annotate (h : a.SampledLike id a' id') (ground : a.Grounded) (ground' : a'.Grounded)
    (patterns : PatternCheck) (member : String) (constraints : List Constraint) :
    (a.annotate patterns id member constraints).2.1.SampledLike
      (a.annotate patterns id member constraints).1
      (a'.annotate patterns id' member constraints).2.1
      (a'.annotate patterns id' member constraints).1 := by
  have mark : ∀ {a a' : Arena} {id id' : NodeId}, a.SampledLike id a' id' → a.Grounded →
      a'.Grounded → (a.mark patterns id member constraints).2.1.SampledLike id
        (a'.mark patterns id' member constraints).2.1 id' := by
    intro a a' id id' h ground ground'
    have same : a'.keywordsAt id' = a.keywordsAt id := by
      obtain ⟨n, n', hn, hn', like⟩ := h
      simp only [keywordsAt, hn, hn', Option.map_some, Option.getD_some, like.keywords]
    simp only [Arena.mark, same]
    exact h.modify ground ground' (fun n => rfl) (fun n => rfl) fun n n' _ he => ⟨rfl, he⟩
  rw [annotate_eq, annotate_eq, h.isShared_eq]
  by_cases hc : constraints.isEmpty
  · rw [if_pos hc, if_pos hc]
    exact h
  · rw [if_neg hc, if_neg hc]
    cases shared : a.isShared id with
    | false => exact mark h ground ground'
    | true =>
      exact mark (h.wrapped ground ground' shared) (ground.wrap shared)
        (ground'.wrap (h.isShared_eq.trans shared))

/-- Taking the flag for null off both nodes. -/
theorem clearNullFlag (h : a.SampledLike id a' id') (ground : a.Grounded) (ground' : a'.Grounded) :
    (a.clearNullFlag id).SampledLike id (a'.clearNullFlag id') id' := by
  unfold Arena.clearNullFlag
  rw [h.isShared_eq]
  split
  · exact h
  · exact h.modify ground ground' (fun n => rfl) (fun n => rfl) fun n n' hk he => ⟨hk, he⟩

end SampledLike

/-! ### Nodes that are added alike -/

theorem sampledLike_placeholder {p p' : Placeholder}
    (hn : a.get? id = some { kind := .placeholder p })
    (hn' : a'.get? id' = some { kind := .placeholder p' }) : a.SampledLike id a' id' := by
  refine ⟨_, _, hn, hn', rfl, rfl, rfl, fun k e => ?_⟩
  cases e <;> rfl

/-- Adding the nodes changes nothing for what they lead to. -/
theorem Resamples.pushed {n n' : SchemaNode} (h : a.Resamples n a' n') (ground : a.Grounded)
    (ground' : a'.Grounded) (pushed : (a.push n).2.Grounded) (pushed' : (a'.push n').2.Grounded) :
    (a.push n).2.Resamples n (a'.push n').2 n' := by
  refine ⟨h.shared, h.keywords, h.example?, fun k e => ?_⟩
  have before : ∀ {a : Arena} {n : SchemaNode}, a.Grounded → (a.push n).2.Grounded →
      { n with keywords := k, example? := e }.sample (a.push n).2.isNull (a.push n).2.sample =
        { n with keywords := k, example? := e }.sample a.isNull a.sample := by
    intro a n ground pushed
    refine ground.resample_below pushed (Nat.le_refl _) (fun c hc => ?_)
      (pushed.backward _ n (get?_push_self a n))
    rw [get?_push, if_neg (Nat.ne_of_lt hc)]
  rw [before ground pushed, before ground' pushed']
  exact h.sample k e

/-- Nodes that are sampled alike are so when they are added. -/
theorem Resamples.push {n n' : SchemaNode} (h : a.Resamples n a' n') (ground : a.Grounded)
    (ground' : a'.Grounded) (pushed : (a.push n).2.Grounded) (pushed' : (a'.push n').2.Grounded) :
    (a.push n).2.SampledLike ⟨a.size⟩ (a'.push n').2 ⟨a'.size⟩ :=
  ⟨n, n', get?_push_self a n, get?_push_self a' n', h.pushed ground ground' pushed pushed'⟩

/-- A node that leads nowhere is sampled alike everywhere. -/
theorem resamples_self {n : SchemaNode} (h : ∀ c, c ∉ n.edges) : a.Resamples n a' n := by
  refine ⟨rfl, rfl, rfl, fun k e => ?_⟩
  have nowhere : ∀ c, c ∉ { n with keywords := k, example? := e }.edges := h
  rw [SchemaNode.sample_congr fun c hc => absurd hc (nowhere c)]
  exact SchemaNode.sample_congr_isNull fun c hc => absurd hc (nowhere c)

/-- Nodes of one type that are the same but for the numbers of their parts. -/
theorem resamples_of_primitive {n n' : SchemaNode} {p : PrimitiveType}
    (kind : n.kind = .primitive p)
    (rest : n' = { n with
      properties := n'.properties, items? := n'.items?, additional? := n'.additional? })
    (properties : n'.properties.mapValues a'.sample = n.properties.mapValues a.sample)
    (items : n'.items?.map a'.sample = n.items?.map a.sample)
    (additional : n'.additional?.map a'.sample = n.additional?.map a.sample) :
    a.Resamples n a' n' := by
  have kind' : n'.kind = .primitive p := by rw [rest, kind]
  refine ⟨by rw [rest]; rfl, by rw [rest], by rw [rest], fun k e => ?_⟩
  have literals : n'.enumValues = n.enumValues := by rw [rest]
  have format : n'.format? = n.format? := by rw [rest]
  have list : n'.items?.toList.map a'.sample = n.items?.toList.map a.sample := by
    rw [← Option.toList_map, ← Option.toList_map, items]
  simp only [SchemaNode.sample, literals, kind, kind', properties, additional, list,
    SchemaNode.sampleText, format]
  cases e with
  | some v => rfl
  | none =>
    cases n.enumValues with
    | cons v rest => rfl
    | nil => cases p <;> rfl

/-- A reference has the sample of its target. -/
theorem resamples_reference {r r' : Reference} (target : a'.sample r'.target = a.sample r.target) :
    a.Resamples { kind := .reference r } a' { kind := .reference r' } := by
  refine ⟨rfl, rfl, rfl, fun k e => ?_⟩
  cases e with
  | some v => rfl
  | none => exact target

end Arena

end TypeSchema
