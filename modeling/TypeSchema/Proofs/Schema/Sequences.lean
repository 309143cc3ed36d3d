import TypeSchema.Proofs.Meaning.Lengths
import TypeSchema.Proofs.Schema.Annotation
import TypeSchema.Proofs.Schema.Nullable

/-!
# Schema — the constraints of a sequence under nullable wrappers

The constraints of a sequence, of a field and of wrappers are put on the node that is in use then.
This is the node of the sequence, unless null is admitted by a union and there is a wrapper around a
wrapper: then it is the union.  `Spread` says which constraints are put where, and `Arena.Spreads`
that they are there.

If the sequence was cut off its node is a placeholder, which carries nothing, or a node around it.
-/

namespace TypeSchema

/-! ### Where constraints are put -/

/-- Which constraints are put on the node of a sequence, and which on the union of it and null if
there is one. -/
structure Spread where
  inner : List Constraint
  outer? : Option (List Constraint) := none

/-- One wrapper more: its constraints are put on the node in use, and then null is admitted. -/
def Spread.wrapped (enc : NullEncoding) (w : TypeDescriptor) (s : Spread) : Spread :=
  match s.outer?, enc with
  | some outer, _ => ⟨s.inner, some (outer ++ w.constraints)⟩
  | none, .flag => ⟨s.inner ++ w.constraints, none⟩
  | none, .union => ⟨s.inner ++ w.constraints, some []⟩

/-- Where the constraints of a sequence, of a field and of wrappers are put. -/
def NullEncoding.spread (enc : NullEncoding) (own : List Constraint)
    (wrappers : List TypeDescriptor) : Spread := wrappers.foldr (Spread.wrapped enc) ⟨own, none⟩

theorem NullEncoding.spread_cons (enc : NullEncoding) (own : List Constraint) (w : TypeDescriptor)
    (wrappers : List TypeDescriptor) :
    enc.spread own (w :: wrappers) = (enc.spread own wrappers).wrapped enc w := rfl

/-- With flags all constraints are put on one node. -/
theorem NullEncoding.spread_flag (own : List Constraint) (wrappers : List TypeDescriptor) :
    flag.spread own wrappers = ⟨own ++ wrappers.reverse.flatMap (·.constraints), none⟩ := by
  induction wrappers with
  | nil => simp [spread]
  | cons w wrappers ih =>
    rw [spread_cons, ih]
    simp [Spread.wrapped]

/-- With unions those of the innermost wrapper are put on the sequence, and those of the others on
the union. -/
theorem NullEncoding.spread_union (own : List Constraint) (wrappers : List TypeDescriptor)
    (innermost : TypeDescriptor) : union.spread own (wrappers ++ [innermost]) =
      ⟨own ++ innermost.constraints, some (wrappers.reverse.flatMap (·.constraints))⟩ := by
  induction wrappers with
  | nil => simp [spread, Spread.wrapped]
  | cons w wrappers ih =>
    rw [List.cons_append, spread_cons, ih]
    simp [Spread.wrapped]

/-! ### Length bounds -/

/-- The value of the last constraint that sets the keyword. -/
def lastSet? (constraints : List Constraint) (keyword : Keyword) : Option keyword.Value :=
  (constraints.filterMap (·.sets? keyword)).getLast?

theorem lastSet?_append (constraints more : List Constraint) (keyword : Keyword) :
    lastSet? (constraints ++ more) keyword =
      (lastSet? more keyword).or (lastSet? constraints keyword) := by
  simp only [lastSet?, List.filterMap_append, List.getLast?_append]

/-- Only patterns are left out. -/
theorem lastEffect?_eq (patterns : PatternCheck) (constraints : List Constraint)
    {keyword : Keyword} (other : keyword ≠ .pattern) :
    lastEffect? patterns constraints keyword = lastSet? constraints keyword := by
  simp only [lastEffect?, lastSet?, Constraint.effect?_eq patterns _ other]

/-- The length bounds that constraints come to: the last ones. -/
def lengthBounds (constraints : List Constraint) : LengthBounds :=
  ⟨lastSet? constraints .minLength, lastSet? constraints .maxLength⟩

/-- Of the bounds of two lists of constraints those of the second count first. -/
theorem lengthBounds_append (constraints more : List Constraint) :
    lengthBounds (constraints ++ more) =
      ⟨(lengthBounds more).min.or (lengthBounds constraints).min,
        (lengthBounds more).max.or (lengthBounds constraints).max⟩ := by
  simp only [lengthBounds, lastSet?_append]
  rfl

/-- The length bounds of the node are those that the constraints come to. -/
def SchemaNode.Carries (n : SchemaNode) (constraints : List Constraint) : Prop :=
  n.lengths = lengthBounds constraints

theorem SchemaNode.carries_nil {n : SchemaNode} (bare : n.keywords = {}) : n.Carries [] := by
  rw [Carries, lengths, bare]
  rfl

/-- More constraints on a node that takes them itself. -/
theorem SchemaNode.Carries.applyAll {n : SchemaNode} {constraints : List Constraint}
    (h : n.Carries constraints) (patterns : PatternCheck) (member : String)
    (more : List Constraint) :
    ({ n with keywords := (n.keywords.applyAll patterns member more).1 } :
      SchemaNode).Carries (constraints ++ more) := by
  have bound : ∀ {keyword}, keyword ≠ .pattern →
      (n.keywords.applyAll patterns member more).1.get? keyword =
        (lastSet? more keyword).or (n.keywords.get? keyword) := fun other => by
    rw [(Keywords.applyAll_settles patterns member n.keywords more).1, settled,
      lastEffect?_eq patterns more other]
  have min : (n.keywords.applyAll patterns member more).1.minLength =
      (lengthBounds more).min.or n.keywords.minLength := @bound .minLength (by decide)
  have max : (n.keywords.applyAll patterns member more).1.maxLength =
      (lengthBounds more).max.or n.keywords.maxLength := @bound .maxLength (by decide)
  rw [Carries, lengthBounds_append, ← h, lengths, min, max]
  rfl

/-- The node is that of a sequence and carries the constraints.  If the sequence was cut off it
stands for it or is around a placeholder that does. -/
inductive Arena.IsSequence (a : Arena) (name : String) :
    Option CutReason → List Constraint → NodeId → Prop where
  | array {id : NodeId} {n : SchemaNode} {constraints : List Constraint}
      (node : a.get? id = some n) (kind : n.kind = .primitive .array)
      (carries : n.Carries constraints) : IsSequence a name none constraints id
  | around {id part : NodeId} {n m : SchemaNode} {reason : CutReason}
      {constraints : List Constraint} (node : a.get? id = some n) (kind : n.kind = .allOf [part])
      (carries : n.Carries constraints) (standIn : a.get? part = some m)
      (cut : m.kind = .placeholder ⟨name, none, reason⟩) :
      IsSequence a name (some reason) constraints id
  | cut {id : NodeId} {m : SchemaNode} {reason : CutReason} (standIn : a.get? id = some m)
      (cut : m.kind = .placeholder ⟨name, none, reason⟩) : IsSequence a name (some reason) [] id

/-- The node is a union of a sequence and null, each with constraints of its own. -/
inductive Arena.IsUnion (a : Arena) (name : String) (reason? : Option CutReason)
    (inner outer : List Constraint) (id : NodeId) : Prop where
  | mk {n : SchemaNode} {part null : NodeId} (node : a.get? id = some n)
      (kind : n.kind = .anyOf [part, null]) (carries : n.Carries outer)
      (sequence : a.IsSequence name reason? inner part)
      (null : a.get? null = some { kind := .null })

/-- The constraints are spread over the node of a sequence and what is around it. -/
def Arena.Spreads (a : Arena) (name : String) (reason? : Option CutReason) (id : NodeId)
    (s : Spread) : Prop :=
  match s.outer? with
  | none => a.IsSequence name reason? s.inner id
  | some outer => a.IsUnion name reason? s.inner outer id

namespace Arena

variable {a a' : Arena} {name : String} {reason? : Option CutReason} {id : NodeId}
  {constraints more inner outer : List Constraint}

namespace IsSequence

/-- A node of a sequence that is no stand-in is marked. -/
theorem modify (h : a.IsSequence name reason? constraints id) (own : ¬ a.isShared id)
    {f : SchemaNode → SchemaNode} (kind : ∀ n, (f n).kind = n.kind)
    (carries : ∀ n, a.get? id = some n → n.Carries constraints → (f n).Carries more) :
    (a.modify id f).IsSequence name reason? more id := by
  have marked : ∀ {n}, a.get? id = some n → (a.modify id f).get? id = some (f n) := fun hn => by
    rw [get?_modify, if_pos rfl, hn]
    rfl
  cases h with
  | array node hkind hcarries =>
    exact .array (marked node) ((kind _).trans hkind) (carries _ node hcarries)
  | @around _ part n m _ _ node hkind hcarries standIn cut =>
    -- the placeholder is another node
    have other : part ≠ id := by
      rintro rfl
      cases node.symm.trans standIn
      rw [hkind] at cut
      cases cut
    exact .around (marked node) ((kind _).trans hkind) (carries _ node hcarries)
      (by rw [get?_modify, if_neg other, standIn]) cut
  | cut standIn cut =>
    exact absurd (isShared_iff.2 ⟨_, standIn, by simp [SchemaNode.isShared, cut]⟩) own

/-- A node of a sequence stays one if no node but unions changes. -/
theorem kept (h : a.IsSequence name reason? constraints id)
    (kept : ∀ j n, (∀ ids, n.kind ≠ .anyOf ids) → a.get? j = some n → a'.get? j = some n) :
    a'.IsSequence name reason? constraints id := by
  cases h with
  | array node kind carries => exact .array (kept _ _ (by simp [kind]) node) kind carries
  | around node kind carries standIn cut =>
    exact .around (kept _ _ (by simp [kind]) node) kind carries
      (kept _ _ (by simp [cut]) standIn) cut
  | cut standIn cut => exact .cut (kept _ _ (by simp [cut]) standIn) cut

/-- It stays one as long as no node up to it changes. -/
theorem stays (ground : a.Grounded) (h : a.IsSequence name reason? constraints id)
    (kept : ∀ j n, j.index ≤ id.index → a.get? j = some n → a'.get? j = some n) :
    a'.IsSequence name reason? constraints id := by
  cases h with
  | array node kind carries => exact .array (kept _ _ (Nat.le_refl _) node) kind carries
  | @around _ part n _ _ _ node kind carries standIn cut =>
    have below : part.index < id.index := ground.backward id n node part <|
      SchemaNode.mem_edges_of_mem_children (by simp [SchemaNode.children, kind])
    exact .around (kept _ _ (Nat.le_refl _) node) kind carries
      (kept _ _ (Nat.le_of_lt below) standIn) cut
  | cut standIn cut => exact .cut (kept _ _ (Nat.le_refl _) standIn) cut

/-- A shared node of a sequence is a placeholder, and carries nothing. -/
theorem of_isShared (h : a.IsSequence name reason? constraints id) (shared : a.isShared id) :
    constraints = [] ∧ ∃ m reason, a.get? id = some m ∧
      m.kind = .placeholder ⟨name, none, reason⟩ ∧ reason? = some reason := by
  obtain ⟨l, hl, hshared⟩ := isShared_iff.1 shared
  cases h with
  | array node kind _ =>
    cases hl.symm.trans node
    simp [SchemaNode.isShared, kind] at hshared
  | around node kind _ _ _ =>
    cases hl.symm.trans node
    simp [SchemaNode.isShared, kind] at hshared
  | cut standIn cut => exact ⟨rfl, _, _, standIn, cut, rfl⟩

/-- A new node around a placeholder. -/
theorem wrapped (h : a.IsSequence name reason? constraints id) (shared : a.isShared id)
    (nullable : Bool) : (a.push { kind := .allOf [id], nullable }).2.IsSequence name reason?
      constraints ⟨a.size⟩ := by
  obtain ⟨rfl, m, reason, standIn, cut, rfl⟩ := h.of_isShared shared
  exact .around (get?_push_self _ _) rfl (SchemaNode.carries_nil rfl) (keeps_push _ _ standIn) cut

/-- Constraints on a sequence's own node are added to those it has. -/
theorem mark (h : a.IsSequence name reason? constraints id) (own : ¬ a.isShared id)
    (patterns : PatternCheck) (member : String) (more : List Constraint) :
    (a.mark patterns id member more).2.1.IsSequence name reason? (constraints ++ more)
      (a.mark patterns id member more).1 := by
  obtain ⟨n, hn⟩ : ∃ n, a.get? id = some n := by
    cases h with
    | array node _ _ => exact ⟨_, node⟩
    | around node _ _ _ _ => exact ⟨_, node⟩
    | cut standIn _ => exact ⟨_, standIn⟩
  rw [mark_eq patterns member hn]
  refine h.modify own (fun _ => rfl) fun l hl carries => ?_
  cases hl.symm.trans hn
  exact carries.applyAll patterns member more

/-- Constraints are put on the node of a sequence, or on a new node around a placeholder. -/
theorem annotate (h : a.IsSequence name reason? constraints id) (patterns : PatternCheck)
    (member : String) (more : List Constraint) :
    (a.annotate patterns id member more).2.1.IsSequence name reason? (constraints ++ more)
      (a.annotate patterns id member more).1 := by
  rw [annotate_eq]
  by_cases empty : more.isEmpty
  · rw [if_pos empty, List.isEmpty_iff.1 empty, List.append_nil]
    exact h
  · rw [if_neg empty]
    by_cases shared : a.isShared id
    · rw [if_pos shared]
      exact (h.wrapped shared false).mark (not_isShared_wrap a id false) patterns member more
    · rw [if_neg shared]
      exact h.mark shared patterns member more

theorem clearNullFlag (h : a.IsSequence name reason? constraints id) :
    (a.clearNullFlag id).IsSequence name reason? constraints id := by
  unfold Arena.clearNullFlag
  by_cases shared : a.isShared id
  · rw [if_pos shared]
    exact h
  · rw [if_neg shared]
    exact h.modify shared (fun _ => rfl) fun _ _ carries => carries

theorem admitFlag (h : a.IsSequence name reason? constraints id) :
    (a.admitNull .flag id).2.IsSequence name reason? constraints (a.admitNull .flag id).1 := by
  unfold Arena.admitNull
  by_cases shared : a.isShared id
  · simp only [if_pos shared]
    exact h.wrapped shared true
  · simp only [if_neg shared]
    exact h.modify shared (fun _ => rfl) fun _ _ carries => carries

theorem alternatives?_eq (h : a.IsSequence name reason? constraints id) :
    a.alternatives? id = none := by
  cases h with
  | array node kind _ => simp [alternatives?, node, kind]
  | around node kind _ _ _ => simp [alternatives?, node, kind]
  | cut standIn cut => simp [alternatives?, standIn, cut]

/-- The node of a sequence becomes an alternative beside null. -/
theorem unite (h : a.IsSequence name reason? constraints id) :
    (a.admitNull .union id).2.IsUnion name reason? constraints [] (a.admitNull .union id).1 := by
  simp only [Arena.admitNull, h.alternatives?_eq, nullLeaf, push_fst]
  refine .mk (get?_push_self _ _) rfl (SchemaNode.carries_nil rfl) (h.kept fun j n _ hn => ?_)
    (keeps_push _ _ (get?_push_self a _))
  exact keeps_push _ _ (keeps_push _ _ hn)

end IsSequence

namespace IsUnion

/-- A union is marked. -/
theorem modify (h : a.IsUnion name reason? inner constraints id) {f : SchemaNode → SchemaNode}
    (kind : ∀ n, (f n).kind = n.kind)
    (carries : ∀ n, a.get? id = some n → n.Carries constraints → (f n).Carries more) :
    (a.modify id f).IsUnion name reason? inner more id := by
  obtain ⟨node, hkind, hcarries, sequence, null⟩ := h
  have marked : ∀ j m, (∀ ids, m.kind ≠ .anyOf ids) → a.get? j = some m →
      (a.modify id f).get? j = some m := by
    intro j m single hm
    have other : j ≠ id := by
      rintro rfl
      cases hm.symm.trans node
      exact single _ hkind
    rw [get?_modify, if_neg other, hm]
  refine .mk ?_ ((kind _).trans hkind) (carries _ node hcarries) (sequence.kept marked)
    (marked _ _ (by simp) null)
  rw [get?_modify, if_pos rfl, node]
  rfl

/-- Constraints are put on the union. -/
theorem annotate (h : a.IsUnion name reason? inner constraints id) (patterns : PatternCheck)
    (member : String) (more : List Constraint) :
    (a.annotate patterns id member more).2.1.IsUnion name reason? inner (constraints ++ more)
      (a.annotate patterns id member more).1 := by
  have union := h
  obtain ⟨node, kind, -, -, -⟩ := h
  by_cases empty : more = []
  · rw [empty, List.append_nil]
    exact union
  · rw [annotate_mark patterns member node (by simp [SchemaNode.isShared, kind]) empty,
      mark_eq patterns member node]
    refine union.modify (fun _ => rfl) fun l hl carries => ?_
    cases hl.symm.trans node
    exact carries.applyAll patterns member more

/-- A union that has null stays as it is, but for the flag. -/
theorem admitNull (h : a.IsUnion name reason? inner constraints id) (enc : NullEncoding) :
    (a.admitNull enc id).2.IsUnion name reason? inner constraints (a.admitNull enc id).1 := by
  have union := h
  obtain @⟨n, part, other, node, kind, -, -, null⟩ := h
  cases enc with
  | flag =>
    have own : ¬ a.isShared id := by
      rw [isShared_eq node]
      simp [SchemaNode.isShared, kind]
    simp only [Arena.admitNull, if_neg own]
    exact union.modify (fun _ => rfl) fun _ _ carries => carries
  | union =>
    have alternatives : a.alternatives? id = some [part, other] := by
      simp only [alternatives?, node, Option.bind_some, kind]
    have any : [part, other].any a.isNull := by simp [isNull, null, SchemaNode.isNull]
    simp only [Arena.admitNull, alternatives, any, if_true]
    exact union

/-- It stays one as long as no node up to it changes. -/
theorem stays (ground : a.Grounded) (h : a.IsUnion name reason? inner outer id)
    (kept : ∀ j n, j.index ≤ id.index → a.get? j = some n → a'.get? j = some n) :
    a'.IsUnion name reason? inner outer id := by
  obtain @⟨n, part, other, node, kind, carries, sequence, null⟩ := h
  have below : ∀ c ∈ [part, other], c.index ≤ id.index := fun c hc =>
    Nat.le_of_lt <| ground.backward id n node c <|
      SchemaNode.mem_edges_of_mem_children (by simp [SchemaNode.children, kind, hc])
  have inside := sequence.stays ground fun j m hj => kept j m (hj.trans (below part (by simp)))
  exact .mk (kept _ _ (Nat.le_refl _) node) kind carries inside
    (kept _ _ (below other (by simp)) null)

end IsUnion

namespace Spreads

variable {s : Spread}

/-- Bounds stay where they are spread as long as the nodes up to there are kept. -/
theorem stays (ground : a.Grounded) (h : a.Spreads name reason? id s)
    (kept : ∀ j n, j.index ≤ id.index → a.get? j = some n → a'.get? j = some n) :
    a'.Spreads name reason? id s := by
  obtain ⟨inner, _ | outer⟩ := s
  · exact IsSequence.stays ground h kept
  · exact IsUnion.stays ground h kept

/-- The constraints of a wrapper are put on the node in use, and then null is admitted. -/
theorem wrapped (h : a.Spreads name reason? id s) (patterns : PatternCheck) (enc : NullEncoding)
    (w : TypeDescriptor) :
    ((a.annotate patterns id w.name w.constraints).2.1.admitNull enc
      (a.annotate patterns id w.name w.constraints).1).2.Spreads name reason?
      ((a.annotate patterns id w.name w.constraints).2.1.admitNull enc
        (a.annotate patterns id w.name w.constraints).1).1 (s.wrapped enc w) := by
  obtain ⟨inner, _ | outer⟩ := s
  · have marked := IsSequence.annotate h patterns w.name w.constraints
    cases enc with
    | flag => exact marked.admitFlag
    | union => exact marked.unite
  · exact (IsUnion.annotate h patterns w.name w.constraints).admitNull enc

end Spreads

end Arena

end TypeSchema
