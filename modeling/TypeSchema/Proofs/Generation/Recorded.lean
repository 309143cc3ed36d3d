import TypeSchema.Proofs.Generation.Described

/-!
# Generation — the nodes of components

An expanded object is recorded as a component before its type's own constraints are applied: they
go to a copy, together with those of the field that the object is used for.  So a recorded component
has no keywords, and stays like that, because nothing but the node in use is decorated and that node
is apart from all recorded ones (`nodeFor_settled`).  The root of a generation is its own copy, and
has the keywords of its type (`nodeFor_object`).

Both are said of a generated schema in `generate_keywords`.
-/

namespace TypeSchema

open Build

/-- The keywords that a type's own constraints amount to. -/
def Generator.keywordsOf (gen : Generator) (d : TypeDescriptor) : Keywords :=
  (({} : Keywords).applyAll gen.patterns d.name d.constraints).1

/-- The node is an object with these keywords. -/
def Arena.HasObject (a : Arena) (id : NodeId) (k : Keywords) : Prop :=
  ∃ n, a.get? id = some n ∧ n.kind = .primitive .object ∧ n.keywords = k

/-- An object stays one in an arena that keeps it. -/
theorem Arena.HasObject.kept {a a' : Arena} (keeps : a.Keeps a') {id : NodeId} {k : Keywords} :
    a.HasObject id k → a'.HasObject id k :=
  fun ⟨n, hn, hkind, hkeywords⟩ => ⟨n, keeps hn, hkind, hkeywords⟩

/-- A new object's node is an object. -/
theorem Arena.hasObject_push (a : Arena) {n : SchemaNode} (kind : n.kind = .primitive .object) :
    (a.push n).2.HasObject ⟨a.size⟩ n.keywords :=
  ⟨n, by simp [get?_push], kind, rfl⟩

theorem kind_objectNode (gen : Generator) (o : ObjectShape) (identifier : String)
    (ids : List NodeId) : (objectNode gen o identifier ids).kind = .primitive .object := by
  simp only [objectNode]
  rw [SchemaNode.withFields_eq]
  rfl

/-- The node of an object has no keywords when it is added. -/
theorem Arena.hasObject_objectNode (a : Arena) (gen : Generator) (o : ObjectShape)
    (identifier : String) (ids : List NodeId) :
    (a.push (objectNode gen o identifier ids)).2.HasObject ⟨a.size⟩ {} := by
  have bare := a.hasObject_push (kind_objectNode gen o identifier ids)
  rwa [(objectNode_children gen o identifier ids).1] at bare

/-! ### Recorded components -/

namespace Traversal

/-- The nodes that have to stay are in `a`: the placeholders, and those of the recorded components,
which are objects without keywords. -/
structure RestsOn (t : Traversal) (a : Arena) : Prop where
  kept : a.Keeps t.arena
  recorded : ∀ i node, t.identifiers.get? i = some node → a.HasObject node {}
  cuts : ∀ key id, t.guard.placeholders.lookup key = some id → a.isShared id

namespace RestsOn

variable {t t' : Traversal} {a a' : Arena}

theorem begin (w : Workspace) (gen : Generator) :
    (w.begin gen).RestsOn (w.begin gen).arena :=
  ⟨.refl _, fun i node h => by simp [Workspace.begin, EmptyCollection.emptyCollection] at h,
    fun key id h => by simp [Workspace.begin, Guard.new] at h⟩

/-- What rests on an arena rests on a larger one. -/
theorem mono (h : t.RestsOn a) (grows : a.Keeps a') (kept : a'.Keeps t.arena) : t.RestsOn a' :=
  ⟨kept, fun i node hi => (h.recorded i node hi).kept grows,
    fun key id hp => grows.isShared (h.cuts key id hp)⟩

/-- What rests on an earlier arena rests on the present one. -/
theorem here (h : t.RestsOn a) : t.RestsOn t.arena := h.mono h.kept (.refl _)

/-- A change of anything that no component or placeholder is in. -/
theorem of_eq (h : t.RestsOn a) (ha : t'.arena = t.arena) (hi : t'.identifiers = t.identifiers)
    (hp : t'.guard.placeholders = t.guard.placeholders) : t'.RestsOn a :=
  ⟨ha ▸ h.kept, hi ▸ h.recorded, hp ▸ h.cuts⟩

/-- A new node moves nothing that the traversal rests on. -/
theorem pushed (h : t.RestsOn a) (n : SchemaNode) : (t.pushed n).RestsOn a :=
  ⟨h.kept.trans (Arena.keeps_push _ _), h.recorded, h.cuts⟩

/-- A bare object can be recorded. -/
theorem recordedAs (h : t.RestsOn a) {node : NodeId} (bare : a.HasObject node {})
    (identifier : String) : (t.recorded identifier node).RestsOn a := by
  refine ⟨h.kept, fun i node' hi => ?_, h.cuts⟩
  simp only [Traversal.recorded, SortedMap.get?_insertNew] at hi
  split at hi
  · next e =>
    -- a component that was recorded before stays
    subst e
    cases hold : t.identifiers.get? i with
    | none => rw [hold] at hi; cases hi; exact bare
    | some node₀ => rw [hold] at hi; cases hi; exact h.recorded i _ hold
  · exact h.recorded i node' hi

/-- Decorating a node that is apart changes nothing that has to stay. -/
theorem decorated (h : t.RestsOn a) {id id' : NodeId} (apart : a.Apart t.arena id)
    (hd : Decorated t id t' id') : t'.RestsOn a ∧ a.Apart t'.arena id' := by
  obtain ⟨hdress, events, ht⟩ := hd
  obtain ⟨kept, apart'⟩ := h.kept.dressed hdress apart
  have hi : t'.identifiers = t.identifiers := by rw [ht]
  have hg : t'.guard = t.guard := by rw [ht]
  exact ⟨⟨kept, hi ▸ h.recorded, hg ▸ h.cuts⟩, apart'⟩

/-- A placeholder, new or not, has to stay. -/
theorem afterCut (h : t.RestsOn t.arena) (v : Visit) (reason : CutReason) :
    (t.cut v reason).2.RestsOn (t.cut v reason).2.arena ∧
      (t.cut v reason).2.arena.isShared (t.cut v reason).1 := by
  unfold Traversal.cut Guard.placeholder
  cases hl : t.guard.placeholders.lookup (v.type, reason) with
  | some id => exact ⟨h.of_eq rfl rfl rfl, h.cuts _ id hl⟩
  | none =>
    let n : SchemaNode := { kind := .placeholder ⟨v.typeName, v.identifier?, reason⟩ }
    have hpush := (h.pushed n).here
    have hnew : (t.pushed n).arena.isShared ⟨t.arena.size⟩ :=
      Arena.isShared_iff.2 ⟨n, by simp [Traversal.pushed, Arena.get?_push], rfl⟩
    refine ⟨⟨hpush.kept, hpush.recorded, fun key id hp => ?_⟩, hnew⟩
    simp only [List.lookup_cons] at hp
    split at hp
    · cases hp; exact hnew
    · exact hpush.cuts key id hp

end RestsOn

/-- The node may be decorated: what has to stay is apart from it. -/
def Settled (t : Traversal) (id : NodeId) : Prop := ∃ a, t.RestsOn a ∧ a.Apart t.arena id

namespace Settled

variable {t t' : Traversal} {id id' : NodeId}

theorem rests (h : t.Settled id) : t.RestsOn t.arena :=
  have ⟨_, rests, _⟩ := h
  rests.here

/-- A settled node may be decorated, and is settled afterwards. -/
theorem decorated (h : t.Settled id) (hd : Decorated t id t' id') : t'.Settled id' :=
  have ⟨a, rests, apart⟩ := h
  ⟨a, rests.decorated apart hd⟩

/-- A new node is apart from all others. -/
theorem pushed (h : t.RestsOn t.arena) (n : SchemaNode) : (t.pushed n).Settled ⟨t.arena.size⟩ :=
  ⟨t.arena, h.pushed n, .inl (Nat.le_refl _)⟩

/-- A placeholder has to stay, and decorating a shared node leaves it where it is. -/
theorem afterCut (h : t.RestsOn t.arena) (v : Visit) (reason : CutReason) :
    (t.cut v reason).2.Settled (t.cut v reason).1 :=
  have ⟨rests, shared⟩ := h.afterCut v reason
  ⟨_, rests, .inr shared⟩

theorem closed (h : t.Settled id) : t.closed.Settled id :=
  have ⟨a, rests, apart⟩ := h
  ⟨a, rests.of_eq rfl rfl rfl, apart⟩

end Settled

end Traversal

section

variable {gen : Generator} {g : TypeGraph} {descend : Descent} {ty : TypeId}
  {d : TypeDescriptor} {t t' : Traversal} {id : NodeId}

/-- The parts are built one after the other. -/
theorem Visits.rests {parts : List (TypeId × Option Field)} {ids : List NodeId}
    (h : Visits descend parts t ids t')
    (step : ∀ ty field? t id t', descend ty field? t = .ok id t' → t.RestsOn t.arena →
      t'.Settled id) (ht : t.RestsOn t.arena) : t'.RestsOn t'.arena :=
  h.relate (R := fun t t' => t.RestsOn t.arena → t'.RestsOn t'.arena) (fun _ h => h)
    (fun h₁ h₂ h => h₂ (h₁ h)) (fun ty field? t id t' hp ht => (step ty field? t id t' hp ht).rests)
    ht

/-- An expansion settles its node, given that building its parts settles theirs. -/
theorem Expansion.settled {cls : Classification} (h : Expansion gen g descend ty d cls t id t')
    (step : ∀ ty field? t id t', descend ty field? t = .ok id t' → t.RestsOn t.arena →
      t'.Settled id) (ht : t.RestsOn t.arena) : t'.Settled id := by
  cases h with
  | leaf _ => exact .pushed (t := t.reported _) (ht.of_eq rfl rfl rfl) _
  | cut _ _ => exact .afterCut ht _ _
  | collection _ parts _ _ =>
    exact (Traversal.Settled.pushed (parts.rests step (ht.of_eq rfl rfl rfl)) _).closed
  | @reference _ _ id r events _ _ _ =>
    exact .pushed (t := t.claimed ty id r events) (ht.of_eq rfl rfl rfl) _
  | @cutObject _ _ id r events _ _ _ _ =>
    exact .afterCut (t := t.claimed ty id r events) (ht.of_eq rfl rfl rfl) _ _
  | @object o _ t₁ id r events ids _ _ _ parts _ =>
    have rests := (parts.rests step (ht.of_eq rfl rfl rfl)).pushed (objectNode gen o id ids)
    have hrecorded := rests.here.recordedAs (t₁.arena.hasObject_objectNode gen o id ids) id
    have hsettled := Traversal.Settled.pushed hrecorded (objectNode gen o id ids)
    simp only [Traversal.recorded, Traversal.pushed, Arena.size_push] at hsettled
    exact hsettled.closed

/-- A step settles its node, given that the descent does. -/
theorem Step.settled {field? : Option Field} (h : Step gen g descend ty field? d t id t')
    (step : ∀ ty field? t id t', descend ty field? t = .ok id t' → t.RestsOn t.arena →
      t'.Settled id) (ht : t.RestsOn t.arena) : t'.Settled id := by
  cases h with
  | wrapped _ part finish =>
    exact (step _ _ _ _ _ part ht).decorated (wrapNull_decorated finish)
  | overridden _ _ finish =>
    exact (Traversal.Settled.pushed ht _).decorated (decorate_decorated finish)
  | @expanded _ t₀ _ _ _ _ _ plain expansion finish =>
    have hplain : t₀.RestsOn t₀.arena := by
      rcases overrideFor_ok plain with ⟨o, ho, -⟩ | ⟨-, rfl | rfl⟩
      · cases ho
      · exact ht
      · exact ht.of_eq rfl rfl rfl
    exact (expansion.settled step hplain).decorated (decorate_decorated finish)

end

/-- **What has to stay is apart from the node that is built**, in every generation. -/
theorem nodeFor_settled {gen : Generator} {g : TypeGraph} {levels : Nat} {ty : TypeId}
    {field? : Option Field} {t t' : Traversal} {id : NodeId}
    (h : nodeFor gen g levels ty field? t = .ok id t') (ht : t.RestsOn t.arena) : t'.Settled id :=
  nodeFor_induction (P := fun _ _ t id t' => t.RestsOn t.arena → t'.Settled id)
    (fun _ step _ _ _ _ _ _ _ hs ht => hs.settled step ht) levels ty field? t id t' h ht

/-! ### Roots -/

/-- Without a field, decorating an object without keywords gives it those of its type. -/
theorem decorate_keywords {gen : Generator} {d : TypeDescriptor} {id id' : NodeId}
    {t t' : Traversal} (bare : t.arena.HasObject id {})
    (h : decorate gen d none id t = .ok id' t') : t'.arena.HasObject id' (gen.keywordsOf d) := by
  obtain ⟨id₁, t₁, ha, h⟩ := bind_ok_iff.1 h
  obtain ⟨id₂, t₂, hf, hn⟩ := bind_ok_iff.1 h
  cases hf
  obtain ⟨n, hget, kind, hkeywords⟩ := bare
  have own : ∀ {n' : SchemaNode}, n'.kind = n.kind → ¬ n'.isShared := fun hk => by
    simp [SchemaNode.isShared, hk, kind]
  -- the type's constraints
  have annotated : id₁ = id ∧ t₁.arena.get? id = some { n with keywords := gen.keywordsOf d } := by
    have h₁ := Arena.annotate_own hget (own rfl) gen.patterns d.name d.constraints
    rw [hkeywords] at h₁
    cases ha
    exact h₁
  obtain ⟨rfl, hget₁⟩ := annotated
  -- and no flag for null
  have unshared : ¬ t₁.arena.isShared id₁ := Arena.isShared_eq hget₁ ▸ own rfl
  cases hn
  simp only [Arena.clearNullFlag, unshared]
  exact ⟨{ n with keywords := gen.keywordsOf d, nullable := false },
    by simp [Arena.get?_modify, hget₁], kind, rfl⟩

/-- The type is an object that no override replaces. -/
structure Generator.Expands (gen : Generator) (g : TypeGraph) (ty : TypeId) (d : TypeDescriptor) :
    Prop where
  known : g.describe? ty = some d
  object : ∃ o?, g.classify d.shape = .object o?
  plain : gen.overrides.lookup? [d.identity, d.name] = none

/-- An object that is generated before anything is open or recorded has the keywords of its type. -/
theorem nodeFor_object {gen : Generator} {g : TypeGraph} {levels : Nat} {ty : TypeId}
    {d : TypeDescriptor} {t t' : Traversal} {id : NodeId} (object : gen.Expands g ty d)
    (h : nodeFor gen g levels ty none t = .ok id t') (opens : t.guard.cutReason? ty = none)
    (fresh : ∀ i, t.identifiers.get? i = none) : t'.arena.HasObject id (gen.keywordsOf d) := by
  obtain ⟨known, ⟨o?, cls⟩, plain⟩ := object
  cases levels with
  | zero => cases h
  | succ levels =>
    obtain ⟨d', hd', hs⟩ := nodeStep_ok h
    obtain rfl : d' = d := Option.some.inj (hd'.symm.trans known)
    cases hs with
    | wrapped wrapper _ _ => rw [cls] at wrapper; cases wrapper
    | overridden lookup _ _ => rw [plain] at lookup; cases lookup
    | @expanded _ t₀ t₁ _ id₁ _ _ overrideless expansion finish =>
      refine decorate_keywords ?_ finish
      obtain rfl : t₀ = t := by
        simp only [overrideFor, plain] at overrideless
        cases overrideless
        rfl
      rw [cls] at expansion
      cases expansion with
      | leaf node => cases o? <;> cases node; exact Arena.hasObject_push _ rfl
      | cut collection _ => cases collection
      | collection _ _ node _ => cases node
      | reference _ expanded => rw [fresh] at expanded; cases expanded
      | cutObject _ _ closed => rw [opens] at closed; cases closed
      | @object o _ t₂ i r events ids _ _ _ _ _ =>
        have bare := (t₂.arena.push (objectNode gen o i ids)).2.hasObject_objectNode gen o i ids
        rwa [Arena.size_push] at bare

/-! ### Generations -/

/-- At the beginning of a generation every type may be opened. -/
theorem Workspace.begin_opens (w : Workspace) (gen : Generator) (ty : TypeId) :
    (w.begin gen).guard.cutReason? ty = none := by
  have room : ¬ max 1 gen.config.maxDepth = 0 := by omega
  simp [Workspace.begin, Guard.new, Guard.cutReason?, Guard.isExpanding, Guard.depth, room]

/-- **The root of a generation has its type's keywords, and the components that are expanded on the
way have none.** -/
theorem generate_keywords {gen : Generator} {g : TypeGraph} {root : TypeId} {w w' : Workspace}
    {s : GeneratedSchema} (h : generate gen g root w = .ok s w') :
    (∀ d, gen.Expands g root d → s.arena.HasObject s.root (gen.keywordsOf d)) ∧
      ∀ i node, s.identifiers.get? i = some node → s.arena.HasObject node {} := by
  obtain ⟨t, hn, hs, rfl⟩ := generate_ok h
  have settled := nodeFor_settled hn (.begin w gen)
  rw [hs]
  exact ⟨fun d object => nodeFor_object object hn (w.begin_opens gen root) fun _ => rfl,
    settled.rests.recorded⟩

end TypeSchema
