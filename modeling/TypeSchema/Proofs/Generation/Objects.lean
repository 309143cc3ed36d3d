import TypeSchema.Proofs.Generation.Grounding
import TypeSchema.Proofs.Generation.Nullability
import TypeSchema.Proofs.Generation.Once
import TypeSchema.Proofs.Generation.Placeholders

/-!
# Generation — what objects are made of

A node with an identifier is that of an object, made of one node for each of its fields that are
kept (`Generator.Made`).  What is said of the node of a field when it is built is true of it in the
generated schema if it depends on nothing but the nodes up to that one
(`Generator.FieldInvariant`): no node below an object is decorated again.

`generate_made` says so of every object that is expanded, for any such property of the nodes of
fields.
-/

namespace TypeSchema

open Build

variable {gen : Generator} {g : TypeGraph}

/-- The fields of an object that are kept, in the order of their names. -/
def Generator.keptFields (gen : Generator) (o : ObjectShape) : List Field :=
  (TypeSchema.keptFields gen.config.memberThreshold? (sortedFields o)).1

/-! ### States in which nothing is about to change -/

/-- What has to stay is known, every edge leads back, and the placeholders are those of the
guard. -/
structure Traversal.Quiet (g : TypeGraph) (t : Traversal) : Prop where
  rests : t.RestsOn t.arena
  ground : t.arena.Grounded
  listed : t.Listed g

namespace Traversal

variable {t t' : Traversal}

/-- A traversal begins quiet. -/
theorem quiet_begin (g : TypeGraph) (w : Workspace) (gen : Generator) : (w.begin gen).Quiet g :=
  ⟨.begin w gen, Arena.grounded_empty, listed_begin g w gen⟩

/-- A change of anything that no node is in. -/
theorem Quiet.of_eq (h : t.Quiet g) (ha : t'.arena = t.arena)
    (hi : t'.identifiers = t.identifiers) (hp : t'.guard.placeholders = t.guard.placeholders)
    (grows : t.registry.Grows t'.registry) : t'.Quiet g :=
  ⟨(h.rests.of_eq ha hi hp).here, ha ▸ h.ground, h.listed.mono ha hp grows⟩

end Traversal

/-- Building a type leaves a quiet traversal quiet. -/
theorem nodeFor_quiet {levels : Nat} {ty : TypeId} {field? : Option Field} {t t' : Traversal}
    {id : NodeId} (h : nodeFor gen g levels ty field? t = .ok id t') (ht : t.Quiet g) :
    t'.Quiet g :=
  ⟨(nodeFor_settled h ht.rests).rests, (nodeFor_grounded _ _ _ _ _ _ h ht.rests ht.ground).arena,
    nodeFor_listed h ht.listed⟩

theorem Visits.quiet {levels : Nat} {parts : List (TypeId × Option Field)} {ids : List NodeId}
    {t t' : Traversal} (h : Visits (nodeFor gen g levels) parts t ids t') (ht : t.Quiet g) :
    t'.Quiet g :=
  h.relate (R := fun t t' => t.Quiet g → t'.Quiet g) (fun _ h => h) (fun h₁ h₂ h => h₂ (h₁ h))
    (fun _ _ _ _ _ built ht => nodeFor_quiet built ht) ht

/-! ### What decorating leaves of a node -/

/-- A node after the last one, or a stand-in, was decorated is what it was before, decorated at
most, or it names nothing. -/
theorem Arena.Grounded.body_of_dressed {a a' : Arena} {id id' : NodeId} (h : a.Grounded)
    (outer : a.Outermost id) (hd : Dressed a id a' id') {j : NodeId} {n : SchemaNode}
    (hn : a'.get? j = some n) :
    (∃ m, a.get? j = some m ∧ m.SameBody n) ∨ n.identifier? = none := by
  -- a node that is added
  have push : ∀ {a : Arena} {l m : SchemaNode}, l.identifier? = none →
      (a.push l).2.get? j = some m → a.get? j = some m ∨ m.identifier? = none := by
    intro a l m hl h
    rw [get?_push] at h
    split at h
    · cases h; exact .inr hl
    · exact .inl h
  induction hd with
  | refl => exact .inl ⟨n, hn, rfl⟩
  | @more a a₁ a' id id₁ id' hd _ ih =>
    obtain ⟨ground₁, outer₁⟩ := h.dressed outer (.one hd)
    rcases ih ground₁ outer₁ hn with ⟨m, hm, same⟩ | none
    · cases hd with
      | mark _ body =>
        rw [get?_modify] at hm
        split at hm
        · next e =>
          obtain ⟨l, hl, rfl⟩ := Option.map_eq_some_iff.1 hm
          exact .inl ⟨l, e ▸ hl, (body l).trans same⟩
        · exact .inl ⟨m, hm, same⟩
      | wrap _ _ =>
        rcases push rfl hm with hm | none
        · exact .inl ⟨m, hm, same⟩
        · exact .inr (by rw [same]; exact none)
      | unite _ =>
        rcases push rfl hm with hm | none
        · rcases push rfl hm with hm | none
          · exact .inl ⟨m, hm, same⟩
          · exact .inr (by rw [same]; exact none)
        · exact .inr (by rw [same]; exact none)
      | extend union withoutNull =>
        -- every union has null already
        rw [h.unions id _ union] at withoutNull
        cases withoutNull
    · exact .inr none

/-! ### Objects -/

/-- What is said of the nodes of fields. -/
abbrev FieldProperty := Arena → NodeId → Field → Prop

/-- The node `n` with the number `j` is that of an object that holds the identifier, decorated at
most.  It is made of nodes that were added before, one for each field that is kept, of which the
property is true. -/
def Generator.Made (gen : Generator) (g : TypeGraph) (due : FieldProperty) (r : Registry)
    (a : Arena) (j : NodeId) (n : SchemaNode) (i : String) : Prop :=
  ∃ ty o ids, g.HasClass ty (.object (some o)) ∧ g.Holds r ty i ∧
    (objectNode gen o i ids).SameBody n ∧ ids.length = (gen.keptFields o).length ∧
    (∀ c ∈ ids, c.index < j.index) ∧ ∀ q ∈ (gen.keptFields o).zip ids, due a q.2 q.1

/-- All objects that are expanded are made like that. -/
def Generator.AllMade (gen : Generator) (g : TypeGraph) (due : FieldProperty) (r : Registry)
    (a : Arena) : Prop :=
  ∀ j n i, a.get? j = some n → n.identifier? = some i → gen.Made g due r a j n i

/-- The property is true of the node of a field when it is built, and stays so as long as no node up
to that one changes. -/
structure Generator.FieldInvariant (gen : Generator) (g : TypeGraph) (due : FieldProperty) :
    Prop where
  built : ∀ {levels f t id t'}, nodeFor gen g levels f.type (some f) t = .ok id t' →
    t.Quiet g → due t'.arena id f
  stays : ∀ {a a' id f}, a.Grounded → due a id f →
    (∀ j n, j.index ≤ id.index → a.get? j = some n → a'.get? j = some n) → due a' id f

namespace Generator

variable {due : FieldProperty} {r r' : Registry} {a a' : Arena} {j : NodeId} {n n' : SchemaNode}
  {i : String}

theorem Made.mono (inv : gen.FieldInvariant g due) (ground : a.Grounded)
    (h : gen.Made g due r a j n i) (same : n.SameBody n') (grows : r.Grows r')
    (kept : ∀ k l, k.index < j.index → a.get? k = some l → a'.get? k = some l) :
    gen.Made g due r' a' j n' i := by
  obtain ⟨ty, o, ids, cls, holds, body, length, inside, parts⟩ := h
  refine ⟨ty, o, ids, cls, holds.mono grows, body.trans same, length, inside, fun q hq => ?_⟩
  refine inv.stays ground (parts q hq) fun k l hk hl => kept k l ?_ hl
  exact Nat.lt_of_le_of_lt hk (inside q.2 (List.of_mem_zip hq).2)

/-- Objects that were made as they are due stay so while more identifiers are assigned. -/
theorem AllMade.grows (inv : gen.FieldInvariant g due) (ground : a.Grounded)
    (h : gen.AllMade g due r a) (grows : r.Grows r') : gen.AllMade g due r' a :=
  fun j n i hn hi => (h j n i hn hi).mono inv ground rfl grows fun _ _ _ hl => hl

/-- A node is added that names nothing, or an object that is made as it is due. -/
theorem AllMade.push (inv : gen.FieldInvariant g due) (ground : a.Grounded)
    (h : gen.AllMade g due r a)
    (made : ∀ i, n.identifier? = some i → gen.Made g due r a ⟨a.size⟩ n i) :
    gen.AllMade g due r (a.push n).2 := by
  intro j m i hm hi
  have before : gen.Made g due r a j m i := by
    rw [Arena.get?_push] at hm
    split at hm
    · next last =>
      obtain ⟨index⟩ := j
      cases last
      cases hm
      exact made i hi
    · exact h j m i hm hi
  exact before.mono inv ground rfl (.refl r) fun _ _ _ hl => Arena.keeps_push a n hl

/-- Decorating the last node, or a stand-in, keeps what objects are made of. -/
theorem AllMade.dressed (inv : gen.FieldInvariant g due) (ground : a.Grounded) {id id' : NodeId}
    (outer : a.Outermost id) (h : gen.AllMade g due r a) (hd : Dressed a id a' id') :
    gen.AllMade g due r a' := by
  intro j n i hn hi
  rcases ground.body_of_dressed outer hd hn with ⟨m, hm, same⟩ | none
  · have identifier : m.identifier? = some i := by rw [same] at hi; exact hi
    refine (h j m i hm identifier).mono inv ground same (.refl r) fun k l hk hl => ?_
    rcases outer with last | shared
    · have inside := Arena.lt_size_of_get? hm
      exact Arena.get?_dressed_below hd (by omega) hl
    · exact (Arena.Keeps.dressed hd (.refl a) (.inr shared)).1 hl
  · rw [none] at hi
    cases hi

/-- The property of an object is the node of the field that counts. -/
theorem Made.property (h : gen.Made g due r a j n i) :
    ∃ ty o, g.HasClass ty (.object (some o)) ∧ g.Holds r ty i ∧
      ∀ name, Option.Rel (fun f c => due a c f) (gen.keptField? o name)
        (n.properties.get? name) := by
  obtain ⟨ty, o, ids, cls, holds, body, length, -, parts⟩ := h
  refine ⟨ty, o, cls, holds, fun name => ?_⟩
  have properties : n.properties = (objectNode gen o i ids).properties := by rw [body]
  have fields := List.map_fst_zip (Nat.le_of_eq length.symm)
  have kept : gen.keptField? o name = ((((gen.keptFields o).zip ids).filter
      (·.1.name = name)).getLast?).map (·.1) := by
    unfold keptField?
    conv_lhs => rw [← keptFields, ← fields]
    rw [List.filter_map, List.getLast?_map]
    rfl
  rw [properties, properties_objectNode, kept]
  cases hq : (((gen.keptFields o).zip ids).filter (·.1.name = name)).getLast? with
  | none =>
    rw [keptFields] at hq
    rw [hq]
    exact .none
  | some q =>
    have mem := (List.mem_filter.1 (List.mem_of_getLast? hq)).1
    rw [keptFields] at hq
    rw [hq]
    exact .some (parts q mem)

end Generator

/-! ### Steps -/

section

variable {due : FieldProperty} {levels : Nat} {ty : TypeId} {d : TypeDescriptor}
  {t t' : Traversal} {id : NodeId}

/-- The nodes of some fields, built one after the other, have the property. -/
theorem Visits.field_due (inv : gen.FieldInvariant g due) {fields : List Field} {ids : List NodeId}
    (h : Visits (nodeFor gen g levels) (fields.map fun f => (f.type, some f)) t ids t')
    (ht : t.Quiet g) : ids.length = fields.length ∧ ∀ q ∈ fields.zip ids, due t'.arena q.2 q.1 := by
  induction fields generalizing t ids with
  | nil => cases h; exact ⟨rfl, fun q hq => by cases hq⟩
  | cons f rest ih =>
    cases h with
    | @cons _ _ _ _ t₁ _ id ids head tail =>
      have quiet := nodeFor_quiet head ht
      obtain ⟨length, each⟩ := ih tail quiet
      refine ⟨by simp [length], fun q hq => ?_⟩
      rcases List.mem_cons.1 hq with rfl | hq
      · have keeps := tail.keeps (nodeFor_spares levels) quiet.rests
        exact inv.stays quiet.ground (inv.built head ht) fun _ _ _ hn => keeps hn
      · exact each q hq

/-- Objects stay made as they are due. -/
def Descent.KeepsMade (gen : Generator) (g : TypeGraph) (due : FieldProperty) (descend : Descent) :
    Prop :=
  descend.Relates fun t t' => t.Quiet g → gen.AllMade g due t.registry t.arena →
    gen.AllMade g due t'.registry t'.arena

/-- Parts built one after the other leave all objects made. -/
theorem Visits.made (step : (nodeFor gen g levels).KeepsMade gen g due)
    {parts : List (TypeId × Option Field)} {ids : List NodeId}
    (h : Visits (nodeFor gen g levels) parts t ids t') (ht : t.Quiet g)
    (made : gen.AllMade g due t.registry t.arena) : gen.AllMade g due t'.registry t'.arena := by
  induction h with
  | nil => exact made
  | cons head _ ih => exact ih (nodeFor_quiet head ht) (step _ _ _ _ _ head ht made)

/-- A type that is cut makes no object. -/
theorem Traversal.Quiet.cut_made (inv : gen.FieldInvariant g due) (ht : t.Quiet g) (v : Visit)
    (reason : CutReason) (made : gen.AllMade g due t.registry t.arena) :
    gen.AllMade g due (t.cut v reason).2.registry (t.cut v reason).2.arena := by
  have registry : (t.cut v reason).2.registry = t.registry := by rw [Traversal.cut_eq]
  rw [registry]
  cases hl : t.guard.placeholders.lookup (v.type, reason) with
  | some id => rw [Traversal.cut_of_lookup hl]; exact made
  | none =>
    rw [(Traversal.cut_of_lookup_none hl).2]
    exact made.push inv ht.ground fun i hi => by cases hi

/-- An expansion makes its object as it is due, given that building its parts does for theirs. -/
theorem Expansion.made (inv : gen.FieldInvariant g due) {cls : Classification}
    (known : g.HasClass ty cls) (h : Expansion gen g (nodeFor gen g levels) ty d cls t id t')
    (step : (nodeFor gen g levels).KeepsMade gen g due) (ht : t.Quiet g)
    (made : gen.AllMade g due t.registry t.arena) : gen.AllMade g due t'.registry t'.arena := by
  -- a node that names nothing
  have pushed : ∀ {t : Traversal} {n : SchemaNode}, t.arena.Grounded → n.identifier? = none →
      gen.AllMade g due t.registry t.arena → gen.AllMade g due t.registry (t.arena.push n).2 :=
    fun ground none made => made.push inv ground fun i hi => by rw [none] at hi; cases hi
  cases h with
  | @leaf _ _ n events node =>
    exact pushed ht.ground (SchemaNode.isMadeOf_leafNode? node).identifier made
  | cut _ _ => exact ht.cut_made inv _ _ made
  | @collection _ _ t₁ ids n _ parts node _ =>
    have opened : (t.opened ty).Quiet g := ht.of_eq rfl rfl rfl (.refl _)
    exact pushed (parts.quiet opened).ground (SchemaNode.isMadeOf_collectionNode? node).identifier
      (parts.made step opened made)
  | @reference o _ i r events _ assigned _ =>
    have claimed := made.grows inv ht.ground (Registry.assign_spec assigned).1
    exact pushed (t := t.claimed ty i r events) ht.ground rfl claimed
  | @cutObject o _ i r events _ assigned _ _ =>
    have grows := (Registry.assign_spec assigned).1
    have quiet : (t.claimed ty i r events).Quiet g := ht.of_eq rfl rfl rfl grows
    exact quiet.cut_made inv _ _ (made.grows inv ht.ground grows)
  | @object o _ t₁ i r events ids assigned _ _ parts _ =>
    obtain ⟨grows, holds⟩ := Registry.assign_spec assigned
    have opened : (((t.claimed ty i r events).opened ty).reported
        (objectEvents gen d o)).Quiet g := ht.of_eq rfl rfl rfl grows
    have quiet := parts.quiet opened
    have before := parts.made step opened (made.grows inv ht.ground grows)
    have fields : Visits (nodeFor gen g levels)
        ((gen.keptFields o).map fun f => (f.type, some f)) _ ids t₁ := parts
    obtain ⟨length, each⟩ := fields.field_due inv opened
    have inside := (parts.grounded (nodeFor_grounded levels) opened.rests opened.ground).2
    -- once as the component, and once more to be used
    have object : ∀ i', (objectNode gen o i ids).identifier? = some i' →
        gen.Made g due t₁.registry t₁.arena ⟨t₁.arena.size⟩ (objectNode gen o i ids) i' := by
      rintro _ ⟨⟩
      exact ⟨ty, o, ids, known, holds.mono parts.returns.1.registry, rfl, length, inside, each⟩
    have component := before.push inv quiet.ground object
    refine component.push inv (quiet.ground.pushObject gen o i inside) fun i' hi => ?_
    obtain ⟨ty, o', ids', cls, holds, body, length, inside, each⟩ := object i' hi
    refine ⟨ty, o', ids', cls, holds, body, length, Arena.inside_push inside _, fun q hq => ?_⟩
    exact inv.stays quiet.ground (each q hq) fun _ _ _ hl => Arena.keeps_push _ _ hl

/-- A step leaves all objects made, given that the descent does. -/
theorem Step.made (inv : gen.FieldInvariant g due) {field? : Option Field}
    (known : g.describe? ty = some d) (h : Step gen g (nodeFor gen g levels) ty field? d t id t')
    (step : (nodeFor gen g levels).KeepsMade gen g due) (ht : t.Quiet g)
    (made : gen.AllMade g due t.registry t.arena) : gen.AllMade g due t'.registry t'.arena := by
  -- what is decorated is the last node or a stand-in
  have decorated : ∀ {t t' : Traversal} {id id' : NodeId}, t.Grounded id → Decorated t id t' id' →
      gen.AllMade g due t.registry t.arena → gen.AllMade g due t'.registry t'.arena := by
    rintro t t' id id' ⟨ground, outer⟩ ⟨dressed, _, rest⟩ made
    have registry : t'.registry = t.registry := by rw [rest]
    rw [registry]
    exact made.dressed inv ground outer dressed
  cases h with
  | wrapped _ part finish =>
    exact decorated (nodeFor_grounded _ _ _ _ _ _ part ht.rests ht.ground)
      (wrapNull_decorated finish) (step _ _ _ _ _ part ht made)
  | @overridden o _ _ _ _ _ finish =>
    have grounded : (t.pushed o.node).Grounded ⟨t.arena.size⟩ :=
      .pushed (ht.ground.pushMadeOf (SchemaNode.isMadeOf_override o) (.of_override o)
        fun c hc => by cases hc)
    exact decorated grounded (decorate_decorated finish)
      (made.push inv ht.ground fun i hi => by cases hi)
  | @expanded _ t₀ _ _ _ _ _ overrideless expansion finish =>
    have looked := overrideFor_none overrideless
    have quiet : t₀.Quiet g := ht.of_eq (by rw [looked]) (by rw [looked]) (by rw [looked])
      (by rw [looked]; exact .refl _)
    have same : gen.AllMade g due t₀.registry t₀.arena := by rw [looked]; exact made
    exact decorated (expansion.grounded (nodeFor_grounded levels) quiet.rests quiet.ground)
      (decorate_decorated finish) (expansion.made inv ⟨d, known, rfl⟩ step quiet same)

end

/-- **Objects stay made as they are due** while a type is built. -/
theorem nodeFor_made {due : FieldProperty} (inv : gen.FieldInvariant g due) (levels : Nat) :
    (nodeFor gen g levels).KeepsMade gen g due :=
  fun ty field? t id t' h => nodeFor_descent
    (P := fun _ _ t _ t' => t.Quiet g → gen.AllMade g due t.registry t.arena →
      gen.AllMade g due t'.registry t'.arena)
    (fun _ step _ _ _ _ _ _ known hs ht made => hs.made inv known step ht made)
    levels ty field? t id t' h

/-- **Every object of a generated schema is made of nodes of which the property of its fields is
true.** -/
theorem generate_made {due : FieldProperty} (inv : gen.FieldInvariant g due) {root : TypeId}
    {w w' : Workspace} {s : GeneratedSchema} (h : generate gen g root w = .ok s w') :
    s.arena.Grounded ∧ gen.AllMade g due w'.registry s.arena := by
  obtain ⟨t, hn, hs, rfl⟩ := generate_ok h
  have arena : s.arena = t.arena := by rw [hs]
  have quiet := nodeFor_quiet hn (Traversal.quiet_begin g w gen)
  rw [arena]
  exact ⟨quiet.ground, nodeFor_made inv _ _ _ _ _ _ hn (Traversal.quiet_begin g w gen)
    fun j n i hn => by simp [Workspace.begin, Arena.get?] at hn⟩

end TypeSchema
