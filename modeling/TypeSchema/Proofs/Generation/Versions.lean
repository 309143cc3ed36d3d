import Mathlib
import TypeSchema.Proofs.Generation.Assembly
import TypeSchema.Proofs.Generation.Examples
import TypeSchema.Proofs.Generation.Grounding
import TypeSchema.Proofs.Parallel
import TypeSchema.Proofs.Schema.Sampled

/-!
# Documents — the version and what is independent of it

The version of a document decides how null is written, and a wrapper that is written otherwise gives
other nodes, so from there on all nodes have other numbers.  Two generators that differ in their
version keep in step all the same (`Traversal.Mirrors`): they hold the same identifiers, open the
same types and cut off the same ones, and what one of them has recorded or built is sampled as what
the other one has.

Constraints are put on nodes that both generators have alike, as long as nullable wrappers have
none: what is decorated is the node of an expansion, and null comes last.  So the samples stay equal
(`nodeFor_mirrored`), and the documents have the same components with the same examples
(`generateDocument_withVersion`).
-/

namespace TypeSchema

open Build

/-- The generator for another version. -/
def Generator.withVersion (gen : Generator) (version : OpenApiVersion) : Generator :=
  { gen with config := { gen.config with version } }

/-- No nullable wrapper has constraints of its own. -/
def TypeGraph.PlainWrappers (g : TypeGraph) : Prop :=
  ∀ ty d inner, g.describe? ty = some d → d.shape = .nullable inner → d.constraints = []

/-! ### Decorating in both runs -/

/-- The nodes of two states are sampled alike, whatever both are decorated with. -/
structure Traversal.SampledLike (t : Traversal) (id : NodeId) (t' : Traversal) (id' : NodeId) :
    Prop where
  like : t.arena.SampledLike id t'.arena id'
  grounded : t.Grounded id
  grounded' : t'.Grounded id'

/-- Both actions decorate nodes that are sampled alike, and give such nodes. -/
def DecoratesAlike (id id' : NodeId) (x y : Build NodeId) : Prop :=
  Parallel (fun _ _ => True) (fun t t' => t.SampledLike id t' id')
    (fun j j' t t' => t.SampledLike j t' j') x y

section

variable {id id' : NodeId}

/-- Constraints are applied alike in both versions. -/
theorem decoratesAlike_annotate (patterns : PatternCheck) (member : String)
    (constraints : List Constraint) :
    DecoratesAlike id id' (annotate patterns id member constraints)
      (annotate patterns id' member constraints) :=
  .of_modifyGet fun _ _ ⟨like, grounded, grounded'⟩ =>
    ⟨like.annotate grounded.arena grounded'.arena patterns member constraints,
      grounded.dressed (Arena.annotate_dressed ..), grounded'.dressed (Arena.annotate_dressed ..)⟩

/-- Null is taken off alike, whatever the encoding. -/
theorem decoratesAlike_clear (encoding encoding' : NullEncoding) :
    DecoratesAlike id id' (applyNull encoding id false) (applyNull encoding' id' false) :=
  .of_modifyGet fun t t' ⟨like, grounded, grounded'⟩ =>
    ⟨like.clearNullFlag grounded.arena grounded'.arena,
      grounded.dressed (t.arena.applyNull_dressed encoding id false),
      grounded'.dressed (t'.arena.applyNull_dressed encoding' id' false)⟩

/-- An example is set alike, and is the sample from then on. -/
theorem decoratesAlike_setExample (v : Json) :
    Parallel (fun _ _ => True) (fun t t' => t.SampledLike id t' id')
      (fun _ _ t t' => t.SampledLike id t' id') (setExample id v) (setExample id' v) := by
  refine .of_modifyGet fun t t' h => ?_
  have shared' := h.like.isShared_eq
  simp only [shared']
  cases shared : t.arena.isShared id with
  | true => exact h
  | false =>
    rw [shared] at shared'
    obtain ⟨like, grounded, grounded'⟩ := h
    refine ⟨?_, grounded.dressed (.one (.mark (by simp [shared]) fun n => rfl)),
      grounded'.dressed (.one (.mark (by simp [shared']) fun n => rfl))⟩
    exact like.modify grounded.arena grounded'.arena (fun n => rfl) (fun n => rfl)
      fun n n' hk _ => ⟨hk, rfl⟩

theorem decoratesAlike_annotateField (patterns : PatternCheck) (field? : Option Field) :
    DecoratesAlike id id' (annotateField patterns id field?)
      (annotateField patterns id' field?) := by
  cases field? with
  | none => exact .of_pure fun _ _ h => h
  | some f =>
    refine (decoratesAlike_annotate patterns f.name f.constraints).bind fun id id' => ?_
    cases f.example? with
    | none => exact .of_pure fun _ _ h => h
    | some v => exact (decoratesAlike_setExample v).bind fun _ _ => .of_pure fun _ _ h => h

/-- A node is decorated alike in both versions. -/
theorem decoratesAlike_decorate (gen : Generator) (version : OpenApiVersion) (d : TypeDescriptor)
    (field? : Option Field) : DecoratesAlike id id' (decorate gen d field? id)
      (decorate (gen.withVersion version) d field? id') :=
  (decoratesAlike_annotate gen.patterns d.name d.constraints).bind fun _ _ =>
    (decoratesAlike_annotateField gen.patterns field?).bind fun _ _ => decoratesAlike_clear _ _

end

/-! ### Admitting null in one run -/

section

variable {gen : Generator} {g : TypeGraph} {d : TypeDescriptor} {id id' : NodeId}
  {t t' : Traversal}

theorem exists_wrapNull (gen : Generator) (d : TypeDescriptor) (id : NodeId) (t : Traversal) :
    ∃ id' t', wrapNull gen d id t = .ok id' t' := ⟨_, _, rfl⟩

/-- A wrapper without constraints is sampled as what it is put around. -/
theorem sample_wrapNull (free : d.constraints = []) (h : wrapNull gen d id t = .ok id' t')
    (grounded : t.Grounded id) (single : ¬ t.arena.isNull id) :
    t'.arena.sample id' = t.arena.sample id := by
  obtain ⟨id₁, t₁, annotated, admitted⟩ := bind_ok_iff.1 h
  rw [free] at annotated
  cases annotated
  cases admitted
  exact grounded.arena.sample_admitNull grounded.outermost single _

/-- What is built is not the schema of null. -/
theorem Expansion.not_isNull {descend : Descent} {ty : TypeId} {cls : Classification}
    (h : Expansion gen g descend ty d cls t id t') (rests : t.RestsOn t.arena) :
    ¬ t'.arena.isNull id := by
  have shared : ∀ {a : Arena} {id : NodeId}, a.isShared id → ¬ a.isNull id := by
    intro a id shared null
    obtain ⟨n, hn, kind⟩ := Arena.isNull_iff.1 null
    rw [Arena.isShared_eq hn] at shared
    simp [SchemaNode.isShared, kind] at shared
  have made : ∀ {a : Arena} {n : SchemaNode} {identifier? : Option String} {ids : List NodeId},
      n.IsMadeOf identifier? ids → ¬ (a.push n).2.isNull ⟨a.size⟩ := by
    intro a n identifier? ids made null
    obtain ⟨p, kind⟩ := made.primitive
    obtain ⟨m, hm, hk⟩ := Arena.isNull_iff.1 null
    rw [Arena.get?_push_self] at hm
    cases hm
    rw [kind] at hk
    cases hk
  cases h with
  | leaf node => exact made (SchemaNode.isMadeOf_leafNode? node)
  | cut _ _ => exact shared (rests.afterCut _ _).2
  | collection _ _ node _ => exact made (SchemaNode.isMadeOf_collectionNode? node)
  | reference _ _ =>
    exact shared (Arena.isShared_iff.2 ⟨_, Arena.get?_push_self _ _, rfl⟩)
  | @cutObject _ _ i r events _ _ _ _ =>
    have rests' : (t.claimed ty i r events).RestsOn t.arena := rests.of_eq rfl rfl rfl
    exact shared (rests'.afterCut _ _).2
  | @object o _ t₁ i _ _ ids _ _ _ _ _ =>
    have last := made (a := (t₁.arena.push (objectNode gen o i ids)).2)
      (SchemaNode.isMadeOf_objectNode gen o i ids)
    rwa [Arena.size_push] at last

/-- No type is built to a null node. -/
theorem nodeFor_not_isNull {levels : Nat} {ty : TypeId} {field? : Option Field}
    (h : nodeFor gen g levels ty field? t = .ok id t') (rests : t.RestsOn t.arena) :
    ¬ t'.arena.isNull id := by
  refine nodeFor_descent (P := fun _ _ t id t' => t.RestsOn t.arena → ¬ t'.arena.isNull id) ?_
    levels ty field? t id t' h rests
  intro levels step ty field? d t id t' _ hs rests
  cases hs with
  | wrapped _ part finish =>
    exact Arena.not_isNull_dressed (wrapNull_decorated finish).dressed (step _ _ _ _ _ part rests)
  | @overridden o _ _ _ _ _ finish =>
    refine Arena.not_isNull_dressed (decorate_decorated finish).dressed fun null => ?_
    obtain ⟨m, hm, kind⟩ := Arena.isNull_iff.1 null
    rw [Traversal.pushed, Arena.get?_push_self] at hm
    cases hm
    cases kind
  | @expanded _ t₀ _ _ _ _ _ plain expansion finish =>
    obtain ⟨-, rests₀⟩ := rests.looked plain
    exact Arena.not_isNull_dressed (decorate_decorated finish).dressed
      (expansion.not_isNull rests₀)

end

/-! ### Two runs -/

/-- The node is a placeholder and nothing else. -/
def Arena.HasPlaceholder (a : Arena) (id : NodeId) : Prop :=
  ∃ p, a.get? id = some { kind := .placeholder p }

/-- A placeholder stays where all stand-ins of an earlier arena stay. -/
theorem Arena.HasPlaceholder.moved {a a₁ b : Arena} {id : NodeId} (h : a.HasPlaceholder id)
    (shared : b.isShared id) (kept : b.Keeps a) (kept₁ : b.Keeps a₁) : a₁.HasPlaceholder id := by
  obtain ⟨p, hp⟩ := h
  obtain ⟨n, hn, -⟩ := Arena.isShared_iff.1 shared
  obtain rfl := Option.some.inj ((kept hn).symm.trans hp)
  exact ⟨p, kept₁ hn⟩

/-- The states of two runs hold, open and cut off the same, and what they have recorded is sampled
alike. -/
structure Traversal.Mirrors (t t' : Traversal) : Prop where
  registry : t'.registry = t.registry
  active : t'.guard.active = t.guard.active
  maxDepth : t'.guard.maxDepth = t.guard.maxDepth
  components : t'.components = t.components
  identifiers : t.identifiers.Related (fun c c' => t'.arena.sample c' = t.arena.sample c)
    t'.identifiers
  cuts : ∀ key, Option.Rel (fun c c' => t.arena.HasPlaceholder c ∧ t'.arena.HasPlaceholder c')
    (t.guard.placeholders.lookup key) (t'.guard.placeholders.lookup key)
  rests : t.RestsOn t.arena
  rests' : t'.RestsOn t'.arena
  ground : t.arena.Grounded
  ground' : t'.arena.Grounded

namespace Traversal.Mirrors

variable {g : TypeGraph} {t t' t₁ t₁' : Traversal}

/-- A type is cut in both versions for the same reason. -/
theorem cutReason?_eq (h : t.Mirrors t') (ty : TypeId) :
    t'.guard.cutReason? ty = t.guard.cutReason? ty := by
  rw [Guard.cutReason?, Guard.cutReason?, Guard.isExpanding, Guard.isExpanding, Guard.depth,
    Guard.depth, h.active, h.maxDepth]

/-- A change of the arenas that leaves alone what has to stay, and of the reports. -/
theorem moved (h : t.Mirrors t') {a a' : Arena} (base : t.RestsOn a) (base' : t'.RestsOn a')
    (same : t₁ = { t with arena := t₁.arena, events := t₁.events, refused := t₁.refused })
    (same' : t₁' = { t' with arena := t₁'.arena, events := t₁'.events, refused := t₁'.refused })
    (kept : a.Keeps t₁.arena) (kept' : a'.Keeps t₁'.arena) (ground : t₁.arena.Grounded)
    (ground' : t₁'.arena.Grounded) : t₁.Mirrors t₁' := by
  have identifiers : t₁.identifiers = t.identifiers := by rw [same]
  have identifiers' : t₁'.identifiers = t'.identifiers := by rw [same']
  have guard : t₁.guard = t.guard := by rw [same]
  have guard' : t₁'.guard = t'.guard := by rw [same']
  have rests : t₁.RestsOn a := ⟨kept, identifiers ▸ base.recorded, guard ▸ base.cuts⟩
  have rests' : t₁'.RestsOn a' := ⟨kept', identifiers' ▸ base'.recorded, guard' ▸ base'.cuts⟩
  refine ⟨by rw [same, same', h.registry], by rw [guard, guard', h.active],
    by rw [guard, guard', h.maxDepth], by rw [same, same', h.components], ?_, fun key => ?_,
    rests.here, rests'.here, ground, ground'⟩
  · rw [identifiers, identifiers']
    refine h.identifiers.imp_of_get? fun i c c' hc hc' sampled => ?_
    obtain ⟨n, hn, -⟩ := base.recorded i c hc
    obtain ⟨n', hn', -⟩ := base'.recorded i c' hc'
    rw [h.ground.sample_kept ground base.kept kept (Arena.lt_size_of_get? hn),
      h.ground'.sample_kept ground' base'.kept kept' (Arena.lt_size_of_get? hn'), sampled]
  · rw [guard, guard']
    have found := h.cuts key
    cases hc : t.guard.placeholders.lookup key <;> cases hc' : t'.guard.placeholders.lookup key <;>
      rw [hc, hc'] at found <;> cases found
    · exact .none
    · next both =>
      exact .some ⟨both.1.moved (base.cuts key _ hc) base.kept kept,
        both.2.moved (base'.cuts key _ hc') base'.kept kept'⟩

theorem reported (h : t.Mirrors t') (events events' : List DiagnosticEvent) :
    (t.reported events).Mirrors (t'.reported events') :=
  h.moved h.rests h.rests' rfl rfl (.refl _) (.refl _) h.ground h.ground'

/-- One more node keeps two traversals mirrored. -/
theorem pushed (h : t.Mirrors t') {n n' : SchemaNode} (ground : (t.arena.push n).2.Grounded)
    (ground' : (t'.arena.push n').2.Grounded) : (t.pushed n).Mirrors (t'.pushed n') :=
  h.moved h.rests h.rests' rfl rfl (Arena.keeps_push _ _) (Arena.keeps_push _ _) ground ground'

/-- Neither run finds an override. -/
theorem looked {gen : Generator} {ty : TypeId} {d : TypeDescriptor} {cls : Classification}
    (h : t.Mirrors t') (plain : overrideFor gen ty d cls t = .ok none t₁)
    (plain' : overrideFor gen ty d cls t' = .ok none t₁') : t₁.Mirrors t₁' := by
  rw [overrideFor_none plain, overrideFor_none plain']
  exact h.moved h.rests h.rests' rfl rfl (.refl _) (.refl _) h.ground h.ground'

/-- Nodes are decorated that nothing rests on. -/
theorem decorated (h : t.Mirrors t') {id id' id₁ id₁' : NodeId} (settled : t.Settled id)
    (settled' : t'.Settled id') (hd : Decorated t id t₁ id₁) (hd' : Decorated t' id' t₁' id₁')
    (ground : t₁.arena.Grounded) (ground' : t₁'.arena.Grounded) : t₁.Mirrors t₁' := by
  obtain ⟨a, base, apart⟩ := settled
  obtain ⟨a', base', apart'⟩ := settled'
  have kept := (base.decorated apart hd).1.kept
  have kept' := (base'.decorated apart' hd').1.kept
  obtain ⟨-, events, same⟩ := hd
  obtain ⟨-, events', same'⟩ := hd'
  exact h.moved base base' (by rw [same]) (by rw [same']) kept kept' ground ground'

/-- A change of the open types, the same in both runs. -/
theorem reopened (h : t.Mirrors t') (active : List TypeId) :
    ({ t with guard := { t.guard with active } }).Mirrors
      { t' with guard := { t'.guard with active } } where
  registry := h.registry
  active := rfl
  maxDepth := h.maxDepth
  components := h.components
  identifiers := h.identifiers
  cuts := h.cuts
  rests := h.rests.of_eq rfl rfl rfl
  rests' := h.rests'.of_eq rfl rfl rfl
  ground := h.ground
  ground' := h.ground'

theorem opened (h : t.Mirrors t') (ty : TypeId) : (t.opened ty).Mirrors (t'.opened ty) := by
  have opened := h.reopened (ty :: t.guard.active)
  rwa [Traversal.opened, Traversal.opened, h.active]

theorem closed (h : t.Mirrors t') : t.closed.Mirrors t'.closed := by
  have closed := h.reopened t.guard.active.tail
  rwa [Traversal.closed, Traversal.closed, h.active]

/-- The same identifier is claimed in both versions. -/
theorem claimed (h : t.Mirrors t') (ty : TypeId) (id : String) (r : Registry)
    (events events' : List DiagnosticEvent) :
    (t.claimed ty id r events).Mirrors (t'.claimed ty id r events') where
  registry := rfl
  active := h.active
  maxDepth := h.maxDepth
  components := by simp only [Traversal.claimed, h.components]
  identifiers := h.identifiers
  cuts := h.cuts
  rests := h.rests.of_eq rfl rfl rfl
  rests' := h.rests'.of_eq rfl rfl rfl
  ground := h.ground
  ground' := h.ground'

/-- Recorded objects have the same sample in both versions. -/
theorem recorded (h : t.Mirrors t') (identifier : String) {c c' : NodeId}
    (bare : t.arena.HasObject c {}) (bare' : t'.arena.HasObject c' {})
    (sampled : t'.arena.sample c' = t.arena.sample c) :
    (t.recorded identifier c).Mirrors (t'.recorded identifier c') where
  registry := h.registry
  active := h.active
  maxDepth := h.maxDepth
  components := h.components
  identifiers := h.identifiers.insertNew identifier sampled
  cuts := h.cuts
  rests := h.rests.recordedAs bare identifier
  rests' := h.rests'.recordedAs bare' identifier
  ground := h.ground
  ground' := h.ground'

/-- Both runs give a type its placeholder for a reason. -/
theorem cut (h : t.Mirrors t') (v : Visit) (reason : CutReason) :
    (t.cut v reason).2.Mirrors (t'.cut v reason).2 ∧
      (t.cut v reason).2.arena.HasPlaceholder (t.cut v reason).1 ∧
      (t'.cut v reason).2.arena.HasPlaceholder (t'.cut v reason).1 := by
  have found := h.cuts (v.type, reason)
  cases hc : t.guard.placeholders.lookup (v.type, reason) with
  | some c =>
    cases hc' : t'.guard.placeholders.lookup (v.type, reason) with
    | none => rw [hc, hc'] at found; cases found
    | some c' =>
      rw [hc, hc'] at found
      rw [cut_of_lookup hc, cut_of_lookup hc']
      cases found with
      | some both => exact ⟨h, both⟩
  | none =>
    cases hc' : t'.guard.placeholders.lookup (v.type, reason) with
    | some c' => rw [hc, hc'] at found; cases found
    | none =>
      obtain ⟨node, arena⟩ := cut_of_lookup_none hc
      obtain ⟨node', arena'⟩ := cut_of_lookup_none hc'
      have ground := h.ground.pushPlaceholder ⟨v.typeName, v.identifier?, reason⟩
      have ground' := h.ground'.pushPlaceholder ⟨v.typeName, v.identifier?, reason⟩
      have pushed := h.pushed ground ground'
      have last : (t.cut v reason).2.arena.HasPlaceholder (t.cut v reason).1 := by
        rw [node, arena]
        exact ⟨_, Arena.get?_push_self _ _⟩
      have last' : (t'.cut v reason).2.arena.HasPlaceholder (t'.cut v reason).1 := by
        rw [node', arena']
        exact ⟨_, Arena.get?_push_self _ _⟩
      refine ⟨⟨?_, ?_, ?_, ?_, ?_, fun key => ?_, (h.rests.afterCut v reason).1,
        (h.rests'.afterCut v reason).1, arena ▸ ground, arena' ▸ ground'⟩, last, last'⟩
      · rw [cut_eq t, cut_eq t', h.registry]
      · rw [cut_eq t, cut_eq t', h.active]
      · rw [cut_eq t, cut_eq t', h.maxDepth]
      · rw [cut_eq t, cut_eq t', h.components]
      · have identifiers : ∀ t : Traversal, (t.cut v reason).2.identifiers = t.identifiers :=
          fun t => by rw [cut_eq]
        rw [identifiers, identifiers, arena, arena']
        exact pushed.identifiers
      · rw [lookup_cut, lookup_cut]
        split
        · exact .some ⟨last, last'⟩
        · rw [arena, arena']
          exact pushed.cuts key

end Traversal.Mirrors

/-! ### Nodes made of parts that are sampled alike -/

section

variable {a a' : Arena}

/-- An object's fields have the samples that their nodes have. -/
theorem withFields_sampled {ids ids' : List NodeId}
    (sampled : List.Forall₂ (fun c c' => a'.sample c' = a.sample c) ids ids')
    (fields : List Field) (n n' : SchemaNode) (required : n'.required = n.required)
    (properties : n'.properties.mapValues a'.sample = n.properties.mapValues a.sample) :
    (n'.withFields (fields.zip ids')).required = (n.withFields (fields.zip ids)).required ∧
      (n'.withFields (fields.zip ids')).properties.mapValues a'.sample =
        (n.withFields (fields.zip ids)).properties.mapValues a.sample := by
  induction sampled generalizing fields n n' with
  | nil => cases fields <;> exact ⟨required, properties⟩
  | cons head _ ih =>
    cases fields with
    | nil => exact ⟨required, properties⟩
    | cons f rest =>
      refine ih rest _ _ ?_ ?_
      · simp only [required]
      · simp only [SortedMap.mapValues_insert, properties, head]

/-- Objects of parts with the same samples have the same sample. -/
theorem resamples_objectNode {ids ids' : List NodeId}
    (sampled : List.Forall₂ (fun c c' => a'.sample c' = a.sample c) ids ids') (gen : Generator)
    (o : ObjectShape) (i : String) :
    a.Resamples (objectNode gen o i ids) a' (objectNode gen o i ids') := by
  obtain ⟨required, properties⟩ := withFields_sampled sampled
    (keptFields gen.config.memberThreshold? (sortedFields o)).1 (.ofPrimitive .object)
    (.ofPrimitive .object) rfl rfl
  have node : ∀ ids, objectNode gen o i ids =
      { SchemaNode.ofPrimitive .object with
        properties := ((SchemaNode.ofPrimitive .object).withFields
          ((keptFields gen.config.memberThreshold? (sortedFields o)).1.zip ids)).properties
        required := ((SchemaNode.ofPrimitive .object).withFields
          ((keptFields gen.config.memberThreshold? (sortedFields o)).1.zip ids)).required
        identifier? := some i
        truncation? := (keptFields gen.config.memberThreshold? (sortedFields o)).2 } := by
    intro ids
    simp only [objectNode]
    rw [SchemaNode.withFields_eq]
  rw [node, node]
  exact Arena.resamples_of_primitive rfl (by rw [required]) properties rfl rfl

/-- So have collections. -/
theorem resamples_collectionNode? {ids ids' : List NodeId}
    (sampled : List.Forall₂ (fun c c' => a'.sample c' = a.sample c) ids ids')
    {cls : Classification} {n : SchemaNode} (node : cls.collectionNode? ids = some n) :
    ∃ n', cls.collectionNode? ids' = some n' ∧ a.Resamples n a' n' := by
  cases cls with
  | sequence element =>
    obtain _ | ⟨same, _ | _⟩ := sampled <;> cases node
    exact ⟨_, rfl, Arena.resamples_of_primitive rfl rfl rfl (congrArg some same) rfl⟩
  | map value =>
    obtain _ | ⟨same, _ | _⟩ := sampled <;> cases node
    exact ⟨_, rfl, Arena.resamples_of_primitive rfl rfl rfl rfl (congrArg some same)⟩
  | pair key value =>
    obtain _ | ⟨first, _ | ⟨second, _ | _⟩⟩ := sampled <;> cases node
    refine ⟨_, rfl, Arena.resamples_of_primitive rfl rfl ?_ rfl rfl⟩
    simp only [SortedMap.ofList, List.foldl_cons, List.foldl_nil, SortedMap.mapValues_insert,
      first, second]
    rfl
  | scalar _ | bytes | enumeration _ | nullable _ | object _ => cases node

end

/-! ### Steps in both runs -/

/-- What is built in one run is built in the other, with a node that is sampled alike. -/
def Descent.Mirrored (descend descend' : Descent) : Prop :=
  ∀ ⦃ty field? t id t₁ t'⦄, descend ty field? t = .ok id t₁ → t.Mirrors t' →
    ∃ id' t₁', descend' ty field? t' = .ok id' t₁' ∧ t₁.Mirrors t₁' ∧
      t₁'.arena.sample id' = t₁.arena.sample id

section

variable {gen : Generator} {g : TypeGraph} {version : OpenApiVersion} {levels : Nat} {ty : TypeId}
  {d : TypeDescriptor} {t t' t₁ : Traversal} {id : NodeId}

/-- Parts are visited in both versions, with nodes of the same samples. -/
theorem Visits.mirrored
    (step : (nodeFor gen g levels).Mirrored (nodeFor (gen.withVersion version) g levels))
    {parts : List (TypeId × Option Field)} {ids : List NodeId}
    (h : Visits (nodeFor gen g levels) parts t ids t₁) (ht : t.Mirrors t') :
    ∃ ids' t₁', Visits (nodeFor (gen.withVersion version) g levels) parts t' ids' t₁' ∧
      t₁.Mirrors t₁' ∧
      List.Forall₂ (fun c c' => t₁'.arena.sample c' = t₁.arena.sample c) ids ids' := by
  induction h generalizing t' with
  | nil => exact ⟨[], t', .nil t', ht, .nil⟩
  | cons head tail ih =>
    obtain ⟨id', t₂', head', ht₂, sampled⟩ := step head ht
    obtain ⟨ids', t₁', tail', ht₁, rest⟩ := ih ht₂
    refine ⟨id' :: ids', t₁', .cons head' tail', ht₁, .cons ?_ rest⟩
    -- the sample stays while the other parts are built
    have grounded := nodeFor_grounded _ _ _ _ _ _ head ht.rests ht.ground
    have grounded' := nodeFor_grounded _ _ _ _ _ _ head' ht.rests' ht.ground'
    rw [ht₂.ground.sample_kept ht₁.ground (.refl _) (tail.keeps (nodeFor_spares levels) ht₂.rests)
        grounded.outermost.lt_size,
      ht₂.ground'.sample_kept ht₁.ground' (.refl _)
        (tail'.keeps (nodeFor_spares levels) ht₂.rests') grounded'.outermost.lt_size]
    exact sampled

/-- Nodes that are sampled alike are added. -/
theorem Traversal.Mirrors.pushedAlike {n n' : SchemaNode} (ht : t.Mirrors t')
    (like : t.arena.Resamples n t'.arena n') (ground : (t.arena.push n).2.Grounded)
    (ground' : (t'.arena.push n').2.Grounded) :
    (t.pushed n).Mirrors (t'.pushed n') ∧
      (t.pushed n).arena.SampledLike ⟨t.arena.size⟩ (t'.pushed n').arena ⟨t'.arena.size⟩ :=
  ⟨ht.pushed ground ground', like.push ht.ground ht.ground' ground ground'⟩

/-- An expansion can be done in the other version, with a node sampled alike. -/
theorem Expansion.mirrored
    (step : (nodeFor gen g levels).Mirrored (nodeFor (gen.withVersion version) g levels))
    {cls : Classification} (h : Expansion gen g (nodeFor gen g levels) ty d cls t id t₁)
    (ht : t.Mirrors t') :
    ∃ id' t₁', Expansion (gen.withVersion version) g (nodeFor (gen.withVersion version) g levels)
        ty d cls t' id' t₁' ∧
      t₁.Mirrors t₁' ∧ t₁.arena.SampledLike id t₁'.arena id' := by
  cases h with
  | @leaf _ _ n events node =>
    have made := SchemaNode.isMadeOf_leafNode? node
    have bare := SchemaNode.IsBare.of_leafNode? node
    have pushed : ∀ {a : Arena}, a.Grounded → (a.push n).2.Grounded :=
      fun ground => ground.pushMadeOf made bare fun c hc => by cases hc
    have like : t.arena.Resamples n t'.arena n :=
      Arena.resamples_self fun c hc => by cases made.edges_subset hc
    obtain ⟨ht₁, sampled⟩ :=
      (ht.reported events events).pushedAlike like (pushed ht.ground) (pushed ht.ground')
    exact ⟨_, _, .leaf node, ht₁, sampled⟩
  | cut collection closed =>
    rw [← ht.cutReason?_eq] at closed
    obtain ⟨ht₁, ⟨p, node⟩, p', node'⟩ := ht.cut ⟨ty, d.name, none⟩ _
    exact ⟨_, _, .cut collection closed, ht₁, Arena.sampledLike_placeholder node node'⟩
  | @collection _ _ t₂ ids n opens parts node innermost =>
    obtain ⟨ids', t₂', parts', ht₂, sampled⟩ := parts.mirrored step (ht.opened ty)
    obtain ⟨n', node', like⟩ := resamples_collectionNode? sampled node
    rw [← ht.cutReason?_eq] at opens
    rw [← ht₂.active] at innermost
    have opened := ht.opened ty
    obtain ⟨ground, inside⟩ := parts.grounded (nodeFor_grounded levels) opened.rests opened.ground
    obtain ⟨ground', inside'⟩ :=
      parts'.grounded (nodeFor_grounded levels) opened.rests' opened.ground'
    have made := SchemaNode.isMadeOf_collectionNode? node
    have made' := SchemaNode.isMadeOf_collectionNode? node'
    obtain ⟨ht₁, sampled₁⟩ := ht₂.pushedAlike like
      (ground.pushMadeOf made (.of_collectionNode? node) inside)
      (ground'.pushMadeOf made' (.of_collectionNode? node') inside')
    exact ⟨_, _, .collection opens parts' node' innermost, ht₁.closed, sampled₁⟩
  | @reference o _ i r events target assigned expanded =>
    have claimed := ht.claimed ty i r events events
    obtain ⟨target', expanded', same⟩ := ht.identifiers.exists_right expanded
    rw [← ht.registry] at assigned
    obtain ⟨_, there, -⟩ := ht.rests.recorded i target expanded
    obtain ⟨_, there', -⟩ := ht.rests'.recorded i target' expanded'
    have like : t.arena.Resamples { kind := .reference ⟨d.name, i, target⟩ } t'.arena
        { kind := .reference ⟨d.name, i, target'⟩ } := Arena.resamples_reference same
    obtain ⟨ht₁, sampled⟩ := claimed.pushedAlike like
      (ht.ground.pushReference (Arena.lt_size_of_get? there))
      (ht.ground'.pushReference (Arena.lt_size_of_get? there'))
    exact ⟨_, _, .reference assigned expanded', ht₁, sampled⟩
  | @cutObject o _ i r events reason assigned fresh closed =>
    have claimed := ht.claimed ty i r events events
    have fresh' := ht.identifiers.get?_eq_none fresh
    rw [← ht.cutReason?_eq] at closed
    rw [← ht.registry] at assigned
    obtain ⟨ht₁, ⟨p, node⟩, p', node'⟩ := claimed.cut ⟨ty, d.name, some i⟩ reason
    exact ⟨_, _, .cutObject assigned fresh' closed, ht₁, Arena.sampledLike_placeholder node node'⟩
  | @object o _ t₂ i r events ids assigned fresh opens parts innermost =>
    have opened := ((ht.claimed ty i r events events).opened ty).reported (objectEvents gen d o)
      (objectEvents gen d o)
    obtain ⟨ids', t₂', parts', ht₂, sampled⟩ := parts.mirrored step opened
    have fresh' := ht.identifiers.get?_eq_none fresh
    rw [← ht.cutReason?_eq] at opens
    rw [← ht.registry] at assigned
    rw [← ht₂.active] at innermost
    obtain ⟨ground, inside⟩ := parts.grounded (nodeFor_grounded levels) opened.rests opened.ground
    obtain ⟨ground', inside'⟩ :=
      parts'.grounded (nodeFor_grounded levels) opened.rests' opened.ground'
    have like := resamples_objectNode sampled gen o i
    -- the component, which is added once more to be used
    have component := ground.pushObject gen o i inside
    have component' := ground'.pushObject gen o i inside'
    obtain ⟨ht₃, same⟩ := ht₂.pushedAlike like component component'
    have recorded := ht₃.recorded i (t₂.arena.hasObject_objectNode gen o i ids)
      (t₂'.arena.hasObject_objectNode gen o i ids') (same.sample_eq component component')
    obtain ⟨ht₁, copy⟩ := recorded.pushedAlike (like.pushed ground ground' component component')
      (component.pushObject gen o i (Arena.inside_push inside _))
      (component'.pushObject gen o i (Arena.inside_push inside' _))
    simp only [Traversal.recorded, Traversal.pushed, Arena.size_push] at copy
    exact ⟨_, _, .object assigned fresh' opens parts' innermost, ht₁.closed, copy⟩

/-- Nodes that are sampled alike are decorated with the same. -/
theorem Traversal.Mirrors.finished {id₁ id' : NodeId} (ht : t.Mirrors t')
    (like : t.arena.SampledLike id t'.arena id') (settled : t.Settled id)
    (settled' : t'.Settled id') (grounded : t.Grounded id) (grounded' : t'.Grounded id')
    {field? : Option Field} (finish : decorate gen d field? id t = .ok id₁ t₁)
    (version : OpenApiVersion) :
    ∃ id₁' t₁', decorate (gen.withVersion version) d field? id' t' = .ok id₁' t₁' ∧
      t₁.Mirrors t₁' ∧ t₁'.arena.sample id₁' = t₁.arena.sample id₁ := by
  have alike : t.SampledLike id t' id' := ⟨like, grounded, grounded'⟩
  obtain ⟨id₁', t₁', finish', alike₁⟩ :=
    (decoratesAlike_decorate gen version d field?).ok alike finish
  have ground := alike₁.grounded.arena
  have ground' := alike₁.grounded'.arena
  exact ⟨id₁', t₁', finish', ht.decorated settled settled' (decorate_decorated finish)
    (decorate_decorated finish') ground ground', alike₁.like.sample_eq ground ground'⟩

/-- A step can be done in the other version, to a node of the same sample: null is admitted
differently and is no sample. -/
theorem Step.mirrored (plain : g.PlainWrappers)
    (step : (nodeFor gen g levels).Mirrored (nodeFor (gen.withVersion version) g levels))
    {field? : Option Field} (known : g.describe? ty = some d)
    (h : Step gen g (nodeFor gen g levels) ty field? d t id t₁) (ht : t.Mirrors t') :
    ∃ id' t₁', Step (gen.withVersion version) g (nodeFor (gen.withVersion version) g levels)
        ty field? d t' id' t₁' ∧
      t₁.Mirrors t₁' ∧ t₁'.arena.sample id' = t₁.arena.sample id := by
  cases h with
  | @wrapped inner _ t₂ _ id₂ _ cls part finish =>
    -- null is written otherwise here: the nodes differ, and their samples are those of the part
    have free := plain ty d inner known (g.classify_eq_nullable_iff.1 cls)
    obtain ⟨id₂', t₂', part', ht₂, same⟩ := step part ht
    obtain ⟨id', t₁', finish'⟩ := exists_wrapNull (gen.withVersion version) d id₂' t₂'
    have grounded := nodeFor_grounded _ _ _ _ _ _ part ht.rests ht.ground
    have grounded' := nodeFor_grounded _ _ _ _ _ _ part' ht.rests' ht.ground'
    have hd := wrapNull_decorated finish
    have hd' := wrapNull_decorated finish'
    refine ⟨id', t₁', .wrapped cls part' finish', ?_, ?_⟩
    · exact ht₂.decorated (nodeFor_settled part ht.rests) (nodeFor_settled part' ht.rests') hd hd'
        (grounded.decorated hd).arena (grounded'.decorated hd').arena
    · calc t₁'.arena.sample id'
        _ = t₂'.arena.sample id₂' :=
          sample_wrapNull free finish' grounded' (nodeFor_not_isNull part' ht.rests')
        _ = t₂.arena.sample id₂ := same
        _ = t₁.arena.sample id :=
          (sample_wrapNull free finish grounded (nodeFor_not_isNull part ht.rests)).symm
  | @overridden o _ _ _ lookup cls finish =>
    have made := SchemaNode.isMadeOf_override o
    have pushed : ∀ {a : Arena}, a.Grounded → (a.push o.node).2.Grounded :=
      fun ground => ground.pushMadeOf made (.of_override o) fun c hc => by cases hc
    have like : t.arena.Resamples o.node t'.arena o.node :=
      Arena.resamples_self fun c hc => by cases made.edges_subset hc
    obtain ⟨ht₂, sampled⟩ := ht.pushedAlike like (pushed ht.ground) (pushed ht.ground')
    obtain ⟨id', t₁', finish', ht₁, same⟩ := ht₂.finished sampled (.pushed ht.rests _)
      (.pushed ht.rests' _) (.pushed (pushed ht.ground)) (.pushed (pushed ht.ground')) finish
      version
    exact ⟨id', t₁', .overridden lookup cls finish', ht₁, same⟩
  | @expanded _ t₀ t₂ _ id₂ _ cls looked expansion finish =>
    obtain ⟨t₀', looked'⟩ := exists_overrideFor_none looked t'
    have ht₀ := ht.looked looked looked'
    obtain ⟨id₂', t₂', expansion', ht₂, like⟩ := expansion.mirrored step ht₀
    have settled := expansion.settled (fun _ _ _ _ _ h => nodeFor_settled h) ht₀.rests
    have settled' := expansion'.settled (fun _ _ _ _ _ h => nodeFor_settled h) ht₀.rests'
    have grounded := expansion.grounded (nodeFor_grounded levels) ht₀.rests ht₀.ground
    have grounded' := expansion'.grounded (nodeFor_grounded levels) ht₀.rests' ht₀.ground'
    obtain ⟨id', t₁', finish', ht₁, same⟩ :=
      ht₂.finished like settled settled' grounded grounded' finish version
    exact ⟨id', t₁', .expanded cls looked' expansion' finish', ht₁, same⟩

end

/-- **What is built for one version is built for the other**, with a node that is sampled alike. -/
theorem nodeFor_mirrored (gen : Generator) {g : TypeGraph} (plain : g.PlainWrappers)
    (version : OpenApiVersion) (levels : Nat) :
    (nodeFor gen g levels).Mirrored (nodeFor (gen.withVersion version) g levels) := by
  induction levels with
  | zero => intro ty field? t id t₁ t' h; cases h
  | succ levels ih =>
    intro ty field? t id t₁ t' h ht
    obtain ⟨d, known, step⟩ := nodeStep_ok_iff.1 h
    obtain ⟨id', t₁', step', ht₁, same⟩ := step.mirrored plain ih known ht
    exact ⟨id', t₁', nodeStep_ok_iff.2 ⟨d, known, step'⟩, ht₁, same⟩

/-! ### Documents -/

/-- The same example, or none in either. -/
def Json.SameExample (j j' : Json) : Prop := j'.get? "example" = j.get? "example"

/-- The two versions begin alike. -/
theorem Traversal.mirrors_begin (gen : Generator) (version : OpenApiVersion) {w w' : Workspace}
    (same : w'.registry = w.registry) :
    (w.begin gen).Mirrors (w'.begin (gen.withVersion version)) where
  registry := same
  active := rfl
  maxDepth := rfl
  components := rfl
  identifiers := .empty
  cuts _ := .none
  rests := .begin w gen
  rests' := .begin w' _
  ground := Arena.grounded_empty
  ground' := Arena.grounded_empty

/-- What is sampled alike gets the same example, if the clock does not matter. -/
theorem Generator.exampleFor?_withVersion {gen : Generator} (steady : gen.Steady) {g : TypeGraph}
    {ty : TypeId} {s s' : GeneratedSchema} {node node' : NodeId} {version : OpenApiVersion}
    (there : ∃ n, s.arena.get? node = some n) (there' : ∃ n, s'.arena.get? node' = some n)
    (same : s'.arena.sample node' = s.arena.sample node) :
    (gen.withVersion version).exampleFor? g ty s' node' = gen.exampleFor? g ty s node := by
  obtain ⟨n, hn⟩ := there
  obtain ⟨n', hn'⟩ := there'
  have synthesized :
      (s'.arena.synthesize ((gen.withVersion version).deadline s'.arena node') node').1 =
        (s.arena.synthesize (gen.deadline s.arena node) node).1 := by
    rw [Arena.synthesize_of_steady hn (steady _ _),
      Arena.synthesize_of_steady hn' (by exact steady _ _), same]
    rfl
  unfold exampleFor?
  rw [synthesized]
  rfl

/-- Components whose nodes have the same sample get the same example. -/
theorem Generator.sameExample_withVersion {gen : Generator} (steady : gen.Steady) {g : TypeGraph}
    {ty : TypeId} {s s' : GeneratedSchema} {node node' : NodeId} {version : OpenApiVersion}
    (there : ∃ n, s.arena.get? node = some n) (there' : ∃ n, s'.arena.get? node' = some n)
    (bare : (s.arena.render node).get? "example" = none)
    (bare' : (s'.arena.render node').get? "example" = none)
    (same : s'.arena.sample node' = s.arena.sample node) :
    Json.SameExample (gen.component g ty s node)
      ((gen.withVersion version).component g ty s' node') :=
  calc ((gen.withVersion version).component g ty s' node').get? "example"
    _ = (gen.withVersion version).exampleFor? g ty s' node' := component_example bare'
    _ = gen.exampleFor? g ty s node := exampleFor?_withVersion steady there there' same
    _ = (gen.component g ty s node).get? "example" := (component_example bare).symm

/-- **Each generation has its mirror image in the other version**, up to how its schemas are
written. -/
theorem follows_withVersion (gen : Generator) {g : TypeGraph} (plain : g.PlainWrappers)
    (version : OpenApiVersion) :
    gen.Follows g (fun j j' => gen.Steady → Json.SameExample j j') (gen.withVersion version) := by
  intro ty w w' same s w₁ h
  obtain ⟨t, built, hs, rfl⟩ := generate_ok h
  obtain ⟨id', t', built', ht, sampled⟩ :=
    nodeFor_mirrored gen plain version _ built (Traversal.mirrors_begin gen version same)
  have h' := generate_of_ok built'
  obtain ⟨root, recorded⟩ := generate_exampleless h
  obtain ⟨root', recorded'⟩ := generate_exampleless h'
  rw [hs] at root recorded ⊢
  refine ⟨_, _, h', ⟨ht.components, fun ty steady => ?_, ?_⟩, ht.registry⟩
  · have grounded := nodeFor_grounded _ _ _ _ _ _ built (.begin w gen) Arena.grounded_empty
    have grounded' := nodeFor_grounded _ _ _ _ _ _ built' (.begin w' _) Arena.grounded_empty
    exact Generator.sameExample_withVersion steady (Arena.exists_get? grounded.outermost.lt_size)
      (Arena.exists_get? grounded'.outermost.lt_size) root root' sampled
  · refine ht.identifiers.imp_of_get? fun i node node' hi hi' same ty steady => ?_
    obtain ⟨n, hn, -⟩ := ht.rests.recorded i node hi
    obtain ⟨n', hn', -⟩ := ht.rests'.recorded i node' hi'
    exact Generator.sameExample_withVersion steady ⟨n, hn⟩ ⟨n', hn'⟩ (recorded i node hi)
      (recorded' i node' hi') same

/-- **The version decides how null is written, and nothing else.**  Two generators that differ in
their version build documents of the same roots, or neither does, from equal registries, if nullable
wrappers have no constraints of their own.  The documents have the same components and the
registries are equal.  If the budget lasts or is zero, each component has the same example in both
documents or none in either. -/
theorem generateDocument_withVersion (gen : Generator) {g : TypeGraph} (plain : g.PlainWrappers)
    (version : OpenApiVersion) (roots : List TypeId) {w w' : Workspace}
    (same : w'.registry = w.registry) :
    (Succeeds (generateDocument gen g roots) w ↔
      Succeeds (generateDocument (gen.withVersion version) g roots) w') ∧
    ∀ d w₁ d' w₁', generateDocument gen g roots w = .ok d w₁ →
      generateDocument (gen.withVersion version) g roots w' = .ok d' w₁' →
      d'.components.keys = d.components.keys ∧ w₁'.registry = w₁.registry ∧
        (gen.Steady → d'.components.mapValues (·.get? "example") =
          d.components.mapValues (·.get? "example")) := by
  -- the first generator is the second one for its own version
  have back : (gen.withVersion version).Follows g
      (fun j j' => (gen.withVersion version).Steady → Json.SameExample j j') gen :=
    follows_withVersion (gen.withVersion version) plain gen.config.version
  obtain ⟨both, agree⟩ :=
    documents_of_follows (follows_withVersion gen plain version) back roots same
  refine ⟨both, fun d w₁ d' w₁' h h' => ?_⟩
  obtain ⟨related, hr⟩ := agree d w₁ d' w₁' h h'
  exact ⟨related.keys_eq, hr, fun steady =>
    (related.imp fun _ _ same => same steady).mapValues_eq⟩

/-- An object with nullable members: a bounded text, itself, and an object that it has already. -/
def TypeGraph.account : TypeGraph := .ofTypes #[
  { identity := "Account", name := "Account",
    shape := .object { fields := [
      { name := "code", type := ⟨2⟩, constraints := [.maxLength 5] },
      { name := "home", type := ⟨4⟩, required := true },
      { name := "parent", type := ⟨3⟩ },
      { name := "work", type := ⟨5⟩ }] } },
  { identity := "Code", name := "Code", shape := .scalar .string, constraints := [.minLength 3] },
  { identity := "Code?", name := "Code?", shape := .nullable ⟨1⟩ },
  { identity := "Account?", name := "Account?", shape := .nullable ⟨0⟩ },
  { identity := "Place", name := "Place",
    shape := .object { fields := [{ name := "label", type := ⟨1⟩ }] } },
  { identity := "Place?", name := "Place?", shape := .nullable ⟨4⟩ }]

/-- A text gets a flag or stands in a union, and so do a placeholder and a reference, which need a
node of their own for the flag.  The examples are the same. -/
theorem generateDocument_withVersion_account :
    TypeGraph.account.PlainWrappers ∧
    ∃ d w d' w', generateDocument (.plain {}) .account [⟨0⟩] {} = .ok d w ∧
      generateDocument (Generator.withVersion (.plain {}) .v30) .account [⟨0⟩] {} = .ok d' w' ∧
      d.components.toList.map (fun e => (e.1, e.2.get? "example")) =
        [("Account", some (.object [("code", .string "strin"),
            ("home", .object [("label", .string "string")]), ("parent", .object []),
            ("work", .object [("label", .string "string")])])),
          ("Place", some (.object [("label", .string "string")]))] ∧
      ((d.components.get? "Account").bind (·.get? "properties")).bind (·.get? "work") =
        some (.object [("anyOf", .array [.object [("$ref", .string "#/components/schemas/Place")],
          .object [("type", .string "null")]])]) ∧
      ((d'.components.get? "Account").bind (·.get? "properties")).bind (·.get? "work") =
        some (.object [("allOf", .array [.object [("$ref", .string "#/components/schemas/Place")]]),
          ("nullable", .bool true)]) ∧
      d'.components.keys = d.components.keys ∧ w'.registry = w.registry ∧
      d'.components.mapValues (·.get? "example") = d.components.mapValues (·.get? "example") := by
  have plain : TypeGraph.account.PlainWrappers := by
    rintro ⟨_ | _ | _ | _ | _ | _ | n⟩ d inner known shape <;> cases known <;>
      first | rfl | cases shape
  have computed : Work.value? (do
      let d ← generateDocument (.plain {}) .account [⟨0⟩]
      return (d.components.toList.map (fun e => (e.1, e.2.get? "example")),
        ((d.components.get? "Account").bind (·.get? "properties")).bind (·.get? "work"))) {} =
      some ([("Account", some (.object [("code", .string "strin"),
            ("home", .object [("label", .string "string")]), ("parent", .object []),
            ("work", .object [("label", .string "string")])])),
          ("Place", some (.object [("label", .string "string")]))],
        some (.object [("anyOf", .array [.object [("$ref", .string "#/components/schemas/Place")],
          .object [("type", .string "null")]])])) := by cbv
  have computed' : Work.value? (do
      let d ← generateDocument (Generator.withVersion (.plain {}) .v30) .account [⟨0⟩]
      return ((d.components.get? "Account").bind (·.get? "properties")).bind (·.get? "work")) {} =
      some (some (.object [
        ("allOf", .array [.object [("$ref", .string "#/components/schemas/Place")]]),
        ("nullable", .bool true)])) := by cbv
  obtain ⟨d, w, h, hread⟩ := Work.ok_of_reading computed
  obtain ⟨examples, work⟩ := Prod.mk.inj hread
  obtain ⟨d', w', h', work'⟩ := Work.ok_of_reading computed'
  have same : ({} : Workspace).registry = ({} : Workspace).registry := rfl
  obtain ⟨keys, registry, agree⟩ :=
    (generateDocument_withVersion (.plain {}) plain .v30 [⟨0⟩] same).2 d w d' w' h h'
  exact ⟨plain, d, w, d', w', h, h', examples, work, work', keys, registry,
    agree (Generator.steady_plain {})⟩

end TypeSchema
