import TypeSchema.Proofs.Generation.Objects
import TypeSchema.Proofs.Meaning.Lengths
import TypeSchema.Proofs.Schema.Sequences

/-!
# Generation — where the length bounds of a sequence end up

A field whose type is a sequence, possibly under nullable wrappers, takes the length bounds of the
sequence, of the field and of the wrappers, in this order.  The kind of the node that they are put
on decides how they are rendered.  Those on an array bound its items.  Those on a node around a
placeholder, because the sequence was cut off, and those on a union, because there is a wrapper
around a wrapper, are rendered as bounds of a text.

`nodeFor_spreads` says on which nodes the bounds are put, and `generate_lengths` what the schema of
such a property is.
-/

namespace TypeSchema

open Build

variable {gen : Generator} {g : TypeGraph}

/-! ### Sequences under wrappers -/

/-- The type is a sequence under nullable wrappers.  The descriptors are those of the wrappers, from
the outermost one on, and that of the sequence. -/
inductive TypeGraph.WrapsSequence (g : TypeGraph) :
    TypeId → List TypeDescriptor → TypeDescriptor → Prop where
  | bare {ty element : TypeId} {d : TypeDescriptor} (known : g.describe? ty = some d)
      (cls : g.classify d.shape = .sequence element) : WrapsSequence g ty [] d
  | wrapped {ty inner : TypeId} {w d : TypeDescriptor} {wrappers : List TypeDescriptor}
      (known : g.describe? ty = some w) (cls : g.classify w.shape = .nullable inner)
      (inside : WrapsSequence g inner wrappers d) : WrapsSequence g ty (w :: wrappers) d

/-- Wrappers without length bounds come to none. -/
theorem lengthBounds_flatMap {wrappers : List TypeDescriptor}
    (silent : ∀ w ∈ wrappers, lengthBounds w.constraints = {}) :
    lengthBounds (wrappers.flatMap (·.constraints)) = {} := by
  induction wrappers with
  | nil => rfl
  | cons w wrappers ih =>
    obtain ⟨first, rest⟩ := List.forall_mem_cons.1 silent
    rw [List.flatMap_cons, lengthBounds_append, ih rest, first]
    rfl

/-! ### Building the node of a sequence -/

/-- The constraints are spread over the node of the type as they are due, if the type is a sequence
under wrappers; `more` are those of the field that uses it. -/
def Generator.SpreadDue (gen : Generator) (g : TypeGraph) (a : Arena) (id : NodeId) (ty : TypeId)
    (more : List Constraint) : Prop :=
  ∀ wrappers d, g.WrapsSequence ty wrappers d → ∃ reason?,
    a.Spreads d.name reason? id (gen.config.nullEncoding.spread (d.constraints ++ more) wrappers)

namespace Traversal

variable {t t' : Traversal} {id id' : NodeId} {name : String} {reason? : Option CutReason}

theorem setExample_isSequence {constraints : List Constraint} {v : Json}
    (h : setExample id v t = .ok () t')
    (sequence : t.arena.IsSequence name reason? constraints id) :
    t'.arena.IsSequence name reason? constraints id := by
  cases h
  by_cases shared : t.arena.isShared id
  · simp only [if_pos shared]
    exact sequence
  · simp only [if_neg shared]
    exact sequence.modify shared (fun _ => rfl) fun _ _ carries => carries

/-- A field's constraints come after the constraints that the sequence has. -/
theorem annotateField_isSequence {patterns : PatternCheck} {constraints : List Constraint}
    {field? : Option Field} (h : annotateField patterns id field? t = .ok id' t')
    (sequence : t.arena.IsSequence name reason? constraints id) :
    t'.arena.IsSequence name reason? (constraints ++ field?.elim [] (·.constraints)) id' := by
  cases field? with
  | none =>
    cases h
    rw [Option.elim_none, List.append_nil]
    exact sequence
  | some f =>
    obtain ⟨id₁, t₁, ha, hr⟩ := bind_ok_iff.1 h
    cases ha
    have marked := sequence.annotate patterns f.name f.constraints
    cases he : f.example? with
    | none =>
      simp only [he] at hr
      cases hr
      exact marked
    | some v =>
      simp only [he] at hr
      obtain ⟨_, t₂, hs, hp⟩ := bind_ok_iff.1 hr
      cases hp
      exact setExample_isSequence hs marked

/-- A new node of a sequence takes the constraints of the type, and then those of the field. -/
theorem decorate_isSequence {d : TypeDescriptor} {field? : Option Field}
    (h : decorate gen d field? id t = .ok id' t')
    (sequence : t.arena.IsSequence name reason? [] id) :
    t'.arena.IsSequence name reason? (d.constraints ++ field?.elim [] (·.constraints)) id' := by
  obtain ⟨id₁, t₁, ha, hr⟩ := bind_ok_iff.1 h
  obtain ⟨id₂, t₂, hf, hn⟩ := bind_ok_iff.1 hr
  cases ha
  cases hn
  have marked := sequence.annotate gen.patterns d.name d.constraints
  exact (annotateField_isSequence hf marked).clearNullFlag

/-- A nullable type around a sequence adds its own constraints where the encoding puts them. -/
theorem wrapNull_spreads {w : TypeDescriptor} {s : Spread} (h : wrapNull gen w id t = .ok id' t')
    (spreads : t.arena.Spreads name reason? id s) :
    t'.arena.Spreads name reason? id' (s.wrapped gen.config.nullEncoding w) := by
  obtain ⟨id₁, t₁, ha, hn⟩ := bind_ok_iff.1 h
  cases ha
  cases hn
  exact spreads.wrapped gen.patterns gen.config.nullEncoding w

/-- The placeholder that a collection gets. -/
theorem Listed.afterCut_isCut {ty : TypeId} {d : TypeDescriptor} {reason : CutReason}
    (h : t.Listed g) (known : g.describe? ty = some d)
    (collection : (g.classify d.shape).isCollection) :
    (t.cut ⟨ty, d.name, none⟩ reason).2.arena.IsCut (t.cut ⟨ty, d.name, none⟩ reason).1
      ⟨d.name, none, reason⟩ := by
  have listed : (t.cut ⟨ty, d.name, none⟩ reason).2.Listed g :=
    h.afterCut (.collection known collection)
  have given : ((ty, reason), (t.cut ⟨ty, d.name, none⟩ reason).1) ∈
      (t.cut ⟨ty, d.name, none⟩ reason).2.guard.placeholders := by
    obtain ⟨before, after, table, -⟩ := List.lookup_eq_some_iff.1
      ((t.lookup_cut ⟨ty, d.name, none⟩ reason (ty, reason)).trans (if_pos rfl))
    rw [table]
    exact List.mem_append_right _ List.mem_cons_self
  obtain ⟨p, cut, rfl, stands⟩ := listed.cut _ _ _ given
  cases stands with
  | object known' cls _ =>
    cases known.symm.trans known'
    rw [cls] at collection
    cases collection
  | collection known' _ =>
    cases known.symm.trans known'
    exact cut

end Traversal

section

variable {levels : Nat} {ty : TypeId} {d : TypeDescriptor} {t t' : Traversal} {id : NodeId}

/-- The node of a sequence that is expanded, before it is decorated. -/
theorem Expansion.isSequence {descend : Descent} {element : TypeId}
    (known : g.describe? ty = some d) (cls : g.classify d.shape = .sequence element)
    (h : Expansion gen g descend ty d (.sequence element) t id t') (ht : t.Listed g) :
    ∃ reason?, t'.arena.IsSequence d.name reason? [] id := by
  cases h with
  | leaf node => cases node
  | cut _ _ =>
    exact ⟨_, .cut (ht.afterCut_isCut known (by rw [cls]; rfl)) rfl⟩
  | @collection _ _ t₁ ids n _ _ node _ =>
    rcases ids with _ | ⟨items, _ | _⟩ <;> cases node
    exact ⟨none, .array (t₁.arena.get?_push_self _) rfl (SchemaNode.carries_nil rfl)⟩

/-- A step spreads bounds over the nodes as they are due, given that the descent does. -/
theorem Step.spreads {field? : Option Field} (known : g.describe? ty = some d)
    (h : Step gen g (nodeFor gen g levels) ty field? d t id t')
    (step : ∀ ty field? t id t', nodeFor gen g levels ty field? t = .ok id t' → t.Quiet g →
      gen.SpreadDue g t'.arena id ty (field?.elim [] (·.constraints)))
    (ht : t.Quiet g) : gen.SpreadDue g t'.arena id ty (field?.elim [] (·.constraints)) := by
  intro wrappers d' wraps
  cases wraps with
  | bare known' sequence =>
    cases known.symm.trans known'
    cases h with
    | wrapped cls _ _ => rw [sequence] at cls; cases cls
    | overridden _ cls _ => rw [sequence] at cls; cases cls
    | @expanded _ t₀ _ _ _ _ _ plain expansion finish =>
      have looked : t₀.Listed g := by
        rw [overrideFor_none plain]
        exact ht.listed.mono rfl rfl (.refl _)
      rw [sequence] at expansion
      obtain ⟨reason?, made⟩ := expansion.isSequence known sequence looked
      exact ⟨reason?, Traversal.decorate_isSequence finish made⟩
  | wrapped known' nullable inside =>
    cases known.symm.trans known'
    cases h with
    | wrapped cls part finish =>
      cases nullable.symm.trans cls
      obtain ⟨reason?, spreads⟩ := step _ _ _ _ _ part ht _ _ inside
      exact ⟨reason?, Traversal.wrapNull_spreads finish spreads⟩
    | overridden _ cls _ => rw [nullable] at cls; cases cls
    | expanded cls _ _ _ => exact absurd nullable (cls _)

/-- **The constraints of a sequence, of the field that uses it and of the wrappers around it are
spread over its node.** -/
theorem nodeFor_spreads {field? : Option Field}
    (h : nodeFor gen g levels ty field? t = .ok id t') (ht : t.Quiet g) :
    gen.SpreadDue g t'.arena id ty (field?.elim [] (·.constraints)) :=
  nodeFor_descent (P := fun ty field? t id t' => t.Quiet g →
      gen.SpreadDue g t'.arena id ty (field?.elim [] (·.constraints)))
    (fun _ step _ _ _ _ _ _ known hs ht => hs.spreads known step ht) levels ty field? t id t' h ht

end

/-- The constraints of fields are spread over their nodes. -/
theorem fieldInvariant_spreadDue (gen : Generator) (g : TypeGraph) :
    gen.FieldInvariant g fun a id f => gen.SpreadDue g a id f.type f.constraints := by
  refine ⟨fun built ht => nodeFor_spreads built ht, fun ground due kept wrappers d wraps => ?_⟩
  obtain ⟨reason?, spreads⟩ := due wrappers d wraps
  exact ⟨reason?, spreads.stays ground kept⟩

/-! ### Rendering -/

namespace Json

/-- The schema of a sequence with constraints. -/
inductive ShowsSequence (name : String) (constraints : List Constraint) :
    Option CutReason → Json → Prop where
  /-- An array: the bounds are those of its items. -/
  | array {j : Json} (type : j.get? "type" = some (.string "array"))
      (lengths : j.Lengths {} (lengthBounds constraints)) : ShowsSequence name constraints none j
  /-- It was cut off: the bounds are those of a text. -/
  | around {j : Json} {reason : CutReason}
      (part : j.get? "allOf" = some (.array [standIn name reason]))
      (lengths : j.Lengths (lengthBounds constraints) {}) :
      ShowsSequence name constraints (some reason) j
  /-- It was cut off, and there are no constraints. -/
  | cut {reason : CutReason} (bare : constraints = []) :
      ShowsSequence name constraints (some reason) (standIn name reason)

/-- The schema of null. -/
def nullSchema : Json := .ofFields [("type", .string "null")]

/-- The schema of a sequence under wrappers.  The bounds of a union are those of a text. -/
def Shows (j : Json) (name : String) (reason? : Option CutReason) (s : Spread) : Prop :=
  match s.outer? with
  | none => j.ShowsSequence name s.inner reason?
  | some outer => ∃ part, j.get? "anyOf" = some (.array [part, nullSchema]) ∧
      j.Lengths (lengthBounds outer) {} ∧ part.ShowsSequence name s.inner reason?

/-- The bounds are those of items, of the schema or of what there is beside null, and a text has
none. -/
def BoundsItems (j : Json) (b : LengthBounds) : Prop :=
  j.Lengths {} b ∨ ∃ part, j.get? "anyOf" = some (.array [part, nullSchema]) ∧ j.Lengths {} {} ∧
    part.Lengths {} b

/-- The bounds are those of items unless the sequence was cut off. -/
theorem ShowsSequence.lengths {name : String} {constraints : List Constraint}
    {reason? : Option CutReason} {j : Json} (h : j.ShowsSequence name constraints reason?) :
    if reason?.isSome then j.Lengths (lengthBounds constraints) {}
    else j.Lengths {} (lengthBounds constraints) := by
  cases h with
  | array _ lengths => exact lengths
  | around _ lengths => exact lengths
  | cut bare =>
    rw [bare]
    exact lengths_standIn _ _

/-- A sequence that is not cut off has all bounds on its items, unless a union has some. -/
theorem Shows.boundsItems {j : Json} {name : String} {enc : NullEncoding} {own : List Constraint}
    {wrappers : List TypeDescriptor} (h : j.Shows name none (enc.spread own wrappers))
    (silent : enc = .union → ∀ w ∈ wrappers.dropLast, lengthBounds w.constraints = {}) :
    j.BoundsItems (lengthBounds (own ++ wrappers.reverse.flatMap (·.constraints))) := by
  cases enc with
  | flag =>
    rw [NullEncoding.spread_flag] at h
    exact .inl (ShowsSequence.lengths h)
  | union =>
    rcases List.eq_nil_or_concat wrappers with rfl | ⟨outer, innermost, rfl⟩
    · rw [List.reverse_nil, List.flatMap_nil, List.append_nil]
      exact .inl (ShowsSequence.lengths h)
    · rw [List.concat_eq_append] at h silent ⊢
      rw [NullEncoding.spread_union] at h
      rw [List.dropLast_concat] at silent
      have none : lengthBounds (outer.reverse.flatMap (·.constraints)) = {} :=
        lengthBounds_flatMap fun w hw => silent rfl w (List.mem_reverse.1 hw)
      obtain ⟨part, beside, bounds, sequence⟩ := h
      rw [none] at bounds
      rw [List.reverse_append, List.reverse_singleton, List.singleton_append, List.flatMap_cons,
        ← List.append_assoc, lengthBounds_append, none, Option.none_or, Option.none_or]
      exact .inr ⟨part, beside, bounds, sequence.lengths⟩

end Json

namespace Arena

variable {a : Arena} {name : String} {reason? : Option CutReason} {id : NodeId}

/-- A sequence's node is rendered with the bounds of its constraints. -/
theorem IsSequence.shows (ranked : a.Ranked) {constraints : List Constraint}
    (h : a.IsSequence name reason? constraints id) :
    (a.render id).ShowsSequence name constraints reason? := by
  cases h with
  | @array _ n _ node kind carries =>
    rw [ranked.render_eq node]
    have lengths := n.lengths_render (by simp [SchemaNode.isShared, kind]) a.render
    rw [if_pos (by simp [SchemaNode.primitive?, kind]), carries] at lengths
    exact .array (SchemaNode.get?_kind (by simp) (by simp only [SchemaNode.render, kind]; rfl))
      lengths
  | @around _ part n m reason _ node kind carries standIn cut =>
    rw [ranked.render_eq node]
    have lengths := n.lengths_render (by simp [SchemaNode.isShared, kind]) a.render
    rw [if_neg (by simp [SchemaNode.primitive?, kind]), carries] at lengths
    have shown : a.render part = .standIn name reason := by
      rw [ranked.render_eq standIn, SchemaNode.render_standIn cut]
    refine .around (SchemaNode.get?_kind (by simp) ?_) lengths
    simp only [SchemaNode.render, kind, List.map_cons, List.map_nil, shown]
  | cut standIn cut =>
    rw [ranked.render_eq standIn, SchemaNode.render_standIn cut]
    exact .cut rfl

/-- Nodes over which bounds are spread are rendered with each bound at its place. -/
theorem Spreads.shows (ranked : a.Ranked) {s : Spread} (h : a.Spreads name reason? id s) :
    (a.render id).Shows name reason? s := by
  obtain ⟨inner, _ | outer⟩ := s
  · exact IsSequence.shows ranked h
  · obtain @⟨n, part, other, node, kind, carries, sequence, null⟩ := h
    have lengths := n.lengths_render (by simp [SchemaNode.isShared, kind]) a.render
    rw [if_neg (by simp [SchemaNode.primitive?, kind]), carries] at lengths
    rw [ranked.render_eq node]
    refine ⟨a.render part, SchemaNode.get?_kind (by simp) ?_, lengths, sequence.shows ranked⟩
    have shown : a.render other = .nullSchema := by rw [ranked.render_eq null]; rfl
    simp only [SchemaNode.render, kind, List.map_cons, List.map_nil, shown]

end Arena

/-! ### Generations -/

/-- **The schema of a field whose type is a sequence under wrappers.**  If the sequence is not cut
off, and with unions no wrapper around a wrapper has a length bound, it is that of the items with
all bounds that are declared. -/
def Generator.ShowsLengths (gen : Generator) (g : TypeGraph) (f : Field) (j : Json) : Prop :=
  ∀ wrappers d, g.WrapsSequence f.type wrappers d → ∃ reason?,
    j.Shows d.name reason?
      (gen.config.nullEncoding.spread (d.constraints ++ f.constraints) wrappers) ∧
    (reason? = none → (gen.config.nullEncoding = .union →
        ∀ w ∈ wrappers.dropLast, lengthBounds w.constraints = {}) →
      j.BoundsItems (lengthBounds
        (d.constraints ++ f.constraints ++ wrappers.reverse.flatMap (·.constraints))))

/-- A field whose bounds are spread as they are due shows them in its rendered schema. -/
theorem Generator.SpreadDue.showsLengths {a : Arena} {id : NodeId} {f : Field}
    (h : gen.SpreadDue g a id f.type f.constraints) (ranked : a.Ranked) :
    gen.ShowsLengths g f (a.render id) := by
  intro wrappers d wraps
  obtain ⟨reason?, spreads⟩ := h wrappers d wraps
  have seen := spreads.shows ranked
  exact ⟨reason?, seen, fun whole silent => (whole ▸ seen).boundsItems silent⟩

/-- **The length bounds of sequences**: every property of an object that is expanded shows those
of the field that counts where they were put. -/
theorem generate_lengths {root : TypeId} {w w' : Workspace} {s : GeneratedSchema}
    (h : generate gen g root w = .ok s w') {j : NodeId} {n : SchemaNode} {i : String}
    (hn : s.arena.get? j = some n) (identifier : n.identifier? = some i) :
    ∃ ty o, g.HasClass ty (.object (some o)) ∧ g.Holds w'.registry ty i ∧
      ∀ name, Option.Rel (fun f c => gen.ShowsLengths g f (s.arena.render c))
        (gen.keptField? o name) (n.properties.get? name) := by
  obtain ⟨ground, made⟩ := generate_made (fieldInvariant_spreadDue gen g) h
  obtain ⟨ty, o, cls, holds, due⟩ := (made j n i hn identifier).property
  refine ⟨ty, o, cls, holds, fun name => ?_⟩
  have rel := due name
  generalize gen.keptField? o name = f?, n.properties.get? name = c? at rel ⊢
  cases rel with
  | none => exact .none
  | some spread => exact .some (spread.showsLengths ground.ranked)

/-- An object with one field, a sequence with at most three items. -/
def TypeGraph.bounded : TypeGraph := .ofTypes #[
  { identity := "String", name := "String", shape := .scalar .string },
  { identity := "Array<String>", name := "Array", shape := .array ⟨0⟩ },
  { identity := "A", name := "A",
    shape := .object {
      fields := [{ name := "tags", type := ⟨1⟩, constraints := [.maxLength 3] }] } }]

theorem TypeGraph.hasClass_bounded {ty : TypeId} {o : ObjectShape}
    (h : TypeGraph.bounded.HasClass ty (.object (some o))) :
    o.fields = [{ name := "tags", type := ⟨1⟩, constraints := [.maxLength 3] }] := by
  obtain ⟨d, known, cls⟩ := h
  obtain ⟨index⟩ := ty
  rcases index with _ | _ | _ | index
  all_goals cases known
  all_goals cases cls
  rfl

theorem TypeGraph.wrapsSequence_bounded : TypeGraph.bounded.WrapsSequence ⟨1⟩ []
    { identity := "Array<String>", name := "Array", shape := .array ⟨0⟩ } :=
  .bare rfl rfl

/-- The field that counts. -/
theorem TypeGraph.keptField?_bounded {config : Config} (unlimited : config.memberThreshold? = none)
    {ty : TypeId} {o : ObjectShape} (h : TypeGraph.bounded.HasClass ty (.object (some o))) :
    Generator.keptField? (.plain config) o "tags" =
      some { name := "tags", type := ⟨1⟩, constraints := [.maxLength 3] } := by
  rw [Generator.keptField?_of_complete (by simp only [Generator.plain, unlimited]; rfl),
    hasClass_bounded h]
  rfl

/-- It has at most three items. -/
theorem generate_lengths_bounded :
    ∃ s w' n c, generate (.plain {}) .bounded ⟨2⟩ {} = .ok s w' ∧
      s.arena.get? s.root = some n ∧ n.properties.get? "tags" = some c ∧
      (s.arena.render c).BoundsItems ⟨none, some 3⟩ := by
  have computed : Work.value? (do
      let s ← generate (.plain {}) .bounded ⟨2⟩
      return (s.arena.get? s.root).map fun n => (n.identifier?, (n.properties.get? "tags").map
        fun c => (s.arena.render c).get? "allOf")) {} =
      some (some (some "A", some none)) := by cbv
  obtain ⟨s, w', hs, hread⟩ := Work.ok_of_reading computed
  obtain ⟨n, hn, hn'⟩ := Option.map_eq_some_iff.1 hread
  obtain ⟨identifier, hread⟩ := Prod.mk.inj hn'
  obtain ⟨c, hc, whole⟩ := Option.map_eq_some_iff.1 hread
  obtain ⟨ty, o, cls, -, due⟩ := generate_lengths hs hn identifier
  have rel := due "tags"
  rw [hc, TypeGraph.keptField?_bounded rfl cls] at rel
  cases rel with
  | some seen =>
    obtain ⟨reason?, sequence, items⟩ := seen _ _ TypeGraph.wrapsSequence_bounded
    refine ⟨s, w', n, c, hs, hn, hc, items ?_ fun _ w hw => by cases hw⟩
    -- it is not around a placeholder
    generalize s.arena.render c = j at sequence whole
    cases sequence with
    | array _ _ => rfl
    | around part _ => rw [whole] at part; cases part
    | cut bare => cases bare

/-- If the sequence is cut off, the greatest number of its items is rendered as the greatest length
of a text. -/
theorem not_generate_lengths :
    ¬ ∀ (gen : Generator) (g : TypeGraph) (root : TypeId) (s : GeneratedSchema) (w' : Workspace),
      generate gen g root {} = .ok s w' →
      ∀ j n i, s.arena.get? j = some n → n.identifier? = some i →
        ∃ ty o, g.HasClass ty (.object (some o)) ∧ g.Holds w'.registry ty i ∧
          ∀ name f c, gen.keptField? o name = some f → n.properties.get? name = some c →
            ∀ wrappers d, g.WrapsSequence f.type wrappers d →
              (s.arena.render c).BoundsItems (lengthBounds
                (d.constraints ++ f.constraints ++ wrappers.reverse.flatMap (·.constraints))) := by
  intro h
  have computed : Work.value? (do
      let s ← generate (.plain { maxDepth := 1 }) .bounded ⟨2⟩
      return (s.arena.get? s.root).map fun n => (n.identifier?, (n.properties.get? "tags").map
        fun c => ((s.arena.render c).get? "anyOf", (s.arena.render c).get? "maxLength"))) {} =
      some (some (some "A", some (none, some (Json.ofNat 3)))) := by cbv
  obtain ⟨s, w', hs, hread⟩ := Work.ok_of_reading computed
  obtain ⟨n, hn, hn'⟩ := Option.map_eq_some_iff.1 hread
  obtain ⟨identifier, hread⟩ := Prod.mk.inj hn'
  obtain ⟨c, hc, rendered⟩ := Option.map_eq_some_iff.1 hread
  obtain ⟨single, text⟩ := Prod.mk.inj rendered
  obtain ⟨ty, o, cls, -, all⟩ := h _ _ _ s w' hs s.root n "A" hn identifier
  rcases all "tags" _ c (TypeGraph.keptField?_bounded rfl cls) hc _ _
    TypeGraph.wrapsSequence_bounded with bounds | ⟨part, beside, -⟩
  · have none := bounds.maxLength
    rw [text] at none
    cases none
  · rw [single] at beside
    cases beside

end TypeSchema
