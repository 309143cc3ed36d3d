import Mathlib
import TypeSchema.Proofs.Generation.Grounding
import TypeSchema.Proofs.Schema.Fitting

/-!
# Generation — samples of generated schemas

What holds of each node when it is added, and of the nodes that decorating adds and changes, holds
of every node of a generated schema (`generate_all`).  So the parts of every node belong to its kind
(`generate_isShaped`), and where no example is declared and the only bounds are lengths of plain
texts, each node accepts its sample (`generate_accepts_sample`).
-/

namespace TypeSchema

open Build

variable {gen : Generator} {g : TypeGraph} {P : SchemaNode → Prop}

/-! ### Every node -/

/-- `P` holds of each node that an expansion or an override adds. -/
structure Generator.Adds (gen : Generator) (P : SchemaNode → Prop) : Prop where
  leaf : ∀ {d cls n events}, leafNode? gen d cls = some (n, events) → P n
  collection : ∀ {cls : Classification} {ids n}, cls.collectionNode? ids = some n → P n
  object : ∀ o i ids, P (objectNode gen o i ids)
  override : ∀ o : ScalarOverride, P o.node
  placeholder : ∀ p, P { kind := .placeholder p }
  reference : ∀ r, P { kind := .reference r }

/-- What holds of every node that is added holds after an expansion. -/
theorem Expansion.all (adds : gen.Adds P) {descend : Descent} {ty : TypeId} {d : TypeDescriptor}
    {cls : Classification} {t t' : Traversal} {id : NodeId}
    (h : Expansion gen g descend ty d cls t id t')
    (step : descend.Relates fun t t' => t.arena.All P → t'.arena.All P) (ht : t.arena.All P) :
    t'.arena.All P := by
  have visits : ∀ {parts t t' ids}, Visits descend parts t ids t' → t.arena.All P →
      t'.arena.All P :=
    fun hv => hv.relate (R := fun t t' => t.arena.All P → t'.arena.All P) (fun _ h => h)
      (fun h₁ h₂ h => h₂ (h₁ h)) step
  have cut : ∀ {t : Traversal} (v : Visit) (reason : CutReason), t.arena.All P →
      (t.cut v reason).2.arena.All P := by
    intro t v reason ht
    cases hl : t.guard.placeholders.lookup (v.type, reason) with
    | some id => rw [Traversal.cut_of_lookup hl]; exact ht
    | none => rw [(Traversal.cut_of_lookup_none hl).2]; exact ht.push (adds.placeholder _)
  cases h with
  | leaf node => exact ht.push (adds.leaf node)
  | cut _ _ => exact cut _ _ ht
  | collection _ parts node _ => exact (visits parts ht).push (adds.collection node)
  | reference _ _ => exact ht.push (adds.reference _)
  | @cutObject _ _ i r events _ _ _ _ => exact cut (t := t.claimed ty i r events) _ _ ht
  | object _ _ _ parts _ =>
    exact ((visits parts ht).push (adds.object _ _ _)).push (adds.object _ _ _)

/-- **What holds of the nodes that are added, and what decorating keeps, holds of every node.** -/
theorem nodeFor_all (adds : gen.Adds P) (decorable : Decorable P) {levels : Nat} {ty : TypeId}
    {field? : Option Field} {t t' : Traversal} {id : NodeId}
    (h : nodeFor gen g levels ty field? t = .ok id t') (ht : t.arena.All P) : t'.arena.All P := by
  refine nodeFor_induction (P := fun _ _ t _ t' => t.arena.All P → t'.arena.All P) ?_ levels ty
    field? t id t' h ht
  intro descend step ty field? d t id t' _ hs ht
  cases hs with
  | wrapped _ part finish =>
    exact (step _ _ _ _ _ part ht).dressed decorable (wrapNull_decorated finish).dressed
  | @overridden o _ _ _ _ _ finish =>
    exact (ht.push (adds.override o)).dressed decorable (decorate_decorated finish).dressed
  | @expanded _ t₀ _ _ _ _ _ plain expansion finish =>
    have ht₀ : t₀.arena.All P := by
      rw [overrideFor_none plain]
      exact ht
    exact (expansion.all adds step ht₀).dressed decorable (decorate_decorated finish).dressed

/-- **What holds of every node that is added, and survives decoration, holds of every generated
node.** -/
theorem generate_all (adds : gen.Adds P) (decorable : Decorable P) {root : TypeId}
    {w w' : Workspace} {s : GeneratedSchema} (h : generate gen g root w = .ok s w') :
    s.arena.All P := by
  obtain ⟨t, hn, hs, -⟩ := generate_ok h
  have none : (w.begin gen).arena.All P := by
    intro id n hn
    simp [Workspace.begin, Arena.get?] at hn
  rw [hs]
  exact nodeFor_all adds decorable hn none

/-! ### The shapes of the nodes that are added -/

namespace SchemaNode

theorem isShaped_ofPrimitive (p : PrimitiveType) (format? : Option String) :
    (ofPrimitive p format?).IsShaped :=
  .of_primitive rfl (fun v hv => by cases hv) fun c hc => by cases hc

/-- The literals of an enumeration are texts or integers, as its type says. -/
theorem isShaped_leafNode? {d : TypeDescriptor} {cls : Classification} {n : SchemaNode}
    {events : List DiagnosticEvent} (h : leafNode? gen d cls = some (n, events)) :
    n.IsShaped := by
  obtain ⟨p, _, _, _, rfl, typed⟩ := isPartless_leafNode? h
  exact .of_primitive rfl typed fun c hc => by cases hc

theorem isShaped_collectionNode? {cls : Classification} {ids : List NodeId} {n : SchemaNode}
    (h : cls.collectionNode? ids = some n) : n.IsShaped := by
  unfold Classification.collectionNode? at h
  split at h
  case h_1 => cases h; exact .of_primitive rfl (fun v hv => by cases hv) fun c hc => by cases hc
  case h_2 => cases h; exact .of_primitive rfl (fun v hv => by cases hv) fun c _ => rfl
  case h_3 => cases h; exact .of_primitive rfl (fun v hv => by cases hv) fun c hc => by cases hc
  case h_4 => cases h

theorem isShaped_objectNode (gen : Generator) (o : ObjectShape) (i : String)
    (ids : List NodeId) : (objectNode gen o i ids).IsShaped := by
  simp only [objectNode]
  rw [withFields_eq]
  exact .of_primitive rfl (fun v hv => by cases hv) fun c hc => by cases hc

end SchemaNode

/-- All nodes that a generator adds are shaped. -/
theorem Generator.adds_isShaped (gen : Generator) : gen.Adds SchemaNode.IsShaped where
  leaf := SchemaNode.isShaped_leafNode?
  collection := SchemaNode.isShaped_collectionNode?
  object := SchemaNode.isShaped_objectNode gen
  override _ := SchemaNode.isShaped_ofPrimitive _ _
  placeholder _ := .of_kind false (by simp) (by simp) (by simp)
  reference _ := .of_kind false (by simp) (by simp) (by simp)

/-- **The parts of every node of a generated schema belong to its kind.** -/
theorem generate_isShaped {root : TypeId} {w w' : Workspace} {s : GeneratedSchema}
    (h : generate gen g root w = .ok s w') : s.arena.All SchemaNode.IsShaped :=
  generate_all gen.adds_isShaped SchemaNode.decorable_isShaped h

/-! ### Samples -/

/-- **Every node accepts its sample**, where no example is declared and all bounds are lengths that
some text has.  A budget that lasts gives that sample, and no report. -/
theorem generate_accepts_sample {root : TypeId} {w w' : Workspace} {s : GeneratedSchema}
    (h : generate gen g root w = .ok s w') (plain : s.arena.All SchemaNode.OnlyLengths)
    {id : NodeId} {n : SchemaNode} (hn : s.arena.get? id = some n) {d : Deadline}
    (lasts : d.Lasts) : ∃ v, s.arena.synthesize d id = (some v, []) ∧ s.arena.Accepts id v := by
  obtain ⟨t, built, hs, -⟩ := generate_ok h
  have grounded : s.arena.Grounded := by
    rw [hs]
    exact (nodeFor_grounded _ _ _ _ _ _ built (.begin w gen) Arena.grounded_empty).arena
  exact ⟨s.arena.sample id, s.arena.synthesize_of_lasts id lasts,
    grounded.accepts_sample (generate_isShaped h) plain hn⟩

/-- Two objects that refer to each other and to themselves, with bounded texts, literals, a list and
a map. -/
def TypeGraph.team : TypeGraph := .ofTypes #[
  { identity := "Team", name := "Team",
    shape := .object { fields := [
      { name := "label", type := ⟨2⟩, required := true,
        constraints := [.length (some 8) (some 9)] },
      { name := "code", type := ⟨2⟩, constraints := [.maxLength 3] },
      { name := "lead", type := ⟨1⟩, required := true },
      { name := "members", type := ⟨4⟩ },
      { name := "parent", type := ⟨5⟩ }] } },
  { identity := "Member", name := "Member",
    shape := .object { fields := [
      { name := "role", type := ⟨3⟩ }, { name := "teams", type := ⟨6⟩ }] } },
  { identity := "String", name := "String", shape := .scalar .string },
  { identity := "Role", name := "Role",
    shape := .enumeration { members := [⟨"admin", 0⟩, ⟨"guest", 1⟩] } },
  { identity := "Member[]", name := "Member[]", shape := .array ⟨1⟩ },
  { identity := "Team?", name := "Team?", shape := .nullable ⟨0⟩ },
  { identity := "Dictionary<String, Team>", name := "Dictionary",
    shape := .collection .dictionary [⟨2⟩, ⟨0⟩] }]

/-- Texts are cut and padded to their bounds, the list has one item, the map one entry, and the
wrapped type comes before null. -/
theorem generate_accepts_sample_team :
    ∃ s w' v, generate (.plain {}) .team ⟨0⟩ {} = .ok s w' ∧
      s.arena.All SchemaNode.OnlyLengths ∧
      s.arena.synthesize defaultExampleBudget s.root = (some v, []) ∧ s.arena.Accepts s.root v ∧
      v.get? "label" = some (.string "stringxx") ∧ v.get? "code" = some (.string "str") := by
  have computed : Work.value? (do
      let s ← generate (.plain {}) .team ⟨0⟩
      return (decide (s.arena.All SchemaNode.OnlyLengths),
        (s.arena.sample s.root).get? "label", (s.arena.sample s.root).get? "code",
        (s.arena.get? s.root).isSome)) {} =
      some (true, some (.string "stringxx"), some (.string "str"), true) := by cbv
  obtain ⟨s, w', hs, hread⟩ := Work.ok_of_reading computed
  simp only [Prod.mk.injEq, decide_eq_true_eq] at hread
  obtain ⟨plain, label, code, there⟩ := hread
  obtain ⟨n, hn⟩ := Option.isSome_iff_exists.1 there
  have lasts : (Deadline.still defaultExampleBudget).Lasts := Deadline.lasts_still (by decide)
  obtain ⟨v, sampled, accepts⟩ := generate_accepts_sample hs plain hn lasts
  obtain rfl : s.arena.sample s.root = v :=
    Option.some.inj (congrArg Prod.fst ((s.arena.synthesize_of_lasts _ lasts).symm.trans sampled))
  exact ⟨s, w', _, hs, plain, sampled, accepts, label, code⟩

end TypeSchema
