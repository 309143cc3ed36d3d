import TypeSchema.Proofs.Generation.Once
import TypeSchema.Proofs.Generation.Recorded
import TypeSchema.Proofs.Generation.Resolution
import TypeSchema.Proofs.Meaning.Keywords

/-!
# Documents — the components and the identifiers that are held

A type is given its identifier in two places: a root before it is generated, and an object when it
is met, whether it is expanded then or not.  Either way the component is there in the end: a root
supplies it itself, and an object is noted, so that it is expanded, or queued and generated later.
Beginning with an empty registry a document therefore has exactly the components whose identifiers
are held (`generateDocument_identifiers`).

The node of an object with a list of members names its component, at the root of a generation
(`generate_root`) as well as where it is recorded.  An object without such a list is a leaf, and its
component does not say which one it is (`not_generateDocument_identifiers`).
-/

namespace TypeSchema

open Build

variable {gen : Generator} {g : TypeGraph}

/-! ### Identifiers that are new -/

namespace Traversal

/-- Nothing is forgotten, and what is held only since is noted. -/
structure NotesHeld (t t' : Traversal) : Prop where
  grows : t.Grows t'
  held : ∀ identity i, t'.registry.lookup? identity = some i →
    t.registry.lookup? identity = some i ∨ t'.components.contains i

/-- With the registry as it was the notes that were held are held. -/
theorem NotesHeld.of_eq {t t' : Traversal} (grows : t.Grows t')
    (registry : t'.registry = t.registry) : t.NotesHeld t' :=
  ⟨grows, fun _ _ h => .inl (registry ▸ h)⟩

/-- Every action notes the identifiers that it assigns. -/
theorem keptByActions_notesHeld (g : TypeGraph) : KeptByActions g NotesHeld where
  refl t := .of_eq (.refl t) rfl
  trans h₁ h₂ := by
    refine ⟨h₁.grows.trans h₂.grows, fun identity i h => ?_⟩
    rcases h₂.held identity i h with h | h
    · refine (h₁.held identity i h).imp_right fun hc => ?_
      obtain ⟨ty, hty⟩ := SortedMap.contains_iff.1 hc
      exact SortedMap.contains_iff.2 ⟨ty, h₂.grows.components hty⟩
    · exact .inr h
  aside _ hr hc hi _ := .of_eq (.of_eq hr hc hi) hr
  pushed t n := .of_eq (Returns.pushed t n).1 rfl
  decorated hd := .of_eq hd.grows (by obtain ⟨-, _, hr⟩ := hd; rw [hr])
  claimed {t ty i r events} ha := by
    refine ⟨.claimed ha, fun identity i' h => (Registry.lookup?_of_assign ha h).imp_right ?_⟩
    rintro rfl
    exact Linked.contains_claimed t ty _ r events
  recorded t i node := .of_eq (.recorded t i node) rfl
  cut {t v} reason _ := .of_eq (.cut t v reason) (by rw [cut_eq])

end Traversal

/-- What is held after a generation was held before or is noted by it. -/
theorem generate_held {root : TypeId} {w w' : Workspace} {s : GeneratedSchema}
    (h : generate gen g root w = .ok s w') {identity i : String}
    (holds : w'.registry.lookup? identity = some i) :
    w.registry.lookup? identity = some i ∨ s.components.contains i := by
  obtain ⟨t, hn, hs, rfl⟩ := generate_ok h
  rw [hs]
  exact (nodeFor_relates (Traversal.keptByActions_notesHeld g) hn).held identity i holds

/-! ### Nodes that name a component -/

/-- The node has a primitive type and names the component. -/
def Arena.Names (a : Arena) (id : NodeId) (i : String) : Prop :=
  ∃ n p, a.get? id = some n ∧ n.kind = .primitive p ∧ n.identifier? = some i

/-- A node that names a component is rendered with its identifier. -/
theorem SchemaNode.identifier_render {n : SchemaNode} {p : PrimitiveType}
    (kind : n.kind = .primitive p) {i : String} (identifier : n.identifier? = some i)
    (child : NodeId → Json) : (n.render child).get? "x-schema-id" = some (.string i) := by
  simp only [render, kind]
  refine (Json.get?_ofFields (n.nodup_keys child (by decide) _)).2 (List.mem_cons_of_mem _ ?_)
  simp [keywordFields, Json.mem_optionalField, identifier]

/-- A component that a node supplies bears the identifier that the node has. -/
theorem GeneratedSchema.Supplies.names {s : GeneratedSchema} {node : NodeId} {j : Json}
    (h : s.Supplies node j) {i : String} (names : s.arena.Names node i) :
    j.get? "x-schema-id" = some (.string i) := by
  obtain ⟨n, p, hn, kind, identifier⟩ := names
  have rendered : (s.arena.render node).get? "x-schema-id" = some (.string i) := by
    obtain ⟨levels, hlevels⟩ := Nat.exists_eq_add_of_lt (Arena.lt_size_of_get? hn)
    simp only [Arena.render, hlevels, Arena.renderTo, hn]
    exact SchemaNode.identifier_render kind identifier _
  rcases h with rfl | ⟨v, rfl⟩
  · exact rendered
  · rw [Json.get?_withDefault (by decide), rendered]

/-- Without a field, decorating a node that stands for itself changes its keywords and its flag for
null at most. -/
theorem decorate_own {d : TypeDescriptor} {id id' : NodeId} {t t' : Traversal} {n : SchemaNode}
    (hn : t.arena.get? id = some n) (own : ¬ n.isShared)
    (h : decorate gen d none id t = .ok id' t') :
    ∃ n', t'.arena.get? id' = some n' ∧ n.SameBody n' := by
  obtain ⟨id₁, t₁, ha, h⟩ := bind_ok_iff.1 h
  obtain ⟨id₂, t₂, hf, hn'⟩ := bind_ok_iff.1 h
  cases hf
  obtain ⟨rfl, n₁, hn₁, same⟩ : id₁ = id ∧ ∃ n₁, t₁.arena.get? id = some n₁ ∧ n.SameBody n₁ := by
    have h₁ := Arena.annotate_own hn own gen.patterns d.name d.constraints
    cases ha
    exact ⟨h₁.1, _, h₁.2, rfl⟩
  have unshared : ¬ t₁.arena.isShared id₁ := by
    rw [Arena.isShared_eq hn₁, same]
    exact own
  cases hn'
  simp only [Arena.clearNullFlag, unshared]
  exact ⟨{ n₁ with nullable := false }, by simp [Arena.get?_modify, hn₁], same.trans rfl⟩

/-- An object with members that is built before anything is open or recorded names its component. -/
theorem nodeFor_names {levels : Nat} {ty : TypeId} {t t' : Traversal} {id : NodeId}
    (members : gen.ExpandsMembers g ty) (h : nodeFor gen g levels ty none t = .ok id t')
    (opens : t.guard.cutReason? ty = none) (fresh : ∀ i, t.identifiers.get? i = none) :
    ∃ i, t'.arena.Names id i ∧ g.Holds t'.registry ty i := by
  obtain ⟨d, o, known, cls, plain⟩ := members
  cases levels with
  | zero => cases h
  | succ levels =>
    obtain ⟨d', hd', hs⟩ := nodeStep_ok h
    obtain rfl : d' = d := Option.some.inj (hd'.symm.trans known)
    cases hs with
    | wrapped wrapper _ _ => rw [cls] at wrapper; cases wrapper
    | overridden lookup _ _ => rw [plain] at lookup; cases lookup
    | @expanded _ t₀ t₁ _ id₁ _ _ overrideless expansion finish =>
      obtain rfl : t₀ = t := by
        simp only [overrideFor, plain] at overrideless
        cases overrideless
        rfl
      rw [cls] at expansion
      cases expansion with
      | leaf node => cases node
      | cut collection _ => cases collection
      | collection _ _ node _ => cases node
      | reference _ expanded => rw [fresh] at expanded; cases expanded
      | cutObject _ _ closed => rw [opens] at closed; cases closed
      | @object _ _ t₂ i r events ids assigned _ _ parts _ =>
        have made := SchemaNode.isMadeOf_objectNode gen o i ids
        obtain ⟨p, kind⟩ := made.primitive
        have added := t₂.arena.get?_push_push_self (objectNode gen o i ids) (objectNode gen o i ids)
        obtain ⟨n', hn', same⟩ := decorate_own added made.not_isShared finish
        have holds := ((Registry.assign_spec assigned).2.mono parts.returns.1.registry).mono
          (decorate_decorated finish).grows.registry
        have names : t'.arena.Names id i :=
          ⟨n', p, hn', by rw [same]; exact kind, by rw [same]; exact made.identifier⟩
        exact ⟨i, names, holds⟩

/-- The root of a generation names the component of its type. -/
theorem generate_root {root : TypeId} {w w' : Workspace} {s : GeneratedSchema}
    (h : generate gen g root w = .ok s w') (members : gen.ExpandsMembers g root) {i : String}
    (holds : g.Holds w'.registry root i) : s.arena.Names s.root i := by
  obtain ⟨t, hn, hs, rfl⟩ := generate_ok h
  obtain ⟨i', names, holds'⟩ := nodeFor_names members hn (w.begin_opens gen root) fun _ => rfl
  rw [hs]
  exact holds.id_eq holds' ▸ names

section

variable {root : TypeId} {w w' : Workspace} {s : GeneratedSchema} {i : String} {node : NodeId}

/-- The recorded nodes of a generation name their components. -/
theorem names_of_recorded (distinct : g.Distinct) (h : generate gen g root w = .ok s w')
    (coherent : w.registry.Coherent) (recorded : s.identifiers.get? i = some node) :
    s.arena.Names node i := by
  obtain ⟨t, hn, hs, rfl⟩ := generate_ok h
  rw [hs] at recorded ⊢
  obtain ⟨copy, twins⟩ :=
    (nodeFor_once distinct hn (Traversal.once_begin g coherent gen)).twins i node recorded
  obtain ⟨n, m, hn, -, -, p, kind⟩ := twins.same
  exact ⟨n, p, hn, kind, (twins.only node n hn).2 (.inl rfl)⟩

/-- A component that a node of a generation names is recorded. -/
theorem recorded_of_names (distinct : g.Distinct) (h : generate gen g root w = .ok s w')
    (coherent : w.registry.Coherent) (names : s.arena.Names node i) :
    s.identifiers.contains i := by
  obtain ⟨t, hn, hs, rfl⟩ := generate_ok h
  rw [hs] at names ⊢
  obtain ⟨n, p, hnode, -, identifier⟩ := names
  exact (nodeFor_once distinct hn (Traversal.once_begin g coherent gen)).recorded node n hnode i
    identifier

end

/-! ### Runs -/

/-- What is held is there or queued, what is there is held, and the components of objects with
members name themselves. -/
structure Collected.Identified (gen : Generator) (g : TypeGraph) (r : Registry) (c : Collected) :
    Prop where
  coherent : r.Coherent
  reached : ∀ identity i, r.lookup? identity = some i → c.Reaches i
  held : ∀ i, c.components.contains i → ∃ ty, g.Holds r ty i
  named : ∀ ty i j, gen.ExpandsMembers g ty → g.Holds r ty i → c.components.get? i = some j →
    j.get? "x-schema-id" = some (.string i)

namespace Collected.Identified

variable {c c' : Collected}

theorem start : Identified gen g .empty {} := by
  refine ⟨Registry.coherent_empty, fun identity i h => ?_, fun i h => ?_, fun ty i j _ _ h => ?_⟩
  · simp [Registry.lookup?, Registry.empty, EmptyCollection.emptyCollection] at h
  · simp [SortedMap.contains, EmptyCollection.emptyCollection] at h
  · simp [EmptyCollection.emptyCollection] at h

/-- **A generation keeps it**, once its type has its identifier. -/
theorem added (distinct : g.Distinct) {ty : TypeId} {id : String} {pending : SortedMap TypeId}
    {s : GeneratedSchema} {w w₁ w₂ : Workspace} (h : c.Identified gen g w.registry)
    (assigned : assignId g ty w = .ok id w₁)
    (kept : ∀ id', id' ≠ id → c.pending.get? id' = pending.get? id')
    (generated : generate gen g ty w₁ = .ok s w₂) (ha : Added s id { c with pending } c') :
    c'.Identified gen g w₂.registry := by
  obtain ⟨events, hassign⟩ := assignId_ok assigned
  obtain ⟨grows₁, holds₁⟩ := Registry.assign_spec hassign
  obtain ⟨grows₂, linked⟩ := generate_linked generated
  have coherent₁ := h.coherent.assign hassign
  have coherent₂ := generate_coherent generated coherent₁
  have holds := holds₁.mono grows₂
  obtain ⟨j₀, hj₀, hsup₀⟩ := ha.own
  refine ⟨coherent₂, fun identity i hi => ?_, fun i hc => ?_, fun ty' i j members hty hj => ?_⟩
  · rcases generate_held generated hi with hi | noted
    · rcases Registry.lookup?_of_assign hassign hi with hi | rfl
      · exact ha.reaches kept (h.reached identity i hi)
      · exact .inl (SortedMap.contains_iff.2 ⟨j₀, hj₀⟩)
    · exact ha.reaches_noted noted
  · rcases ha.of_contains hc with rfl | there | expanded
    · exact ⟨ty, holds⟩
    · obtain ⟨ty', hty'⟩ := h.held i there
      exact ⟨ty', hty'.mono (grows₁.trans grows₂)⟩
    · obtain ⟨ty', hty'⟩ := SortedMap.contains_iff.1 (linked.expanded i expanded)
      exact ⟨ty', linked.held i ty' hty'⟩
  · by_cases hi : i = id
    · subst hi
      obtain rfl := coherent₂.type_eq distinct hty holds
      obtain rfl := Option.some.inj (hj.symm.trans hj₀)
      exact hsup₀.names (generate_root generated members hty)
    · rcases ha.origin i j hi hj with hj | ⟨node, hnode, hsup⟩
      · -- the type of a component that was there before held its identifier then
        obtain ⟨ty₀, hty₀⟩ := h.held i (SortedMap.contains_iff.2 ⟨j, hj⟩)
        obtain rfl := coherent₂.type_eq distinct hty (hty₀.mono (grows₁.trans grows₂))
        exact h.named ty' i j members hty₀ hj
      · exact hsup.names (names_of_recorded distinct generated coherent₁ hnode)

/-- **Every call names the components it supplies**, and those that were there keep their names. -/
theorem invariant (distinct : g.Distinct) (roots : List TypeId) :
    CallInvariant gen g roots fun _ c w => c.Identified gen g w.registry where
  add _ assigned _ kept generated hr hadd h := by
    rw [hr]
    exact h.added distinct assigned kept generated hadd
  skip first hc h :=
    ⟨h.coherent, fun identity i hi => (h.reached identity i hi).skipped first hc, h.held, h.named⟩

end Collected.Identified

/-- **A document has exactly the components whose identifiers are held in the end**, if none was
held in the beginning, and the component of every object with a list of members, unless an override
replaces it, names itself. -/
theorem generateDocument_identifiers (distinct : g.Distinct) {roots : List TypeId}
    {w w' : Workspace} (empty : w.registry = .empty) {doc : SchemaDocument}
    (h : generateDocument gen g roots w = .ok doc w') :
    (∀ i, doc.components.contains i ↔ w'.registry.assigned.contains i) ∧
      ∀ ty d o i, g.describe? ty = some d → g.classify d.shape = .object (some o) →
        gen.overrides.lookup? [d.identity, d.name] = none →
        w'.registry.assigned.get? i = some d.identity →
        ∃ j, doc.components.get? i = some j ∧ j.get? "x-schema-id" = some (.string i) := by
  obtain ⟨calls, hrun⟩ := generateDocument_ok_iff.1 h
  obtain ⟨named, _, c, -, rfl, -, ends, identified⟩ :=
    hrun.ends (Collected.Identified.invariant distinct roots) (empty ▸ Collected.Identified.start)
  have coherent := identified.coherent
  refine ⟨fun i => ⟨fun hc => ?_, fun ha => ?_⟩, fun ty d o i known cls plain ha => ?_⟩
  · obtain ⟨ty, d, -, hid⟩ := identified.held i hc
    exact SortedMap.contains_iff.2 ⟨_, (coherent _ _).1 hid⟩
  · obtain ⟨identity, hid⟩ := SortedMap.contains_iff.1 ha
    exact (ends.reaches i).1 (identified.reached identity i ((coherent _ _).2 hid))
  · have hid := (coherent _ _).2 ha
    obtain ⟨j, hj⟩ := SortedMap.contains_iff.1 ((ends.reaches i).1 (identified.reached _ i hid))
    exact ⟨j, hj, identified.named ty i j ⟨d, o, known, cls, plain⟩ ⟨d, known, hid⟩ hj⟩

/-- Of two objects that contain each other the second one is queued, and its component names
itself. -/
theorem generateDocument_identifiers_mutual :
    ∃ doc w j, generateDocument (.plain { maxDepth := 1 }) .mutualObjects [⟨0⟩] {} = .ok doc w ∧
      doc.components.get? "B" = some j ∧ j.get? "x-schema-id" = some (.string "B") := by
  have computed : Work.value? (do
      let _ ← generateDocument (.plain { maxDepth := 1 }) .mutualObjects [⟨0⟩]
      return (← get).registry.assigned.get? "B") {} = some (some "B") := by cbv
  obtain ⟨doc, w, hdoc, hread⟩ := Work.ok_of_reading computed
  obtain ⟨j, hj, hid⟩ := (generateDocument_identifiers (.ofTypes (by decide)) rfl hdoc).2 ⟨1⟩ _ _
    "B" rfl rfl rfl hread
  exact ⟨doc, w, j, hdoc, hj, hid⟩

/-- A generic abstraction that is neither a sequence nor a map. -/
def TypeGraph.opaqueCollection : TypeGraph := .ofTypes #[
  { identity := "Foo", name := "Foo", shape := .collection (.other "Foo") [] }]

/-- The component of an object without a list of members does not name itself. -/
theorem not_generateDocument_identifiers :
    ¬ ∀ (gen : Generator) (g : TypeGraph) (roots : List TypeId) (doc : SchemaDocument)
        (w : Workspace), g.Distinct → generateDocument gen g roots {} = .ok doc w →
      (∀ i, doc.components.contains i ↔ w.registry.assigned.contains i) ∧
        ∀ ty d i, gen.Expands g ty d → w.registry.assigned.get? i = some d.identity →
          ∃ j, doc.components.get? i = some j ∧ j.get? "x-schema-id" = some (.string i) := by
  intro h
  have computed : Work.value? (do
      let doc ← generateDocument (.plain {}) .opaqueCollection [⟨0⟩]
      return ((doc.components.get? "Foo").map (·.get? "x-schema-id"),
        (← get).registry.assigned.get? "Foo")) {} = some (some none, some "Foo") := by cbv
  obtain ⟨doc, w, hdoc, hread⟩ := Work.ok_of_reading computed
  obtain ⟨hc, hr⟩ := Prod.mk.inj hread
  obtain ⟨j, hj, hnone⟩ := Option.map_eq_some_iff.1 hc
  obtain ⟨j', hj', hid⟩ := (h _ _ _ _ _ (.ofTypes (by decide)) hdoc).2 ⟨0⟩ _ "Foo"
    ⟨rfl, ⟨_, rfl⟩, rfl⟩ hr
  obtain rfl := Option.some.inj (hj.symm.trans hj')
  rw [hnone] at hid
  cases hid

end TypeSchema
