import TypeSchema.Proofs.Generation.Actions
import TypeSchema.Proofs.Generation.Nodes
import TypeSchema.Proofs.Generation.Resolution

/-!
# Generation — how deep a schema goes

The guard lets at most as many types be open as its limit says.  Each open type makes for one step
into a node on the way to what is built inside of it, and one that is an object has its identifier
on that way.  So a node that is built while `k` types are open can be placed `k` steps down
(`nodeFor_placed`): a placeholder for the depth is given out when as many types are open as may be,
and a placeholder for a cycle when its type is open.

A placeholder is given out again and again, wherever its type is met.  `Traversal.Cuts` says what is
the same for all its places: its reason, and the component that it points to.

`generate_depth` reads this off the ways through the schema that is generated.
-/

namespace TypeSchema

variable {gen : Generator} {g : TypeGraph}

/-! ### Placeholders -/

/-- The node is nothing but this placeholder. -/
def Arena.IsCut (a : Arena) (id : NodeId) (p : Placeholder) : Prop :=
  a.get? id = some { kind := .placeholder p }

/-- A placeholder stays one under constraints, nullability and examples. -/
theorem Arena.IsCut.dressed {a a' : Arena} {id id' j : NodeId} {p : Placeholder}
    (h : a.IsCut j p) (hd : Dressed a id a' id') : a'.IsCut j p := by
  induction hd with
  | refl => exact h
  | @more a a₁ a' id id₁ id' hd _ ih =>
    refine ih ?_
    have shared : a.isShared j := Arena.isShared_iff.2 ⟨_, h, rfl⟩
    -- only a node that stands for itself is changed
    have modified : ∀ {b : Arena} {f : SchemaNode → SchemaNode}, ¬ a.isShared id → b.IsCut j p →
        (b.modify id f).IsCut j p := fun hs hb => by
      have other : j ≠ id := fun e => hs (e ▸ shared)
      rwa [Arena.IsCut, Arena.get?_modify, if_neg other]
    cases hd with
    | mark unshared _ => exact modified unshared h
    | wrap _ _ => exact Arena.keeps_push _ _ h
    | unite _ => exact Arena.keeps_push _ _ (Arena.keeps_push _ _ h)
    | extend union _ =>
      exact modified (Arena.not_isShared_of_alternatives? union) (Arena.keeps_push _ _ h)

namespace Traversal

/-- What is given out for a type and a reason is a placeholder for that reason, and if it points to
a component the type is an object that holds the identifier. -/
def Cuts (g : TypeGraph) (t : Traversal) : Prop :=
  ∀ ty reason id, t.guard.placeholders.lookup (ty, reason) = some id →
    ∃ p, t.arena.IsCut id p ∧ p.reason = reason ∧
      ∀ i, p.identifier? = some i → t.NamesObject g ty i

theorem cuts_begin (g : TypeGraph) (w : Workspace) (gen : Generator) : (w.begin gen).Cuts g :=
  fun ty reason id h => by simp [Workspace.begin, Guard.new] at h

namespace Cuts

variable {t t' : Traversal}

/-- Placeholders that stay, of types that keep their identifiers. -/
theorem mono (h : t.Cuts g) (cuts : ∀ j p, t.arena.IsCut j p → t'.arena.IsCut j p)
    (grows : t.registry.Grows t'.registry)
    (placeholders : t'.guard.placeholders = t.guard.placeholders) : t'.Cuts g := by
  intro ty reason id hl
  rw [placeholders] at hl
  obtain ⟨p, hp, hreason, named⟩ := h ty reason id hl
  exact ⟨p, cuts id p hp, hreason, fun i hi => ⟨(named i hi).1.mono grows, (named i hi).2⟩⟩

/-- The placeholder of a type, new or not, is one for the type and the reason. -/
theorem cut (h : t.Cuts g) {v : Visit} {reason : CutReason}
    (named : ∀ i, v.identifier? = some i → t.NamesObject g v.type i) :
    (t.cut v reason).2.Cuts g := by
  unfold Traversal.cut Guard.placeholder
  cases hl : t.guard.placeholders.lookup (v.type, reason) with
  | some id => exact h
  | none =>
    intro ty reason' id hl'
    rw [List.lookup_cons] at hl'
    split at hl'
    · next e =>
      cases hl'
      obtain ⟨rfl, rfl⟩ := Prod.mk.inj (eq_of_beq e)
      exact ⟨⟨v.typeName, v.identifier?, reason'⟩, t.arena.get?_push_self _, rfl, named⟩
    · obtain ⟨p, hp, rest⟩ := h ty reason' id hl'
      exact ⟨p, Arena.keeps_push _ _ hp, rest⟩

end Cuts

/-- No action takes a placeholder away. -/
theorem keptByActions_cuts (g : TypeGraph) : KeptByActions g fun t t' => t.Cuts g → t'.Cuts g where
  refl _ h := h
  trans h₁ h₂ h := h₂ (h₁ h)
  aside ha hr _ _ hp h := h.mono (fun _ _ hc => ha ▸ hc) (hr ▸ .refl _) hp
  pushed _ _ h := h.mono (fun _ _ hc => Arena.keeps_push _ _ hc) (.refl _) rfl
  decorated hd h :=
    h.mono (fun _ _ hc => hc.dressed hd.dressed) hd.grows.registry (by rw [hd.guard_eq])
  claimed ha h := h.mono (fun _ _ hc => hc) (Registry.assign_spec ha).1 rfl
  recorded _ _ _ h := h.mono (fun _ _ hc => hc) (.refl _) rfl
  cut _ named h := h.cut named

/-! ### Open types -/

/-- `k` types are open, no more than the limit, and each that is an object holds one of the
identifiers `names`. -/
structure Opens (g : TypeGraph) (limit k : Nat) (names : List String) (t : Traversal) : Prop where
  limit_eq : t.guard.maxDepth = limit
  depth_eq : t.guard.depth = k
  within : k ≤ limit
  named : ∀ ty ∈ t.guard.active, ∀ o, g.HasClass ty (.object (some o)) →
    ∃ i ∈ names, g.Holds t.registry ty i

namespace Opens

variable {t t' : Traversal} {limit k : Nat} {names : List String} {ty : TypeId}

/-- What is open depends on the open types alone, which a traversal that returns has again. -/
theorem returns (h : t.Opens g limit k names) (hr : t.Returns t') : t'.Opens g limit k names := by
  obtain ⟨grows, active, maxDepth⟩ := hr
  refine ⟨maxDepth.trans h.limit_eq, ?_, h.within, fun ty hty o known => ?_⟩
  · rw [Guard.depth, active]
    exact h.depth_eq
  · obtain ⟨i, hi, holds⟩ := h.named ty (active ▸ hty) o known
    exact ⟨i, hi, holds.mono grows.registry⟩

/-- Opening a type adds it, with its identifier if it has one, to what is open. -/
theorem opened (h : t.Opens g limit k names) (opens : t.guard.cutReason? ty = none)
    {identifier? : Option String} (named : ∀ o, g.HasClass ty (.object (some o)) →
      ∃ i, identifier? = some i ∧ g.Holds t.registry ty i) :
    (t.opened ty).Opens g limit (k + 1) (identifier?.toList ++ names) := by
  have room : k < limit := by
    have := h.limit_eq
    have := h.depth_eq
    simp only [Guard.cutReason?] at opens
    split at opens
    · cases opens
    · split at opens
      · cases opens
      · omega
  refine ⟨h.limit_eq, congrArg (· + 1) h.depth_eq, room, fun ty' hty o known => ?_⟩
  rcases List.mem_cons.1 (show ty' ∈ ty :: t.guard.active from hty) with rfl | hty
  · obtain ⟨i, rfl, holds⟩ := named o known
    exact ⟨i, List.mem_append_left _ (by simp), holds⟩
  · obtain ⟨i, hi, holds⟩ := h.named ty' hty o known
    exact ⟨i, List.mem_append_right _ hi, holds⟩

/-- A type is cut off where its placeholder is due. -/
theorem due (h : t.Opens g limit k names) {reason : CutReason}
    (closed : t.guard.cutReason? ty = some reason) {p : Placeholder} (hreason : p.reason = reason)
    (named : ∀ i, p.identifier? = some i → t.NamesObject g ty i) : p.Due limit k names := by
  have := h.limit_eq
  have := h.depth_eq
  have := h.within
  simp only [Guard.cutReason?, Guard.isExpanding, decide_eq_true_eq] at closed
  split at closed
  · next isOpen =>
    cases closed
    refine ⟨fun hd => ?_, fun _ i hi => ?_⟩
    · rw [hreason] at hd; cases hd
    · obtain ⟨holds, o, known⟩ := named i hi
      obtain ⟨i', hi', holds'⟩ := h.named ty isOpen o known
      exact holds'.id_eq holds ▸ hi'
  · split at closed
    · cases closed
      refine ⟨fun _ => by omega, fun hc => ?_⟩
      rw [hreason] at hc; cases hc
    · cases closed

end Opens

end Traversal

/-! ### Building -/

/-- What is placed stays so in a generation. -/
theorem keptByActions_placed (g : TypeGraph) (limit k : Nat) (names : List String) (id : NodeId) :
    Traversal.KeptByActions g fun t t' =>
      t.arena.Placed limit k names id → t'.arena.Placed limit k names id :=
  .of_arena (S := fun a a' => a.Placed limit k names id → a'.Placed limit k names id)
    (fun _ h => h) (fun h₁ h₂ h => h₂ (h₁ h)) (fun _ _ h => h.kept (Arena.keeps_push _ _))
    fun hd h => h.dressed_rest hd

/-- The node of a type is placed where the type is met. -/
def Places (g : TypeGraph) (t : Traversal) (id : NodeId) (t' : Traversal) : Prop :=
  ∀ limit k names, t.Opens g limit k names → t.Cuts g → t'.arena.Placed limit k names id

variable {levels : Nat} {ty : TypeId} {d : TypeDescriptor} {t t' : Traversal} {id : NodeId}
  {limit k : Nat} {names : List String}

/-- The nodes of the parts are placed. -/
theorem Visits.placed (step : ∀ ty field? t id t', nodeFor gen g levels ty field? t = .ok id t' →
      Places g t id t') {parts : List (TypeId × Option Field)} {ids : List NodeId}
    (h : Visits (nodeFor gen g levels) parts t ids t') (opens : t.Opens g limit k names)
    (cuts : t.Cuts g) : ∀ c ∈ ids, t'.arena.Placed limit k names c := by
  induction h with
  | nil => exact fun c hc => (List.not_mem_nil hc).elim
  | cons head tail ih =>
    refine List.forall_mem_cons.2 ⟨?_, ?_⟩
    · exact tail.relates (keptByActions_placed g limit k names _)
        (step _ _ _ _ _ head limit k names opens cuts)
    · exact ih (opens.returns (nodeFor_returns head))
        (nodeFor_relates (Traversal.keptByActions_cuts g) head cuts)

/-- A type that is cut off gets a placeholder that is due. -/
theorem Traversal.Opens.placed_cut {v : Visit} {reason : CutReason}
    (opens : t.Opens g limit k names) (cuts : t.Cuts g)
    (named : ∀ i, v.identifier? = some i → t.NamesObject g v.type i)
    (closed : t.guard.cutReason? v.type = some reason) :
    (t.cut v reason).2.arena.Placed limit k names (t.cut v reason).1 := by
  have asked := t.lookup_cut v reason (v.type, reason)
  rw [if_pos rfl] at asked
  obtain ⟨p, node, hreason, hnamed⟩ := cuts.cut named _ _ _ asked
  refine .intro node opens.within (fun p' hp => ?_) (fun c hc => (List.not_mem_nil hc).elim)
    fun c hc => (List.not_mem_nil hc).elim
  cases hp
  have same : (t.cut v reason).2.registry = t.registry := by rw [Traversal.cut_eq]
  refine opens.due closed hreason fun i hi => ?_
  obtain ⟨holds, object⟩ := hnamed i hi
  exact ⟨same ▸ holds, object⟩

/-- An expansion places its node at its depth, given that building its parts does. -/
theorem Expansion.placed {cls : Classification} (known : g.HasClass ty cls)
    (h : Expansion gen g (nodeFor gen g levels) ty d cls t id t')
    (step : ∀ ty field? t id t', nodeFor gen g levels ty field? t = .ok id t' → Places g t id t') :
    Places g t id t' := by
  intro limit k names opens cuts
  cases h with
  | leaf node =>
    exact (SchemaNode.isMadeOf_leafNode? node).placed (t.arena.get?_push_self _) opens.within
      fun c hc => (List.not_mem_nil hc).elim
  | cut _ closed => exact opens.placed_cut cuts (fun _ hi => by cases hi) closed
  | @collection _ _ t₁ ids n mayOpen parts node _ =>
    have inside : (t.opened ty).Opens g limit (k + 1) ((none : Option String).toList ++ names) := by
      refine opens.opened mayOpen fun o object => ?_
      rw [known.unique object] at node
      cases node
    have placed := parts.placed step inside (cuts.mono (fun _ _ h => h) (.refl _) rfl)
    exact (SchemaNode.isMadeOf_collectionNode? node).placed (t₁.arena.get?_push_self n) opens.within
      fun c hc => (placed c hc).kept (Arena.keeps_push _ _)
  | @reference o _ i r events target assigned _ =>
    refine .intro (t.arena.get?_push_self { kind := .reference ⟨d.name, i, target⟩ }) opens.within
      (fun p hp => by cases hp) (fun c hc => (List.not_mem_nil hc).elim)
      fun c hc => (List.not_mem_nil hc).elim
  | @cutObject o _ i r events reason assigned _ closed =>
    have claimed := Traversal.keptByActions_cuts g |>.claimed assigned cuts
    have returned : t.Returns (t.claimed ty i r events) := .of_grows (.claimed assigned) rfl
    refine (opens.returns returned).placed_cut claimed (fun i' hi => ?_) closed
    cases hi
    exact ⟨(Registry.assign_spec assigned).2, o, known⟩
  | @object o _ t₁ i r events ids assigned _ mayOpen parts _ =>
    have claimed := Traversal.keptByActions_cuts g |>.claimed assigned cuts
    have returned : t.Returns (t.claimed ty i r events) := .of_grows (.claimed assigned) rfl
    have inside : ((t.claimed ty i r events).opened ty).Opens g limit (k + 1)
        ((some i).toList ++ names) :=
      (opens.returns returned).opened mayOpen fun o _ =>
        ⟨i, rfl, (Registry.assign_spec assigned).2⟩
    have reported : (((t.claimed ty i r events).opened ty).reported (objectEvents gen d o)).Opens g
        limit (k + 1) ((some i).toList ++ names) := inside.returns (.reported _ _)
    have placed := parts.placed step reported (claimed.mono (fun _ _ h => h) (.refl _) rfl)
    exact (SchemaNode.isMadeOf_objectNode gen o i ids).placed (t₁.arena.get?_push_push_self _ _)
      opens.within fun c hc =>
        ((placed c hc).kept (Arena.keeps_push _ _)).kept (Arena.keeps_push _ _)

/-- A step places its node at its depth, given that the descent does. -/
theorem Step.placed {field? : Option Field} (known : g.describe? ty = some d)
    (h : Step gen g (nodeFor gen g levels) ty field? d t id t')
    (step : ∀ ty field? t id t', nodeFor gen g levels ty field? t = .ok id t' → Places g t id t') :
    Places g t id t' := by
  intro limit k names opens cuts
  cases h with
  | wrapped _ part finish =>
    exact (step _ _ _ _ _ part limit k names opens cuts).dressed (wrapNull_decorated finish).dressed
  | @overridden o _ _ _ _ _ finish =>
    have placed : (t.pushed o.node).arena.Placed limit k names ⟨t.arena.size⟩ :=
      (SchemaNode.isMadeOf_override o).placed (t.arena.get?_push_self _) opens.within
        fun c hc => (List.not_mem_nil hc).elim
    exact placed.dressed (decorate_decorated finish).dressed
  | expanded _ plain expansion finish =>
    rw [overrideFor_none plain] at expansion
    have placed := expansion.placed ⟨d, known, rfl⟩ step limit k names
      ⟨opens.limit_eq, opens.depth_eq, opens.within, opens.named⟩ cuts
    exact placed.dressed (decorate_decorated finish).dressed

/-- **The node of a type is placed where the type is met**, as many steps down as types are open. -/
theorem nodeFor_placed {field? : Option Field} (h : nodeFor gen g levels ty field? t = .ok id t') :
    Places g t id t' :=
  nodeFor_descent (P := fun _ _ t id t' => Places g t id t')
    (fun _ step _ _ _ _ _ _ known hs => hs.placed known step) levels ty field? t id t' h

/-- **No way through a schema goes deeper than the limit**: a placeholder for the depth stands
exactly at the limit, and one for a cycle that points to a component stands inside of it. -/
theorem generate_depth {root : TypeId} {w w' : Workspace} {s : GeneratedSchema}
    (h : generate gen g root w = .ok s w') {k : Nat} {names : List String} {id : NodeId}
    (way : s.arena.Path s.root k names id) :
    k ≤ max 1 gen.config.maxDepth ∧ ∀ n p, s.arena.get? id = some n → n.kind = .placeholder p →
      (p.reason = .depth → k = max 1 gen.config.maxDepth) ∧
      (p.reason = .cycle → ∀ i, p.identifier? = some i → i ∈ names) := by
  obtain ⟨t, hn, hs, -⟩ := generate_ok h
  have opens : (w.begin gen).Opens g (max 1 gen.config.maxDepth) 0 [] :=
    ⟨rfl, rfl, Nat.zero_le _, fun ty hty => (List.not_mem_nil hty).elim⟩
  have root := nodeFor_placed hn _ _ _ opens (Traversal.cuts_begin g w gen)
  rw [hs] at way ⊢
  have placed := root.of_path way
  refine ⟨placed.within, fun n p node kind => ?_⟩
  exact ⟨(placed.due node kind).depth, (placed.due node kind).cycle⟩

/-- Two steps down in the first of two objects that contain each other there is a placeholder for
the first one, inside of it. -/
theorem generate_depth_mutual :
    ∃ s w' names id n, generate (.plain {}) .mutualObjects ⟨0⟩ {} = .ok s w' ∧
      s.arena.Path s.root 2 names id ∧ s.arena.get? id = some n ∧
      n.kind = .placeholder ⟨"A", some "A", .cycle⟩ ∧ "A" ∈ names := by
  have computed : Work.value? (do
      let s ← generate (.plain {}) .mutualObjects ⟨0⟩
      return (s.root, (s.arena.get? ⟨4⟩).map (·.inner), (s.arena.get? ⟨2⟩).map (·.inner),
        (s.arena.get? ⟨0⟩).map (·.kind))) {} =
      some (⟨4⟩, some [⟨2⟩], some [⟨0⟩], some (.placeholder ⟨"A", some "A", .cycle⟩)) := by cbv
  obtain ⟨s, w', hs, hread⟩ := Work.ok_of_reading computed
  simp only [Prod.mk.injEq, Option.map_eq_some_iff] at hread
  obtain ⟨hroot, ⟨a, ha, hinner⟩, ⟨b, hb, hinner'⟩, n, hn, kind⟩ := hread
  have way := ((Arena.Path.start.inner (hroot ▸ ha) (hinner ▸ List.mem_cons_self)).inner hb
    (hinner' ▸ List.mem_cons_self) : s.arena.Path s.root 2 _ ⟨0⟩)
  exact ⟨s, w', _, ⟨0⟩, n, hs, way, hn, kind, ((generate_depth hs way).2 n _ hn kind).2 rfl "A" rfl⟩

end TypeSchema
