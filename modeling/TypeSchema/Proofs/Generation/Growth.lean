import TypeSchema.Proofs.Generation.Step
import TypeSchema.Proofs.Registry
import TypeSchema.Proofs.Schema.Arena

/-!
# Generation — what a state hands on

A generation never forgets: identifiers stay with the types that hold them, and components stay
where they were noted or recorded (`Traversal.Grows`).  When it comes back from a type, the types
that are open are those that were open before (`nodeFor_returns`).

`Decorated` says what the decoration of a node does to a state: the arena is dressed, something may
be reported, and all else is as before.
-/

namespace TypeSchema

open Build

namespace Traversal

/-- What is held, noted or recorded in `t` is so in `t'`. -/
structure Grows (t t' : Traversal) : Prop where
  registry : t.registry.Grows t'.registry
  components : ∀ ⦃id ty⦄, t.components.get? id = some ty → t'.components.get? id = some ty
  identifiers : ∀ ⦃id n⦄, t.identifiers.get? id = some n → t'.identifiers.get? id = some n

theorem Grows.refl (t : Traversal) : t.Grows t := ⟨.refl _, fun _ _ h => h, fun _ _ h => h⟩

theorem Grows.trans {t t₁ t₂ : Traversal} (h₁ : t.Grows t₁) (h₂ : t₁.Grows t₂) : t.Grows t₂ :=
  ⟨h₁.registry.trans h₂.registry, fun _ _ h => h₂.components (h₁.components h),
    fun _ _ h => h₂.identifiers (h₁.identifiers h)⟩

/-- A change of anything else grows. -/
theorem Grows.of_eq {t t' : Traversal} (hr : t'.registry = t.registry)
    (hc : t'.components = t.components) (hi : t'.identifiers = t.identifiers) : t.Grows t' :=
  ⟨hr ▸ .refl _, fun _ _ h => hc ▸ h, fun _ _ h => hi ▸ h⟩

/-- Claiming an identifier notes its component and takes nothing away. -/
theorem Grows.claimed {t : Traversal} {g : TypeGraph} {ty : TypeId} {id : String} {r : Registry}
    {events : List DiagnosticEvent} (h : t.registry.assign g ty = .ok (id, r, events)) :
    t.Grows (t.claimed ty id r events) := by
  refine ⟨(Registry.assign_spec h).1, fun id' ty' h' => ?_, fun _ _ h => h⟩
  simp only [Traversal.claimed, SortedMap.get?_insertNew]
  split
  · next e => subst e; rw [h']; rfl
  · exact h'

theorem Grows.recorded (t : Traversal) (identifier : String) (n : NodeId) :
    t.Grows (t.recorded identifier n) := by
  refine ⟨.refl _, fun _ _ h => h, fun id m h => ?_⟩
  simp only [Traversal.recorded, SortedMap.get?_insertNew]
  split
  · next e => subst e; rw [h]; rfl
  · exact h

/-- The part of a guard that is the same before and after a type. -/
def SameStack (t t' : Traversal) : Prop :=
  t'.guard.active = t.guard.active ∧ t'.guard.maxDepth = t.guard.maxDepth

theorem cut_eq (t : Traversal) (v : Visit) (reason : CutReason) :
    (t.cut v reason).2 = { t with
      guard := { t.guard with placeholders := (t.cut v reason).2.guard.placeholders }
      arena := (t.cut v reason).2.arena
      events := (t.cut v reason).2.events } := by
  simp only [cut, Guard.placeholder]
  cases t.guard.placeholders.lookup (v.type, reason) <;> rfl

/-- A type that is cut adds a placeholder at most. -/
theorem Grows.cut (t : Traversal) (v : Visit) (reason : CutReason) : t.Grows (t.cut v reason).2 :=
  .of_eq (by rw [cut_eq]) (by rw [cut_eq]) (by rw [cut_eq])

/-- It leaves the open types. -/
theorem sameStack_cut (t : Traversal) (v : Visit) (reason : CutReason) :
    t.SameStack (t.cut v reason).2 := ⟨by rw [cut_eq], by rw [cut_eq]⟩

end Traversal

/-! ### Decorations -/

/-- The node `id` was decorated; `id'` is the one to use from then on. -/
structure Decorated (t : Traversal) (id : NodeId) (t' : Traversal) (id' : NodeId) : Prop where
  dressed : Dressed t.arena id t'.arena id'
  rest : ∃ events, t' = { t with arena := t'.arena, events := t.events ++ events }

namespace Decorated

theorem refl (t : Traversal) (id : NodeId) : Decorated t id t id :=
  ⟨.refl _ _, [], by simp⟩

theorem trans {t t₁ t₂ : Traversal} {id id₁ id₂ : NodeId} (h₁ : Decorated t id t₁ id₁)
    (h₂ : Decorated t₁ id₁ t₂ id₂) : Decorated t id t₂ id₂ := by
  obtain ⟨hd₁, e₁, hr₁⟩ := h₁
  obtain ⟨hd₂, e₂, hr₂⟩ := h₂
  refine ⟨hd₁.trans hd₂, e₁ ++ e₂, ?_⟩
  rw [hr₂, hr₁]
  simp

/-- Decorating a node takes nothing away. -/
theorem grows {t t' : Traversal} {id id' : NodeId} (h : Decorated t id t' id') : t.Grows t' := by
  obtain ⟨-, _, hr⟩ := h
  exact .of_eq (by rw [hr]) (by rw [hr]) (by rw [hr])

/-- It leaves the guard as it is. -/
theorem guard_eq {t t' : Traversal} {id id' : NodeId} (h : Decorated t id t' id') :
    t'.guard = t.guard := by
  obtain ⟨-, _, hr⟩ := h
  rw [hr]

end Decorated

theorem annotate_decorated {patterns : PatternCheck} {id id' : NodeId} {member : String}
    {constraints : List Constraint} {t t' : Traversal}
    (h : annotate patterns id member constraints t = .ok id' t') :
    Decorated t id t' id' := by
  cases h
  exact ⟨Arena.annotate_dressed .., _, rfl⟩

theorem applyNull_decorated {encoding : NullEncoding} {id id' : NodeId} {nullable : Bool}
    {t t' : Traversal} (h : applyNull encoding id nullable t = .ok id' t') :
    Decorated t id t' id' := by
  cases h
  exact ⟨Arena.applyNull_dressed .., [], by simp⟩

theorem setExample_decorated {id : NodeId} {v : Json} {t t' : Traversal}
    (h : setExample id v t = .ok () t') : Decorated t id t' id := by
  cases h
  by_cases hs : t.arena.isShared id
  · simp only [hs, if_true]
    exact .refl _ _
  · simp only [hs]
    exact ⟨.one (.mark hs fun n => rfl), [], by simp⟩

theorem annotateField_decorated {patterns : PatternCheck} {field? : Option Field} {id id' : NodeId}
    {t t' : Traversal} (h : annotateField patterns id field? t = .ok id' t') :
    Decorated t id t' id' := by
  cases field? with
  | none => cases h; exact .refl _ _
  | some f =>
    obtain ⟨id₁, t₁, ha, hr⟩ := bind_ok_iff.1 h
    have h₁ := annotate_decorated ha
    cases he : f.example? with
    | none => simp only [he] at hr; cases hr; exact h₁
    | some v =>
      simp only [he] at hr
      obtain ⟨_, t₂, hs, hp⟩ := bind_ok_iff.1 hr
      cases hp
      exact h₁.trans (setExample_decorated hs)

/-- The last steps of a type decorate its node. -/
theorem decorate_decorated {gen : Generator} {d : TypeDescriptor} {field? : Option Field}
    {id id' : NodeId} {t t' : Traversal} (h : decorate gen d field? id t = .ok id' t') :
    Decorated t id t' id' := by
  obtain ⟨id₁, t₁, ha, hr⟩ := bind_ok_iff.1 h
  obtain ⟨id₂, t₂, hf, hn⟩ := bind_ok_iff.1 hr
  exact (annotate_decorated ha).trans ((annotateField_decorated hf).trans (applyNull_decorated hn))

/-- So does what a nullable type does to the node of the type it wraps. -/
theorem wrapNull_decorated {gen : Generator} {d : TypeDescriptor} {id id' : NodeId}
    {t t' : Traversal} (h : wrapNull gen d id t = .ok id' t') : Decorated t id t' id' := by
  obtain ⟨id₁, t₁, ha, hn⟩ := bind_ok_iff.1 h
  exact (annotate_decorated ha).trans (applyNull_decorated hn)

/-! ### Growing -/

/-- What a relation between states needs to hold from before some visits to after them. -/
theorem Visits.relate {R : Traversal → Traversal → Prop} (refl : ∀ t, R t t)
    (trans : ∀ {t t₁ t₂}, R t t₁ → R t₁ t₂ → R t t₂) {descend : Descent}
    (step : descend.Relates R) {parts : List (TypeId × Option Field)} {t t' : Traversal}
    {ids : List NodeId} (h : Visits descend parts t ids t') : R t t' := by
  induction h with
  | nil => exact refl _
  | cons head _ ih => exact trans (step _ _ _ _ _ head) ih

/-- Growth, with the open types as before. -/
def Traversal.Returns (t t' : Traversal) : Prop := t.Grows t' ∧ t.SameStack t'

theorem Traversal.Returns.refl (t : Traversal) : t.Returns t := ⟨.refl t, rfl, rfl⟩

theorem Traversal.Returns.trans {t t₁ t₂ : Traversal} (h₁ : t.Returns t₁) (h₂ : t₁.Returns t₂) :
    t.Returns t₂ :=
  ⟨h₁.1.trans h₂.1, h₂.2.1.trans h₁.2.1, h₂.2.2.trans h₁.2.2⟩

/-- A change that keeps the guard and forgets nothing. -/
theorem Traversal.Returns.of_grows {t t' : Traversal} (h : t.Grows t') (hg : t'.guard = t.guard) :
    t.Returns t' := ⟨h, by rw [hg], by rw [hg]⟩

theorem Traversal.Returns.pushed (t : Traversal) (n : SchemaNode) : t.Returns (t.pushed n) :=
  .of_grows (.of_eq rfl rfl rfl) rfl

theorem Traversal.Returns.reported (t : Traversal) (events : List DiagnosticEvent) :
    t.Returns (t.reported events) := .of_grows (.of_eq rfl rfl rfl) rfl

theorem Traversal.Returns.recorded (t : Traversal) (identifier : String) (n : NodeId) :
    t.Returns (t.recorded identifier n) := .of_grows (.recorded t identifier n) rfl

/-- Coming back to a state in which the type is closed again. -/
theorem Traversal.Returns.closed {t t₁ : Traversal} {ty : TypeId} (h : (t.opened ty).Returns t₁) :
    t.Returns t₁.closed := by
  obtain ⟨⟨hr, hc, hi⟩, ha, hm⟩ := h
  exact ⟨⟨hr, hc, hi⟩, by simp [Traversal.closed, ha, Traversal.opened], hm⟩

/-- The fields of an object are visited, and its node is recorded and added. -/
theorem Visits.returns_object {gen : Generator} {descend : Descent} {d : TypeDescriptor}
    {o : ObjectShape} {identifier : String} {parts : List (TypeId × Option Field)}
    {t t₁ : Traversal} {ids : List NodeId}
    (h : Visits descend parts (t.reported (objectEvents gen d o)) ids t₁)
    (step : descend.Relates Traversal.Returns) :
    t.Returns (((t₁.pushed (objectNode gen o identifier ids)).recorded identifier
      ⟨t₁.arena.size⟩).pushed (objectNode gen o identifier ids)) :=
  (Traversal.Returns.reported t _).trans <| (h.relate .refl .trans step).trans <|
    (Traversal.Returns.pushed t₁ _).trans <| (Traversal.Returns.recorded _ _ _).trans <|
      Traversal.Returns.pushed _ _

/-- An expansion returns: what it opens it closes. -/
theorem Expansion.returns {gen : Generator} {g : TypeGraph} {descend : Descent} {ty : TypeId}
    {d : TypeDescriptor} {cls : Classification} {t t' : Traversal} {id : NodeId}
    (h : Expansion gen g descend ty d cls t id t') (step : descend.Relates Traversal.Returns) :
    t.Returns t' := by
  cases h with
  | leaf _ => exact (Traversal.Returns.reported t _).trans (.pushed _ _)
  | cut _ _ => exact ⟨.cut _ _ _, Traversal.sameStack_cut _ _ _⟩
  | @collection _ _ t₁ _ n _ parts _ _ =>
    exact ((parts.relate .refl .trans step).trans (.pushed t₁ n)).closed
  | @reference o _ id r events _ assigned _ =>
    have hclaim : t.Returns (t.claimed ty id r events) := .of_grows (.claimed assigned) rfl
    exact hclaim.trans (.pushed _ _)
  | @cutObject o _ id r events reason assigned _ _ =>
    have hclaim : t.Returns (t.claimed ty id r events) := .of_grows (.claimed assigned) rfl
    exact hclaim.trans ⟨.cut _ _ _, Traversal.sameStack_cut _ _ _⟩
  | @object o _ t₁ id r events ids assigned _ _ parts _ =>
    have hclaim : t.Returns (t.claimed ty id r events) := .of_grows (.claimed assigned) rfl
    exact hclaim.trans (parts.returns_object step).closed

/-- A step returns, given that the descent does. -/
theorem Step.returns {gen : Generator} {g : TypeGraph} {descend : Descent} {ty : TypeId}
    {field? : Option Field} {d : TypeDescriptor} {t t' : Traversal} {id : NodeId}
    (h : Step gen g descend ty field? d t id t') (step : descend.Relates Traversal.Returns) :
    t.Returns t' := by
  have decorated : ∀ {t t' : Traversal} {id id' : NodeId}, Decorated t id t' id' → t.Returns t' :=
    fun h => .of_grows h.grows h.guard_eq
  cases h with
  | wrapped _ part finish =>
    exact (step _ _ _ _ _ part).trans (decorated (wrapNull_decorated finish))
  | @overridden o _ _ _ _ _ finish =>
    exact (Traversal.Returns.pushed t _).trans (decorated (decorate_decorated finish))
  | @expanded _ t₀ t₁ _ id₁ _ _ plain expansion finish =>
    have hplain : t.Returns t₀ := by
      rcases overrideFor_ok plain with ⟨o, ho, -⟩ | ⟨-, rfl | rfl⟩
      · cases ho
      · exact .refl t₀
      · exact .of_grows (.of_eq rfl rfl rfl) rfl
    exact hplain.trans ((expansion.returns step).trans (decorated (decorate_decorated finish)))

/-- **A generation hands on what it found, and closes what it opened.** -/
theorem nodeFor_returns {gen : Generator} {g : TypeGraph} {levels : Nat} {ty : TypeId}
    {field? : Option Field} {t t' : Traversal} {id : NodeId}
    (h : nodeFor gen g levels ty field? t = .ok id t') : t.Returns t' :=
  nodeFor_induction (P := fun _ _ t _ t' => t.Returns t')
    (fun _ step _ _ _ _ _ _ _ hs => hs.returns step) levels ty field? t id t' h

/-- Building the parts of a type closes what it opens, too. -/
theorem Visits.returns {gen : Generator} {g : TypeGraph} {levels : Nat}
    {parts : List (TypeId × Option Field)} {t t' : Traversal} {ids : List NodeId}
    (h : Visits (nodeFor gen g levels) parts t ids t') : t.Returns t' :=
  h.relate (R := Traversal.Returns) .refl .trans fun _ _ _ _ _ h => nodeFor_returns h

/-! ### Registries -/

section

variable {gen : Generator} {g : TypeGraph} {P : Registry → Prop}

/-- What assigning an identifier keeps of a registry, an expansion keeps. -/
theorem Expansion.registry (assign : ∀ {r r' ty id events}, P r →
      r.assign g ty = .ok (id, r', events) → P r')
    {descend : Descent} {ty : TypeId} {d : TypeDescriptor} {cls : Classification}
    {t t' : Traversal} {id : NodeId} (h : Expansion gen g descend ty d cls t id t')
    (step : descend.Relates fun t t' => P t.registry → P t'.registry) (ht : P t.registry) :
    P t'.registry := by
  have visits : ∀ {parts t t' ids}, Visits descend parts t ids t' → P t.registry → P t'.registry :=
    fun hv => hv.relate (R := fun t t' => P t.registry → P t'.registry) (fun _ h => h)
      (fun h₁ h₂ h => h₂ (h₁ h)) step
  cases h with
  | leaf _ => exact ht
  | cut _ _ => rw [Traversal.cut_eq]; exact ht
  | collection _ parts _ _ =>
    have kept := visits parts ht
    exact kept
  | reference assigned _ => exact assign ht assigned
  | cutObject assigned _ _ => rw [Traversal.cut_eq]; exact assign ht assigned
  | @object _ _ _ id r events _ assigned _ _ parts _ =>
    have claimed : P (t.claimed ty id r events).registry := assign ht assigned
    have kept := visits parts claimed
    exact kept

/-- **What assignments keep of a registry, a generation keeps.** -/
theorem nodeFor_registry (assign : ∀ {r r' ty id events}, P r →
      r.assign g ty = .ok (id, r', events) → P r')
    {levels : Nat} {ty : TypeId} {field? : Option Field} {t t' : Traversal} {id : NodeId}
    (h : nodeFor gen g levels ty field? t = .ok id t') (ht : P t.registry) : P t'.registry := by
  have decorated : ∀ {t t' : Traversal} {id id' : NodeId}, Decorated t id t' id' →
      P t.registry → P t'.registry := by
    rintro t t' id id' ⟨-, _, hr⟩ ht
    rw [hr]
    exact ht
  refine nodeFor_induction (P := fun _ _ t _ t' => P t.registry → P t'.registry) ?_ levels ty field?
    t id t' h ht
  intro descend step ty field? d t id t' _ hs ht
  cases hs with
  | wrapped _ part finish => exact decorated (wrapNull_decorated finish) (step _ _ _ _ _ part ht)
  | overridden _ _ finish => exact decorated (decorate_decorated finish) ht
  | @expanded _ t₀ _ _ _ _ _ plain expansion finish =>
    refine decorated (decorate_decorated finish) (expansion.registry assign step ?_)
    rcases overrideFor_ok plain with ⟨o, ho, -⟩ | ⟨-, rfl | rfl⟩
    · cases ho
    · exact ht
    · exact ht

/-- A generation leaves a coherent registry coherent. -/
theorem generate_coherent {root : TypeId} {w w' : Workspace} {s : GeneratedSchema}
    (h : generate gen g root w = .ok s w') (coherent : w.registry.Coherent) :
    w'.registry.Coherent := by
  obtain ⟨t, hn, -, rfl⟩ := generate_ok h
  exact nodeFor_registry (fun h ha => h.assign ha) hn coherent

end

end TypeSchema
