import TypeSchema.Proofs.Generation.Growth
import TypeSchema.Proofs.Meaning.Values

/-!
# Generation — what its actions keep

A generation changes its state in few ways: it adds a node, decorates one, gives a type its
identifier, records a component, and changes its guard and what it reports.  A relation between
states that each of these actions keeps holds from before a type is built to after it
(`nodeFor_relates`).

The parts of a type are built by `nodeFor` itself, for one level less.  `nodeFor_descent` is the
induction for what is said of the node that is built; what is known of `nodeFor` is there known of
the parts.
-/

namespace TypeSchema

variable {gen : Generator} {g : TypeGraph}

/-- A property of what is built holds at every number of levels if every step hands it on from the
parts, built for one level less, to the whole. -/
theorem nodeFor_descent {P : TypeId → Option Field → Traversal → NodeId → Traversal → Prop}
    (step : ∀ levels,
      (∀ ty field? t id t', nodeFor gen g levels ty field? t = .ok id t' → P ty field? t id t') →
      ∀ ty field? d t id t', g.describe? ty = some d →
        Step gen g (nodeFor gen g levels) ty field? d t id t' → P ty field? t id t') :
    ∀ levels ty field? t id t', nodeFor gen g levels ty field? t = .ok id t' →
      P ty field? t id t' := by
  intro levels
  induction levels with
  | zero => intro ty field? t id t' h; cases h
  | succ levels ih =>
    intro ty field? t id t' h
    obtain ⟨d, hd, hs⟩ := nodeStep_ok h
    exact step levels ih ty field? d t id t' hd hs

/-- Looking for an override that is not there changes the reports at most. -/
theorem overrideFor_none {ty : TypeId} {d : TypeDescriptor} {cls : Classification}
    {t t' : Traversal} (h : overrideFor gen ty d cls t = .ok none t') :
    t' = { t with refused := t'.refused, events := t'.events } := by
  rcases overrideFor_ok h with ⟨o, ho, -⟩ | ⟨-, rfl | rfl⟩
  · cases ho
  · rfl
  · rfl

/-- A type with an override that may be used is not expanded. -/
theorem lookup?_of_overrideFor_none {ty : TypeId} {d : TypeDescriptor} {cls : Classification}
    {t t' : Traversal} (h : overrideFor gen ty d cls t = .ok none t')
    (overridable : cls.isOverridable) : gen.overrides.lookup? [d.identity, d.name] = none := by
  simp only [overrideFor] at h
  cases hl : gen.overrides.lookup? [d.identity, d.name] with
  | none => rfl
  | some o => simp only [hl, overridable, if_true] at h; cases h

/-- No other type has an override in any state. -/
theorem overrideFor_none_of_lookup? {ty : TypeId} {d : TypeDescriptor} {cls : Classification}
    (unused : cls.isOverridable → gen.overrides.lookup? [d.identity, d.name] = none)
    (t : Traversal) : ∃ t₀, overrideFor gen ty d cls t = .ok none t₀ := by
  simp only [overrideFor]
  cases hl : gen.overrides.lookup? [d.identity, d.name] with
  | none => exact ⟨t, rfl⟩
  | some o =>
    have hc : ¬ cls.isOverridable := fun overridable => by
      rw [unused overridable] at hl
      cases hl
    simp only [if_neg hc]
    by_cases refused : ty ∈ t.refused
    · exact ⟨t, bind_ok_iff.2 ⟨t, t, rfl, by rw [if_neg (not_not_intro refused)]; rfl⟩⟩
    · exact ⟨_, bind_ok_iff.2 ⟨t, t, rfl, by rw [if_pos refused]; rfl⟩⟩

/-- Whether an override is there does not depend on the state. -/
theorem exists_overrideFor_none {ty : TypeId} {d : TypeDescriptor} {cls : Classification}
    {t t₀ : Traversal} (h : overrideFor gen ty d cls t = .ok none t₀) (t' : Traversal) :
    ∃ t₀', overrideFor gen ty d cls t' = .ok none t₀' :=
  overrideFor_none_of_lookup? (lookup?_of_overrideFor_none h) t'

/-- A placeholder that is asked for is there afterwards, and no other one is new. -/
theorem Traversal.lookup_cut (t : Traversal) (v : Visit) (reason : CutReason)
    (key : TypeId × CutReason) : (t.cut v reason).2.guard.placeholders.lookup key =
      if key = (v.type, reason) then some (t.cut v reason).1
      else t.guard.placeholders.lookup key := by
  unfold Traversal.cut Guard.placeholder
  cases hl : t.guard.placeholders.lookup (v.type, reason) with
  | some id =>
    simp only
    split
    · next e => rw [e, hl]
    · rfl
  | none =>
    simp only [List.lookup_cons]
    by_cases e : key = (v.type, reason)
    · simp [e]
    · have : (key == (v.type, reason)) = false := by simpa using e
      simp [this, e]

/-- The type is an object with a list of members, and no override replaces it. -/
def Generator.ExpandsMembers (gen : Generator) (g : TypeGraph) (ty : TypeId) : Prop :=
  ∃ d o, g.describe? ty = some d ∧ g.classify d.shape = .object (some o) ∧
    gen.overrides.lookup? [d.identity, d.name] = none

/-- For a known type, whether its members are expanded is read off its description. -/
theorem Generator.expandsMembers_iff {ty : TypeId} {d : TypeDescriptor}
    (known : g.describe? ty = some d) : gen.ExpandsMembers g ty ↔
      (∃ o, g.classify d.shape = .object (some o)) ∧
        gen.overrides.lookup? [d.identity, d.name] = none := by
  constructor
  · rintro ⟨d', o, known', cls, plain⟩
    obtain rfl : d' = d := Option.some.inj (known'.symm.trans known)
    exact ⟨⟨o, cls⟩, plain⟩
  · rintro ⟨⟨o, cls⟩, plain⟩
    exact ⟨d, o, known, cls, plain⟩

namespace Traversal

/-- The type is an object with a list of members, and holds the identifier. -/
def NamesObject (g : TypeGraph) (t : Traversal) (ty : TypeId) (i : String) : Prop :=
  g.Holds t.registry ty i ∧ ∃ o, g.HasClass ty (.object (some o))

/-- Every action of a generation keeps the relation. -/
structure KeptByActions (g : TypeGraph) (R : Traversal → Traversal → Prop) : Prop where
  refl : ∀ t, R t t
  trans : ∀ {t t₁ t₂}, R t t₁ → R t₁ t₂ → R t t₂
  /-- The open types and the reports change. -/
  aside : ∀ {t t' : Traversal}, t'.arena = t.arena → t'.registry = t.registry →
    t'.components = t.components → t'.identifiers = t.identifiers →
    t'.guard.placeholders = t.guard.placeholders → R t t'
  pushed : ∀ t n, R t (t.pushed n)
  decorated : ∀ {t t' : Traversal} {id id' : NodeId}, Decorated t id t' id' → R t t'
  claimed : ∀ {t : Traversal} {ty id r events}, t.registry.assign g ty = .ok (id, r, events) →
    R t (t.claimed ty id r events)
  recorded : ∀ t i node, R t (t.recorded i node)
  /-- A placeholder that points somewhere points to the component of its type. -/
  cut : ∀ {t : Traversal} {v : Visit} (reason : CutReason),
    (∀ i, v.identifier? = some i → t.NamesObject g v.type i) → R t (t.cut v reason).2

end Traversal

variable {R : Traversal → Traversal → Prop} {descend : Descent} {ty : TypeId} {d : TypeDescriptor}
  {t t' : Traversal} {id : NodeId}

/-- An expansion relates its two ends by every relation that the actions keep. -/
theorem Expansion.relates (kept : Traversal.KeptByActions g R) {cls : Classification}
    (known : g.HasClass ty cls) (h : Expansion gen g descend ty d cls t id t')
    (step : descend.Relates R) : R t t' := by
  have visits : ∀ {parts t t' ids}, Visits descend parts t ids t' → R t t' :=
    fun hv => hv.relate kept.refl kept.trans step
  cases h with
  | @leaf _ _ n events _ =>
    have reported : R t (t.reported events) := kept.aside rfl rfl rfl rfl rfl
    exact kept.trans reported (kept.pushed _ n)
  | cut _ _ => exact kept.cut _ fun _ named => by cases named
  | @collection _ _ t₁ _ n _ parts _ _ =>
    have opened : R t (t.opened ty) := kept.aside rfl rfl rfl rfl rfl
    have closed : R (t₁.pushed n) (t₁.pushed n).closed := kept.aside rfl rfl rfl rfl rfl
    exact kept.trans opened (kept.trans (visits parts) (kept.trans (kept.pushed t₁ n) closed))
  | reference assigned _ => exact kept.trans (kept.claimed assigned) (kept.pushed _ _)
  | @cutObject o _ _ _ _ _ assigned _ _ =>
    refine kept.trans (kept.claimed assigned) (kept.cut _ fun i named => ?_)
    cases named
    exact ⟨(Registry.assign_spec assigned).2, o, known⟩
  | @object o _ t₁ i r events ids assigned _ _ parts _ =>
    have opened : R (t.claimed ty i r events)
        (((t.claimed ty i r events).opened ty).reported (objectEvents gen d o)) :=
      kept.aside rfl rfl rfl rfl rfl
    have before := kept.trans (kept.claimed assigned) (kept.trans opened (visits parts))
    have recorded := kept.trans (kept.pushed t₁ (objectNode gen o i ids))
      (kept.recorded _ i ⟨t₁.arena.size⟩)
    have pushed := kept.trans recorded (kept.pushed _ (objectNode gen o i ids))
    exact kept.trans before (kept.trans pushed (kept.aside rfl rfl rfl rfl rfl))

/-- A step relates its two ends by every relation that the actions keep. -/
theorem Step.relates (kept : Traversal.KeptByActions g R) {field? : Option Field}
    (known : g.describe? ty = some d) (h : Step gen g descend ty field? d t id t')
    (step : descend.Relates R) : R t t' := by
  cases h with
  | wrapped _ part finish =>
    exact kept.trans (step _ _ _ _ _ part) (kept.decorated (wrapNull_decorated finish))
  | overridden _ _ finish =>
    exact kept.trans (kept.pushed t _) (kept.decorated (decorate_decorated finish))
  | @expanded _ t₀ _ _ _ _ _ plain expansion finish =>
    have looked : R t t₀ := by
      rw [overrideFor_none plain]
      exact kept.aside rfl rfl rfl rfl rfl
    exact kept.trans looked (kept.trans (expansion.relates kept ⟨d, known, rfl⟩ step)
      (kept.decorated (decorate_decorated finish)))

/-- **What every action keeps, a generation keeps.** -/
theorem nodeFor_relates (kept : Traversal.KeptByActions g R) {levels : Nat} {field? : Option Field}
    (h : nodeFor gen g levels ty field? t = .ok id t') : R t t' :=
  nodeFor_induction (P := fun _ _ t _ t' => R t t')
    (fun _ step _ _ _ _ _ _ known hs => hs.relates kept known step) levels ty field? t id t' h

/-- The states before and after each part are related, as are those around all of them. -/
theorem Visits.relates (kept : Traversal.KeptByActions g R) {levels : Nat}
    {parts : List (TypeId × Option Field)} {ids : List NodeId}
    (h : Visits (nodeFor gen g levels) parts t ids t') : R t t' :=
  h.relate kept.refl kept.trans fun _ _ _ _ _ h => nodeFor_relates kept h

/-- A relation between arenas that adding and decorating nodes keep holds around a generation. -/
theorem Traversal.KeptByActions.of_arena {S : Arena → Arena → Prop} (refl : ∀ a, S a a)
    (trans : ∀ {a a₁ a₂}, S a a₁ → S a₁ a₂ → S a a₂) (push : ∀ a n, S a (a.push n).2)
    (dressed : ∀ {a a' id id'}, Dressed a id a' id' → S a a') :
    KeptByActions g fun t t' => S t.arena t'.arena where
  refl t := refl t.arena
  trans h h' := trans h h'
  aside ha _ _ _ _ := ha ▸ refl _
  pushed t n := push t.arena n
  decorated h := dressed h.dressed
  claimed _ := refl _
  recorded _ _ _ := refl _
  cut {t v} reason _ := by
    unfold Traversal.cut Guard.placeholder
    cases t.guard.placeholders.lookup (v.type, reason) with
    | some id => exact refl _
    | none => exact push _ _

end TypeSchema
