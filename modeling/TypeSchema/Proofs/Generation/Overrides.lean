import TypeSchema.Proofs.Generation.Assembly
import TypeSchema.Proofs.Generation.Shadows

/-!
# Generation — other overrides

A generation is run once more, with overrides that are the same for the visited types of a class
that can have one (`Generator.Retains`).  What is registered for any other type is not used, so at
each point the state of the second run is that of the first one, but for the reports of overrides
that are ignored (`Traversal.AlikeButIgnored`), and the schema is the same
(`generate_withOverrides`).
-/

namespace TypeSchema

open Build

variable {gen : Generator} {g : TypeGraph}

/-- The generator with other overrides. -/
def Generator.withOverrides (gen : Generator) (overrides : Overrides) : Generator :=
  { gen with overrides }

/-- If the class of the type can have an override, the type has the same as before. -/
def Generator.Retains (gen : Generator) (g : TypeGraph) (overrides : Overrides) (ty : TypeId) :
    Prop :=
  ∀ d, g.describe? ty = some d → (g.classify d.shape).isOverridable →
    overrides.lookup? [d.identity, d.name] = gen.overrides.lookup? [d.identity, d.name]

/-! ### States -/

/-- The reports that are not about ignored overrides. -/
def otherReports (events : List DiagnosticEvent) : List DiagnosticEvent :=
  events.filter (·.code ≠ .unsupportedOverride)

theorem otherReports_append (l l' : List DiagnosticEvent) :
    otherReports (l ++ l') = otherReports l ++ otherReports l' := List.filter_append ..

/-- The report of an ignored override is left out. -/
theorem otherReports_ignoredOverride (identity : String) :
    otherReports [ignoredOverrideEvent identity] = [] := rfl

namespace Traversal

/-- The states are the same but for the reports of ignored overrides. -/
def AlikeButIgnored (t s : Traversal) : Prop :=
  ∃ refused events, s = { t with refused, events } ∧ otherReports events = otherReports t.events

namespace AlikeButIgnored

variable {t t₁ s : Traversal}

theorem symm (h : t.AlikeButIgnored s) : s.AlikeButIgnored t := by
  obtain ⟨_, _, rfl, same⟩ := h
  exact ⟨t.refused, t.events, rfl, same.symm⟩

theorem trans (h₁ : t.AlikeButIgnored t₁) (h₂ : t₁.AlikeButIgnored s) : t.AlikeButIgnored s := by
  obtain ⟨_, _, rfl, same₁⟩ := h₁
  obtain ⟨_, _, rfl, same₂⟩ := h₂
  exact ⟨_, _, rfl, same₂.trans same₁⟩

/-- A change that neither looks at the reports nor adds any. -/
theorem framed (h : t.AlikeButIgnored s) (f : Traversal → Traversal)
    (frame : ∀ (t : Traversal) refused events, f { t with refused, events } =
      { f t with refused, events }) (silent : ∀ t, (f t).events = t.events) :
    (f t).AlikeButIgnored (f s) := by
  obtain ⟨refused, events, rfl, same⟩ := h
  exact ⟨refused, events, frame t refused events, by rw [silent, same]⟩

/-- The same reports keep two traversals alike. -/
theorem reported (h : t.AlikeButIgnored s) (events : List DiagnosticEvent) :
    (t.reported events).AlikeButIgnored (s.reported events) := by
  obtain ⟨refused, es, rfl, same⟩ := h
  exact ⟨refused, es ++ events, rfl, by
    rw [Traversal.reported, otherReports_append, otherReports_append, same]⟩

/-- The identifier of a type does not depend on what was reported. -/
theorem claimed (h : t.AlikeButIgnored s) {ty : TypeId} {id : String} {r : Registry}
    {events : List DiagnosticEvent} (assigned : t.registry.assign g ty = .ok (id, r, events)) :
    s.registry.assign g ty = .ok (id, r, events) ∧
      (t.claimed ty id r events).AlikeButIgnored (s.claimed ty id r events) := by
  refine ⟨?_, (h.reported events).framed (fun t =>
    { t with registry := r, components := t.components.insertNew id ty })
    (fun _ _ _ => rfl) fun _ => rfl⟩
  obtain ⟨_, _, rfl, -⟩ := h
  exact assigned

/-- Traversals that are alike but for ignored overrides do the same. -/
theorem shadows : Traversal.Shadows AlikeButIgnored where
  arena := by
    rintro t s ⟨_, _, rfl, -⟩
    rfl
  changed a events h _ :=
    (h.framed (fun t => { t with arena := a }) (fun _ _ _ => rfl) fun _ => rfl).reported events
  guard := by
    rintro t s ⟨_, _, rfl, -⟩
    rfl
  identifiers := by
    rintro t s ⟨_, _, rfl, -⟩
    rfl
  pushed n h := h.framed (·.pushed n) (fun _ _ _ => rfl) fun _ => rfl
  opened ty h := h.framed (·.opened ty) (fun _ _ _ => rfl) fun _ => rfl
  closed h := h.framed (·.closed) (fun _ _ _ => rfl) fun _ => rfl
  recorded i n h := h.framed (·.recorded i n) (fun _ _ _ => rfl) fun _ => rfl
  reported h _ := h.reported _
  cut {t s} v reason h := by
    obtain ⟨refused, es, rfl, same⟩ := h
    exact ⟨rfl, refused, es ++ (t.guard.placeholder t.arena v reason).2.2.2, rfl, by
      rw [otherReports_append, same, ← otherReports_append]
      rfl⟩

end AlikeButIgnored

end Traversal

/-! ### Building -/

section

variable {overrides : Overrides} {levels : Nat} {ty : TypeId} {d : TypeDescriptor}
  {t t' s : Traversal} {id : NodeId}

/-- Looking for an override that is not there reports at most that one is ignored. -/
theorem overrideFor_alike {cls : Classification} {t₀ : Traversal}
    (h : overrideFor gen ty d cls t = .ok none t₀) : t.AlikeButIgnored t₀ := by
  rcases overrideFor_ok h with ⟨o, ho, -⟩ | ⟨-, rfl | rfl⟩
  · cases ho
  · exact ⟨_, _, rfl, rfl⟩
  · exact ⟨_, _, rfl, by
      rw [otherReports_append, otherReports_ignoredOverride, List.append_nil]⟩

/-- A type that retains its overrides finds none in either set, or ignores one. -/
theorem overrideFor_withOverrides {t₀ : Traversal} (known : g.describe? ty = some d)
    (retained : gen.Retains g overrides ty)
    (h : overrideFor gen ty d (g.classify d.shape) t = .ok none t₀) (hs : t.AlikeButIgnored s) :
    ∃ s₀, overrideFor (gen.withOverrides overrides) ty d (g.classify d.shape) s = .ok none s₀ ∧
      t₀.AlikeButIgnored s₀ := by
  have unused : (g.classify d.shape).isOverridable →
      (gen.withOverrides overrides).overrides.lookup? [d.identity, d.name] = none :=
    fun overridable =>
      (retained d known overridable).trans (lookup?_of_overrideFor_none h overridable)
  obtain ⟨s₀, h'⟩ := overrideFor_none_of_lookup? unused s
  exact ⟨s₀, h', (overrideFor_alike h).symm.trans (hs.trans (overrideFor_alike h'))⟩

/-- Overrides are no matter of expansions. -/
theorem Expansion.withOverrides {descend : Descent} {cls : Classification}
    (h : Expansion gen g descend ty d cls t id t') :
    Expansion (gen.withOverrides overrides) g descend ty d cls t id t' := by
  cases h with
  | leaf node => exact .leaf node
  | cut collection closed => exact .cut collection closed
  | collection opens parts node innermost => exact .collection opens parts node innermost
  | reference assigned expanded => exact .reference assigned expanded
  | cutObject assigned fresh closed => exact .cutObject assigned fresh closed
  | object assigned fresh opens parts innermost =>
    exact .object assigned fresh opens parts innermost

/-- What is built is built with other overrides as well, if the types that are visited retain
theirs. -/
def Generator.Rebuilds (gen : Generator) (g : TypeGraph) (overrides : Overrides) (levels : Nat) :
    Prop :=
  ∀ ⦃ty field? t id t' s⦄, nodeFor gen g levels ty field? t = .ok id t' →
    (∀ x ∈ visitedFor gen g levels ty field? t, gen.Retains g overrides x) → t.AlikeButIgnored s →
    ∃ s', nodeFor (gen.withOverrides overrides) g levels ty field? s = .ok id s' ∧
      t'.AlikeButIgnored s'

/-- Parts that retain their overrides are visited with the same nodes. -/
theorem Visits.withOverrides (rebuilds : gen.Rebuilds g overrides levels)
    {parts : List (TypeId × Option Field)} {ids : List NodeId}
    (h : Visits (nodeFor gen g levels) parts t ids t')
    (retained : ∀ x ∈ partsVisited (nodeFor gen g levels) (visitedFor gen g levels) parts t,
      gen.Retains g overrides x) (hs : t.AlikeButIgnored s) :
    ∃ s', Visits (nodeFor (gen.withOverrides overrides) g levels) parts s ids s' ∧
      t'.AlikeButIgnored s' := by
  induction h generalizing s with
  | nil => exact ⟨s, .nil s, hs⟩
  | cons head _ ih =>
    rw [partsVisited_cons head, List.forall_mem_append] at retained
    obtain ⟨s₁, head', hs₁⟩ := rebuilds head retained.1 hs
    obtain ⟨s', tail', hs'⟩ := ih retained.2 hs₁
    exact ⟨s', .cons head' tail', hs'⟩

/-- A step can be redone with the other overrides if the types visited in it retain theirs. -/
theorem Step.withOverrides (rebuilds : gen.Rebuilds g overrides levels) {field? : Option Field}
    (known : g.describe? ty = some d)
    (h : Step gen g (nodeFor gen g levels) ty field? d t id t')
    (retained : ∀ x ∈ stepVisited gen g (nodeFor gen g levels) (visitedFor gen g levels) ty
      field? t, gen.Retains g overrides x) (hs : t.AlikeButIgnored s) :
    ∃ s', Step (gen.withOverrides overrides) g (nodeFor (gen.withOverrides overrides) g levels)
      ty field? d s id s' ∧ t'.AlikeButIgnored s' := by
  have shadows := Traversal.AlikeButIgnored.shadows
  cases h with
  | wrapped cls part finish =>
    rw [stepVisited_wrapped known cls, List.forall_mem_cons] at retained
    obtain ⟨s₁, part', hs₁⟩ := rebuilds part retained.2 hs
    obtain ⟨_, s', finish', rfl, hs'⟩ :=
      lockstep_wrapNull shadows.toSharesArena gen d _ hs₁ finish
    exact ⟨s', .wrapped cls part' finish', hs'⟩
  | overridden lookup cls finish =>
    rw [stepVisited_overridden known lookup cls, List.forall_mem_singleton] at retained
    obtain ⟨_, s', finish', rfl, hs'⟩ :=
      lockstep_decorate shadows.toSharesArena gen d field? _ (shadows.pushed _ hs) finish
    rw [← shadows.arena hs] at finish'
    exact ⟨s', .overridden ((retained d known cls).trans lookup) cls finish', hs'⟩
  | expanded cls plain expansion finish =>
    rw [stepVisited_expanded known cls plain, List.forall_mem_cons] at retained
    obtain ⟨s₀, plain', hs₀⟩ := overrideFor_withOverrides known retained.1 plain hs
    obtain ⟨s₁, expansion', hs₁⟩ := expansion.shadowed shadows hs₀
      (fun assigned _ => ⟨_, _, hs₀.claimed assigned⟩) fun opening parts _ hs₂ => by
        rw [expansionVisited_of_opening? opening] at retained
        exact parts.withOverrides rebuilds retained.2 hs₂
    obtain ⟨_, s', finish', rfl, hs'⟩ :=
      lockstep_decorate shadows.toSharesArena gen d field? _ hs₁ finish
    exact ⟨s', .expanded cls plain' expansion'.withOverrides finish', hs'⟩

/-- **Other overrides give the same node**, if they are the same where a type can have one. -/
theorem nodeFor_withOverrides (gen : Generator) (g : TypeGraph) (overrides : Overrides)
    (levels : Nat) : gen.Rebuilds g overrides levels := by
  induction levels with
  | zero => intro ty field? t id t' s h; cases h
  | succ levels ih =>
    intro ty field? t id t' s h retained hs
    obtain ⟨d, known, step⟩ := nodeStep_ok_iff.1 h
    obtain ⟨s', step', hs'⟩ := step.withOverrides ih known retained hs
    exact ⟨s', nodeStep_ok_iff.2 ⟨d, known, step'⟩, hs'⟩

end

/-! ### Generations -/

/-- The workspaces are the same but for the reports of ignored overrides. -/
structure Workspace.AlikeButIgnored (w v : Workspace) : Prop where
  registry : v.registry = w.registry
  throttled : v.throttled = w.throttled
  events : otherReports v.events = otherReports w.events

/-- A generation with other overrides gives the same schema, registry and other reports. -/
theorem generate_withOverrides {root : TypeId} {overrides : Overrides} {w w' : Workspace}
    {s : GeneratedSchema} (h : generate gen g root w = .ok s w')
    (retained : ∀ x ∈ gen.visited g root w, gen.Retains g overrides x) :
    ∃ w'', generate (gen.withOverrides overrides) g root w = .ok s w'' ∧
      w'.AlikeButIgnored w'' := by
  obtain ⟨t, built, hs, rfl⟩ := generate_ok h
  obtain ⟨t', built', refused, events, rfl, same⟩ :=
    nodeFor_withOverrides gen g overrides _ built retained ⟨[], w.events, rfl, rfl⟩
  have generated : generate (gen.withOverrides overrides) g root w = _ := generate_of_ok built'
  rw [hs]
  exact ⟨_, generated, rfl, rfl, same⟩

end TypeSchema
