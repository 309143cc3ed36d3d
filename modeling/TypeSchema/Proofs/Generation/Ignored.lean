import TypeSchema.Proofs.Generation.Accounts
import TypeSchema.Proofs.Generation.Faults
import TypeSchema.Proofs.Generation.Nullability
import TypeSchema.Proofs.Generation.Overrides
import TypeSchema.Proofs.Graph.Interning

/-!
# Generation — overrides that are ignored

An override is ignored if the class of its type cannot have one (`Generator.Ignores`).  This is
reported when the type is visited for the first time, unless it is a nullable wrapper: a wrapper is
taken off before an override is looked for (`Generator.Refuses`).

`Traversal.Rejects` says of two states that the types that were visited between them, and refuse an
override, are those that were reported there or before.  A visit adds its type, what is no visit
adds nothing, and stretches are put end to end (`Rejects.trans`), so it holds around every type that
is built (`nodeFor_rejects`).

`generate_ignored` says so of a generation, and that an override that is ignored changes nothing
else (`generate_withOverrides`).
-/

namespace TypeSchema

open Build

/-! ### Reports -/

/-- The reports of overrides that are ignored. -/
def ignoredReports (events : List DiagnosticEvent) : List DiagnosticEvent :=
  events.filter (·.code = .unsupportedOverride)

theorem ignoredReports_append (l l' : List DiagnosticEvent) :
    ignoredReports (l ++ l') = ignoredReports l ++ ignoredReports l' := List.filter_append ..

/-- Reports of other kinds are no reports of an override that was ignored. -/
theorem ignoredReports_of_reportsOnly {codes : List DiagnosticCode} {events : List DiagnosticEvent}
    (h : ReportsOnly codes events) (other : .unsupportedOverride ∉ codes) :
    ignoredReports events = [] :=
  List.filter_eq_nil_iff.2 fun e he => by simpa using h.code_ne other e he

/-- The report that an override of the type is ignored. -/
def TypeGraph.ignoredReport (g : TypeGraph) (ty : TypeId) : DiagnosticEvent :=
  ignoredOverrideEvent (g.identityText ty)

/-- For a known type the report bears its identity. -/
theorem TypeGraph.ignoredReport_eq {g : TypeGraph} {ty : TypeId} {d : TypeDescriptor}
    (known : g.describe? ty = some d) : g.ignoredReport ty = ignoredOverrideEvent d.identity := by
  simp [ignoredReport, identityText, identity?, known]

theorem ignoredReports_ignoredOverride (identity : String) :
    ignoredReports [ignoredOverrideEvent identity] = [ignoredOverrideEvent identity] := rfl

/-- Among the events there is one report of an ignored override for each type that is due, and none
besides. -/
def TypeGraph.ReportsEach (g : TypeGraph) (due : TypeId → Prop) (events : List DiagnosticEvent) :
    Prop :=
  ∃ reported : List TypeId, reported.Nodup ∧ (∀ x, x ∈ reported ↔ due x) ∧
    ignoredReports events = reported.map g.ignoredReport

/-! ### Types that refuse an override -/

/-- An override is registered for the type, and its class cannot have one. -/
def Generator.Ignores (gen : Generator) (g : TypeGraph) (ty : TypeId) : Prop :=
  ∃ d, g.describe? ty = some d ∧ (gen.overrides.lookup? [d.identity, d.name]).isSome ∧
    ¬ (g.classify d.shape).isOverridable

/-- An override is registered for the type, and is looked for in vain when the type is visited. -/
def Generator.Refuses (gen : Generator) (g : TypeGraph) (ty : TypeId) : Prop :=
  gen.Ignores g ty ∧ ¬ g.IsNullable ty

variable {gen : Generator} {g : TypeGraph}

/-- A type that is not nullable refuses an override if one is registered and its class admits none.
-/
theorem Generator.refuses_iff {ty : TypeId} {d : TypeDescriptor} (known : g.describe? ty = some d)
    (cls : ∀ inner, g.classify d.shape ≠ .nullable inner) :
    gen.Refuses g ty ↔ (gen.overrides.lookup? [d.identity, d.name]).isSome ∧
      ¬ (g.classify d.shape).isOverridable := by
  constructor
  · rintro ⟨⟨d', known', ignored⟩, -⟩
    cases known.symm.trans known'
    exact ignored
  · exact fun ignored => ⟨⟨d, known, ignored⟩, TypeGraph.not_isNullable known cls⟩

/-- A nullable type refuses none: no override is looked for. -/
theorem Generator.not_refuses_of_wrapper {ty inner : TypeId} {d : TypeDescriptor}
    (known : g.describe? ty = some d) (cls : g.classify d.shape = .nullable inner) :
    ¬ gen.Refuses g ty :=
  fun h => h.2 ((TypeGraph.isNullable_iff known).2 ⟨inner, cls⟩)

/-- A class that admits overrides refuses none. -/
theorem Generator.not_refuses_of_isOverridable {ty : TypeId} {d : TypeDescriptor}
    (known : g.describe? ty = some d) (cls : (g.classify d.shape).isOverridable) :
    ¬ gen.Refuses g ty := by
  rintro ⟨⟨d', known', -, refused⟩, -⟩
  cases known.symm.trans known'
  exact refused cls

/-! ### What is reported between two states -/

namespace Traversal

/-- No override was ignored on the way. -/
structure Accepts (t t' : Traversal) : Prop where
  refused : t'.refused = t.refused
  events : ignoredReports t'.events = ignoredReports t.events

namespace Accepts

variable {t t₁ t' : Traversal}

theorem trans (h₁ : t.Accepts t₁) (h₂ : t₁.Accepts t') : t.Accepts t' :=
  ⟨h₂.refused.trans h₁.refused, h₂.events.trans h₁.events⟩

/-- What is reported is something else. -/
theorem of_reports {codes : List DiagnosticCode} {events : List DiagnosticEvent}
    (reports : ReportsOnly codes events) (other : .unsupportedOverride ∉ codes)
    (refused : t'.refused = t.refused) (added : t'.events = t.events ++ events) :
    t.Accepts t' := by
  refine ⟨refused, ?_⟩
  rw [added, ignoredReports_append, ignoredReports_of_reportsOnly reports other, List.append_nil]

/-- Other reports ignore no override. -/
theorem reported (t : Traversal) {codes : List DiagnosticCode} {events : List DiagnosticEvent}
    (reports : ReportsOnly codes events) (other : .unsupportedOverride ∉ codes) :
    t.Accepts (t.reported events) := .of_reports reports other rfl rfl

theorem claimed {ty : TypeId} {id : String} {r : Registry} {events : List DiagnosticEvent}
    (assigned : t.registry.assign g ty = .ok (id, r, events)) :
    t.Accepts (t.claimed ty id r events) :=
  .of_reports (reportsOnly_assign assigned) (by decide) rfl rfl

/-- A type that is cut reports the cut alone. -/
theorem cut (t : Traversal) (v : Visit) (reason : CutReason) : t.Accepts (t.cut v reason).2 :=
  .of_reports (reportsOnly_placeholder t.guard t.arena v reason) (by decide)
    (by rw [cut_eq]) rfl

/-- Decorating a node complains at most. -/
theorem decorated {id id' : NodeId} (hd : Decorated t id t' id') (complains : Complains t t') :
    t.Accepts t' := by
  obtain ⟨-, _, rest⟩ := hd
  obtain ⟨events, added, reports⟩ := complains
  exact .of_reports reports (by decide) (by rw [rest]) added

end Accepts

/-- The types of the list that refuse an override were reported on the way, each once, unless they
had been before. -/
def Rejects (gen : Generator) (g : TypeGraph) (seen : List TypeId) (t t' : Traversal) : Prop :=
  ∃ reported : List TypeId, reported.Nodup ∧
    (∀ x, x ∈ reported ↔ (x ∈ seen ∧ gen.Refuses g x) ∧ x ∉ t.refused) ∧
    (∀ x, x ∈ t'.refused ↔ x ∈ t.refused ∨ x ∈ reported) ∧
    ignoredReports t'.events = ignoredReports t.events ++ reported.map g.ignoredReport

namespace Rejects

variable {t t₁ t₂ t' : Traversal} {seen seen' : List TypeId} {ty : TypeId}

/-- None of the types refuses an override. -/
theorem of_accepts (none : ∀ x ∈ seen, ¬ gen.Refuses g x) (h : t.Accepts t') :
    t.Rejects gen g seen t' := by
  refine ⟨[], List.nodup_nil, fun x => ?_, fun x => ?_, ?_⟩
  · simpa using fun hx refuses => absurd refuses (none x hx)
  · simp [h.refused]
  · simp [h.events]

theorem refl (t : Traversal) : t.Rejects gen g [] t :=
  .of_accepts (fun _ hx => by cases hx) ⟨rfl, rfl⟩

theorem trans (h₁ : t.Rejects gen g seen t₁) (h₂ : t₁.Rejects gen g seen' t') :
    t.Rejects gen g (seen ++ seen') t' := by
  obtain ⟨r₁, nodup₁, mem₁, refused₁, events₁⟩ := h₁
  obtain ⟨r₂, nodup₂, mem₂, refused₂, events₂⟩ := h₂
  refine ⟨r₁ ++ r₂, ?_, fun x => ?_, fun x => ?_, ?_⟩
  · -- what is reported later had not been reported before
    refine List.nodup_append.2 ⟨nodup₁, nodup₂, ?_⟩
    rintro x hx₁ _ hx₂ rfl
    exact ((mem₂ x).1 hx₂).2 ((refused₁ x).2 (.inr hx₁))
  · rw [List.mem_append, List.mem_append, mem₁, mem₂, refused₁, mem₁]
    tauto
  · rw [refused₂, refused₁, List.mem_append, or_assoc]
  · rw [events₂, events₁, List.map_append, List.append_assoc]

/-- Nothing is ignored before and after. -/
theorem around (before : t.Accepts t₁) (h : t₁.Rejects gen g seen t₂) (after : t₂.Accepts t') :
    t.Rejects gen g seen t' := by
  have nothing : ∀ x ∈ ([] : List TypeId), ¬ gen.Refuses g x := fun _ hx => by cases hx
  have all := (of_accepts nothing before).trans (h.trans (of_accepts nothing after))
  rwa [List.append_nil, List.nil_append] at all

end Rejects

end Traversal

/-! ### Building -/

section

variable {levels : Nat} {ty : TypeId} {d : TypeDescriptor} {t t' : Traversal} {id : NodeId}

/-- Looking for the override of a type that is not replaced. -/
theorem overrideFor_rejects {t₀ : Traversal} (known : g.describe? ty = some d)
    (cls : ∀ inner, g.classify d.shape ≠ .nullable inner)
    (h : overrideFor gen ty d (g.classify d.shape) t = .ok none t₀) :
    t.Rejects gen g [ty] t₀ := by
  have refuses : gen.Refuses g ty ↔ _ := Generator.refuses_iff known cls
  simp only [overrideFor] at h
  cases lookup : gen.overrides.lookup? [d.identity, d.name] with
  | none =>
    simp only [lookup] at h
    cases h
    exact .of_accepts (by simp [refuses, lookup]) ⟨rfl, rfl⟩
  | some o =>
    simp only [lookup] at h
    by_cases overridable : (g.classify d.shape).isOverridable
    · rw [if_pos overridable] at h
      cases h
    rw [if_neg overridable] at h
    have ignored : gen.Refuses g ty := refuses.2 ⟨by simp [lookup], overridable⟩
    obtain ⟨_, _, hget, h⟩ := bind_ok_iff.1 h
    cases hget
    by_cases before : ty ∈ t.refused
    · rw [if_neg (not_not_intro before)] at h
      cases h
      refine ⟨[], List.nodup_nil, fun x => ?_, fun x => by simp, by simp⟩
      simp only [List.not_mem_nil, List.mem_singleton, false_iff, not_and, not_not]
      rintro ⟨rfl, -⟩
      exact before
    · rw [if_pos before] at h
      cases h
      refine ⟨[ty], List.nodup_singleton ty, fun x => ?_, fun x => ?_, ?_⟩
      · simp only [List.mem_singleton]
        refine ⟨?_, fun h => h.1.1⟩
        rintro rfl
        exact ⟨⟨rfl, ignored⟩, before⟩
      · simp [or_comm]
      · simp [ignoredReports_append, ignoredReports_ignoredOverride,
          TypeGraph.ignoredReport_eq known]

/-- Around each type that is built, those are reported that are visited. -/
def Descent.Rejects (gen : Generator) (g : TypeGraph) (descend : Descent) (below : Sightings) :
    Prop :=
  ∀ ⦃ty field? t id t'⦄, descend ty field? t = .ok id t' →
    t.Rejects gen g (below ty field? t) t'

variable {descend : Descent} {below : Sightings}

/-- The overrides that are ignored in some parts are those of the types visited in them. -/
theorem Visits.rejects (step : descend.Rejects gen g below) {parts : List (TypeId × Option Field)}
    {ids : List NodeId} (h : Visits descend parts t ids t') :
    t.Rejects gen g (partsVisited descend below parts t) t' := by
  induction h with
  | nil => exact .refl _
  | cons head _ ih =>
    rw [partsVisited_cons head]
    exact (step head).trans ih

/-- Those ignored in an expansion are those of the types visited below. -/
theorem Expansion.rejects (step : descend.Rejects gen g below) {cls : Classification}
    (h : Expansion gen g descend ty d cls t id t') :
    t.Rejects gen g (expansionVisited gen g descend below ty d cls t) t' := by
  have nothing : ∀ {t' : Traversal}, t.Accepts t' → t.Rejects gen g [] t' := fun accepts =>
    .of_accepts (fun _ hx => by cases hx) accepts
  cases h with
  | leaf node =>
    rw [expansionVisited_leaf node]
    exact nothing ((Traversal.Accepts.reported t (reportsOnly_leafNode? node) (by decide)).trans
      ⟨rfl, rfl⟩)
  | cut collection closed =>
    rw [expansionVisited_cut collection closed]
    exact nothing (.cut t _ _)
  | collection opens parts node _ =>
    have collection := isCollection_of_collectionNode? node
    rw [expansionVisited_of_opening? (opening?_collection collection opens)]
    exact .around ⟨rfl, rfl⟩ (parts.rejects step) ⟨rfl, rfl⟩
  | reference assigned expanded =>
    rw [expansionVisited_reference assigned expanded]
    exact nothing ((Traversal.Accepts.claimed assigned).trans ⟨rfl, rfl⟩)
  | cutObject assigned _ closed =>
    rw [expansionVisited_cutObject assigned closed]
    exact nothing ((Traversal.Accepts.claimed assigned).trans (.cut _ _ _))
  | @object o _ _ i r events _ assigned fresh opens parts _ =>
    rw [expansionVisited_of_opening? (opening?_object assigned fresh opens)]
    have opened : t.Accepts ((t.claimed ty i r events).opened ty) :=
      (Traversal.Accepts.claimed assigned).trans ⟨rfl, rfl⟩
    have reported := Traversal.Accepts.reported ((t.claimed ty i r events).opened ty)
      (reportsOnly_objectEvents gen d o) (by decide)
    exact .around (opened.trans reported) (parts.rejects step) ⟨rfl, rfl⟩

/-- Those ignored in a step are those of its type and of the types visited below. -/
theorem Step.rejects (step : descend.Rejects gen g below) {field? : Option Field}
    (known : g.describe? ty = some d) (h : Step gen g descend ty field? d t id t') :
    t.Rejects gen g (stepVisited gen g descend below ty field? t) t' := by
  have alone : ∀ {t' : Traversal}, ¬ gen.Refuses g ty → t.Accepts t' →
      t.Rejects gen g [ty] t' := fun accepted accepts =>
    .of_accepts (fun _ hx => List.mem_singleton.1 hx ▸ accepted) accepts
  cases h with
  | wrapped cls part finish =>
    rw [stepVisited_wrapped known cls]
    have wrapper := alone (Generator.not_refuses_of_wrapper known cls) ⟨rfl, rfl⟩
    exact wrapper.trans (.around ⟨rfl, rfl⟩ (step part)
      (.decorated (wrapNull_decorated finish) (wrapNull_complains finish)))
  | @overridden o _ _ _ lookup cls finish =>
    rw [stepVisited_overridden known lookup cls]
    have pushed : t.Accepts (t.pushed o.node) := ⟨rfl, rfl⟩
    exact alone (Generator.not_refuses_of_isOverridable known cls) (pushed.trans
      (.decorated (decorate_decorated finish) (decorate_complains finish)))
  | expanded cls plain expansion finish =>
    rw [stepVisited_expanded known cls plain]
    exact (overrideFor_rejects known cls plain).trans (.around ⟨rfl, rfl⟩ (expansion.rejects step)
      (.decorated (decorate_decorated finish) (decorate_complains finish)))

/-- **What is visited and refuses an override is reported.** -/
theorem nodeFor_rejects (gen : Generator) (g : TypeGraph) (levels : Nat) :
    (nodeFor gen g levels).Rejects gen g (visitedFor gen g levels) := by
  induction levels with
  | zero => intro ty field? t id t' h; cases h
  | succ levels ih =>
    intro ty field? t id t' h
    obtain ⟨d, known, step⟩ := nodeStep_ok h
    exact step.rejects ih known

end

/-! ### Generations -/

/-- **Overrides that are ignored are reported, and change nothing else.**  Each type that a
generation visits, that is no nullable wrapper, and for which an override is registered that its
class cannot have, is reported once, and no other type is.  The schema is the same whatever
overrides there are for such types and for wrappers. -/
theorem generate_ignored {root : TypeId} {w w' : Workspace} {s : GeneratedSchema}
    (h : generate gen g root w = .ok s w') :
    (∃ added, w'.events = w.events ++ added ∧
      g.ReportsEach (fun x => x ∈ gen.visited g root w ∧ gen.Refuses g x) added) ∧
    ∀ overrides, (∀ x ∈ gen.visited g root w, gen.Retains g overrides x) →
      ∃ w'', generate (gen.withOverrides overrides) g root w = .ok s w'' ∧
        w'.AlikeButIgnored w'' := by
  refine ⟨?_, fun overrides retained => generate_withOverrides h retained⟩
  obtain ⟨t, built, -, rfl⟩ := generate_ok h
  obtain ⟨added, -, events⟩ := (ends_nodeFor _ _ _ _).ok _ t built
  obtain ⟨reported, nodup, mem, -, ignored⟩ := nodeFor_rejects gen g _ built
  refine ⟨added, events, reported, nodup, fun x => ?_, ?_⟩
  · rw [mem]
    exact and_iff_left List.not_mem_nil
  · rw [events, ignoredReports_append] at ignored
    exact List.append_cancel_left ignored

/-- A text, a list of texts, an optional text, and an object with two fields of the list and one of
the optional text. -/
def TypeGraph.listed : TypeGraph := .ofTypes #[
  { identity := "String", name := "String", shape := .scalar .string },
  { identity := "String[]", name := "Array", shape := .array ⟨0⟩ },
  { identity := "Nullable<String>", name := "Nullable", shape := .nullable ⟨0⟩ },
  { identity := "A", name := "A", shape := .object { fields := [
      { name := "a", type := ⟨1⟩ }, { name := "b", type := ⟨1⟩ },
      { name := "c", type := ⟨2⟩ }] } }]

/-- Lists, and optional types, are to be texts. -/
def Generator.wishful : Generator :=
  { Generator.plain {} with
    overrides := .ofList [("Array", { primitive := .string }),
      ("Nullable", { primitive := .string })] }

/-- The list refuses its override: it is visited twice, and reported once.  Without any overrides
the schema is the same. -/
theorem generate_ignored_listed :
    ∃ s w', generate .wishful .listed ⟨3⟩ {} = .ok s w' ∧
      Generator.wishful.visited .listed ⟨3⟩ {} = [⟨3⟩, ⟨1⟩, ⟨0⟩, ⟨1⟩, ⟨0⟩, ⟨2⟩, ⟨0⟩] ∧
      ignoredReports w'.events = [ignoredOverrideEvent "String[]"] ∧
      ∃ w'', generate (Generator.wishful.withOverrides {}) .listed ⟨3⟩ {} = .ok s w'' := by
  have seen : Generator.wishful.visited .listed ⟨3⟩ {} =
      [⟨3⟩, ⟨1⟩, ⟨0⟩, ⟨1⟩, ⟨0⟩, ⟨2⟩, ⟨0⟩] := by cbv
  have computed : Work.value? (do
      let _ ← generate .wishful .listed ⟨3⟩
      return (ignoredReports (← get).events).length) {} = some 1 := by cbv
  obtain ⟨s, w', hs, count⟩ := Work.ok_of_reading computed
  obtain ⟨⟨added, events, reported, -, mem, ignored⟩, retains⟩ := generate_ignored hs
  obtain rfl : w'.events = added := events
  refine ⟨s, w', hs, seen, ?_, ?_⟩
  · -- the only report is that of the list
    have refuses : Generator.wishful.Refuses .listed ⟨1⟩ :=
      (Generator.refuses_iff rfl fun _ h => by cases h).2 ⟨rfl, fun h => by cases h⟩
    have list : ⟨1⟩ ∈ reported := (mem ⟨1⟩).2 ⟨by simp [seen], refuses⟩
    rw [ignored, List.length_map] at count
    obtain ⟨x, rfl⟩ := List.length_eq_one_iff.1 count
    obtain rfl := List.mem_singleton.1 list
    exact ignored
  · refine (retains {} fun x hx d known overridable => ?_).imp fun _ h => h.1
    rw [seen] at hx
    simp only [List.mem_cons, List.not_mem_nil, or_false] at hx
    rcases hx with rfl | rfl | rfl | rfl | rfl | rfl | rfl <;> cases known <;>
      first | rfl | cases overridable

/-- An optional type is visited as well, and its override is not reported. -/
theorem not_generate_ignored :
    ¬ ∀ (gen : Generator) (g : TypeGraph) (root : TypeId) (s : GeneratedSchema) (w' : Workspace),
      generate gen g root {} = .ok s w' →
      g.ReportsEach (fun x => x ∈ gen.visited g root {} ∧ gen.Ignores g x) w'.events := by
  intro h
  have computed : Work.value? (do
      let _ ← generate .wishful .listed ⟨2⟩
      return ignoredReports (← get).events) {} = some [] := by cbv
  obtain ⟨s, w', hs, silent⟩ := Work.ok_of_reading computed
  obtain ⟨reported, -, mem, ignored⟩ := h _ _ _ s w' hs
  have seen : Generator.wishful.visited .listed ⟨2⟩ {} = [⟨2⟩, ⟨0⟩] := by cbv
  have optional : ⟨2⟩ ∈ reported := (mem ⟨2⟩).2 ⟨by simp [seen], _, rfl, rfl, Bool.false_ne_true⟩
  rw [silent, eq_comm, List.map_eq_nil_iff] at ignored
  rw [ignored] at optional
  cases optional

end TypeSchema
