import TypeSchema.Proofs.Generation.Growth
import TypeSchema.Proofs.Generation.Reports
import TypeSchema.Proofs.Graph.Built

/-!
# Generation — how it ends

An action of a generation gives a value or fails, and reports something on the way.  `Ends F x t`
says that from `t` the action `x` fails only in ways that `F` allows, and reports no type that is
closed out of turn, whichever way it ends.  `Ends.bind` puts a sequence together, and there is one
lemma for each function below.

A type is closed after what was built while it was open.  That leaves the open types as they were
(`Traversal.Returns`), so the type is the innermost one again (`ends_exit`, `ends_guarded`).

`ends_nodeStep` is the whole step: it ends well if the type is known or may be unknown, its
identifier can be assigned or may fail to be, and what it descends to ends well.
-/

namespace TypeSchema

open Build

/-! ### Quiet reports -/

/-- Nothing in the list reports a type that was closed out of turn. -/
def Quiet (events : List DiagnosticEvent) : Prop := ∀ e ∈ events, e.code ≠ .guardStackMismatch

theorem quiet_nil : Quiet [] := by simp [Quiet]

theorem Quiet.append {l l' : List DiagnosticEvent} (h : Quiet l) (h' : Quiet l') :
    Quiet (l ++ l') := List.forall_mem_append.2 ⟨h, h'⟩

/-- Reports under other codes are quiet. -/
theorem ReportsOnly.quiet {codes : List DiagnosticCode} {events : List DiagnosticEvent}
    (h : ReportsOnly codes events) (other : .guardStackMismatch ∉ codes) : Quiet events :=
  h.code_ne other

/-- What was reported between two states is quiet. -/
def Traversal.QuietTo (t t' : Traversal) : Prop :=
  ∃ added, Quiet added ∧ t'.events = t.events ++ added

namespace Traversal.QuietTo

theorem of_events_eq {t t' : Traversal} (h : t'.events = t.events) : t.QuietTo t' :=
  ⟨[], quiet_nil, by rw [h, List.append_nil]⟩

theorem refl (t : Traversal) : t.QuietTo t := of_events_eq rfl

theorem trans {t t₁ t₂ : Traversal} (h₁ : t.QuietTo t₁) (h₂ : t₁.QuietTo t₂) : t.QuietTo t₂ := by
  obtain ⟨l₁, hl₁, he₁⟩ := h₁
  obtain ⟨l₂, hl₂, he₂⟩ := h₂
  exact ⟨l₁ ++ l₂, hl₁.append hl₂, by rw [he₂, he₁, List.append_assoc]⟩

end Traversal.QuietTo

/-! ### Ends -/

/-- From this state the action fails only in ways that `F` allows, and reports quietly. -/
structure Ends {α : Type} (F : GenerationError → Prop) (x : Build α) (t : Traversal) : Prop where
  ok : ∀ a t', x t = .ok a t' → t.QuietTo t'
  error : ∀ e t', x t = .error e t' → F e ∧ t.QuietTo t'

section Ends

variable {α β : Type} {F : GenerationError → Prop} {x : Build α} {t : Traversal}

/-- A sequence ends well if its first part does, and the rest after every result of it. -/
theorem Ends.bind {f : α → Build β} (hx : Ends F x t)
    (hf : ∀ a t', x t = .ok a t' → Ends F (f a) t') : Ends F (x >>= f) t := by
  refine ⟨fun b t' h => ?_, fun e t' h => ?_⟩
  · obtain ⟨a, t₁, ha, hb⟩ := bind_ok_iff.1 h
    exact (hx.ok a t₁ ha).trans ((hf a t₁ ha).ok b t' hb)
  · rcases bind_error_iff.1 h with h | ⟨a, t₁, ha, hb⟩
    · exact hx.error e t' h
    · have hf' := (hf a t₁ ha).error e t' hb
      exact ⟨hf'.1, (hx.ok a t₁ ha).trans hf'.2⟩

theorem Ends.of_ok {a : α} {t' : Traversal} (h : x t = .ok a t') (quiet : t.QuietTo t') :
    Ends F x t := by
  refine ⟨fun b t₁ hb => ?_, fun e t₁ he => ?_⟩
  · rw [h] at hb; cases hb; exact quiet
  · rw [h] at he; cases he

/-- An error that is allowed is a good end. -/
theorem Ends.of_error {e : GenerationError} (h : x t = .error e t) (allowed : F e) :
    Ends F x t := by
  refine ⟨fun b t₁ hb => ?_, fun e' t₁ he => ?_⟩
  · rw [h] at hb; cases hb
  · rw [h] at he; cases he; exact ⟨allowed, .refl t⟩

theorem Ends.of_pure (a : α) (t : Traversal) : Ends F (pure a) t := .of_ok rfl (.refl t)

theorem Ends.of_get (t : Traversal) : Ends F (get : Build Traversal) t := .of_ok rfl (.refl t)

theorem Ends.mono {F' : GenerationError → Prop} (h : Ends F x t) (hF : ∀ e, F e → F' e) :
    Ends F' x t :=
  ⟨h.ok, fun e t' he => ⟨hF e (h.error e t' he).1, (h.error e t' he).2⟩⟩

/-- An action that must not fail succeeds. -/
theorem Ends.succeeds (h : Ends (fun _ => False) x t) : Succeeds x t := by
  cases hx : x t with
  | ok a t' => exact ⟨a, t', hx⟩
  | error e t' => exact (h.error e t' hx).1.elim

theorem ends_push (n : SchemaNode) (t : Traversal) : Ends F (push n) t :=
  .of_ok rfl (.of_events_eq rfl)

theorem ends_report {events : List DiagnosticEvent} (quiet : Quiet events) (t : Traversal) :
    Ends F (report events) t := .of_ok rfl ⟨events, quiet, rfl⟩

/-- Constraints report what they cannot use and never fail. -/
theorem ends_annotate (patterns : PatternCheck) (id : NodeId) (member : String)
    (constraints : List Constraint) (t : Traversal) :
    Ends F (annotate patterns id member constraints) t :=
  .of_ok rfl ⟨_, (reportsOnly_annotate patterns t.arena id member constraints).quiet
    (by decide), rfl⟩

theorem ends_applyNull (encoding : NullEncoding) (id : NodeId) (nullable : Bool) (t : Traversal) :
    Ends F (applyNull encoding id nullable) t := .of_ok rfl (.of_events_eq rfl)

theorem ends_setExample (id : NodeId) (v : Json) (t : Traversal) : Ends F (setExample id v) t := by
  refine .of_ok rfl (.of_events_eq ?_)
  dsimp only
  split <;> rfl

theorem ends_annotateField (patterns : PatternCheck) (id : NodeId) (field? : Option Field)
    (t : Traversal) : Ends F (annotateField patterns id field?) t := by
  cases field? with
  | none => exact .of_pure id t
  | some f =>
    refine (ends_annotate patterns id f.name f.constraints t).bind fun id' t' _ => ?_
    cases f.example? with
    | none => exact .of_pure id' t'
    | some v => exact (ends_setExample id' v t').bind fun _ t'' _ => .of_pure id' t''

theorem ends_decorate (gen : Generator) (d : TypeDescriptor) (field? : Option Field)
    (id : NodeId) (t : Traversal) : Ends F (decorate gen d field? id) t :=
  (ends_annotate gen.patterns id d.name d.constraints t).bind fun id t _ =>
    (ends_annotateField gen.patterns id field? t).bind fun id t _ => ends_applyNull _ id false t

/-- Looking for an override never fails; one that is not used is reported. -/
theorem ends_overrideFor (gen : Generator) (ty : TypeId) (d : TypeDescriptor)
    (cls : Classification) (t : Traversal) : Ends F (overrideFor gen ty d cls) t := by
  simp only [overrideFor]
  cases gen.overrides.lookup? [d.identity, d.name] with
  | none => exact .of_pure none t
  | some o =>
    simp only
    split
    · exact .of_pure _ t
    · refine (Ends.of_get t).bind fun s t' _ => ?_
      split
      · exact Ends.bind (.of_ok rfl (.of_events_eq rfl)) fun _ t₁ _ =>
          (ends_report ((reportsOnly_ignoredOverride _).quiet (by decide)) t₁).bind fun _ _ _ =>
            .of_pure none _
      · exact .of_pure none _

/-- An identifier is assigned, or the registry says why not. -/
theorem ends_assign {g : TypeGraph} {ty : TypeId}
    (allowed : ∀ e, t.registry.assign g ty = .error e → F e) : Ends F (assign g ty) t := by
  refine (Ends.of_get t).bind fun s t' hs => ?_
  cases hs
  cases ha : t.registry.assign g ty with
  | error e => exact .of_error rfl (allowed e ha)
  | ok p =>
    obtain ⟨id, r, events⟩ := p
    exact Ends.bind (.of_ok rfl ⟨events, (reportsOnly_assign ha).quiet (by decide), rfl⟩)
      fun _ _ _ => .of_pure _ _

/-! ### The guard -/

/-- The innermost type is closed without a report. -/
theorem ends_exit {ty : TypeId} (h : t.guard.active.head? = some ty) (identity : String) :
    Ends F (exit ty identity) t := by
  refine (Ends.of_get t).bind fun s t' hs => ?_
  cases hs
  cases ha : t.guard.active with
  | nil => rw [ha] at h; cases h
  | cons top rest =>
    obtain rfl : top = ty := by rw [ha] at h; exact Option.some.inj h
    simp only [Guard.exit, ha, if_true]
    exact .of_ok rfl (.of_events_eq rfl)

theorem ends_enter (v : Visit) (t : Traversal) : Ends F (enter v) t := by
  cases hc : t.guard.cutReason? v.type with
  | none =>
    have hin : enter v t = .ok .expand (t.opened v.type) := by rw [enter_eq, hc]
    exact .of_ok hin (.of_events_eq rfl)
  | some reason =>
    have hin : enter v t = .ok (.substitute (t.cut v reason).1) (t.cut v reason).2 := by
      rw [enter_eq, hc]
    exact .of_ok hin
      ⟨_, (reportsOnly_placeholder t.guard t.arena v reason).quiet (by decide), rfl⟩

/-- **What is built under the guard ends well** if it does with the type open, and closes what it
opens. -/
theorem ends_guarded {ty : TypeId} {d : TypeDescriptor} {identifier? : Option String}
    {build : Build NodeId}
    (ends : t.guard.cutReason? ty = none → Ends F build (t.opened ty))
    (returns : ∀ id t', build (t.opened ty) = .ok id t' → (t.opened ty).Returns t') :
    Ends F (guarded ty d identifier? build) t := by
  refine (ends_enter ⟨ty, d.name, identifier?⟩ t).bind fun admission t₁ h => ?_
  rw [enter_eq] at h
  cases hc : t.guard.cutReason? ty with
  | some reason =>
    simp only [hc] at h
    cases h
    cases identifier? with
    | none => exact .of_pure _ _
    | some id => exact Ends.bind (.of_ok rfl (.of_events_eq rfl)) fun _ _ _ => .of_pure _ _
  | none =>
    simp only [hc] at h
    cases h
    refine (ends hc).bind fun id t₂ hb => ?_
    -- the open types are as before, so the type is the innermost one
    have hactive := (returns id t₂ hb).2.1
    exact (ends_exit (by rw [hactive]; rfl) d.identity).bind fun _ t₃ _ => .of_pure id t₃

end Ends

/-! ### One step -/

section Step

variable {gen : Generator} {g : TypeGraph} {descend : Descent} {F : GenerationError → Prop}

/-- Building the node of a part ends well whenever these types are open. -/
def Descent.EndsAt (descend : Descent) (F : GenerationError → Prop) (active : List TypeId)
    (part : TypeId × Option Field) : Prop :=
  ∀ t, t.guard.active = active → Ends F (descend part.1 part.2) t

/-- The fields of an object end well if building each of their types does. -/
theorem ends_addFields (returns : descend.Relates Traversal.Returns) {active : List TypeId}
    {fields : List Field} {n : SchemaNode} {t : Traversal}
    (ends : ∀ f ∈ fields, descend.EndsAt F active (f.type, some f))
    (ht : t.guard.active = active) : Ends F (addFields descend n fields) t := by
  induction fields generalizing n t with
  | nil => exact .of_pure n t
  | cons f rest ih =>
    refine (ends f List.mem_cons_self t ht).bind fun child t₁ hc => ?_
    have hactive := (returns _ _ _ _ _ hc).2.1
    exact ih (fun f' hf' => ends f' (List.mem_cons_of_mem _ hf')) (hactive.trans ht)

theorem ends_expandKept (returns : descend.Relates Traversal.Returns) {active : List TypeId}
    {fields : List Field} {t : Traversal}
    (ends : ∀ f ∈ fields, descend.EndsAt F active (f.type, some f))
    (ht : t.guard.active = active) (identifier : String) (truncation? : Option Truncation) :
    Ends F (expandKept descend identifier fields truncation?) t :=
  (ends_addFields returns ends ht).bind fun _ t₁ _ => (ends_push _ t₁).bind fun _ _ _ =>
    Ends.bind (.of_ok rfl (.of_events_eq rfl)) fun _ t₂ _ => ends_push _ t₂

/-- So do the fields that the threshold keeps, and the two nodes made of them. -/
theorem ends_expandFields (returns : descend.Relates Traversal.Returns) {d : TypeDescriptor}
    {o : ObjectShape} {identifier : String} {t : Traversal}
    (ends : ∀ part ∈ (Classification.object (some o)).parts gen.config.memberThreshold?,
      descend.EndsAt F t.guard.active part) :
    Ends F (expandFields gen descend d o identifier) t := by
  have hfields : ∀ f ∈ (keptFields gen.config.memberThreshold? (sortedFields o)).1,
      descend.EndsAt F t.guard.active (f.type, some f) :=
    fun f hf => ends _ (List.mem_map.2 ⟨f, hf, rfl⟩)
  simp only [expandFields]
  cases ht : (keptFields gen.config.memberThreshold? (sortedFields o)).2 with
  | none => exact ends_expandKept returns hfields rfl identifier none
  | some tr =>
    refine (ends_report ((reportsOnly_withFields _ _ _ _).quiet (by decide)) t).bind
      fun _ t₁ hr => ?_
    exact ends_expandKept returns hfields (by cases hr; rfl) identifier (some tr)

/-- An object ends well if its identifier can be assigned or may fail to be, and its parts do. -/
theorem ends_expandObject (returns : descend.Relates Traversal.Returns) {ty : TypeId}
    {d : TypeDescriptor} {o : ObjectShape} {t : Traversal}
    (assigned : ∀ (r : Registry) e, r.assign g ty = .error e → F e)
    (ends : t.guard.cutReason? ty = none →
      ∀ part ∈ (Classification.object (some o)).parts gen.config.memberThreshold?,
        descend.EndsAt F (ty :: t.guard.active) part) :
    Ends F (expandObject gen g descend ty d o) t := by
  refine (ends_assign (assigned t.registry)).bind fun identifier t₁ ha => ?_
  obtain ⟨r, events, -, rfl⟩ := assign_ok ha
  refine Ends.bind (.of_ok rfl (.of_events_eq rfl)) fun _ t₂ hn => ?_
  cases hn
  refine (Ends.of_get _).bind fun _ t₃ hg => ?_
  cases hg
  simp only
  cases t.identifiers.get? identifier with
  | some target => exact ends_push _ _
  | none =>
    refine ends_guarded (fun hc => ends_expandFields returns (ends hc)) fun id t' hb => ?_
    obtain ⟨ids, t₄, hv, -, rfl⟩ := expandFields_ok hb
    exact hv.returns_object returns

/-- An expansion ends well if its object's identifier may be assigned and its parts do. -/
theorem ends_expand (returns : descend.Relates Traversal.Returns) {ty : TypeId}
    {d : TypeDescriptor} {cls : Classification} {t : Traversal}
    (plain : ∀ inner, cls ≠ .nullable inner)
    (assigned : ∀ (r : Registry) e, r.assign g ty = .error e → F e)
    (ends : t.guard.cutReason? ty = none → ∀ part ∈ cls.parts gen.config.memberThreshold?,
      descend.EndsAt F (ty :: t.guard.active) part) :
    Ends F (expand gen g descend ty d cls) t := by
  -- a collection is built from its parts and then added
  have one : ∀ {part : TypeId} {node : NodeId → SchemaNode},
      (t.guard.cutReason? ty = none → descend.EndsAt F (ty :: t.guard.active) (part, none)) →
      Ends F (guarded ty d none do
        let child ← descend part none
        push (node child)) t := by
    intro part node hends
    refine ends_guarded (fun hc => (hends hc _ rfl).bind fun child t₁ _ => ends_push _ t₁)
      fun id t' hb => ?_
    obtain ⟨child, t₁, hd, hp⟩ := bind_ok_iff.1 hb
    cases hp
    exact (returns _ _ _ _ _ hd).trans (.pushed _ _)
  cases cls with
  | scalar kind => exact ends_push _ t
  | bytes => exact ends_push _ t
  | enumeration e =>
    exact (ends_report ((reportsOnly_encode _ _ e).quiet (by decide)) t).bind
      fun _ t₁ _ => ends_push _ t₁
  | nullable inner => exact absurd rfl (plain inner)
  | sequence element => exact one fun hc => ends hc _ List.mem_cons_self
  | map value => exact one fun hc => ends hc _ List.mem_cons_self
  | pair key value =>
    refine ends_guarded (fun hc => ?_) fun id t' hb => ?_
    · refine (ends hc (key, none) (by simp [Classification.parts]) _ rfl).bind fun k t₁ hk => ?_
      have hactive := (returns _ _ _ _ _ hk).2.1
      refine (ends hc (value, none) (by simp [Classification.parts]) _ hactive).bind
        fun v t₂ _ => ?_
      exact ends_push _ t₂
    · obtain ⟨k, t₁, hk, hb⟩ := bind_ok_iff.1 hb
      obtain ⟨v, t₂, hv, hp⟩ := bind_ok_iff.1 hb
      cases hp
      exact (returns _ _ _ _ _ hk).trans ((returns _ _ _ _ _ hv).trans (.pushed _ _))
  | object o? =>
    cases o? with
    | none => exact ends_push _ t
    | some o => exact ends_expandObject returns assigned ends

/-- So does the step of a type that is not nullable, whether an override is used or not. -/
theorem ends_plainStep (returns : descend.Relates Traversal.Returns) {ty : TypeId}
    {d : TypeDescriptor} {cls : Classification} {t : Traversal}
    (hcls : ∀ inner, cls ≠ .nullable inner)
    (assigned : ∀ (r : Registry) e, r.assign g ty = .error e → F e)
    (ends : t.guard.cutReason? ty = none → ∀ part ∈ cls.parts gen.config.memberThreshold?,
      descend.EndsAt F (ty :: t.guard.active) part) (field? : Option Field) :
    Ends F (plainStep gen g descend ty field? d cls) t := by
  refine (ends_overrideFor gen ty d cls t).bind fun o? t₁ ho => ?_
  have hguard : t₁.guard = t.guard := by
    rcases overrideFor_ok ho with ⟨_, _, _, _, rfl⟩ | ⟨_, rfl | rfl⟩ <;> rfl
  cases o? with
  | some o => exact (ends_push _ t₁).bind fun id t₂ _ => ends_decorate gen d field? id t₂
  | none =>
    refine Ends.bind ?_ fun id t₂ _ => ends_decorate gen d field? id t₂
    exact ends_expand returns hcls assigned (hguard ▸ ends)

/-- **A step ends well** if what it descends to does: the inner type of a wrapper from the state at
hand, and the parts of any other type with that type open. -/
theorem ends_nodeStep (returns : descend.Relates Traversal.Returns) {ty : TypeId}
    {field? : Option Field} {t : Traversal}
    (unknown : g.describe? ty = none → F (.unknownType ty))
    (assigned : ∀ (r : Registry) e, r.assign g ty = .error e → F e)
    (wrapped : ∀ d inner, g.describe? ty = some d → g.classify d.shape = .nullable inner →
      descend.EndsAt F t.guard.active (inner, field?))
    (ends : ∀ d, g.describe? ty = some d → t.guard.cutReason? ty = none →
      ∀ part ∈ (g.classify d.shape).parts gen.config.memberThreshold?,
        descend.EndsAt F (ty :: t.guard.active) part) :
    Ends F (nodeStep gen g descend ty field?) t := by
  have hdescribe : Ends F (describe g ty) t := by
    unfold describe
    cases hd : g.describe? ty with
    | none => exact .of_error rfl (unknown hd)
    | some d => exact .of_pure d t
  refine hdescribe.bind fun d t' hd => ?_
  obtain ⟨known, rfl⟩ := describe_ok hd
  have plain : ∀ {cls}, g.classify d.shape = cls → (∀ inner, cls ≠ .nullable inner) →
      Ends F (plainStep gen g descend ty field? d cls) t' := by
    rintro cls rfl hcls
    exact ends_plainStep returns hcls assigned (ends d known) field?
  cases hc : g.classify d.shape with
  | nullable inner =>
    refine (wrapped d inner known hc t' rfl).bind fun id t₁ _ => ?_
    exact (ends_annotate gen.patterns id _ _ t₁).bind fun id t₂ _ => ends_applyNull _ id true t₂
  | scalar _ | bytes | enumeration _ | sequence _ | map _ | pair _ _ | object _ =>
    exact plain hc (by simp)

end Step

end TypeSchema
