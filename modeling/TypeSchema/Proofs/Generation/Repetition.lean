import TypeSchema.Proofs.Generation.Assembly
import TypeSchema.Proofs.Generation.Determinism
import TypeSchema.Proofs.Generation.Resolution
import TypeSchema.Proofs.Generation.Shadows

/-!
# Documents — the second time

A document is built once more, from the registry that its first run left.  The second run follows
the first one step by step: at each point its arena, its guard and what it has recorded are as they
were at this point of the first run, while its registry holds from the beginning what the first run
came to hold in the end (`Rerun.Traversals`).  So each assignment finds the identifier that it gave
the first time, claims nothing and reports nothing (`Rerun.Traversals.claimed`).

That the first run comes to hold no more than that is known at its end only.  What leads to a state
holds no more than the state does (`Traversal.Grows`), so this is handed from the end of a step to
its beginning, while the states are followed from the beginning to the end (`Step.again`,
`nodeFor_again`, `QueueRun.again`).
-/

namespace TypeSchema

open Build

/-- A repetition: what the first run held when it ended, and what had been reported when the second
one began. -/
structure Rerun where
  settled : Registry
  before : List DiagnosticEvent

/-- `s` is `t` with the settled registry, and no collision was reported on the way to it. -/
def Rerun.Traversals (p : Rerun) (t s : Traversal) : Prop :=
  ∃ events, s = { t with registry := p.settled, events := p.before ++ events } ∧
    ∀ e ∈ events, e.code ≠ .idCollision

/-! ### Changes of a state, repeated -/

namespace Rerun.Traversals

variable {p : Rerun} {g : TypeGraph} {t s : Traversal}

theorem arena_eq (h : p.Traversals t s) : s.arena = t.arena := by
  obtain ⟨_, rfl, -⟩ := h
  rfl

theorem guard_eq (h : p.Traversals t s) : s.guard = t.guard := by
  obtain ⟨_, rfl, -⟩ := h
  rfl

theorem identifiers_eq (h : p.Traversals t s) : s.identifiers = t.identifiers := by
  obtain ⟨_, rfl, -⟩ := h
  rfl

theorem refused_eq (h : p.Traversals t s) : s.refused = t.refused := by
  obtain ⟨_, rfl, -⟩ := h
  rfl

/-- A change that neither looks at the registry nor reports anything. -/
theorem framed (h : p.Traversals t s) (f : Traversal → Traversal)
    (frame : ∀ (t : Traversal) registry events, f { t with registry, events } =
      { f t with registry, events }) : p.Traversals (f t) (f s) := by
  obtain ⟨es, rfl, hes⟩ := h
  exact ⟨es, frame t _ _, hes⟩

theorem pushed (h : p.Traversals t s) (n : SchemaNode) : p.Traversals (t.pushed n) (s.pushed n) :=
  h.framed (·.pushed n) fun _ _ _ => rfl

theorem opened (h : p.Traversals t s) (ty : TypeId) : p.Traversals (t.opened ty) (s.opened ty) :=
  h.framed (·.opened ty) fun _ _ _ => rfl

theorem closed (h : p.Traversals t s) : p.Traversals t.closed s.closed :=
  h.framed (·.closed) fun _ _ _ => rfl

theorem recorded (h : p.Traversals t s) (identifier : String) (n : NodeId) :
    p.Traversals (t.recorded identifier n) (s.recorded identifier n) :=
  h.framed (·.recorded identifier n) fun _ _ _ => rfl

/-- Both sides report the same, collisions apart. -/
theorem reported (h : p.Traversals t s) {events : List DiagnosticEvent}
    (quiet : ∀ e ∈ events, e.code ≠ .idCollision) :
    p.Traversals (t.reported events) (s.reported events) := by
  obtain ⟨es, rfl, hes⟩ := h
  exact ⟨es ++ events, by simp [Traversal.reported], List.forall_mem_append.2 ⟨hes, quiet⟩⟩

/-- Placeholders do not depend on the registry. -/
theorem cut (h : p.Traversals t s) (v : Visit) (reason : CutReason) :
    (s.cut v reason).1 = (t.cut v reason).1 ∧
      p.Traversals (t.cut v reason).2 (s.cut v reason).2 := by
  obtain ⟨es, rfl, hes⟩ := h
  have quiet := (reportsOnly_placeholder t.guard t.arena v reason).noCollision (by decide)
  exact ⟨rfl, es ++ (t.guard.placeholder t.arena v reason).2.2.2, by simp [Traversal.cut],
    List.forall_mem_append.2 ⟨hes, quiet⟩⟩

/-- **What was claimed the first time is found the second time.** -/
theorem claimed (h : p.Traversals t s) {ty : TypeId} {id : String} {r : Registry}
    {events : List DiagnosticEvent} (assigned : t.registry.assign g ty = .ok (id, r, events))
    (grows : r.Grows p.settled) : s.registry.assign g ty = .ok (id, p.settled, []) ∧
      p.Traversals (t.claimed ty id r events) (s.claimed ty id p.settled []) := by
  obtain ⟨es, rfl, hes⟩ := h
  refine ⟨Registry.assign_of_holds ((Registry.assign_spec assigned).2.mono grows), es, ?_, hes⟩
  simp [Traversal.claimed]

/-- The two runs have the same nodes. -/
theorem sharesArena (p : Rerun) : Traversal.SharesArena p.Traversals where
  arena h := h.arena_eq
  changed := by
    rintro t t' a events ⟨es, rfl, hes⟩ quiet
    exact ⟨es ++ events, by simp, List.forall_mem_append.2 ⟨hes, quiet⟩⟩

/-- Where no identifier is new, one run is the shadow of the other. -/
theorem shadows (p : Rerun) : Traversal.Shadows p.Traversals where
  toSharesArena := sharesArena p
  guard h := h.guard_eq
  identifiers h := h.identifiers_eq
  pushed n h := h.pushed n
  opened ty h := h.opened ty
  closed h := h.closed
  recorded i n h := h.recorded i n
  reported h quiet := h.reported quiet
  cut v reason h := h.cut v reason

end Rerun.Traversals

/-- An override is ignored, and reported, the second time if it is the first time. -/
theorem overrideFor_again (p : Rerun) (gen : Generator) (ty : TypeId) (d : TypeDescriptor)
    (cls : Classification) : Lockstep p.Traversals Eq (overrideFor gen ty d cls)
      (overrideFor gen ty d cls) := by
  simp only [overrideFor]
  cases gen.overrides.lookup? [d.identity, d.name] with
  | none => exact .of_pure rfl
  | some o =>
    simp only
    split
    · exact .of_pure rfl
    · refine Lockstep.of_get.bind fun t s hs => ?_
      rw [hs.refused_eq]
      split
      · refine Lockstep.bind_eq (.of_modify fun t s hs => ?_) fun _ =>
          Lockstep.bind_eq (.of_modify fun t s hs => ?_) fun _ => .of_pure rfl
        · exact hs.framed (fun t => { t with refused := ty :: t.refused }) fun _ _ _ => rfl
        · exact hs.reported ((reportsOnly_ignoredOverride d.identity).noCollision (by decide))
      · exact .of_pure rfl

/-! ### Steps, repeated -/

section Steps

variable {p : Rerun} {gen : Generator} {g : TypeGraph} {levels : Nat}

/-- What is built is built again, if the second run holds what is held then. -/
def Rerun.Redoes (p : Rerun) (descend : Descent) : Prop :=
  ∀ ⦃ty field? t id t' s⦄, descend ty field? t = .ok id t' → t'.registry.Grows p.settled →
    p.Traversals t s → ∃ s', descend ty field? s = .ok id s' ∧ p.Traversals t' s'

/-- Parts can be visited again, with the same nodes. -/
theorem Visits.again (redoes : p.Redoes (nodeFor gen g levels))
    {parts : List (TypeId × Option Field)} {t t' s : Traversal} {ids : List NodeId}
    (h : Visits (nodeFor gen g levels) parts t ids t') (grows : t'.registry.Grows p.settled)
    (hs : p.Traversals t s) :
    ∃ s', Visits (nodeFor gen g levels) parts s ids s' ∧ p.Traversals t' s' := by
  induction h generalizing s with
  | nil => exact ⟨s, .nil s, hs⟩
  | cons head tail ih =>
    obtain ⟨s₁, head', hs₁⟩ := redoes head (tail.returns.1.registry.trans grows) hs
    obtain ⟨s', tail', hs'⟩ := ih grows hs₁
    exact ⟨s', .cons head' tail', hs'⟩

/-- An expansion can be done again, with the same node. -/
theorem Expansion.again (redoes : p.Redoes (nodeFor gen g levels)) {ty : TypeId}
    {d : TypeDescriptor} {cls : Classification} {t t' s : Traversal} {id : NodeId}
    (h : Expansion gen g (nodeFor gen g levels) ty d cls t id t')
    (grows : t'.registry.Grows p.settled) (hs : p.Traversals t s) :
    ∃ s', Expansion gen g (nodeFor gen g levels) ty d cls s id s' ∧ p.Traversals t' s' :=
  h.shadowed (Rerun.Traversals.shadows p) hs
    (fun assigned later => ⟨_, _, hs.claimed assigned (later.trans grows)⟩)
    fun _ parts same hs₀ => parts.again redoes (same ▸ grows) hs₀

/-- A step can be done again, with the same node. -/
theorem Step.again (redoes : p.Redoes (nodeFor gen g levels)) {ty : TypeId}
    {field? : Option Field} {d : TypeDescriptor} {t t' s : Traversal} {id : NodeId}
    (h : Step gen g (nodeFor gen g levels) ty field? d t id t')
    (grows : t'.registry.Grows p.settled) (hs : p.Traversals t s) :
    ∃ s', Step gen g (nodeFor gen g levels) ty field? d s id s' ∧ p.Traversals t' s' := by
  have shares := Rerun.Traversals.sharesArena p
  cases h with
  | wrapped cls part finish =>
    have grows₁ := (wrapNull_decorated finish).grows.registry.trans grows
    obtain ⟨s₁, part', hs₁⟩ := redoes part grows₁ hs
    obtain ⟨_, s', finish', rfl, hs'⟩ := lockstep_wrapNull shares gen d _ hs₁ finish
    exact ⟨s', .wrapped cls part' finish', hs'⟩
  | overridden lookup cls finish =>
    obtain ⟨_, s', finish', rfl, hs'⟩ :=
      lockstep_decorate shares gen d field? _ (hs.pushed _) finish
    rw [← hs.arena_eq] at finish'
    exact ⟨s', .overridden lookup cls finish', hs'⟩
  | expanded cls plain expansion finish =>
    obtain ⟨_, s₀, plain', rfl, hs₀⟩ := overrideFor_again p gen ty d _ hs plain
    have grows₁ := (decorate_decorated finish).grows.registry.trans grows
    obtain ⟨s₁, expansion', hs₁⟩ := expansion.again redoes grows₁ hs₀
    obtain ⟨_, s', finish', rfl, hs'⟩ := lockstep_decorate shares gen d field? _ hs₁ finish
    exact ⟨s', .expanded cls plain' expansion' finish', hs'⟩

/-- **What is built once is built again**, and claims nothing the second time. -/
theorem nodeFor_again (p : Rerun) (gen : Generator) (g : TypeGraph) (levels : Nat) :
    p.Redoes (nodeFor gen g levels) := by
  induction levels with
  | zero => intro ty field? t id t' s h; cases h
  | succ levels ih =>
    intro ty field? t id t' s h grows hs
    obtain ⟨d, known, step⟩ := nodeStep_ok_iff.1 h
    obtain ⟨s', step', hs'⟩ := step.again ih grows hs
    exact ⟨s', nodeStep_ok_iff.2 ⟨d, known, step'⟩, hs'⟩

end Steps

/-! ### Documents, repeated -/

/-- `v` has the settled registry, and no collision was reported on the way to it. -/
def Rerun.Settled (p : Rerun) (v : Workspace) : Prop :=
  v.registry = p.settled ∧ ∃ events, v.events = p.before ++ events ∧
    ∀ e ∈ events, e.code ≠ .idCollision

theorem Rerun.Settled.sharesReports (p : Rerun) :
    Workspace.SharesReports fun _ v => p.Settled v := by
  rintro _ v events n ⟨hr, es, he, hes⟩ quiet
  exact ⟨hr, es ++ events, by simp [he], List.forall_mem_append.2 ⟨hes, quiet⟩⟩

section Runs

variable {p : Rerun} {gen : Generator} {g : TypeGraph}

/-- A generation whose identifiers are settled gives the same schema again. -/
theorem generate_again {ty : TypeId} {w w' v : Workspace} {s : GeneratedSchema}
    (h : generate gen g ty w = .ok s w') (grows : w'.registry.Grows p.settled)
    (hv : p.Settled v) : ∃ v', generate gen g ty v = .ok s v' ∧ p.Settled v' := by
  obtain ⟨t, built, hs, rfl⟩ := generate_ok h
  obtain ⟨hr, es, he, hes⟩ := hv
  have begins : p.Traversals (w.begin gen) (v.begin gen) :=
    ⟨es, by simp [Workspace.begin, hr, he], hes⟩
  obtain ⟨_, built', es', rfl, hes'⟩ := nodeFor_again p gen g _ built grows begins
  have generated := generate_of_ok built'
  rw [hs]
  exact ⟨_, generated, rfl, es', rfl, hes'⟩

/-- A root can be added again. -/
theorem addRoot_again {c c' : Collected} {id : String} {ty : TypeId} {w w' v : Workspace}
    (h : addRoot gen g c id ty w = .ok c' w') (grows : w'.registry.Grows p.settled)
    (hv : p.Settled v) : ∃ v', addRoot gen g c id ty v = .ok c' v' ∧ p.Settled v' := by
  have shares := Rerun.Settled.sharesReports p
  obtain ⟨s, w₁, generated, h⟩ := bind_ok_iff.1 h
  obtain ⟨j, w₂, schema, h⟩ := bind_ok_iff.1 h
  obtain ⟨components, w₃, expanded, h⟩ := bind_ok_iff.1 h
  obtain ⟨rfl, rfl⟩ := pure_ok_iff.1 h
  -- making components keeps the registry
  have kept := (addExpanded_ok expanded).2.trans (componentJson_ok schema).2
  obtain ⟨v₁, generated', hv₁⟩ := generate_again generated (kept ▸ grows) hv
  obtain ⟨_, v₂, schema', rfl, hv₂⟩ := lockstep_componentJson shares gen g s ty s.root hv₁ schema
  obtain ⟨_, v₃, expanded', rfl, hv₃⟩ := lockstep_addExpanded shares gen g s _ _ hv₂ expanded
  exact ⟨v₃, bind_ok_iff.2 ⟨s, v₁, generated', bind_ok_iff.2 ⟨j, v₂, schema',
    bind_ok_iff.2 ⟨components, v₃, expanded', rfl⟩⟩⟩, hv₃⟩

/-! ### Runs, repeated -/

section Grows

variable {c c' : Collected} {w w' : Workspace} {calls : List GeneratedSchema}

/-- A root adds to the registry. -/
theorem addRoot_grows {id : String} {ty : TypeId} (h : addRoot gen g c id ty w = .ok c' w') :
    w.registry.Grows w'.registry := by
  obtain ⟨s, w₁, generated, hr, -⟩ := addRoot_ok h
  rw [hr]
  exact (generate_linked generated).1

theorem RootsRun.grows {tys : List TypeId} (h : RootsRun gen g c tys w calls c' w') :
    w.registry.Grows w'.registry := by
  induction h with
  | done => exact .refl _
  | root assigned _ added _ ih =>
    obtain ⟨_, assigned⟩ := assignId_ok assigned
    exact (Registry.assign_spec assigned).1.trans ((addRoot_grows added).trans ih)

theorem QueueRun.grows {remaining : List TypeId} (h : QueueRun gen g remaining c w calls c' w') :
    w.registry.Grows w'.registry := by
  induction h with
  | done => exact .refl _
  | skip _ _ _ ih => exact ih
  | root _ _ _ _ added _ ih => exact (addRoot_grows added).trans ih

end Grows

/-- A run over the roots can be done again, with the same calls. -/
theorem RootsRun.again {c c' : Collected} {tys : List TypeId} {w w' v : Workspace}
    {calls : List GeneratedSchema} (h : RootsRun gen g c tys w calls c' w')
    (grows : w'.registry.Grows p.settled) (hv : p.Settled v) :
    ∃ v', RootsRun gen g c tys v calls c' v' ∧ p.Settled v' := by
  induction h generalizing v with
  | done c => exact ⟨v, .done c v, hv⟩
  | root assigned generated added more ih =>
    have grows₃ := more.grows.trans grows
    have grows₁ := (addRoot_grows added).trans grows₃
    -- the root holds its identifier since the first run
    obtain ⟨_, held⟩ := assignId_ok assigned
    have holds := (Registry.assign_spec held).2.mono grows₁
    rw [← hv.1] at holds
    obtain ⟨v₂, generated', -⟩ :=
      generate_again generated ((added_of_generated generated added).2 ▸ grows₃) hv
    obtain ⟨v₃, added', hv₃⟩ := addRoot_again added grows₃ hv
    obtain ⟨v', more', hv'⟩ := ih grows hv₃
    exact ⟨v', .root (assignId_of_holds holds) generated' added' more', hv'⟩

/-- So can a run over the types that wait. -/
theorem QueueRun.again {c c' : Collected} {remaining : List TypeId} {w w' v : Workspace}
    {calls : List GeneratedSchema} (h : QueueRun gen g remaining c w calls c' w')
    (grows : w'.registry.Grows p.settled) (hv : p.Settled v) :
    ∃ v', QueueRun gen g remaining c v calls c' v' ∧ p.Settled v' := by
  induction h generalizing v with
  | done empty => exact ⟨v, .done empty, hv⟩
  | skip first known _ ih =>
    obtain ⟨v', more', hv'⟩ := ih grows hv
    exact ⟨v', .skip first known more', hv'⟩
  | root first new open_ generated added more ih =>
    have grows₂ := more.grows.trans grows
    obtain ⟨v₁, generated', -⟩ :=
      generate_again generated ((added_of_generated generated added).2 ▸ grows₂) hv
    obtain ⟨v₂, added', hv₂⟩ := addRoot_again added grows₂ hv
    obtain ⟨v', more', hv'⟩ := ih grows hv₂
    exact ⟨v', .root first new open_ generated' added' more', hv'⟩

end Runs

/-- **A document that was built is built again** from any workspace that still holds what was held
then, by the same generations. -/
theorem DocumentRun.again {gen : Generator} {g : TypeGraph} {roots : List TypeId}
    {w w' v : Workspace} {calls : List GeneratedSchema} {d : SchemaDocument}
    (h : DocumentRun gen g roots w calls d w') (holds : w'.registry.Grows v.registry) :
    ∃ v', DocumentRun gen g roots v calls d v' ∧ v'.registry = v.registry ∧
      ∃ events, v'.events = v.events ++ events ∧ ∀ e ∈ events, e.code ≠ .idCollision := by
  have begins : Rerun.Settled ⟨v.registry, v.events⟩ v := ⟨rfl, [], by simp, by simp⟩
  cases h with
  | intro known first rest =>
    obtain ⟨v₁, first', hv₁⟩ := first.again (rest.grows.trans holds) begins
    obtain ⟨v', rest', registry, reported⟩ := rest.again holds hv₁
    exact ⟨v', .intro known first' rest', registry, reported⟩

/-- **Building a document is repeatable.**  When it succeeds, it succeeds once more from where it
ended: the document is the same, the registry is left as it is, and no collision of identifiers is
reported. -/
theorem generateDocument_repeatable {gen : Generator} {g : TypeGraph} {roots : List TypeId}
    {w w' : Workspace} {d : SchemaDocument} (h : generateDocument gen g roots w = .ok d w') :
    ∃ w'', generateDocument gen g roots w' = .ok d w'' ∧ w''.registry = w'.registry ∧
      ∃ events, w''.events = w'.events ++ events ∧ ∀ e ∈ events, e.code ≠ .idCollision := by
  obtain ⟨calls, run⟩ := generateDocument_ok_iff.1 h
  obtain ⟨w'', run', kept⟩ := run.again (.refl _)
  exact ⟨w'', generateDocument_ok_iff.2 ⟨calls, run'⟩, kept⟩

/-- The second of two objects of one name gets a suffix, and a collision is reported.  The second
time it has its suffix. -/
theorem generateDocument_repeatable_namesakes :
    ∃ d w w', generateDocument (.plain {}) .namesakes [⟨0⟩, ⟨1⟩] {} = .ok d w ∧
      d.components.keys = ["Item", "Item_dup1"] ∧
      w.events.map (·.code) = [.idCollision] ∧
      generateDocument (.plain {}) .namesakes [⟨0⟩, ⟨1⟩] w = .ok d w' ∧
      w'.registry = w.registry ∧
      ∃ events, w'.events = w.events ++ events ∧ ∀ e ∈ events, e.code ≠ .idCollision := by
  have computed : Work.value? (do
      let d ← generateDocument (.plain {}) .namesakes [⟨0⟩, ⟨1⟩]
      return (d.components.keys, (← get).events.map (·.code))) {} =
        some (["Item", "Item_dup1"], [.idCollision]) := by cbv
  obtain ⟨d, w, h, read⟩ := Work.ok_of_reading computed
  obtain ⟨keys, codes⟩ := Prod.mk.inj read
  obtain ⟨w', again, kept⟩ := generateDocument_repeatable h
  exact ⟨d, w, w', h, keys, codes, again, kept⟩

end TypeSchema
