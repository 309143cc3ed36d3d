import Mathlib
import TypeSchema.Proofs.Generation.Nodes
import TypeSchema.Proofs.Generation.Reports
import TypeSchema.Proofs.Generation.Run
import TypeSchema.Proofs.Parallel
import TypeSchema.Proofs.Registry.Coupled
import TypeSchema.Proofs.Schema.Renaming
import TypeSchema.Proofs.SortedMap.Rekeyed

/-!
# Generation — what else the registry holds does not matter

Two generations of one type begin with different registries, so a type may get one identifier in
the first run and another one in the second.  `p.Related g t t'` says what the two states have in
common: arenas and components are the same but for identifiers, and an identifier of the one run
stands where the other has one that the same identity holds (`Registry.Ties`).  As registries grow,
no identifier that is in use changes hands, so what is tied stays tied.

Every action is run in both states and ends alike (`Parallel`), one lemma for each.  An identifier
that an object is given is in use until the object is recorded; `p.knowing id id'` carries the two
over what is built in between.

* `parallel_nodeFor`: both runs give the same node, or fail with the same error.
* `generate_independent`: the schemas are the same when each identifier is replaced by its owner.
-/

namespace TypeSchema

open Build

/-! ### Reports -/

/-- The reports that are no collisions of identifiers. -/
def withoutCollisions (events : List DiagnosticEvent) : List DiagnosticEvent :=
  events.filter (·.code ≠ .idCollision)

theorem withoutCollisions_append (l l' : List DiagnosticEvent) :
    withoutCollisions (l ++ l') = withoutCollisions l ++ withoutCollisions l' :=
  List.filter_append ..

/-- Reports of collisions are left out. -/
theorem withoutCollisions_of_reportsOnly {events : List DiagnosticEvent}
    (h : ReportsOnly [.idCollision] events) : withoutCollisions events = [] :=
  List.filter_eq_nil_iff.2 fun e he => by simpa using List.mem_singleton.1 (h e he)

/-- What was added to the one list and to the other is the same, collisions of identifiers aside. -/
def SameReports (before events before' events' : List DiagnosticEvent) : Prop :=
  ∃ added added', events = before ++ added ∧ events' = before' ++ added' ∧
    withoutCollisions added' = withoutCollisions added

theorem SameReports.append {before events before' events' l l' : List DiagnosticEvent}
    (h : SameReports before events before' events')
    (same : withoutCollisions l' = withoutCollisions l) :
    SameReports before (events ++ l) before' (events' ++ l') := by
  obtain ⟨added, added', rfl, rfl, alike⟩ := h
  refine ⟨added ++ l, added' ++ l', List.append_assoc .., List.append_assoc .., ?_⟩
  rw [withoutCollisions_append, withoutCollisions_append, alike, same]

/-! ### Two runs -/

/-- What each of two runs had reported when they began, and the identifiers that they use for the
same types now. -/
structure Sides where
  before : List DiagnosticEvent
  before' : List DiagnosticEvent
  known : String → String → Prop

/-- One more pair of identifiers is in use. -/
def Sides.knowing (p : Sides) (id id' : String) : Sides :=
  { p with known := fun i i' => p.known i i' ∨ i = id ∧ i' = id' }

/-- The states are the same but for the identifiers of types. -/
structure Sides.Related (p : Sides) (g : TypeGraph) (t t' : Traversal) : Prop where
  registries : t.registry.Coupled g t'.registry
  known : ∀ id id', p.known id id' → t.registry.Ties t'.registry id id'
  arena : t.arena.Renames (t.registry.Ties t'.registry) t'.arena
  guard : t'.guard = t.guard
  refused : t'.refused = t.refused
  identifiers : t.identifiers.Rekeyed (t.registry.Ties t'.registry) t'.identifiers
  components : t.components.Rekeyed (t.registry.Ties t'.registry) t'.components
  events : SameReports p.before t.events p.before' t'.events

namespace Sides.Related

variable {p : Sides} {g : TypeGraph} {t t' : Traversal}

/-- An identifier is tied to one of the other side at most. -/
theorem unique (h : p.Related g t t') : Relator.BiUnique (t.registry.Ties t'.registry) :=
  Registry.biUnique_ties h.registries.coherent h.registries.coherent'

/-- Related states stay so when a known pair is forgotten. -/
theorem forget {id id' : String} (h : (p.knowing id id').Related g t t') : p.Related g t t' :=
  { h with known := fun i i' hi => h.known i i' (.inl hi) }

/-- A pair that is known is tied. -/
theorem tied {id id' : String} (h : (p.knowing id id').Related g t t') :
    t.registry.Ties t'.registry id id' := h.known id id' (.inr ⟨rfl, rfl⟩)

theorem reported (h : p.Related g t t') {l l' : List DiagnosticEvent}
    (same : withoutCollisions l' = withoutCollisions l) :
    p.Related g (t.reported l) (t'.reported l') :=
  { h with events := h.events.append same }

/-- A change of the arenas, and the same report about it. -/
theorem changed (h : p.Related g t t') {a a' : Arena} (events : List DiagnosticEvent)
    (arena : a.Renames (t.registry.Ties t'.registry) a') :
    p.Related g { t with arena := a, events := t.events ++ events }
      { t' with arena := a', events := t'.events ++ events } :=
  { h with arena, events := h.events.append rfl }

/-- A renamed arena keeps two states related if nothing else changes. -/
theorem silent (h : p.Related g t t') {a a' : Arena}
    (arena : a.Renames (t.registry.Ties t'.registry) a') :
    p.Related g { t with arena := a } { t' with arena := a' } :=
  { h with arena }

/-- Nodes that differ by tied identifiers are added to both sides. -/
theorem pushed (h : p.Related g t t') {n n' : SchemaNode}
    (hn : n.Renames (t.registry.Ties t'.registry) n') :
    p.Related g (t.pushed n) (t'.pushed n') := h.silent (h.arena.push hn)

theorem opened (h : p.Related g t t') (ty : TypeId) : p.Related g (t.opened ty) (t'.opened ty) :=
  { h with guard := by simp only [Traversal.opened, h.guard] }

/-- The component that is noted on both sides is the same up to its identifier. -/
theorem noted (h : p.Related g t t') {id id' : String} (known : p.known id id') (ty : TypeId) :
    p.Related g { t with components := t.components.insertNew id ty }
      { t' with components := t'.components.insertNew id' ty } :=
  { h with components := h.components.insertNew h.unique (h.known id id' known) ty }

/-- So is the node that is recorded. -/
theorem recorded (h : p.Related g t t') {id id' : String} (known : p.known id id')
    (component : NodeId) :
    p.Related g (t.recorded id component) (t'.recorded id' component) :=
  { h with identifiers := h.identifiers.insertNew h.unique (h.known id id' known) component }

/-- Both runs give a type its identifier. -/
theorem assigned (h : p.Related g t t') {ty : TypeId} {id id' : String} {r r' : Registry}
    {events events' : List DiagnosticEvent}
    (assigned : t.registry.assign g ty = .ok (id, r, events))
    (assigned' : t'.registry.assign g ty = .ok (id', r', events')) :
    (p.knowing id id').Related g { t with registry := r, events := t.events ++ events }
      { t' with registry := r', events := t'.events ++ events' } := by
  obtain ⟨coupled, tied⟩ := h.registries.assign_ok assigned assigned'
  have unique := Registry.biUnique_ties coupled.coherent coupled.coherent'
  have kept : ∀ i i', t.registry.Ties t'.registry i i' → r.Ties r' i i' := fun i i' hi =>
    hi.mono (Registry.assign_spec assigned).1 (Registry.assign_spec assigned').1
  refine ⟨coupled, ?_, h.arena.mono kept, h.guard, h.refused, h.identifiers.mono unique kept,
    h.components.mono unique kept, h.events.append ?_⟩
  · rintro i i' (hi | ⟨rfl, rfl⟩)
    · exact kept i i' (h.known i i' hi)
    · exact tied
  · rw [withoutCollisions_of_reportsOnly (reportsOnly_assign assigned),
      withoutCollisions_of_reportsOnly (reportsOnly_assign assigned')]

/-- Both runs give a type its placeholder for a reason. -/
theorem cut (h : p.Related g t t') (ty : TypeId) (name : String) {id? id?' : Option String}
    (known : Option.Rel p.known id? id?') (reason : CutReason) :
    (t'.cut ⟨ty, name, id?'⟩ reason).1 = (t.cut ⟨ty, name, id?⟩ reason).1 ∧
      p.Related g (t.cut ⟨ty, name, id?⟩ reason).2 (t'.cut ⟨ty, name, id?'⟩ reason).2 := by
  have renames : SchemaNode.Renames (t.registry.Ties t'.registry)
      { kind := .placeholder ⟨name, id?, reason⟩ }
      { kind := .placeholder ⟨name, id?', reason⟩ } := by
    cases known with
    | none =>
      exact .of_plain _ fun _ occurs => by simp [SchemaNode.Occurs, SchemaNode.PointsTo] at occurs
    | @some id id' known =>
      refine ⟨fun _ => id', rfl, fun i occurs => ?_⟩
      simp only [SchemaNode.Occurs, SchemaNode.PointsTo] at occurs
      obtain rfl : id = i := by simpa using occurs
      exact h.known id id' known
  unfold Traversal.cut Guard.placeholder
  rw [h.guard]
  cases t.guard.placeholders.lookup (ty, reason) with
  | some node => exact ⟨rfl, { h.changed [] h.arena with guard := rfl }⟩
  | none =>
    have number : (⟨t'.arena.size⟩ : NodeId) = ⟨t.arena.size⟩ :=
      congrArg NodeId.mk h.arena.size_eq
    refine ⟨number, ?_⟩
    have added := h.changed [t.guard.cutEvent name reason] (h.arena.push renames)
    exact { added with guard := by simp only [Arena.push_fst, number] }

end Sides.Related

/-! ### Actions in both runs -/

/-- The action, in both runs, gives equal values or fails with the same error. -/
def Sides.Alike (p : Sides) (g : TypeGraph) {α : Type} (x y : Build α) : Prop :=
  Parallel (p.Related g) (p.Related g) (Equally (p.Related g)) x y

/-- What uses one more pair of identifiers does so without them, too. -/
theorem Sides.Alike.forget {p : Sides} {g : TypeGraph} {id id' : String} {α : Type} {x y : Build α}
    (h : (p.knowing id id').Alike g x y) :
    Parallel (p.Related g) ((p.knowing id id').Related g) (Equally (p.Related g)) x y :=
  h.weaken (fun _ _ hs => hs) (fun _ _ _ _ ⟨same, hs⟩ => ⟨same, hs.forget⟩) fun _ _ hs => hs.forget

section Actions

variable {p : Sides} {g : TypeGraph}

theorem parallel_report (events : List DiagnosticEvent) :
    p.Alike g (report events) (report events) :=
  .of_modify fun _ _ h => h.reported rfl

/-- Adding nodes that differ by tied identifiers is alike. -/
theorem parallel_push {n n' : SchemaNode}
    (hn : ∀ t t', p.Related g t t' → n.Renames (t.registry.Ties t'.registry) n') :
    p.Alike g (push n) (push n') :=
  .of_modifyGet fun t t' h => ⟨congrArg NodeId.mk h.arena.size_eq.symm, h.pushed (hn t t' h)⟩

/-- A node that names no component is added in both runs. -/
theorem parallel_push_made {n : SchemaNode} {ids : List NodeId} (made : n.IsMadeOf none ids) :
    p.Alike g (push n) (push n) := by
  refine parallel_push fun _ _ _ => .of_plain _ fun id occurs => ?_
  obtain ⟨kind, hkind⟩ := made.primitive
  simp [SchemaNode.Occurs, SchemaNode.PointsTo, hkind, made.identifier] at occurs

/-- Constraints are applied alike: they do not look at identifiers. -/
theorem parallel_annotate (patterns : PatternCheck) (id : NodeId) (member : String)
    (constraints : List Constraint) :
    p.Alike g (annotate patterns id member constraints)
      (annotate patterns id member constraints) := by
  refine .of_modifyGet fun t t' h => ?_
  obtain ⟨node, events, arena⟩ := h.arena.annotate patterns id member constraints
  simp only [node, events]
  exact ⟨rfl, h.changed _ arena⟩

/-- Null is admitted alike. -/
theorem parallel_applyNull (encoding : NullEncoding) (id : NodeId) (nullable : Bool) :
    p.Alike g (applyNull encoding id nullable) (applyNull encoding id nullable) := by
  refine .of_modifyGet fun t t' h => ?_
  obtain ⟨node, arena⟩ := h.arena.applyNull encoding id nullable
  exact ⟨node.symm, h.silent arena⟩

theorem parallel_setExample (id : NodeId) (v : Json) :
    p.Alike g (setExample id v) (setExample id v) := by
  refine .of_modify fun t t' h => ?_
  rw [h.arena.isShared_eq]
  cases t.arena.isShared id with
  | true => exact h
  | false => exact h.silent (h.arena.modify id (fun _ _ => rfl) fun _ _ hid => hid)

theorem parallel_annotateField (patterns : PatternCheck) (id : NodeId) (field? : Option Field) :
    p.Alike g (annotateField patterns id field?) (annotateField patterns id field?) := by
  cases field? with
  | none => exact .pure_eq id
  | some f =>
    refine (parallel_annotate patterns id f.name f.constraints).bind_eq fun id => ?_
    cases f.example? with
    | none => exact .pure_eq id
    | some v => exact (parallel_setExample id v).bind_eq fun _ => .pure_eq id

/-- A node is decorated alike on both sides. -/
theorem parallel_decorate (gen : Generator) (d : TypeDescriptor) (field? : Option Field)
    (id : NodeId) : p.Alike g (decorate gen d field? id) (decorate gen d field? id) :=
  (parallel_annotate gen.patterns id d.name d.constraints).bind_eq fun id =>
    (parallel_annotateField gen.patterns id field?).bind_eq fun id =>
      parallel_applyNull gen.config.nullEncoding id false

theorem parallel_wrapNull (gen : Generator) (d : TypeDescriptor) (id : NodeId) :
    p.Alike g (wrapNull gen d id) (wrapNull gen d id) :=
  (parallel_annotate gen.patterns id d.name d.constraints).bind_eq fun id =>
    parallel_applyNull gen.config.nullEncoding id true

/-- Identifiers are assigned on both sides, perhaps different ones, which are tied from then on. -/
theorem parallel_assign (ty : TypeId) :
    Parallel (p.Related g) (p.Related g) (fun id id' => (p.knowing id id').Related g)
      (assign g ty) (assign g ty) := by
  refine .of_get fun t t' h => ?_
  rcases h.registries.assign_cases ty with ⟨e, failed, failed'⟩ |
    ⟨id, r, events, id', r', events', assigned, assigned', -⟩
  · rw [failed, failed']
    exact .of_throw e fun _ _ ⟨hs, hs'⟩ => hs ▸ hs' ▸ h
  · rw [assigned, assigned']
    have claimed : Parallel (p.Related g) (fun s s' => s = t ∧ s' = t')
        (Equally ((p.knowing id id').Related g))
        (modify fun t => { t with registry := r, events := t.events ++ events } : Build PUnit)
        (modify fun t => { t with registry := r', events := t.events ++ events' }) :=
      .of_modify fun s s' ⟨hs, hs'⟩ => by
        subst hs hs'
        exact h.assigned assigned assigned'
    exact claimed.bind_eq fun _ => .of_pure fun _ _ hs => hs

theorem parallel_noteComponent {id id' : String} (known : p.known id id') (ty : TypeId) :
    p.Alike g (noteComponent id ty) (noteComponent id' ty) :=
  .of_modify fun _ _ h => h.noted known ty

/-- A type is admitted on both sides or cut on both, for the same reason. -/
theorem parallel_enter {ty : TypeId} {name : String} {id? id?' : Option String}
    (known : Option.Rel p.known id? id?') :
    p.Alike g (enter ⟨ty, name, id?⟩) (enter ⟨ty, name, id?'⟩) := by
  intro t t' h
  rw [enter_eq, enter_eq, h.guard]
  cases t.guard.cutReason? ty with
  | none => exact .inl ⟨_, _, _, _, rfl, rfl, rfl, h.opened ty⟩
  | some reason =>
    obtain ⟨node, related⟩ := h.cut ty name known reason
    exact .inl ⟨_, _, _, _, rfl, rfl, by rw [node], related⟩

theorem parallel_exit (ty : TypeId) (identity : String) :
    p.Alike g (exit ty identity) (exit ty identity) := by
  refine .of_get fun t t' h => ?_
  rw [h.guard]
  have here : ∀ s s', s = t ∧ s' = t' → p.Related g s s' := fun s s' ⟨hs, hs'⟩ => hs ▸ hs' ▸ h
  cases t.guard.exit ty with
  | ok guard =>
    exact .weaken (.of_modify fun _ _ hs => { hs with guard := rfl }) here
      (fun _ _ _ _ hs => hs) fun _ _ hs => hs
  | error e =>
    exact .weaken ((parallel_report [mismatchEvent e identity]).bind_eq fun _ =>
      .of_throw e fun _ _ hs => hs) here (fun _ _ _ _ hs => hs) fun _ _ hs => hs

theorem parallel_describe (ty : TypeId) : p.Alike g (describe g ty) (describe g ty) := by
  unfold describe
  cases g.describe? ty with
  | none => exact .of_throw _ fun _ _ hs => hs
  | some d => exact .pure_eq d

/-- An override is found on both sides, or ignored with the same report. -/
theorem parallel_overrideFor (gen : Generator) (ty : TypeId) (d : TypeDescriptor)
    (cls : Classification) : p.Alike g (overrideFor gen ty d cls) (overrideFor gen ty d cls) := by
  unfold overrideFor
  cases gen.overrides.lookup? [d.identity, d.name] with
  | none => exact .pure_eq none
  | some o =>
    cases cls.isOverridable with
    | true => exact .pure_eq (some o)
    | false =>
      refine .of_get fun t t' h => ?_
      rw [h.refused]
      have here : ∀ s s', s = t ∧ s' = t' → p.Related g s s' :=
        fun s s' ⟨hs, hs'⟩ => hs ▸ hs' ▸ h
      refine .weaken ?_ here (fun _ _ _ _ hs => hs) fun _ _ hs => hs
      by_cases new : ty ∉ t.refused
      · rw [if_pos new]
        have refused : p.Alike g
            (modify fun t => { t with refused := ty :: t.refused } : Build PUnit)
            (modify fun t => { t with refused := ty :: t.refused }) :=
          .of_modify fun _ _ hs => { hs with refused := by simp only [hs.refused] }
        exact refused.bind_eq fun _ => (parallel_report _).bind_eq fun _ => .pure_eq none
      · rw [if_neg new]
        exact .pure_eq none

/-! ### Building in both runs -/

/-- What is built between opening and closing a type is alike if what it encloses is. -/
theorem parallel_guarded {ty : TypeId} {d : TypeDescriptor} {id? id?' : Option String}
    (known : Option.Rel p.known id? id?') {build build' : Build NodeId}
    (hbuild : p.Alike g build build') :
    p.Alike g (guarded ty d id? build) (guarded ty d id?' build') := by
  refine (parallel_enter known).bind_eq fun admission => ?_
  cases admission with
  | substitute placeholder =>
    cases known with
    | none => exact .pure_eq placeholder
    | some known => exact (parallel_noteComponent known ty).bind_eq fun _ => .pure_eq placeholder
  | expand =>
    exact hbuild.bind_eq fun node => (parallel_exit ty d.identity).bind_eq fun _ => .pure_eq node

/-- What builds the parts of a type does so in both runs, whatever identifiers are in use. -/
def Descent.IsParallel (g : TypeGraph) (descend : Descent) : Prop :=
  ∀ (p : Sides) ty field?, p.Alike g (descend ty field?) (descend ty field?)

variable {descend : Descent} (hdescend : descend.IsParallel g)
include hdescend

/-- The fields of an object are built alike, from left to right. -/
theorem parallel_addFields {n : SchemaNode} (object : n.kind = .primitive .object)
    (fields : List Field) :
    Parallel (p.Related g) (p.Related g)
      (fun m m' t t' => m = m' ∧ m.kind = .primitive .object ∧ p.Related g t t')
      (addFields descend n fields) (addFields descend n fields) := by
  induction fields generalizing n with
  | nil => exact .of_pure fun _ _ hs => ⟨rfl, object, hs⟩
  | cons f rest ih => exact (hdescend p f.type (some f)).bind_eq fun child => ih object

theorem parallel_expandKept {id id' : String} (known : p.known id id') (fields : List Field)
    (truncation? : Option Truncation) :
    p.Alike g (expandKept descend id fields truncation?)
      (expandKept descend id' fields truncation?) := by
  refine (parallel_addFields hdescend rfl fields).bind ?_
  intro m m'
  -- the two nodes differ in the component that they expand
  have renames : ∀ m : SchemaNode, m.kind = .primitive .object → ∀ t t', p.Related g t t' →
      SchemaNode.Renames (t.registry.Ties t'.registry)
        { m with identifier? := some id, truncation? }
        { m with identifier? := some id', truncation? } := by
    intro m object t t' h
    refine ⟨fun _ => id', ?_, fun i occurs => ?_⟩
    · simp only [SchemaNode.rename, object, NodeKind.rename, Option.map_some]
    · rcases occurs with points | own
      · simp [SchemaNode.PointsTo, object] at points
      · cases own
        exact h.known id id' known
  intro s s' hs
  obtain ⟨rfl, object, h⟩ := hs
  have pushed := parallel_push (renames m object)
  have recorded : ∀ component : NodeId, p.Alike g
      (modify fun t => { t with identifiers := t.identifiers.insertNew id component } :
        Build PUnit)
      (modify fun t => { t with identifiers := t.identifiers.insertNew id' component }) :=
    fun component => .of_modify fun _ _ hs => hs.recorded known component
  exact (pushed.bind_eq fun component => (recorded component).bind_eq fun _ => pushed) h

/-- So are the object and the node recorded for it, under the identifier of each side. -/
theorem parallel_expandFields (gen : Generator) (d : TypeDescriptor) (o : ObjectShape)
    {id id' : String} (known : p.known id id') :
    p.Alike g (expandFields gen descend d o id) (expandFields gen descend d o id') := by
  have added := parallel_expandKept hdescend known
    (keptFields gen.config.memberThreshold? (sortedFields o)).1
  simp only [expandFields]
  cases (keptFields gen.config.memberThreshold? (sortedFields o)).2 with
  | none => exact added none
  | some tr => exact (parallel_report _).bind_eq fun _ => added (some tr)

/-- **An object is expanded under the identifier that it has in each run.** -/
theorem parallel_expandObject (gen : Generator) (ty : TypeId) (d : TypeDescriptor)
    (o : ObjectShape) :
    p.Alike g (expandObject gen g descend ty d o) (expandObject gen g descend ty d o) := by
  refine (parallel_assign ty).bind fun id id' => Sides.Alike.forget ?_
  have known : (p.knowing id id').known id id' := .inr ⟨rfl, rfl⟩
  refine (parallel_noteComponent known ty).bind_eq fun _ => .of_get fun t t' h => ?_
  rw [h.identifiers.same id id' h.tied]
  refine .weaken ?_ (fun s s' ⟨hs, hs'⟩ => hs ▸ hs' ▸ h) (fun _ _ _ _ hs => hs) fun _ _ hs => hs
  cases t.identifiers.get? id with
  | none => exact parallel_guarded (.some known) (parallel_expandFields hdescend gen d o known)
  | some target =>
    refine parallel_push fun s s' hs => ⟨fun _ => id', rfl, fun i occurs => ?_⟩
    simp only [SchemaNode.Occurs, SchemaNode.PointsTo] at occurs
    obtain rfl : id = i := by simpa using occurs
    exact hs.tied

/-- A type is expanded alike, given that the descent is. -/
theorem parallel_expand (gen : Generator) (ty : TypeId) (d : TypeDescriptor)
    (cls : Classification) :
    p.Alike g (expand gen g descend ty d cls) (expand gen g descend ty d cls) := by
  have leaf : ∀ {n events}, leafNode? gen d cls = some (n, events) → p.Alike g (push n) (push n) :=
    fun node => parallel_push_made (SchemaNode.isMadeOf_leafNode? node)
  have collection : ∀ {n} ids, cls.collectionNode? ids = some n → p.Alike g (push n) (push n) :=
    fun _ node => parallel_push_made (SchemaNode.isMadeOf_collectionNode? node)
  cases cls with
  | scalar kind => exact leaf rfl
  | bytes => exact leaf rfl
  | enumeration e => exact (parallel_report _).bind_eq fun _ => leaf rfl
  | nullable inner => exact hdescend p inner none
  | sequence element =>
    exact parallel_guarded .none ((hdescend p element none).bind_eq fun items =>
      collection [items] rfl)
  | map value =>
    exact parallel_guarded .none ((hdescend p value none).bind_eq fun values =>
      collection [values] rfl)
  | pair key value =>
    exact parallel_guarded .none ((hdescend p key none).bind_eq fun keys =>
      (hdescend p value none).bind_eq fun values => collection [keys, values] rfl)
  | object o? =>
    cases o? with
    | none => exact leaf rfl
    | some o => exact parallel_expandObject hdescend gen ty d o

/-- A type that is not nullable is built alike, given that the descent is. -/
theorem parallel_plainStep (gen : Generator) (ty : TypeId) (field? : Option Field)
    (d : TypeDescriptor) (cls : Classification) :
    p.Alike g (plainStep gen g descend ty field? d cls)
      (plainStep gen g descend ty field? d cls) := by
  refine (parallel_overrideFor gen ty d cls).bind_eq fun o? => ?_
  cases o? with
  | some o =>
    exact (parallel_push_made (SchemaNode.isMadeOf_override o)).bind_eq
      (parallel_decorate gen d field?)
  | none => exact (parallel_expand hdescend gen ty d cls).bind_eq (parallel_decorate gen d field?)

/-- **One step ends alike in both runs** if what it descends to does. -/
theorem parallel_nodeStep (gen : Generator) (ty : TypeId) (field? : Option Field) :
    p.Alike g (nodeStep gen g descend ty field?) (nodeStep gen g descend ty field?) := by
  refine (parallel_describe ty).bind_eq fun d => ?_
  have plain := parallel_plainStep (p := p) hdescend gen ty field? d
  cases g.classify d.shape with
  | nullable inner => exact (hdescend p inner field?).bind_eq (parallel_wrapNull gen d)
  | scalar kind => exact plain (.scalar kind)
  | bytes => exact plain .bytes
  | enumeration e => exact plain (.enumeration e)
  | sequence element => exact plain (.sequence element)
  | map value => exact plain (.map value)
  | pair key value => exact plain (.pair key value)
  | object o? => exact plain (.object o?)

omit hdescend in
/-- **The node of a type is the same in both runs.** -/
theorem parallel_nodeFor (gen : Generator) (levels : Nat) :
    (nodeFor gen g levels).IsParallel g := by
  induction levels with
  | zero => exact fun p ty field? => .of_throw _ fun _ _ hs => hs
  | succ levels ih => exact fun p ty field? => parallel_nodeStep ih gen ty field?

end Actions

/-! ### Generations -/

/-- The schema with other identifiers. -/
def GeneratedSchema.rename (f : String → String) (s : GeneratedSchema) : GeneratedSchema where
  arena := s.arena.rename f
  root := s.root
  identifiers := s.identifiers.mapKeys f
  components := s.components.mapKeys f

/-- Every identifier of the schema is held. -/
structure GeneratedSchema.HeldIn (s : GeneratedSchema) (r : Registry) : Prop where
  nodes : ∀ node n id, s.arena.get? node = some n → n.Occurs id → r.IsHeld id
  identifiers : ∀ id, s.identifiers.contains id → r.IsHeld id
  components : ∀ id, s.components.contains id → r.IsHeld id

section

variable {gen : Generator} {g : TypeGraph} {root : TypeId} {w w' w₁ w₁' : Workspace}

/-- Two calls with coupled registries begin alike. -/
theorem Workspace.related_begin (coupled : w.registry.Coupled g w'.registry) (gen : Generator) :
    Sides.Related ⟨w.events, w'.events, fun _ _ => False⟩ g (w.begin gen) (w'.begin gen) where
  registries := coupled
  known _ _ h := h.elim
  arena := .empty _
  guard := rfl
  refused := rfl
  identifiers := .empty _
  components := .empty _
  events := ⟨[], [], (List.append_nil _).symm, (List.append_nil _).symm, rfl⟩

/-- Two generations that succeed give the same schema, when identifiers are replaced by their
owners. -/
theorem generate_ok_of_coupled (coupled : w.registry.Coupled g w'.registry) {s : GeneratedSchema}
    (h : generate gen g root w = .ok s w₁) :
    ∃ s' w₁', generate gen g root w' = .ok s' w₁' ∧
      s'.rename w₁'.registry.owner = s.rename w₁.registry.owner ∧ s.HeldIn w₁.registry ∧
      SameReports w.events w₁.events w'.events w₁'.events := by
  obtain ⟨t, built, hs, rfl⟩ := generate_ok h
  rcases parallel_nodeFor gen (levelsFor g) _ root none (Workspace.related_begin coupled gen) with
    ⟨id, id', t₁, t', ok, ok', rfl, related⟩ | ⟨e, t₁, t', failed, failed', -⟩
  · rw [built] at ok
    cases ok
    refine ⟨_, _, generate_of_ok ok', ?_, ?_, related.events⟩
    · have named := fun i i' (hi : t.registry.Ties t'.registry i i') =>
        Registry.owner_of_ties related.registries.coherent related.registries.coherent' hi
      have different := fun i i' j j' (hi : t.registry.Ties t'.registry i i')
          (hj : t.registry.Ties t'.registry j j') =>
        Registry.ties_of_owner_eq related.registries.coherent hi hj
      rw [hs]
      simp only [GeneratedSchema.rename, related.arena.rename_eq named,
        related.identifiers.mapKeys_eq named different,
        related.components.mapKeys_eq named different]
    · rw [hs]
      refine ⟨fun node n i hn occurs => ?_, fun i hi => ?_, fun i hi => ?_⟩
      · obtain ⟨i', tied⟩ := related.arena.exists_tied hn occurs
        exact tied.left
      · obtain ⟨i', tied⟩ := related.identifiers.left i hi
        exact tied.left
      · obtain ⟨i', tied⟩ := related.components.left i hi
        exact tied.left
  · rw [built] at failed
    cases failed

/-- A generation that fails does so with the other registry, too. -/
theorem generate_error_of_coupled (coupled : w.registry.Coupled g w'.registry)
    {e : GenerationError} (h : generate gen g root w = .error e w₁) :
    ∃ w₁', generate gen g root w' = .error e w₁' ∧
      SameReports w.events w₁.events w'.events w₁'.events := by
  obtain ⟨t, built, rfl⟩ := generate_error h
  rcases parallel_nodeFor gen (levelsFor g) _ root none (Workspace.related_begin coupled gen) with
    ⟨id, id', t₁, t', ok, ok', -, -⟩ | ⟨e', t₁, t', failed, failed', related⟩
  · rw [built] at ok
    cases ok
  · rw [built] at failed
    cases failed
    exact ⟨_, generate_of_error failed', related.events⟩

end

/-- **A generation does not depend on what else the registry holds.**  From two registries that
claims, assignments and releases lead to, and in which the types that no base can be made for hold
identifiers alike, a generation gives a schema in both cases or fails with the same error in both.
The schemas are the same when each identifier is replaced by the identity that holds it, and the
reports are the same but for collisions of identifiers. -/
theorem generate_independent (gen : Generator) (g : TypeGraph) (root : TypeId) {w w' : Workspace}
    (reachable : w.registry.Reachable) (reachable' : w'.registry.Reachable)
    (unnamed : Registry.SameUnnamed g w.registry w'.registry) :
    (∃ s w₁ s' w₁', generate gen g root w = .ok s w₁ ∧ generate gen g root w' = .ok s' w₁' ∧
      s'.rename w₁'.registry.owner = s.rename w₁.registry.owner ∧
      s.HeldIn w₁.registry ∧ s'.HeldIn w₁'.registry ∧
      SameReports w.events w₁.events w'.events w₁'.events) ∨
    ∃ e w₁ w₁', generate gen g root w = .error e w₁ ∧ generate gen g root w' = .error e w₁' ∧
      SameReports w.events w₁.events w'.events w₁'.events := by
  have coupled : w.registry.Coupled g w'.registry :=
    ⟨reachable.coherent, reachable'.coherent, unnamed⟩
  cases h : generate gen g root w with
  | ok s w₁ =>
    obtain ⟨s', w₁', h', same, held, reports⟩ := generate_ok_of_coupled coupled h
    obtain ⟨s₀, w₀, h₀, -, held', -⟩ := generate_ok_of_coupled coupled.symm h'
    exact .inl ⟨s, w₁, s', w₁', rfl, h', same, held, held', reports⟩
  | error e w₁ =>
    obtain ⟨w₁', h', reports⟩ := generate_error_of_coupled coupled h
    exact .inr ⟨e, w₁, w₁', rfl, h', reports⟩

/-- Two objects, one inside the other, of one name. -/
def TypeGraph.nestedNamesakes : TypeGraph := .ofTypes #[
  { identity := "b.Item", name := "Item",
    shape := .object { fields := [{ name := "next", type := ⟨1⟩ }] } },
  { identity := "a.Item", name := "Item", shape := .object {} }]

/-- A registry in which others hold the names that the two objects ask for. -/
def Registry.crowded : Registry :=
  (((Registry.empty.claim "x" "Item").2.1).claim "y" "Item_dup1").2.1

/-- Where the names are taken the two objects get other ones, and the schema is the same. -/
theorem generate_independent_nestedNamesakes :
    ∃ s w s' w', generate (.plain {}) .nestedNamesakes ⟨0⟩ {} = .ok s w ∧
      generate (.plain {}) .nestedNamesakes ⟨0⟩ { registry := .crowded } = .ok s' w' ∧
      s.components.keys = ["Item", "Item_dup1"] ∧
      s'.components.keys = ["Item_dup2", "Item_dup3"] ∧
      s'.rename w'.registry.owner = s.rename w.registry.owner ∧
      (s.rename w.registry.owner).components.keys = ["a.Item", "b.Item"] := by
  have computed : Work.value? (do
      let s ← generate (.plain {}) .nestedNamesakes ⟨0⟩
      return (s.components.keys, (s.rename (← get).registry.owner).components.keys)) {} =
      some (["Item", "Item_dup1"], ["a.Item", "b.Item"]) := by cbv
  have computed' : Work.value? (do
      let s ← generate (.plain {}) .nestedNamesakes ⟨0⟩
      return s.components.keys) { registry := .crowded } =
      some ["Item_dup2", "Item_dup3"] := by cbv
  obtain ⟨s, w, h, hread⟩ := Work.ok_of_reading computed
  obtain ⟨keys, owners⟩ := Prod.mk.inj hread
  obtain ⟨s', w', h', keys'⟩ := Work.ok_of_reading computed'
  have bases : ∀ ty d, TypeGraph.nestedNamesakes.describe? ty = some d →
      ∃ base, TypeGraph.nestedNamesakes.baseId ty = .ok base := by
    intro ty d known
    obtain ⟨_ | _ | n⟩ := ty
    · exact ⟨"Item", rfl⟩
    · exact ⟨"Item", rfl⟩
    · cases known
  have fresh : ({} : Workspace).registry.Reachable := .empty
  have crowded : ({ registry := .crowded } : Workspace).registry.Reachable :=
    (Registry.Reachable.empty.claim _ _).claim _ _
  rcases generate_independent (.plain {}) .nestedNamesakes ⟨0⟩ fresh crowded
      (.of_bases _ _ bases) with ⟨s₁, w₁, s₁', w₁', h₁, h₁', same, -⟩ | ⟨e, w₁, w₁', failed, -⟩
  · rw [h] at h₁
    rw [h'] at h₁'
    cases h₁
    cases h₁'
    exact ⟨s, w, s', w', h, h', keys, keys', same, owners⟩
  · rw [h] at failed
    cases failed

/-- An object with a generic argument that the graph does not know. -/
def TypeGraph.unknownArgument : TypeGraph := .ofTypes #[
  { identity := "Box<?7>", name := "Box", genericArgs := [⟨7⟩], shape := .object {} }]

/-- A type that no base can be made for is generated only where it holds an identifier: a claim that
was made for it before decides between a schema and an error. -/
theorem not_generate_independent :
    TypeGraph.unknownArgument.Distinct ∧
      (Registry.empty.claim "Box<?7>" "Box").2.1.Reachable ∧
      (∃ w, generate (.plain {}) .unknownArgument ⟨0⟩ { registry := .empty } =
        .error (.unknownType ⟨7⟩) w) ∧
      ∃ s w, generate (.plain {}) .unknownArgument ⟨0⟩
        { registry := (Registry.empty.claim "Box<?7>" "Box").2.1 } = .ok s w := by
  refine ⟨.ofTypes (by decide), .claim .empty _ _, ⟨{}, by rfl⟩, ?_⟩
  have computed : Work.value? (do
      let s ← generate (.plain {}) .unknownArgument ⟨0⟩
      return s.components.keys)
      { registry := (Registry.empty.claim "Box<?7>" "Box").2.1 } = some ["Box"] := by cbv
  obtain ⟨s, w, h, -⟩ := Work.ok_of_reading computed
  exact ⟨s, w, h⟩

end TypeSchema
