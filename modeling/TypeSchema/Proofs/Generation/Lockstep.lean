import TypeSchema.Generation.Document
import TypeSchema.Proofs.Generation.Growth
import TypeSchema.Proofs.Generation.Reports
import TypeSchema.Proofs.Graph.Relabelling

/-!
# Generation — the numbers of types do not matter

Two generations run in lockstep, one for a graph and one for the graph with other numbers, from
registries that are equal.  After each action the two arenas and registries are the same, the open
types, the components and the ignored overrides correspond, and the same has been reported since the
beginning (`Twins.Traversals`).  So they give the same node (`lockstep_nodeFor`) and the same schema
(`lockstep_generate`).

Numbers are only compared with each other, which an injective change of numbers keeps: by the guard,
for the types whose override was ignored, and as the keys of placeholders.

Decorations of nodes look at the arena only, and components at the schema they are made from.  They
keep up with themselves under every relation between states that lets arenas change alike and the
same be reported (`Traversal.SharesArena`, `Workspace.SharesReports`).
-/

namespace TypeSchema

open Build

/-! ### States with other numbers -/

/-- The guard with other numbers. -/
def Guard.relabel (f : TypeId → TypeId) (g : Guard) : Guard where
  active := g.active.map f
  maxDepth := g.maxDepth
  placeholders := g.placeholders.map fun p => ((f p.1.1, p.1.2), p.2)

/-- The state with other numbers. -/
def Traversal.relabel (f : TypeId → TypeId) (t : Traversal) : Traversal :=
  { t with
    guard := t.guard.relabel f
    components := t.components.mapValues f
    refused := t.refused.map f }

/-- The schema with other numbers. -/
def GeneratedSchema.relabel (f : TypeId → TypeId) (s : GeneratedSchema) : GeneratedSchema :=
  { s with components := s.components.mapValues f }

/-- Two runs: how the second one numbers the types of the first, and what each had reported when
they began. -/
structure Twins where
  φ : TypeId ≃ TypeId
  before : List DiagnosticEvent
  before' : List DiagnosticEvent

/-- `t'` is `t` with other numbers, and both have reported the same since they began. -/
def Twins.Traversals (p : Twins) (t t' : Traversal) : Prop :=
  ∃ events, t.events = p.before ++ events ∧
    t' = { t.relabel p.φ with events := p.before' ++ events }

namespace Guard

variable {f : TypeId → TypeId} (hf : Function.Injective f) (g : Guard)
include hf

theorem isExpanding_relabel (ty : TypeId) :
    (g.relabel f).isExpanding (f ty) = g.isExpanding ty := by
  simp [isExpanding, relabel, List.mem_map_of_injective hf]

/-- A type is cut for the same reason under its new number. -/
theorem cutReason?_relabel (ty : TypeId) :
    (g.relabel f).cutReason? (f ty) = g.cutReason? ty := by
  have hdepth : (g.relabel f).depth = g.depth := by simp [depth, relabel]
  have hmax : (g.relabel f).maxDepth = g.maxDepth := rfl
  simp only [cutReason?, isExpanding_relabel hf, hdepth, hmax]

theorem lookup_placeholders_relabel (ty : TypeId) (reason : CutReason) :
    (g.relabel f).placeholders.lookup (f ty, reason) = g.placeholders.lookup (ty, reason) := by
  simp only [relabel]
  induction g.placeholders with
  | nil => rfl
  | cons p rest ih =>
    obtain ⟨⟨ty', reason'⟩, id⟩ := p
    simp only [List.map_cons, List.lookup_cons, ih]
    have hkey : ((f ty, reason) == (f ty', reason')) = ((ty, reason) == (ty', reason')) := by
      by_cases h : ty = ty'
      · simp [h]
      · simp [h, hf.ne h]
    rw [hkey]

/-- The renumbered type is admitted, or gets the same placeholder. -/
theorem enter_relabel (a : Arena) (v : Visit) :
    (g.relabel f).enter a { v with type := f v.type } =
      ((g.enter a v).1, (g.enter a v).2.1.relabel f, (g.enter a v).2.2) := by
  simp only [enter, cutReason?_relabel hf]
  cases g.cutReason? v.type with
  | none => rfl
  | some reason =>
    simp only [placeholder, lookup_placeholders_relabel hf]
    cases g.placeholders.lookup (v.type, reason) with
    | some id => rfl
    | none => simp [relabel, cutEvent, depth]

omit hf in
/-- The renumbered type can be left as well. -/
theorem exit_relabel {ty : TypeId} {g' : Guard} (h : g.exit ty = .ok g') :
    (g.relabel f).exit (f ty) = .ok (g'.relabel f) := by
  simp only [exit] at h ⊢
  cases ha : g.active with
  | nil => rw [ha] at h; cases h
  | cons top rest =>
    simp only [ha] at h
    simp only [relabel, ha, List.map_cons]
    by_cases htop : top = ty
    · rw [if_pos htop] at h
      cases h
      simp [htop]
    · rw [if_neg htop] at h
      cases h

end Guard

/-! ### Fields -/

/-- Fields are ordered by their names, which renumbering leaves. -/
theorem sortedFields_relabel (f : TypeId → TypeId) (o : ObjectShape) :
    sortedFields (o.relabel f) = (sortedFields o).map (·.relabel f) := by
  unfold sortedFields
  exact (List.map_mergeSort (f := fun x : Field => x.relabel f) fun _ _ _ _ => rfl).symm

/-- As many fields are kept. -/
theorem keptFields_relabel (f : TypeId → TypeId) (limit? : Option Nat) (fields : List Field) :
    keptFields limit? (fields.map (·.relabel f)) =
      ((keptFields limit? fields).1.map (·.relabel f), (keptFields limit? fields).2) := by
  unfold keptFields
  cases limit? with
  | none => rfl
  | some limit =>
    simp only [List.length_map]
    split
    · simp [List.map_take]
    · rfl

/-! ### Decorations in lockstep -/

/-- Related states have equal arenas, and stay related when their arenas change alike and the same
is reported, which is no collision of identifiers. -/
structure Traversal.SharesArena (R : Traversal → Traversal → Prop) : Prop where
  arena : ∀ {t t' : Traversal}, R t t' → t'.arena = t.arena
  changed : ∀ {t t' : Traversal} (a : Arena) (events : List DiagnosticEvent), R t t' →
    (∀ e ∈ events, e.code ≠ .idCollision) →
    R { t with arena := a, events := t.events ++ events }
      { t' with arena := a, events := t'.events ++ events }

section Decorations

variable {R : Traversal → Traversal → Prop} (shares : Traversal.SharesArena R)
include shares

/-- A change of the arena alone. -/
theorem Traversal.SharesArena.silent {t t' : Traversal} (h : R t t') (a : Arena) :
    R { t with arena := a } { t' with arena := a } := by
  simpa using shares.changed a [] h fun _ he => by cases he

/-- Constraints do not mention types. -/
theorem lockstep_annotate (patterns : PatternCheck) (id : NodeId) (member : String)
    (constraints : List Constraint) :
    Lockstep R Eq (annotate patterns id member constraints)
      (annotate patterns id member constraints) := by
  refine .of_modifyGet fun t t' h => ?_
  rw [shares.arena h]
  exact ⟨rfl, shares.changed _ _ h
    ((reportsOnly_annotate patterns t.arena id member constraints).noCollision (by decide))⟩

theorem lockstep_applyNull (encoding : NullEncoding) (id : NodeId) (nullable : Bool) :
    Lockstep R Eq (applyNull encoding id nullable) (applyNull encoding id nullable) := by
  refine .of_modifyGet fun t t' h => ?_
  rw [shares.arena h]
  exact ⟨rfl, shares.silent h _⟩

theorem lockstep_setExample (id : NodeId) (v : Json) :
    Lockstep R Eq (setExample id v) (setExample id v) := by
  refine .of_modify fun t t' h => ?_
  rw [shares.arena h]
  split
  · exact h
  · exact shares.silent h _

theorem lockstep_annotateField (patterns : PatternCheck) (id : NodeId) (field? : Option Field) :
    Lockstep R Eq (annotateField patterns id field?) (annotateField patterns id field?) := by
  cases field? with
  | none => exact .of_pure rfl
  | some x =>
    refine (lockstep_annotate shares patterns id x.name x.constraints).bind_eq fun id' => ?_
    cases x.example? with
    | none => exact .of_pure rfl
    | some v => exact (lockstep_setExample shares id' v).bind_eq fun _ => .of_pure rfl

/-- Nor does anything else that is done to a finished node. -/
theorem lockstep_decorate (gen : Generator) (d : TypeDescriptor) (field? : Option Field)
    (id : NodeId) : Lockstep R Eq (decorate gen d field? id) (decorate gen d field? id) :=
  (lockstep_annotate shares gen.patterns id d.name d.constraints).bind_eq fun id =>
    (lockstep_annotateField shares gen.patterns id field?).bind_eq fun id =>
      lockstep_applyNull shares gen.config.nullEncoding id false

theorem lockstep_wrapNull (gen : Generator) (d : TypeDescriptor) (id : NodeId) :
    Lockstep R Eq (wrapNull gen d id) (wrapNull gen d id) :=
  (lockstep_annotate shares gen.patterns id d.name d.constraints).bind_eq fun id =>
    lockstep_applyNull shares gen.config.nullEncoding id true

end Decorations

/-- Decorations do not look at numbers. -/
theorem decorate_relabel (f : TypeId → TypeId) (gen : Generator) (d : TypeDescriptor)
    (field? : Option Field) (id : NodeId) :
    decorate gen (d.relabel f) (field?.map (·.relabel f)) id = decorate gen d field? id := by
  cases field? <;> rfl

/-! ### Actions in lockstep -/

section Actions

variable {p : Twins}

/-- Twins share the registry: it knows types by their identities. -/
theorem Twins.Traversals.registry {t t' : Traversal} (h : p.Traversals t t') :
    t'.registry = t.registry := by
  obtain ⟨_, -, rfl⟩ := h
  rfl

theorem Twins.sharesArena (p : Twins) : Traversal.SharesArena p.Traversals where
  arena := by
    rintro t t' ⟨_, -, rfl⟩
    rfl
  changed := by
    rintro t t' a events ⟨es, he, rfl⟩ -
    exact ⟨es ++ events, by simp [he], by simp [Traversal.relabel]⟩

theorem lockstep_report (events : List DiagnosticEvent) :
    Lockstep p.Traversals Eq (report events) (report events) :=
  .of_modify fun t t' ⟨es, he, ht⟩ => ⟨es ++ events, by simp [he], by
    rw [ht]
    simp [Traversal.relabel]⟩

theorem lockstep_push (n : SchemaNode) : Lockstep p.Traversals Eq (push n) (push n) :=
  .of_modifyGet fun t t' ⟨es, he, ht⟩ => by
    rw [ht]
    exact ⟨rfl, es, he, rfl⟩

/-- The noted type is renumbered. -/
theorem lockstep_noteComponent (id : String) (ty : TypeId) :
    Lockstep p.Traversals Eq (noteComponent id ty) (noteComponent id (p.φ ty)) :=
  .of_modify fun t t' ⟨es, he, ht⟩ => by
    rw [ht]
    exact ⟨es, he, by simp [Traversal.relabel, SortedMap.mapValues_insertNew]⟩

theorem lockstep_enter (v : Visit) :
    Lockstep p.Traversals Eq (enter v) (enter { v with type := p.φ v.type }) :=
  .of_modifyGet fun t t' ⟨es, he, ht⟩ => by
    rw [ht]
    have henter := Guard.enter_relabel p.φ.injective t.guard t.arena v
    simp only [Traversal.relabel, henter]
    refine ⟨trivial, es ++ (t.guard.enter t.arena v).2.2.2, ?_, ?_⟩
    · simp [he]
    · simp [Traversal.relabel]

theorem lockstep_exit (ty : TypeId) (identity : String) :
    Lockstep p.Traversals Eq (exit ty identity) (exit (p.φ ty) identity) := by
  refine Lockstep.of_get.bind fun t t' ht => ?_
  cases hg : t.guard.exit ty with
  | error e =>
    intro s s' _ a s₁ h
    obtain ⟨_, _, -, h⟩ := bind_ok_iff.1 h
    cases h
  | ok guard =>
    have hg' : t'.guard.exit (p.φ ty) = .ok (guard.relabel p.φ) := by
      obtain ⟨_, -, rfl⟩ := ht
      exact Guard.exit_relabel t.guard hg
    simp only [hg']
    refine .of_modify fun s s' ⟨es, he, hs⟩ => ?_
    rw [hs]
    exact ⟨es, he, rfl⟩

/-! ### Actions that read the graph -/

variable {g g' : TypeGraph} (hg : TypeGraph.Relabels p.φ g g')
include hg

/-- Both sides get the same identifier, which comes from names and identities. -/
theorem lockstep_assign (ty : TypeId) :
    Lockstep p.Traversals Eq (assign g ty) (assign g' (p.φ ty)) := by
  refine Lockstep.of_get.bind fun t t' ht => ?_
  rw [ht.registry]
  cases ha : t.registry.assign g ty with
  | error e => exact .of_throw e _
  | ok r =>
    obtain ⟨id, registry, events⟩ := r
    simp only [hg.assign ha]
    refine Lockstep.bind_eq (.of_modify fun s s' ⟨es, he, hs⟩ => ?_) fun _ => .of_pure rfl
    rw [hs]
    exact ⟨es ++ events, by simp [he], by simp [Traversal.relabel]⟩

/-- The description of a renumbered type is the renumbered one. -/
theorem lockstep_describe (ty : TypeId) :
    Lockstep p.Traversals (fun d d' => d' = d.relabel p.φ) (describe g ty)
      (describe g' (p.φ ty)) := by
  simp only [describe]
  cases hd : g.describe? ty with
  | none => exact .of_throw _ _
  | some d =>
    simp only [hg.describe? hd]
    exact .of_pure rfl

omit hg

/-- Overrides are found by identity and name, so both sides find the same. -/
theorem lockstep_overrideFor (gen : Generator) (ty : TypeId) (d : TypeDescriptor)
    (cls : Classification) : Lockstep p.Traversals Eq (overrideFor gen ty d cls)
      (overrideFor gen (p.φ ty) (d.relabel p.φ) (cls.relabel p.φ)) := by
  have hcls : (cls.relabel p.φ).isOverridable = cls.isOverridable := by cases cls <;> rfl
  have hnames : [(d.relabel p.φ).identity, (d.relabel p.φ).name] = [d.identity, d.name] := rfl
  simp only [overrideFor, hcls, hnames]
  cases gen.overrides.lookup? [d.identity, d.name] with
  | none => exact .of_pure rfl
  | some o =>
    simp only
    split
    · exact .of_pure rfl
    · refine Lockstep.of_get.bind fun t t' ht => ?_
      have hrefused : p.φ ty ∈ t'.refused ↔ ty ∈ t.refused := by
        obtain ⟨_, -, rfl⟩ := ht
        simp [Traversal.relabel]
      simp only [hrefused]
      split
      · refine Lockstep.bind_eq (.of_modify fun s s' hs => ?_) fun _ =>
          (lockstep_report _).bind_eq fun _ => .of_pure rfl
        obtain ⟨es, he, rfl⟩ := hs
        exact ⟨es, he, rfl⟩
      · exact .of_pure rfl

/-! ### Building under the guard -/

/-- Opening and closing a type is in lockstep if what is built in between is. -/
theorem lockstep_guarded {ty : TypeId} {d : TypeDescriptor} {identifier? : Option String}
    {build build' : Build NodeId} (hbuild : Lockstep p.Traversals Eq build build') :
    Lockstep p.Traversals Eq (guarded ty d identifier? build)
      (guarded (p.φ ty) (d.relabel p.φ) identifier? build') := by
  refine (lockstep_enter ⟨ty, d.name, identifier?⟩).bind_eq fun admission => ?_
  cases admission with
  | substitute placeholder =>
    cases identifier? with
    | none => exact .of_pure rfl
    | some id => exact (lockstep_noteComponent id ty).bind_eq fun _ => .of_pure rfl
  | expand =>
    exact hbuild.bind_eq fun node => (lockstep_exit ty d.identity).bind_eq fun _ => .of_pure rfl

/-- What builds the parts of one type keeps up with what builds those of the other. -/
def Twins.Descents (p : Twins) (descend descend' : Descent) : Prop :=
  ∀ ty field?, Lockstep p.Traversals Eq (descend ty field?)
    (descend' (p.φ ty) (field?.map (·.relabel p.φ)))

/-- The fields of an object are built in lockstep, given that the descents are. -/
theorem lockstep_addFields {descend descend' : Descent}
    (hdescend : p.Descents descend descend') (n : SchemaNode) (fields : List Field) :
    Lockstep p.Traversals Eq (addFields descend n fields)
      (addFields descend' n (fields.map (·.relabel p.φ))) := by
  induction fields generalizing n with
  | nil => exact .of_pure rfl
  | cons x rest ih => exact (hdescend x.type (some x)).bind_eq fun child => ih _

theorem lockstep_expandKept {descend descend' : Descent} (hdescend : p.Descents descend descend')
    (identifier : String) (fields : List Field) (truncation? : Option Truncation) :
    Lockstep p.Traversals Eq (expandKept descend identifier fields truncation?)
      (expandKept descend' identifier (fields.map (·.relabel p.φ)) truncation?) := by
  refine (lockstep_addFields hdescend _ fields).bind_eq fun node => ?_
  refine (lockstep_push _).bind_eq fun component => ?_
  refine Lockstep.bind_eq (.of_modify fun t t' ht => ?_) fun _ => lockstep_push _
  obtain ⟨es, he, rfl⟩ := ht
  exact ⟨es, he, rfl⟩

/-- So is an object with the fields that the threshold keeps. -/
theorem lockstep_expandFields (gen : Generator) {descend descend' : Descent}
    (hdescend : p.Descents descend descend') (d : TypeDescriptor) (o : ObjectShape)
    (identifier : String) :
    Lockstep p.Traversals Eq (expandFields gen descend d o identifier)
      (expandFields gen descend' (d.relabel p.φ) (o.relabel p.φ) identifier) := by
  have added := lockstep_expandKept hdescend identifier
  simp only [expandFields, sortedFields_relabel, keptFields_relabel]
  cases (keptFields gen.config.memberThreshold? (sortedFields o)).2 with
  | none => exact added _ none
  | some tr => exact (lockstep_report _).bind_eq fun _ => added _ (some tr)

include hg in
theorem lockstep_expandObject (gen : Generator) {descend descend' : Descent}
    (hdescend : p.Descents descend descend') (ty : TypeId) (d : TypeDescriptor)
    (o : ObjectShape) :
    Lockstep p.Traversals Eq (expandObject gen g descend ty d o)
      (expandObject gen g' descend' (p.φ ty) (d.relabel p.φ) (o.relabel p.φ)) := by
  refine (lockstep_assign hg ty).bind_eq fun identifier => ?_
  refine (lockstep_noteComponent identifier ty).bind_eq fun _ => ?_
  refine Lockstep.of_get.bind fun t t' ht => ?_
  have hidentifiers : t'.identifiers = t.identifiers := by
    obtain ⟨_, -, rfl⟩ := ht
    rfl
  rw [hidentifiers]
  cases t.identifiers.get? identifier with
  | some target => exact lockstep_push _
  | none => exact lockstep_guarded (lockstep_expandFields gen hdescend d o identifier)

include hg in
/-- A type is expanded in lockstep, given that the descents are. -/
theorem lockstep_expand (gen : Generator) {descend descend' : Descent}
    (hdescend : p.Descents descend descend') (ty : TypeId) (d : TypeDescriptor)
    (cls : Classification) :
    Lockstep p.Traversals Eq (expand gen g descend ty d cls)
      (expand gen g' descend' (p.φ ty) (d.relabel p.φ) (cls.relabel p.φ)) := by
  cases cls with
  | scalar kind => exact lockstep_push _
  | bytes => exact lockstep_push _
  | enumeration e => exact (lockstep_report _).bind_eq fun _ => lockstep_push _
  | nullable inner => exact hdescend inner none
  | sequence element =>
    exact lockstep_guarded ((hdescend element none).bind_eq fun _ => lockstep_push _)
  | map value => exact lockstep_guarded ((hdescend value none).bind_eq fun _ => lockstep_push _)
  | pair key value =>
    exact lockstep_guarded ((hdescend key none).bind_eq fun _ =>
      (hdescend value none).bind_eq fun _ => lockstep_push _)
  | object o? =>
    cases o? with
    | none => exact lockstep_push _
    | some o => exact lockstep_expandObject hg gen hdescend ty d o

include hg in
/-- A type that is not nullable is built in lockstep, given that the descents are. -/
theorem lockstep_plainStep (gen : Generator) {descend descend' : Descent}
    (hdescend : p.Descents descend descend') (ty : TypeId) (field? : Option Field)
    (d : TypeDescriptor) (cls : Classification) :
    Lockstep p.Traversals Eq (plainStep gen g descend ty field? d cls)
      (plainStep gen g' descend' (p.φ ty) (field?.map (·.relabel p.φ)) (d.relabel p.φ)
        (cls.relabel p.φ)) := by
  have decorated : ∀ id, Lockstep p.Traversals Eq (decorate gen d field? id)
      (decorate gen (d.relabel p.φ) (field?.map (·.relabel p.φ)) id) := fun id => by
    rw [decorate_relabel]
    exact lockstep_decorate p.sharesArena gen d field? id
  refine (lockstep_overrideFor gen ty d cls).bind_eq fun o? => ?_
  cases o? with
  | some o => exact (lockstep_push o.node).bind_eq decorated
  | none => exact (lockstep_expand hg gen hdescend ty d cls).bind_eq decorated

include hg in
/-- **One step keeps up** if what it descends to does. -/
theorem lockstep_nodeStep (gen : Generator) {descend descend' : Descent}
    (hdescend : p.Descents descend descend') (ty : TypeId) (field? : Option Field) :
    Lockstep p.Traversals Eq (nodeStep gen g descend ty field?)
      (nodeStep gen g' descend' (p.φ ty) (field?.map (·.relabel p.φ))) := by
  refine (lockstep_describe hg ty).bind ?_
  rintro d _ rfl
  have hclassify : g'.classify (d.relabel p.φ).shape = (g.classify d.shape).relabel p.φ :=
    hg.classify d.shape
  have plain := lockstep_plainStep hg gen hdescend ty field? d
  rw [hclassify]
  cases hc : g.classify d.shape with
  | nullable inner =>
    exact (hdescend inner field?).bind_eq (lockstep_wrapNull p.sharesArena gen d)
  | scalar kind => exact plain (.scalar kind)
  | bytes => exact plain .bytes
  | enumeration e => exact plain (.enumeration e)
  | sequence element => exact plain (.sequence element)
  | map value => exact plain (.map value)
  | pair key value => exact plain (.pair key value)
  | object o? => exact plain (.object o?)

include hg in
/-- **The node of a type is the same, whatever the numbers.** -/
theorem lockstep_nodeFor (gen : Generator) (levels : Nat) (ty : TypeId) (field? : Option Field) :
    Lockstep p.Traversals Eq (nodeFor gen g levels ty field?)
      (nodeFor gen g' levels (p.φ ty) (field?.map (·.relabel p.φ))) := by
  induction levels generalizing ty field? with
  | zero => exact .of_throw _ _
  | succ levels ih => exact lockstep_nodeStep hg gen ih ty field?

end Actions

/-! ### Generations -/

/-- The registries are equal, and both runs have reported the same since they began. -/
def Twins.Workspaces (p : Twins) (w w' : Workspace) : Prop :=
  w'.registry = w.registry ∧
    ∃ events, w.events = p.before ++ events ∧ w'.events = p.before' ++ events

/-- **A renumbered graph gives the renumbered schema**, with the same registry and reports. -/
theorem lockstep_generate {p : Twins} {g g' : TypeGraph} (hg : TypeGraph.Relabels p.φ g g')
    (gen : Generator) (root : TypeId) :
    Lockstep p.Workspaces (fun s s' => s' = s.relabel p.φ) (generate gen g root)
      (generate gen g' (p.φ root)) := by
  intro w w' ⟨hr, es, he, he'⟩ s w₁ h
  obtain ⟨t, hn, hs, rfl⟩ := generate_ok h
  have hbegin : p.Traversals (w.begin gen) (w'.begin gen) :=
    ⟨es, he, by simp [Workspace.begin, Traversal.relabel, Guard.relabel, Guard.new, hr, he']⟩
  obtain ⟨id, t', hn', rfl, es', hes, rfl⟩ := lockstep_nodeFor hg gen _ root none hbegin hn
  have hlevels : levelsFor g' = levelsFor g := by simp only [levelsFor, hg.size_eq]
  have h' := generate_of_ok (hlevels ▸ hn')
  exact ⟨_, _, h', by rw [hs]; rfl, rfl, es', hes, rfl⟩

/-! ### Components in lockstep -/

/-- Related workspaces stay related when the same is reported in them, which is no collision of
identifiers. -/
def Workspace.SharesReports (R : Workspace → Workspace → Prop) : Prop :=
  ∀ ⦃w w' : Workspace⦄ (events : List DiagnosticEvent) (n : Nat), R w w' →
    (∀ e ∈ events, e.code ≠ .idCollision) →
    R { w with events := w.events ++ events, throttled := w.throttled + n }
      { w' with events := w'.events ++ events, throttled := w'.throttled + n }

section Components

variable {R : Workspace → Workspace → Prop} (shares : Workspace.SharesReports R) (gen : Generator)
  (g : TypeGraph) (s : GeneratedSchema)
include shares

theorem lockstep_componentJson (ty : TypeId) (node : NodeId) :
    Lockstep R Eq (componentJson gen g ty s node) (componentJson gen g ty s node) := by
  unfold componentJson
  split
  · refine Lockstep.bind_eq (.of_modifyGet fun w w' h => ⟨rfl, shares _ _ h ?_⟩) fun v? => ?_
    · exact (reportsOnly_resolve _ _ _ _).noCollision (by decide)
    · cases v? <;> exact .of_pure rfl
  · exact .of_pure rfl

theorem lockstep_addExpanded (components : SortedMap Json) (expansions : List (String × NodeId)) :
    Lockstep R Eq (addExpanded gen g s components expansions)
      (addExpanded gen g s components expansions) := by
  induction expansions generalizing components with
  | nil => exact .of_pure rfl
  | cons e rest ih =>
    simp only [addExpanded]
    split
    · exact ih components
    · cases s.components.get? e.1 with
      | none => exact ih components
      | some ty => exact (lockstep_componentJson shares gen g s ty e.2).bind_eq fun j => ih _

end Components

end TypeSchema
