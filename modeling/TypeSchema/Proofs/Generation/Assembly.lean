import TypeSchema.Proofs.Generation.Step

/-!
# Generation — one step, put together

`nodeStep_ok` takes a step that succeeds apart.  Here the cases of `Step` and `Expansion` are put
together again: each of them is what the functions do, so a step succeeds iff it is one of the cases
(`nodeStep_ok_iff`).

What is shown by cases on `Step` to be possible from one state as from another is then possible for
the functions, too.
-/

namespace TypeSchema

open Build

variable {gen : Generator} {g : TypeGraph} {descend : Descent} {ty : TypeId} {d : TypeDescriptor}
  {t t₁ t' : Traversal} {id : NodeId}

/-! ### Under the guard -/

theorem push_eq (n : SchemaNode) (t : Traversal) :
    push n t = .ok ⟨t.arena.size⟩ (t.pushed n) := rfl

/-- An assignment of the registry is one of the traversal. -/
theorem assign_of_assigned {identifier : String} {r : Registry} {events : List DiagnosticEvent}
    (h : t.registry.assign g ty = .ok (identifier, r, events)) : assign g ty t =
      .ok identifier { t with registry := r, events := t.events ++ events } := by
  refine bind_ok_iff.2 ⟨t, t, rfl, ?_⟩
  rw [h]
  rfl

/-- The innermost open type is closed without an error. -/
theorem exit_of_innermost (identity : String) (h : t.guard.active.head? = some ty) :
    exit ty identity t = .ok () t.closed := by
  obtain ⟨rest, active⟩ := List.head?_eq_some_iff.1 h
  have exited : t.guard.exit ty = .ok t.closed.guard := by
    simp [Guard.exit, active, Traversal.closed]
  refine bind_ok_iff.2 ⟨t, t, rfl, ?_⟩
  rw [exited]
  rfl

/-- A type that is not entered becomes a placeholder, and its component is noted. -/
theorem guarded_of_cut {identifier? : Option String} {reason : CutReason} (build : Build NodeId)
    (closed : t.guard.cutReason? ty = some reason) :
    guarded ty d identifier? build t = .ok (t.cut ⟨ty, d.name, identifier?⟩ reason).1
      ((t.cut ⟨ty, d.name, identifier?⟩ reason).2.noted identifier? ty) := by
  have entered := enter_eq ⟨ty, d.name, identifier?⟩ t
  rw [closed] at entered
  refine bind_ok_iff.2 ⟨_, _, entered, ?_⟩
  cases identifier? <;> rfl

/-- A type that is entered is built between opening and closing. -/
theorem guarded_of_open {identifier? : Option String} {build : Build NodeId}
    (opens : t.guard.cutReason? ty = none) (built : build (t.opened ty) = .ok id t₁)
    (innermost : t₁.guard.active.head? = some ty) :
    guarded ty d identifier? build t = .ok id t₁.closed := by
  have entered := enter_eq ⟨ty, d.name, identifier?⟩ t
  rw [opens] at entered
  exact bind_ok_iff.2 ⟨_, _, entered, bind_ok_iff.2 ⟨_, _, built,
    bind_ok_iff.2 ⟨_, _, exit_of_innermost d.identity innermost, rfl⟩⟩⟩

/-! ### Objects -/

/-- The fields of an object are added as their types are built, from left to right. -/
theorem addFields_of_visits {fields : List Field} {ids : List NodeId} (n : SchemaNode)
    (h : Visits descend (fields.map fun f => (f.type, some f)) t ids t') :
    addFields descend n fields t = .ok (n.withFields (fields.zip ids)) t' := by
  induction fields generalizing n t ids with
  | nil => cases h; rfl
  | cons f rest ih =>
    cases h with
    | cons head tail => exact bind_ok_iff.2 ⟨_, _, head, ih _ tail⟩

theorem expandKept_of_visits {identifier : String} {fields : List Field}
    {truncation? : Option Truncation} {ids : List NodeId} {n : SchemaNode}
    (h : Visits descend (fields.map fun f => (f.type, some f)) t ids t')
    (node : n = { (SchemaNode.ofPrimitive .object).withFields (fields.zip ids) with
      identifier? := some identifier, truncation? }) :
    expandKept descend identifier fields truncation? t = .ok ⟨t'.arena.size + 1⟩
      (((t'.pushed n).recorded identifier ⟨t'.arena.size⟩).pushed n) := by
  refine bind_ok_iff.2 ⟨_, _, addFields_of_visits _ h, ?_⟩
  rw [← node]
  refine bind_ok_iff.2 ⟨⟨t'.arena.size⟩, t'.pushed n, rfl, ?_⟩
  refine bind_ok_iff.2 ⟨(), (t'.pushed n).recorded identifier ⟨t'.arena.size⟩, rfl, ?_⟩
  rw [push_eq]
  simp [Traversal.pushed, Traversal.recorded, Arena.push, Arena.size]

/-- An object's fields, those that the threshold keeps, give its node and the node recorded for it.
-/
theorem expandFields_of_visits {o : ObjectShape} {identifier : String} {ids : List NodeId}
    (h : Visits descend ((Classification.object (some o)).parts gen.config.memberThreshold?)
      (t.reported (objectEvents gen d o)) ids t') :
    expandFields gen descend d o identifier t = .ok ⟨t'.arena.size + 1⟩
      (((t'.pushed (objectNode gen o identifier ids)).recorded identifier
        ⟨t'.arena.size⟩).pushed (objectNode gen o identifier ids)) := by
  simp only [expandFields]
  cases ht : (keptFields gen.config.memberThreshold? (sortedFields o)).2 with
  | none =>
    have silent : t.reported (objectEvents gen d o) = t := by
      simp [Traversal.reported, objectEvents, ht]
    rw [silent] at h
    exact expandKept_of_visits h (by simp [objectNode, ht])
  | some tr =>
    refine bind_ok_iff.2 ⟨(), t.reported (objectEvents gen d o), ?_, ?_⟩
    · simp only [objectEvents, ht]
      rfl
    · exact expandKept_of_visits h (by simp [objectNode, ht])

/-- An object gets its identifier and is noted; then it is a reference or built under the guard. -/
theorem expandObject_of_assigned {o : ObjectShape} {identifier : String} {r : Registry}
    {events : List DiagnosticEvent}
    (assigned : t.registry.assign g ty = .ok (identifier, r, events)) :
    expandObject gen g descend ty d o t = (t.identifiers.get? identifier).elim
      (guarded ty d (some identifier) (expandFields gen descend d o identifier))
      (fun target => push { kind := .reference ⟨d.name, identifier, target⟩ })
      (t.claimed ty identifier r events) := by
  have noted : noteComponent identifier ty { t with registry := r, events := t.events ++ events } =
      .ok () (t.claimed ty identifier r events) := rfl
  have read : (get : Build Traversal) (t.claimed ty identifier r events) =
      .ok (t.claimed ty identifier r events) (t.claimed ty identifier r events) := rfl
  have same : (t.claimed ty identifier r events).identifiers = t.identifiers := rfl
  rw [expandObject, bind_of_ok (assign_of_assigned assigned), bind_of_ok noted, bind_of_ok read,
    same]
  cases t.identifiers.get? identifier <;> rfl

/-- What an expansion of an object describes is what the program does. -/
theorem expandObject_of_expansion {o : ObjectShape}
    (h : Expansion gen g descend ty d (.object (some o)) t id t') :
    expandObject gen g descend ty d o t = .ok id t' := by
  cases h with
  | leaf node => cases node
  | cut collection _ => cases collection
  | collection _ _ node _ => cases node
  | reference assigned expanded =>
    rw [expandObject_of_assigned assigned, expanded]
    rfl
  | @cutObject _ _ identifier r events reason assigned fresh closed =>
    rw [expandObject_of_assigned assigned, fresh, Option.elim_none,
      guarded_of_cut (t := t.claimed ty identifier r events) _ closed]
    -- the component is noted already
    simp [Traversal.noted, Traversal.claimed, Traversal.cut]
  | object assigned fresh opens parts innermost =>
    rw [expandObject_of_assigned assigned, fresh]
    exact guarded_of_open opens (expandFields_of_visits parts) innermost

/-! ### Steps -/

/-- What an expansion describes is what the program does. -/
theorem expand_of_expansion {cls : Classification}
    (h : Expansion gen g descend ty d cls t id t') :
    expand gen g descend ty d cls t = .ok id t' := by
  cases h with
  | @leaf _ _ n events node =>
    cases cls with
    | scalar _ | bytes => cases node; simp [Traversal.reported]; rfl
    | enumeration e => cases node; rfl
    | object o? =>
      cases o? with
      | none => cases node; simp [Traversal.reported]; rfl
      | some o => cases node
    | nullable _ | sequence _ | map _ | pair _ _ => cases node
  | cut collection closed =>
    cases cls with
    | sequence _ | map _ | pair _ _ => exact guarded_of_cut _ closed
    | scalar _ | bytes | enumeration _ | nullable _ | object _ => cases collection
  | collection opens parts node innermost =>
    cases cls with
    | sequence element =>
      obtain _ | ⟨items, _ | _⟩ := parts
      cases node
      exact guarded_of_open opens (bind_ok_iff.2 ⟨_, _, items, rfl⟩) innermost
    | map value =>
      obtain _ | ⟨values, _ | _⟩ := parts
      cases node
      exact guarded_of_open opens (bind_ok_iff.2 ⟨_, _, values, rfl⟩) innermost
    | pair key value =>
      obtain _ | ⟨keys, _ | ⟨values, _ | _⟩⟩ := parts
      cases node
      exact guarded_of_open opens
        (bind_ok_iff.2 ⟨_, _, keys, bind_ok_iff.2 ⟨_, _, values, rfl⟩⟩) innermost
    | scalar _ | bytes | enumeration _ | nullable _ | object _ => cases node
  | reference assigned expanded => exact expandObject_of_expansion (.reference assigned expanded)
  | cutObject assigned fresh closed =>
    exact expandObject_of_expansion (.cutObject assigned fresh closed)
  | object assigned fresh opens parts innermost =>
    exact expandObject_of_expansion (.object assigned fresh opens parts innermost)

/-- A registered override of a type that admits one is used, without a report. -/
theorem overrideFor_of_lookup {o : ScalarOverride} {cls : Classification}
    (lookup : gen.overrides.lookup? [d.identity, d.name] = some o) (overridable : cls.isOverridable)
    (t : Traversal) : overrideFor gen ty d cls t = .ok (some o) t := by
  simp only [overrideFor, lookup, overridable, if_true]
  rfl

section

variable {field? : Option Field} (known : g.describe? ty = some d)
include known

theorem describe_of_known (t : Traversal) : describe g ty t = .ok d t := by
  simp only [describe, known]
  rfl

/-- A nullable type is built by way of what it wraps. -/
theorem nodeStep_of_wrapper {inner : TypeId} (cls : g.classify d.shape = .nullable inner) :
    nodeStep gen g descend ty field? t = (descend inner field? >>= wrapNull gen d) t := by
  rw [nodeStep, bind_of_ok (describe_of_known known t), cls]
  rfl

/-- Any other type is built by its override or by an expansion. -/
theorem nodeStep_of_plain (cls : ∀ inner, g.classify d.shape ≠ .nullable inner) :
    nodeStep gen g descend ty field? t =
      plainStep gen g descend ty field? d (g.classify d.shape) t := by
  rw [nodeStep, bind_of_ok (describe_of_known known t)]
  cases hc : g.classify d.shape with
  | nullable inner => exact absurd hc (cls inner)
  | scalar _ | bytes | enumeration _ | sequence _ | map _ | pair _ _ | object _ => rfl

/-- What a step describes is what the program does. -/
theorem nodeStep_of_step (h : Step gen g descend ty field? d t id t') :
    nodeStep gen g descend ty field? t = .ok id t' := by
  cases h with
  | wrapped cls part finish =>
    rw [nodeStep_of_wrapper known cls]
    exact bind_ok_iff.2 ⟨_, _, part, finish⟩
  | overridden lookup overridable finish =>
    rw [nodeStep_of_plain known fun inner hc => by rw [hc] at overridable; cases overridable]
    exact bind_ok_iff.2 ⟨_, _, overrideFor_of_lookup lookup overridable t,
      bind_ok_iff.2 ⟨_, _, push_eq _ t, finish⟩⟩
  | expanded cls looked expansion finish =>
    rw [nodeStep_of_plain known cls]
    exact bind_ok_iff.2 ⟨_, _, looked, bind_ok_iff.2 ⟨_, _, expand_of_expansion expansion, finish⟩⟩

end

/-- **A step succeeds iff it is one of the cases.** -/
theorem nodeStep_ok_iff {field? : Option Field} :
    nodeStep gen g descend ty field? t = .ok id t' ↔
      ∃ d, g.describe? ty = some d ∧ Step gen g descend ty field? d t id t' :=
  ⟨nodeStep_ok, fun ⟨_, known, h⟩ => nodeStep_of_step known h⟩

end TypeSchema
