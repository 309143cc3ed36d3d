import TypeSchema.Generation.Traversal
import TypeSchema.Proofs.Outcome
import TypeSchema.Proofs.SortedMap

/-!
# Generation — one step, taken apart

`nodeStep` is given the function that builds the parts of a type, so what it does is said without
recursion.  A step that succeeds is one of the cases of `Step`: a wrapper around a node, an
override, or an expansion (`Expansion`) followed by constraints and the flag for null.  An expansion
gives a leaf, a placeholder, a reference, or a new node for parts that were visited in order
(`Visits`) while the type was open.

* `nodeStep_ok`: every step that succeeds is one of these, with its states.
* `nodeFor_induction`: what every step hands on from the parts to the whole holds at every number
  of levels.

Later proofs are by cases on `Step` and `Expansion`, and do not open the functions.
-/

namespace TypeSchema

open Build

/-- A generator without overrides, for which every text is a pattern and no time passes. -/
def Generator.plain (config : Config) : Generator := ⟨config, {}, .lenient, .still⟩

/-- The parts of a type in the order in which they are built, each in the role of a field or in
none. -/
def Classification.parts (limit? : Option Nat) : Classification → List (TypeId × Option Field)
  | .sequence element => [(element, none)]
  | .map value => [(value, none)]
  | .pair key value => [(key, none), (value, none)]
  | .object (some o) => (keptFields limit? (sortedFields o)).1.map fun f => (f.type, some f)
  | _ => []

/-- Whether a type is a sequence, a map or an entry of a map. -/
def Classification.isCollection : Classification → Bool
  | .sequence _ | .map _ | .pair _ _ => true
  | _ => false

/-- The nodes of some parts, built one after the other. -/
inductive Visits (descend : Descent) :
    List (TypeId × Option Field) → Traversal → List NodeId → Traversal → Prop where
  | nil (t : Traversal) : Visits descend [] t [] t
  | cons {ty : TypeId} {field? : Option Field} {rest : List (TypeId × Option Field)}
      {t t₁ t₂ : Traversal} {id : NodeId} {ids : List NodeId}
      (head : descend ty field? t = .ok id t₁) (tail : Visits descend rest t₁ ids t₂) :
      Visits descend ((ty, field?) :: rest) t (id :: ids) t₂

/-- A node with some more fields. -/
def SchemaNode.withFields (n : SchemaNode) (fields : List (Field × NodeId)) : SchemaNode :=
  fields.foldl (fun n (f, child) =>
    { n with
      properties := n.properties.insert f.name child
      required := if f.required then n.required.insert f.name () else n.required }) n

/-- The node of a sequence, a map or an entry of a map, from the nodes of its parts. -/
def Classification.collectionNode? : Classification → List NodeId → Option SchemaNode
  | .sequence _, [items] => some { SchemaNode.ofPrimitive .array with items? := some items }
  | .map _, [values] => some { SchemaNode.ofPrimitive .object with additional? := some values }
  | .pair _ _, [key, value] =>
    some { SchemaNode.ofPrimitive .object with
      properties := .ofList [("key", key), ("value", value)]
      required := .ofList [("key", ()), ("value", ())] }
  | _, _ => none

/-- The node of an expanded object, from the nodes of its fields. -/
def objectNode (gen : Generator) (o : ObjectShape) (identifier : String) (ids : List NodeId) :
    SchemaNode :=
  let (fields, truncation?) := keptFields gen.config.memberThreshold? (sortedFields o)
  { (SchemaNode.ofPrimitive .object).withFields (fields.zip ids) with
    identifier? := some identifier, truncation? }

/-- What is reported about an object that loses fields. -/
def objectEvents (gen : Generator) (d : TypeDescriptor) (o : ObjectShape) : List DiagnosticEvent :=
  match (keptFields gen.config.memberThreshold? (sortedFields o)).2 with
  | some t => [objectTruncationEvent d t.total (t.total - t.dropped)]
  | none => []

/-- The node of a type without parts, and what is reported about it. -/
def leafNode? (gen : Generator) (d : TypeDescriptor) :
    Classification → Option (SchemaNode × List DiagnosticEvent)
  | .scalar kind => some (kind.node, [])
  | .bytes => some (ScalarKind.bytesNode, [])
  | .enumeration e => some (gen.config.enumEncoding.encode d.name e)
  | .object none => some (.ofPrimitive .object, [])
  | _ => none

/-- A collection is no object, and has parts. -/
theorem leafNode?_of_isCollection {gen : Generator} {d : TypeDescriptor} {cls : Classification}
    (h : cls.isCollection) : leafNode? gen d cls = none := by
  cases cls <;> first | rfl | cases h

theorem isCollection_of_collectionNode? {cls : Classification} {ids : List NodeId}
    {n : SchemaNode} (h : cls.collectionNode? ids = some n) : cls.isCollection := by
  cases cls <;> first | rfl | cases h

/-- The state after a type was given its identifier. -/
def Traversal.claimed (t : Traversal) (ty : TypeId) (id : String) (r : Registry)
    (events : List DiagnosticEvent) : Traversal :=
  { t with
    registry := r, events := t.events ++ events, components := t.components.insertNew id ty }

/-- The state after a type was opened. -/
def Traversal.opened (t : Traversal) (ty : TypeId) : Traversal :=
  { t with guard := { t.guard with active := ty :: t.guard.active } }

/-- The state after the innermost type was closed. -/
def Traversal.closed (t : Traversal) : Traversal :=
  { t with guard := { t.guard with active := t.guard.active.tail } }

/-- The state after a node was added. -/
def Traversal.pushed (t : Traversal) (n : SchemaNode) : Traversal :=
  { t with arena := (t.arena.push n).2 }

/-- The state after something was reported. -/
def Traversal.reported (t : Traversal) (events : List DiagnosticEvent) : Traversal :=
  { t with events := t.events ++ events }

/-- The state after a component was recorded. -/
def Traversal.recorded (t : Traversal) (identifier : String) (component : NodeId) : Traversal :=
  { t with identifiers := t.identifiers.insertNew identifier component }

/-- The state after a type got its placeholder for a reason. -/
def Traversal.cut (t : Traversal) (v : Visit) (reason : CutReason) : NodeId × Traversal :=
  let (id, guard, arena, events) := t.guard.placeholder t.arena v reason
  (id, { t with guard, arena, events := t.events ++ events })

/-- The state after a component was noted, if there is one. -/
def Traversal.noted (t : Traversal) (identifier? : Option String) (ty : TypeId) : Traversal :=
  match identifier? with
  | some id => { t with components := t.components.insertNew id ty }
  | none => t

/-- The expansion of a type that succeeds. -/
inductive Expansion (gen : Generator) (g : TypeGraph) (descend : Descent) (ty : TypeId)
    (d : TypeDescriptor) : Classification → Traversal → NodeId → Traversal → Prop where
  /-- A type without parts. -/
  | leaf {cls : Classification} {t : Traversal} {n : SchemaNode} {events : List DiagnosticEvent}
      (node : leafNode? gen d cls = some (n, events)) :
      Expansion gen g descend ty d cls t ⟨t.arena.size⟩ ((t.reported events).pushed n)
  /-- A collection that may not be opened. -/
  | cut {cls : Classification} {t : Traversal} {reason : CutReason}
      (collection : cls.isCollection) (closed : t.guard.cutReason? ty = some reason) :
      Expansion gen g descend ty d cls t (t.cut ⟨ty, d.name, none⟩ reason).1
        (t.cut ⟨ty, d.name, none⟩ reason).2
  /-- A collection. -/
  | collection {cls : Classification} {t t₁ : Traversal} {ids : List NodeId} {n : SchemaNode}
      (opens : t.guard.cutReason? ty = none)
      (parts : Visits descend (cls.parts gen.config.memberThreshold?) (t.opened ty) ids t₁)
      (node : cls.collectionNode? ids = some n) (innermost : t₁.guard.active.head? = some ty) :
      Expansion gen g descend ty d cls t ⟨t₁.arena.size⟩ (t₁.pushed n).closed
  /-- An object that is expanded already. -/
  | reference {o : ObjectShape} {t : Traversal} {id : String} {r : Registry}
      {events : List DiagnosticEvent} {target : NodeId}
      (assigned : t.registry.assign g ty = .ok (id, r, events))
      (expanded : t.identifiers.get? id = some target) :
      Expansion gen g descend ty d (.object (some o)) t ⟨t.arena.size⟩
        ((t.claimed ty id r events).pushed { kind := .reference ⟨d.name, id, target⟩ })
  /-- An object that may not be opened. -/
  | cutObject {o : ObjectShape} {t : Traversal} {id : String} {r : Registry}
      {events : List DiagnosticEvent} {reason : CutReason}
      (assigned : t.registry.assign g ty = .ok (id, r, events))
      (fresh : t.identifiers.get? id = none) (closed : t.guard.cutReason? ty = some reason) :
      Expansion gen g descend ty d (.object (some o)) t
        ((t.claimed ty id r events).cut ⟨ty, d.name, some id⟩ reason).1
        ((t.claimed ty id r events).cut ⟨ty, d.name, some id⟩ reason).2
  /-- An object that is expanded now. -/
  | object {o : ObjectShape} {t t₁ : Traversal} {id : String} {r : Registry}
      {events : List DiagnosticEvent} {ids : List NodeId}
      (assigned : t.registry.assign g ty = .ok (id, r, events))
      (fresh : t.identifiers.get? id = none) (opens : t.guard.cutReason? ty = none)
      (parts : Visits descend
        ((Classification.object (some o)).parts gen.config.memberThreshold?)
        (((t.claimed ty id r events).opened ty).reported (objectEvents gen d o)) ids t₁)
      (innermost : t₁.guard.active.head? = some ty) :
      Expansion gen g descend ty d (.object (some o)) t ⟨t₁.arena.size + 1⟩
        ((((t₁.pushed (objectNode gen o id ids)).recorded id ⟨t₁.arena.size⟩).pushed
          (objectNode gen o id ids)).closed)

/-- A leaf that reports nothing. -/
theorem Expansion.silent {gen : Generator} {g : TypeGraph} {descend : Descent} {ty : TypeId}
    {d : TypeDescriptor} {cls : Classification} {t : Traversal} {n : SchemaNode}
    (node : leafNode? gen d cls = some (n, [])) :
    Expansion gen g descend ty d cls t ⟨t.arena.size⟩ (t.pushed n) := by
  have hleaf : Expansion gen g descend ty d cls t ⟨t.arena.size⟩ ((t.reported []).pushed n) :=
    .leaf node
  simpa [Traversal.reported] using hleaf

/-! ### Taking a step apart -/

/-- The constraints and the field's example on a node that is not nullable. -/
def decorate (gen : Generator) (d : TypeDescriptor) (field? : Option Field) (id : NodeId) :
    Build NodeId := do
  let id ← annotate gen.patterns id d.name d.constraints
  let id ← annotateField gen.patterns id field?
  applyNull gen.config.nullEncoding id false

/-- The constraints of a wrapper and null. -/
def wrapNull (gen : Generator) (d : TypeDescriptor) (id : NodeId) : Build NodeId := do
  let id ← annotate gen.patterns id d.name d.constraints
  applyNull gen.config.nullEncoding id true

/-- The node of an object with these fields, recorded as a component and added once more. -/
def expandKept (descend : Descent) (identifier : String) (fields : List Field)
    (truncation? : Option Truncation) : Build NodeId := do
  let node ← addFields descend (.ofPrimitive .object) fields
  let node := { node with identifier? := some identifier, truncation? }
  let component ← push node
  modify fun t => { t with identifiers := t.identifiers.insertNew identifier component }
  push node

/-- The step for a type that is no wrapper: it is overridden or expanded, then decorated. -/
def plainStep (gen : Generator) (g : TypeGraph) (descend : Descent) (ty : TypeId)
    (field? : Option Field) (d : TypeDescriptor) (cls : Classification) : Build NodeId := do
  let id ← match ← overrideFor gen ty d cls with
    | some o => push o.node
    | none => expand gen g descend ty d cls
  decorate gen d field? id

/-- A step that succeeds. -/
inductive Step (gen : Generator) (g : TypeGraph) (descend : Descent) (ty : TypeId)
    (field? : Option Field) (d : TypeDescriptor) : Traversal → NodeId → Traversal → Prop where
  /-- A nullable wrapper. -/
  | wrapped {inner : TypeId} {t t₁ t' : Traversal} {id₁ id : NodeId}
      (cls : g.classify d.shape = .nullable inner) (part : descend inner field? t = .ok id₁ t₁)
      (finish : wrapNull gen d id₁ t₁ = .ok id t') : Step gen g descend ty field? d t id t'
  /-- A type with an override. -/
  | overridden {o : ScalarOverride} {t t' : Traversal} {id : NodeId}
      (lookup : gen.overrides.lookup? [d.identity, d.name] = some o)
      (cls : (g.classify d.shape).isOverridable)
      (finish : decorate gen d field? ⟨t.arena.size⟩ (t.pushed o.node) = .ok id t') :
      Step gen g descend ty field? d t id t'
  /-- A type that is expanded. -/
  | expanded {t t₀ t₁ t' : Traversal} {id₁ id : NodeId}
      (cls : ∀ inner, g.classify d.shape ≠ .nullable inner)
      (plain : overrideFor gen ty d (g.classify d.shape) t = .ok none t₀)
      (expansion : Expansion gen g descend ty d (g.classify d.shape) t₀ id₁ t₁)
      (finish : decorate gen d field? id₁ t₁ = .ok id t') : Step gen g descend ty field? d t id t'

/-- Entering a type opens it or gives its placeholder, as the guard decides. -/
theorem enter_eq (v : Visit) (t : Traversal) :
    enter v t = match t.guard.cutReason? v.type with
      | none => .ok .expand (t.opened v.type)
      | some reason => .ok (.substitute (t.cut v reason).1) (t.cut v reason).2 := by
  have entered : enter v t = .ok (t.guard.enter t.arena v).1 { t with
      guard := (t.guard.enter t.arena v).2.1
      arena := (t.guard.enter t.arena v).2.2.1
      events := t.events ++ (t.guard.enter t.arena v).2.2.2 } := rfl
  rw [entered, Guard.enter]
  cases t.guard.cutReason? v.type with
  | none => simp [Traversal.opened]
  | some reason => rfl

/-- An assignment is one of the registry, with its reports. -/
theorem assign_ok {g : TypeGraph} {ty : TypeId} {t t' : Traversal} {id : String}
    (h : assign g ty t = .ok id t') : ∃ r events, t.registry.assign g ty = .ok (id, r, events) ∧
      t' = { t with registry := r, events := t.events ++ events } := by
  obtain ⟨s, s₁, hs, h⟩ := bind_ok_iff.1 h
  cases hs
  cases hr : t.registry.assign g ty with
  | error e => rw [hr] at h; cases h
  | ok p =>
    obtain ⟨id', r, events⟩ := p
    rw [hr] at h
    cases h
    exact ⟨r, events, rfl, rfl⟩

/-- Only the innermost type can be left. -/
theorem exit_ok {ty : TypeId} {identity : String} {t t' : Traversal}
    (h : exit ty identity t = .ok () t') :
    t.guard.active.head? = some ty ∧ t' = t.closed := by
  obtain ⟨s, s₁, hs, h⟩ := bind_ok_iff.1 h
  cases hs
  cases ha : t.guard.active with
  | nil =>
    simp only [Guard.exit, ha] at h
    obtain ⟨_, _, -, h⟩ := bind_ok_iff.1 h
    cases h
  | cons top rest =>
    simp only [Guard.exit, ha] at h
    by_cases htop : top = ty
    · rw [if_pos htop] at h
      cases h
      simp [htop, Traversal.closed, ha]
    · rw [if_neg htop] at h
      obtain ⟨_, _, -, h⟩ := bind_ok_iff.1 h
      cases h

/-- What is built under the guard is a placeholder, or what is built while the type is open. -/
theorem guarded_ok {ty : TypeId} {d : TypeDescriptor} {identifier? : Option String}
    {build : Build NodeId} {t t' : Traversal} {id : NodeId}
    (h : guarded ty d identifier? build t = .ok id t') :
    (∃ reason, t.guard.cutReason? ty = some reason ∧
      id = (t.cut ⟨ty, d.name, identifier?⟩ reason).1 ∧
      t' = (t.cut ⟨ty, d.name, identifier?⟩ reason).2.noted identifier? ty) ∨
    (t.guard.cutReason? ty = none ∧
      ∃ t₁, build (t.opened ty) = .ok id t₁ ∧ t₁.guard.active.head? = some ty ∧
        t' = t₁.closed) := by
  obtain ⟨admission, t₀, hin, h⟩ := bind_ok_iff.1 h
  rw [enter_eq] at hin
  cases hc : t.guard.cutReason? ty with
  | none =>
    rw [hc] at hin
    cases hin
    obtain ⟨id', t₁, hb, h⟩ := bind_ok_iff.1 h
    obtain ⟨_, t₂, hx, h⟩ := bind_ok_iff.1 h
    obtain ⟨hinner, rfl⟩ := exit_ok hx
    cases h
    exact .inr ⟨rfl, t₁, hb, hinner, rfl⟩
  | some reason =>
    rw [hc] at hin
    cases hin
    refine .inl ⟨reason, rfl, ?_⟩
    cases identifier? with
    | none => cases h; exact ⟨rfl, rfl⟩
    | some identifier => cases h; exact ⟨rfl, rfl⟩

/-- Fields are added from the nodes of their types, visited in order. -/
theorem addFields_ok {descend : Descent} {fields : List Field} {n n' : SchemaNode}
    {t t' : Traversal} (h : addFields descend n fields t = .ok n' t') :
    ∃ ids, Visits descend (fields.map fun f => (f.type, some f)) t ids t' ∧
      n' = n.withFields (fields.zip ids) := by
  induction fields generalizing n t with
  | nil =>
    cases h
    exact ⟨[], .nil _, rfl⟩
  | cons f rest ih =>
    obtain ⟨child, t₁, hd, h⟩ := bind_ok_iff.1 h
    obtain ⟨ids, hv, rfl⟩ := ih h
    exact ⟨child :: ids, .cons hd hv, rfl⟩

/-- The kept fields are visited, and the object's node is added twice. -/
theorem expandKept_ok {descend : Descent} {identifier : String} {fields : List Field}
    {truncation? : Option Truncation} {t t' : Traversal} {id : NodeId}
    (h : expandKept descend identifier fields truncation? t = .ok id t') :
    ∃ ids t₁, Visits descend (fields.map fun f => (f.type, some f)) t ids t₁ ∧
      id = ⟨t₁.arena.size + 1⟩ ∧
      ∃ n, n = { (SchemaNode.ofPrimitive .object).withFields (fields.zip ids) with
          identifier? := some identifier, truncation? } ∧
        t' = ((t₁.pushed n).recorded identifier ⟨t₁.arena.size⟩).pushed n := by
  obtain ⟨n, t₁, ha, h⟩ := bind_ok_iff.1 h
  obtain ⟨ids, hv, rfl⟩ := addFields_ok ha
  cases h
  exact ⟨ids, t₁, hv, by simp [Arena.size], _, rfl, rfl⟩

/-- An object's fields are visited after what is reported of them. -/
theorem expandFields_ok {gen : Generator} {descend : Descent} {d : TypeDescriptor}
    {o : ObjectShape} {identifier : String} {t t' : Traversal} {id : NodeId}
    (h : expandFields gen descend d o identifier t = .ok id t') :
    ∃ ids t₁, Visits descend ((Classification.object (some o)).parts gen.config.memberThreshold?)
        (t.reported (objectEvents gen d o)) ids t₁ ∧
      id = ⟨t₁.arena.size + 1⟩ ∧
      t' = ((t₁.pushed (objectNode gen o identifier ids)).recorded identifier
        ⟨t₁.arena.size⟩).pushed (objectNode gen o identifier ids) := by
  simp only [expandFields] at h
  cases ht : (keptFields gen.config.memberThreshold? (sortedFields o)).2 with
  | none =>
    simp only [ht] at h
    obtain ⟨ids, t₁, hv, rfl, n, rfl, rfl⟩ := expandKept_ok h
    refine ⟨ids, t₁, ?_, rfl, by simp [objectNode, ht]⟩
    simpa [objectEvents, ht, Traversal.reported, Classification.parts] using hv
  | some tr =>
    simp only [ht] at h
    obtain ⟨_, t₀, hr, h⟩ := bind_ok_iff.1 h
    cases hr
    obtain ⟨ids, t₁, hv, rfl, n, rfl, rfl⟩ := expandKept_ok h
    refine ⟨ids, t₁, ?_, rfl, by simp [objectNode, ht]⟩
    simpa [objectEvents, ht, Traversal.reported, Classification.parts] using hv

/-- Expanding an object is an expansion. -/
theorem expandObject_ok {gen : Generator} {g : TypeGraph} {descend : Descent} {ty : TypeId}
    {d : TypeDescriptor} {o : ObjectShape} {t t' : Traversal} {id : NodeId}
    (h : expandObject gen g descend ty d o t = .ok id t') :
    Expansion gen g descend ty d (.object (some o)) t id t' := by
  obtain ⟨identifier, t₁, ha, h⟩ := bind_ok_iff.1 h
  obtain ⟨r, events, assigned, rfl⟩ := assign_ok ha
  obtain ⟨_, t₂, hn, h⟩ := bind_ok_iff.1 h
  cases hn
  obtain ⟨_, t₃, hg, h⟩ := bind_ok_iff.1 h
  cases hg
  cases hi : t.identifiers.get? identifier with
  | some target =>
    simp only [hi] at h
    cases h
    exact .reference assigned hi
  | none =>
    simp only [hi] at h
    rcases guarded_ok h with ⟨reason, hc, rfl, rfl⟩ | ⟨hc, t₄, hb, hinner, rfl⟩
    · have hcut : Expansion gen g descend ty d (.object (some o)) t _ _ :=
        .cutObject assigned hi hc
      simpa [Traversal.noted, Traversal.claimed, Traversal.cut] using hcut
    · obtain ⟨ids, t₅, hv, rfl, rfl⟩ := expandFields_ok hb
      exact .object assigned hi hc hv hinner

/-- Expanding a type that is not nullable is an expansion. -/
theorem expand_ok {gen : Generator} {g : TypeGraph} {descend : Descent} {ty : TypeId}
    {d : TypeDescriptor} {cls : Classification} {t t' : Traversal} {id : NodeId}
    (hcls : ∀ inner, cls ≠ .nullable inner) (h : expand gen g descend ty d cls t = .ok id t') :
    Expansion gen g descend ty d cls t id t' := by
  cases cls with
  | scalar kind => cases h; exact .silent rfl
  | bytes => cases h; exact .silent rfl
  | enumeration e =>
    obtain ⟨_, t₁, hr, h⟩ := bind_ok_iff.1 h
    cases hr
    cases h
    exact .leaf rfl
  | nullable inner => exact absurd rfl (hcls inner)
  | sequence element =>
    rcases guarded_ok h with ⟨reason, hc, rfl, rfl⟩ | ⟨hc, t₁, hb, hinner, rfl⟩
    · exact .cut rfl hc
    · obtain ⟨items, t₂, hd, hb⟩ := bind_ok_iff.1 hb
      cases hb
      exact .collection hc (.cons hd (.nil _)) rfl hinner
  | map value =>
    rcases guarded_ok h with ⟨reason, hc, rfl, rfl⟩ | ⟨hc, t₁, hb, hinner, rfl⟩
    · exact .cut rfl hc
    · obtain ⟨values, t₂, hd, hb⟩ := bind_ok_iff.1 hb
      cases hb
      exact .collection hc (.cons hd (.nil _)) rfl hinner
  | pair key value =>
    rcases guarded_ok h with ⟨reason, hc, rfl, rfl⟩ | ⟨hc, t₁, hb, hinner, rfl⟩
    · exact .cut rfl hc
    · obtain ⟨keyNode, t₂, hk, hb⟩ := bind_ok_iff.1 hb
      obtain ⟨valueNode, t₃, hv, hb⟩ := bind_ok_iff.1 hb
      cases hb
      exact .collection hc (.cons hk (.cons hv (.nil _))) rfl hinner
  | object o? =>
    cases o? with
    | none => cases h; exact .silent rfl
    | some o => exact expandObject_ok h

/-- What looking for an override does: nothing, or the report that one is ignored. -/
theorem overrideFor_ok {gen : Generator} {ty : TypeId} {d : TypeDescriptor} {cls : Classification}
    {t t' : Traversal} {o? : Option ScalarOverride} (h : overrideFor gen ty d cls t = .ok o? t') :
    (∃ o, o? = some o ∧ gen.overrides.lookup? [d.identity, d.name] = some o ∧ cls.isOverridable ∧
      t' = t) ∨
    (o? = none ∧ (t' = t ∨
      t' = { t with
        refused := ty :: t.refused
        events := t.events ++ [ignoredOverrideEvent d.identity] })) := by
  simp only [overrideFor] at h
  cases hl : gen.overrides.lookup? [d.identity, d.name] with
  | none => rw [hl] at h; cases h; exact .inr ⟨rfl, .inl rfl⟩
  | some o =>
    simp only [hl] at h
    by_cases hc : cls.isOverridable
    · rw [if_pos hc] at h
      cases h
      exact .inl ⟨o, rfl, rfl, hc, rfl⟩
    · rw [if_neg hc] at h
      obtain ⟨s, s₁, hs, h⟩ := bind_ok_iff.1 h
      cases hs
      by_cases hr : ty ∈ t.refused
      · rw [if_neg (not_not_intro hr)] at h
        cases h
        exact .inr ⟨rfl, .inl rfl⟩
      · rw [if_pos hr] at h
        cases h
        exact .inr ⟨rfl, .inr rfl⟩

/-- Only known types are described. -/
theorem describe_ok {g : TypeGraph} {ty : TypeId} {d : TypeDescriptor} {t t' : Traversal}
    (h : describe g ty t = .ok d t') : g.describe? ty = some d ∧ t' = t := by
  simp only [describe] at h
  cases hd : g.describe? ty with
  | none => rw [hd] at h; cases h
  | some d' => rw [hd] at h; cases h; exact ⟨rfl, rfl⟩

/-- Decorating what an override or an expansion gives is what is left of a step. -/
theorem plainStep_ok {gen : Generator} {g : TypeGraph} {descend : Descent} {ty : TypeId}
    {field? : Option Field} {d : TypeDescriptor} {cls : Classification} {t t' : Traversal}
    {id : NodeId} (h : plainStep gen g descend ty field? d cls t = .ok id t') :
    (∃ o, gen.overrides.lookup? [d.identity, d.name] = some o ∧ cls.isOverridable ∧
      decorate gen d field? ⟨t.arena.size⟩ (t.pushed o.node) = .ok id t') ∨
    ∃ t₀ id₁ t₁, overrideFor gen ty d cls t = .ok none t₀ ∧
      expand gen g descend ty d cls t₀ = .ok id₁ t₁ ∧ decorate gen d field? id₁ t₁ = .ok id t' := by
  obtain ⟨o?, t₀, ho, hr⟩ := bind_ok_iff.1 h
  rcases overrideFor_ok ho with ⟨o, rfl, hl, hc, rfl⟩ | ⟨rfl, -⟩
  · exact .inl ⟨o, hl, hc, hr⟩
  · obtain ⟨id₁, t₁, he, hf⟩ := bind_ok_iff.1 hr
    exact .inr ⟨t₀, id₁, t₁, ho, he, hf⟩

/-- **A step that succeeds, taken apart.** -/
theorem nodeStep_ok {gen : Generator} {g : TypeGraph} {descend : Descent} {ty : TypeId}
    {field? : Option Field} {t t' : Traversal} {id : NodeId}
    (h : nodeStep gen g descend ty field? t = .ok id t') :
    ∃ d, g.describe? ty = some d ∧ Step gen g descend ty field? d t id t' := by
  obtain ⟨d, t₁, hd, hs⟩ := bind_ok_iff.1 h
  obtain ⟨known, rfl⟩ := describe_ok hd
  refine ⟨d, known, ?_⟩
  -- any type but a wrapper: overridden or expanded, then decorated
  have plain : ∀ {cls : Classification}, g.classify d.shape = cls →
      (∀ inner, cls ≠ .nullable inner) →
      ((∃ o, gen.overrides.lookup? [d.identity, d.name] = some o ∧ cls.isOverridable ∧
        decorate gen d field? ⟨t₁.arena.size⟩ (t₁.pushed o.node) = .ok id t') ∨
      ∃ t₀ id₁ t₂, overrideFor gen ty d cls t₁ = .ok none t₀ ∧
        expand gen g descend ty d cls t₀ = .ok id₁ t₂ ∧ decorate gen d field? id₁ t₂ = .ok id t') →
      Step gen g descend ty field? d t₁ id t' := by
    rintro cls rfl hcls (⟨o, hl, hc, h⟩ | ⟨t₀, id₁, t₂, ho, he, h⟩)
    · exact .overridden hl hc h
    · exact .expanded hcls ho (expand_ok hcls he) h
  cases hc : g.classify d.shape with
  | nullable inner =>
    simp only [hc] at hs
    obtain ⟨id₁, t₂, hp, hf⟩ := bind_ok_iff.1 hs
    exact .wrapped hc hp hf
  | scalar _ | bytes | enumeration _ | sequence _ | map _ | pair _ _ | object _ =>
    simp only [hc] at hs
    exact plain hc (by simp) (plainStep_ok hs)

/-- The states before and after each part that is built are related. -/
def Descent.Relates (descend : Descent) (R : Traversal → Traversal → Prop) : Prop :=
  ∀ ty field? t id t', descend ty field? t = .ok id t' → R t t'

/-- A property of what is built holds at every number of levels if every step hands it on from the
parts to the whole. -/
theorem nodeFor_induction {gen : Generator} {g : TypeGraph}
    {P : TypeId → Option Field → Traversal → NodeId → Traversal → Prop}
    (step : ∀ descend : Descent,
      (∀ ty field? t id t', descend ty field? t = .ok id t' → P ty field? t id t') →
      ∀ ty field? d t id t', g.describe? ty = some d →
        Step gen g descend ty field? d t id t' → P ty field? t id t') :
    ∀ levels ty field? t id t', nodeFor gen g levels ty field? t = .ok id t' →
      P ty field? t id t' := by
  intro levels
  induction levels with
  | zero => intro ty field? t id t' h; cases h
  | succ levels ih =>
    intro ty field? t id t' h
    obtain ⟨d, hd, hs⟩ := nodeStep_ok h
    exact step _ ih ty field? d t id t' hd hs

/-- A generation builds its root from a fresh traversal. -/
theorem generate_ok {gen : Generator} {g : TypeGraph} {root : TypeId} {w w' : Workspace}
    {s : GeneratedSchema} (h : generate gen g root w = .ok s w') :
    ∃ t, nodeFor gen g (levelsFor g) root none (w.begin gen) = .ok s.root t ∧
      s = ⟨t.arena, s.root, t.identifiers, t.components⟩ ∧
      w' = { w with registry := t.registry, events := t.events } := by
  unfold generate at h
  cases hn : nodeFor gen g (levelsFor g) root none (w.begin gen) with
  | ok id t => rw [hn] at h; cases h; exact ⟨t, rfl, rfl, rfl⟩
  | error e t => rw [hn] at h; cases h

/-- It fails where that does, and what was reported stays. -/
theorem generate_error {gen : Generator} {g : TypeGraph} {root : TypeId} {w w' : Workspace}
    {e : GenerationError} (h : generate gen g root w = .error e w') :
    ∃ t, nodeFor gen g (levelsFor g) root none (w.begin gen) = .error e t ∧
      w' = { w with registry := t.registry, events := t.events } := by
  unfold generate at h
  cases hn : nodeFor gen g (levelsFor g) root none (w.begin gen) with
  | ok id t => rw [hn] at h; cases h
  | error e t => rw [hn] at h; cases h; exact ⟨t, rfl, rfl⟩

/-- A root that is built gives a schema. -/
theorem generate_of_ok {gen : Generator} {g : TypeGraph} {root : TypeId} {w : Workspace}
    {id : NodeId} {t : Traversal}
    (h : nodeFor gen g (levelsFor g) root none (w.begin gen) = .ok id t) :
    generate gen g root w = .ok ⟨t.arena, id, t.identifiers, t.components⟩
      { w with registry := t.registry, events := t.events } := by
  simp only [generate, h]

/-- A root that fails to be built fails the generation. -/
theorem generate_of_error {gen : Generator} {g : TypeGraph} {root : TypeId} {w : Workspace}
    {e : GenerationError} {t : Traversal}
    (h : nodeFor gen g (levelsFor g) root none (w.begin gen) = .error e t) :
    generate gen g root w = .error e { w with registry := t.registry, events := t.events } := by
  simp only [generate, h]

end TypeSchema
