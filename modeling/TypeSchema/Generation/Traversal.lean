import TypeSchema.Classification
import TypeSchema.Config.Basic
import TypeSchema.Registry
import TypeSchema.Schema.Annotation
import TypeSchema.Schema.Example
import TypeSchema.Schema.Render

/-!
# Expanding a type

`nodeFor` builds the node of a type from the nodes of its parts. Composite types pass the guard, so
that a type inside itself becomes a placeholder; an object is registered when its expansion begins,
so that a placeholder can refer to it, and is expanded once per generation: later occurrences are
references. Constraints of the type come before those of the field that uses it, and null last.

One step, `nodeStep`, is given the function that builds the parts. `nodeFor` ties the knot for a
number of levels, and `levelsFor` are enough levels for every type that does not consist of nullable
wrappers around itself: at most each type of the graph is open, and between two open types there are
only wrappers, each different from the others.
-/

namespace TypeSchema

/-- What stays the same during a generation. -/
structure Generator where
  config : Config
  /-- The overrides that are in force. -/
  overrides : Overrides
  /-- What counts as a pattern. -/
  patterns : PatternCheck
  /-- What the clock says while examples are made up. -/
  clock : Clock

namespace Generator

/-- The generator of a configuration, and the reports of registering its overrides. -/
def register (patterns : PatternCheck) (clock : Clock) (config : Config) :
    Generator × List DiagnosticEvent :=
  let wanted := SortedMap.toList config.overrides
  let (overrides, events) := Overrides.registerAll SortedMap.empty wanted
  (⟨config, overrides, patterns, clock⟩, events)

/-- The budget for a sample of a node. -/
def deadline (gen : Generator) (a : Arena) (id : NodeId) : Deadline :=
  ⟨gen.config.exampleBudget, gen.clock a id⟩

end Generator

/-- The state of one generation. -/
structure Traversal where
  registry : Registry
  events : List DiagnosticEvent
  arena : Arena := {}
  guard : Guard
  /-- The expanded components by identifier. -/
  identifiers : SortedMap NodeId := {}
  /-- The types of all components that are expanded or referred to. -/
  components : SortedMap TypeId := {}
  /-- The types whose override was ignored and reported. -/
  refused : List TypeId := []
  deriving Inhabited

/-- A step of a generation. The state that an error leaves behind is kept. -/
abbrev Build := EStateM GenerationError Traversal

namespace Build

/-- Adds events. -/
def report (events : List DiagnosticEvent) : Build Unit :=
  modify fun t => { t with events := t.events ++ events }

/-- Adds a node. -/
def push (n : SchemaNode) : Build NodeId :=
  modifyGet fun t =>
    let (id, arena) := t.arena.push n
    (id, { t with arena })

/-- Applies constraints to a node. -/
def annotate (patterns : PatternCheck) (id : NodeId) (member : String)
    (constraints : List Constraint) : Build NodeId :=
  modifyGet fun t =>
    let (id, arena, events) := t.arena.annotate patterns id member constraints
    (id, { t with arena, events := t.events ++ events })

/-- Makes a node admit null, or takes its flag off. -/
def applyNull (encoding : NullEncoding) (id : NodeId) (nullable : Bool) : Build NodeId :=
  modifyGet fun t =>
    let (id, arena) := t.arena.applyNull encoding id nullable
    (id, { t with arena })

/-- Gives a node that is not shared the example of a field. -/
def setExample (id : NodeId) (v : Json) : Build Unit :=
  modify fun t =>
    if t.arena.isShared id then t
    else { t with arena := t.arena.modify id ({ · with example? := some v }) }

/-- The identifier of a type, claimed at first sight. -/
def assign (g : TypeGraph) (ty : TypeId) : Build String := do
  match (← get).registry.assign g ty with
  | .error e => throw e
  | .ok (id, registry, events) =>
    modify fun t => { t with registry, events := t.events ++ events }
    return id

/-- Records that a component occurs. -/
def noteComponent (id : String) (ty : TypeId) : Build Unit :=
  modify fun t => { t with components := t.components.insertNew id ty }

/-- Opens a type at the guard. -/
def enter (v : Visit) : Build Admission :=
  modifyGet fun t =>
    let (admission, guard, arena, events) := t.guard.enter t.arena v
    (admission, { t with guard, arena, events := t.events ++ events })

/-- The report of a type that is closed out of turn. -/
def mismatchEvent (e : GenerationError) (identity : String) : DiagnosticEvent :=
  .withFields .critical .guardStackMismatch e.message [("type", .string identity)]

/-- Closes a type at the guard. -/
def exit (ty : TypeId) (identity : String) : Build Unit := do
  match (← get).guard.exit ty with
  | .ok guard => modify fun t => { t with guard }
  | .error e =>
    report [mismatchEvent e identity]
    throw e

end Build

/-- Builds the node of a type, in the role of a field or in none. -/
abbrev Descent := TypeId → Option Field → Build NodeId

open Build

/-- The descriptor of a type that the graph knows. -/
def describe (g : TypeGraph) (ty : TypeId) : Build TypeDescriptor :=
  match g.describe? ty with
  | some d => return d
  | none => throw (.unknownType ty)

/-- The report of an override for a type that cannot have one. -/
def ignoredOverrideEvent (identity : String) : DiagnosticEvent :=
  .withFields .error .unsupportedOverride
    ("scalar override for '" ++ identity ++ "' ignored: the type is not a scalar or object")
    [("type", .string identity)]

/-- Whether an override may replace the expansion of a class of types. -/
def Classification.isOverridable : Classification → Bool
  | scalar _ | bytes | object _ => true
  | _ => false

/-- The override of a type. One that cannot be used is reported once per generation. -/
def overrideFor (gen : Generator) (ty : TypeId) (d : TypeDescriptor) (cls : Classification) :
    Build (Option ScalarOverride) := do
  match gen.overrides.lookup? [d.identity, d.name] with
  | none => return none
  | some o =>
    if cls.isOverridable then return some o
    else
      if ty ∉ (← get).refused then
        modify fun t => { t with refused := ty :: t.refused }
        report [ignoredOverrideEvent d.identity]
      return none

/-- Builds a node between opening and closing its type, or gives the placeholder. -/
def guarded (ty : TypeId) (d : TypeDescriptor) (identifier? : Option String)
    (build : Build NodeId) : Build NodeId := do
  match ← enter ⟨ty, d.name, identifier?⟩ with
  | .substitute placeholder =>
    -- the component is referred to now, so it has to be generated later
    if let some id := identifier? then noteComponent id ty
    return placeholder
  | .expand =>
    let node ← build
    exit ty d.identity
    return node

/-! ### Objects -/

/-- The fields of an object in lexical order of their names; of one name, as declared. -/
def sortedFields (o : ObjectShape) : List Field :=
  o.fields.mergeSort (fun a b => a.name ≤ b.name)

/-- The report of an object that lost fields. -/
def objectTruncationEvent (d : TypeDescriptor) (total kept : Nat) : DiagnosticEvent :=
  .withFields .info .objectVirtualized
    ("object '" ++ d.name ++ "' has " ++ toString total ++ " members; kept " ++ toString kept
      ++ " and dropped " ++ toString (total - kept))
    [("type", .string d.identity), ("total", Json.ofNat total),
      ("truncated", Json.ofNat (total - kept))]

/-- The fields that are kept, and how many are not if there is a limit that they exceed. -/
def keptFields (limit? : Option Nat) (fields : List Field) : List Field × Option Truncation :=
  match limit? with
  | some limit =>
    if limit < fields.length then
      (fields.take limit, some ⟨fields.length, fields.length - limit⟩)
    else (fields, none)
  | none => (fields, none)

/-- Adds fields to the node of an object. -/
def addFields (descend : Descent) (node : SchemaNode) : List Field → Build SchemaNode
  | [] => return node
  | f :: rest => do
    let child ← descend f.type (some f)
    let required := if f.required then node.required.insert f.name () else node.required
    addFields descend
      { node with properties := node.properties.insert f.name child, required } rest

/-- The node of an object that is not expanded yet. The node that is recorded as the component stays
as it is; the node that is used here is a copy. -/
def expandFields (gen : Generator) (descend : Descent) (d : TypeDescriptor) (o : ObjectShape)
    (identifier : String) : Build NodeId := do
  let (fields, truncation?) := keptFields gen.config.memberThreshold? (sortedFields o)
  if let some t := truncation? then report [objectTruncationEvent d t.total (t.total - t.dropped)]
  let node ← addFields descend (.ofPrimitive .object) fields
  let node := { node with identifier? := some identifier, truncation? }
  let component ← push node
  modify fun t => { t with identifiers := t.identifiers.insertNew identifier component }
  -- only the copy is decorated from here on
  push node

/-- The node of an object: a reference if it is expanded already. -/
def expandObject (gen : Generator) (g : TypeGraph) (descend : Descent) (ty : TypeId)
    (d : TypeDescriptor) (o : ObjectShape) : Build NodeId := do
  let identifier ← assign g ty
  noteComponent identifier ty
  match (← get).identifiers.get? identifier with
  | some target => push { kind := .reference ⟨d.name, identifier, target⟩ }
  | none => guarded ty d (some identifier) (expandFields gen descend d o identifier)

/-! ### Types -/

/-- The node of a type without constraints. -/
def expand (gen : Generator) (g : TypeGraph) (descend : Descent) (ty : TypeId)
    (d : TypeDescriptor) (cls : Classification) : Build NodeId :=
  match cls with
  | .scalar kind => push kind.node
  | .bytes => push ScalarKind.bytesNode
  | .enumeration e => do
    let (node, events) := gen.config.enumEncoding.encode d.name e
    report events
    push node
  | .nullable inner => descend inner none
  | .sequence element =>
    guarded ty d none do
      let items ← descend element none
      push { SchemaNode.ofPrimitive .array with items? := some items }
  | .map value =>
    guarded ty d none do
      let values ← descend value none
      push { SchemaNode.ofPrimitive .object with additional? := some values }
  | .pair key value =>
    guarded ty d none do
      let keyNode ← descend key none
      let valueNode ← descend value none
      push { SchemaNode.ofPrimitive .object with
        properties := .ofList [("key", keyNode), ("value", valueNode)]
        required := .ofList [("key", ()), ("value", ())] }
  | .object (some o) => expandObject gen g descend ty d o
  | .object none => push (.ofPrimitive .object)

/-- The constraints and the example of the field that a node is used for. -/
def annotateField (patterns : PatternCheck) (id : NodeId) : Option Field → Build NodeId
  | none => return id
  | some f => do
    let id ← annotate patterns id f.name f.constraints
    if let some v := f.example? then setExample id v
    return id

/-- The node of a type, from the nodes of its parts. -/
def nodeStep (gen : Generator) (g : TypeGraph) (descend : Descent) : Descent := fun ty field? => do
  let d ← describe g ty
  match g.classify d.shape with
  | .nullable inner =>
    -- a wrapper is taken off before the guard is asked, and hands the field on
    let id ← descend inner field?
    let id ← annotate gen.patterns id d.name d.constraints
    applyNull gen.config.nullEncoding id true
  | cls =>
    let id ← match ← overrideFor gen ty d cls with
      | some o => push o.node
      | none => expand gen g descend ty d cls
    let id ← annotate gen.patterns id d.name d.constraints
    let id ← annotateField gen.patterns id field?
    applyNull gen.config.nullEncoding id false

/-- The node of a type that nests less than `levels` deep. -/
def nodeFor (gen : Generator) (g : TypeGraph) : (levels : Nat) → Descent
  | 0 => fun ty _ => throw (.endless ty)
  | levels + 1 => nodeStep gen g (nodeFor gen g levels)

/-- How deep types may nest: each type of the graph open, with all others wrapped around it. -/
def levelsFor (g : TypeGraph) : Nat := (g.size + 1) * (g.size + 2)

/-! ### Generations -/

/-- The outcome of a generation. -/
structure GeneratedSchema where
  arena : Arena
  root : NodeId
  identifiers : SortedMap NodeId
  components : SortedMap TypeId
  deriving Inhabited

/-- The root as a JSON value. -/
def GeneratedSchema.render (s : GeneratedSchema) : Json := s.arena.render s.root

/-- The components that are referred to and not expanded. -/
def GeneratedSchema.unresolved (s : GeneratedSchema) : List (String × TypeId) :=
  s.components.toList.filter fun (id, _) => !s.identifiers.contains id

/-- What generations share. -/
structure Workspace where
  registry : Registry := {}
  events : List DiagnosticEvent := []
  /-- How many examples were given up. -/
  throttled : Nat := 0
  deriving Inhabited

/-- A piece of work on a workspace. -/
abbrev Work := EStateM GenerationError Workspace

/-- The state in which a generation begins. -/
def Workspace.begin (w : Workspace) (gen : Generator) : Traversal where
  registry := w.registry
  events := w.events
  guard := .new gen.config.maxDepth

/-- Generates the schema of a type. -/
def generate (gen : Generator) (g : TypeGraph) (root : TypeId) : Work GeneratedSchema := fun w =>
  match nodeFor gen g (levelsFor g) root none (w.begin gen) with
  | .ok id t =>
    .ok ⟨t.arena, id, t.identifiers, t.components⟩
      { w with registry := t.registry, events := t.events }
  | .error e t => .error e { w with registry := t.registry, events := t.events }

end TypeSchema
