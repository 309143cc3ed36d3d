import TypeSchema.Digest
import TypeSchema.Generation.Traversal
import TypeSchema.Json.Printer

/-!
# Documents

A document has a component for each of its roots and for each object that is expanded on the way.
Types that are only referred to, because their expansion was cut off, are generated afterwards as
roots of their own, until every reference has its component. Roots are taken in the order of their
identities, so a document does not depend on how they were listed.
-/

namespace TypeSchema

/-- The components of a document by identifier. -/
structure SchemaDocument where
  version : OpenApiVersion
  components : SortedMap Json
  deriving Inhabited

namespace SchemaDocument

/-- The document as a JSON value. -/
def toJson (d : SchemaDocument) : Json :=
  .ofFields [("openapi", .string d.version.documentVersion),
    ("components", .ofFields [("schemas", .ofMap d.components)])]

/-- The digest of the document's compact text; equal digests mean equal documents. -/
def fingerprint (d : SchemaDocument) : String := Sha256.hex d.toJson.compact

end SchemaDocument

/-- The components found so far, and the types that are referred to and have none yet. -/
structure Collected where
  components : SortedMap Json := {}
  pending : SortedMap TypeId := {}
  deriving Inhabited

/-- The example of a component: the one declared for its type, else a sample. -/
def componentExample (gen : Generator) (g : TypeGraph) (ty : TypeId) (s : GeneratedSchema)
    (node : NodeId) : Work (Option Json) :=
  modifyGet fun w =>
    let sources : ExampleSources :=
      { single? := (g.describe? ty).bind (·.example?), schema? := some node }
    let (found?, events) := sources.resolve {} s.arena (gen.deadline s.arena node)
    (found?.map (·.2),
      { w with events := w.events ++ events, throttled := w.throttled + events.length })

/-- A component with its example, if examples are wanted. -/
def componentJson (gen : Generator) (g : TypeGraph) (ty : TypeId) (s : GeneratedSchema)
    (node : NodeId) : Work Json := do
  let schema := s.arena.render node
  if gen.config.synthesizeExamples then
    match ← componentExample gen g ty s node with
    | some v => return Json.withDefault "example" v schema
    | none => return schema
  else return schema

/-- Adds the expanded components that have not been supplied before. -/
def addExpanded (gen : Generator) (g : TypeGraph) (s : GeneratedSchema)
    (components : SortedMap Json) : List (String × NodeId) → Work (SortedMap Json)
  | [] => return components
  | (id, node) :: rest => do
    -- the first generation that expands a component supplies it
    if components.contains id then addExpanded gen g s components rest
    else
      match s.components.get? id with
      | none => addExpanded gen g s components rest
      | some ty =>
        let schema ← componentJson gen g ty s node
        addExpanded gen g s (components.insert id schema) rest

/-- Queues the types that are referred to and have no component. -/
def addPending (components : SortedMap Json) (pending : SortedMap TypeId)
    (unresolved : List (String × TypeId)) : SortedMap TypeId :=
  (unresolved.filter fun (id, _) => !components.contains id).foldl
    (fun pending (id, ty) => pending.insertNew id ty) pending

/-- Generates a type as the component `id` and collects what comes with it. -/
def addRoot (gen : Generator) (g : TypeGraph) (c : Collected) (id : String) (ty : TypeId) :
    Work Collected := do
  let s ← generate gen g ty
  let schema ← componentJson gen g ty s s.root
  let components ← addExpanded gen g s (c.components.insert id schema) s.identifiers.toList
  return ⟨components, addPending components c.pending s.unresolved⟩

/-- The identifier of a type, claimed at first sight. -/
def assignId (g : TypeGraph) (ty : TypeId) : Work String := do
  match (← get).registry.assign g ty with
  | .error e => throw e
  | .ok (id, registry, events) =>
    modify fun w => { w with registry, events := w.events ++ events }
    return id

/-- Generates the roots in order. -/
def addRoots (gen : Generator) (g : TypeGraph) (c : Collected) : List TypeId → Work Collected
  | [] => return c
  | ty :: rest => do
    let id ← assignId g ty
    let c ← addRoot gen g c id ty
    addRoots gen g c rest

/-- Generates the queued types, least identifier first, among those that have not been generated as
a root. -/
def drain (gen : Generator) (g : TypeGraph) (remaining : List TypeId) (c : Collected) :
    Work Collected :=
  match _h : c.pending.popFirst? with
  | none => return c
  | some ((id, ty), pending) =>
    if c.components.contains id then drain gen g remaining { c with pending }
    else if _hmem : ty ∈ remaining then do
      let c ← addRoot gen g { c with pending } id ty
      drain gen g (remaining.erase ty) c
    else drain gen g remaining { c with pending }
termination_by (remaining.length, c.pending.size)
decreasing_by
  · exact Prod.Lex.right _ (SortedMap.size_popFirst? _h)
  · refine Prod.Lex.left _ _ ?_
    rw [List.length_erase_of_mem _hmem]
    have := List.length_pos_of_mem _hmem
    omega
  · exact Prod.Lex.right _ (SortedMap.size_popFirst? _h)

/-- The identities of types that the graph knows. -/
def identified (g : TypeGraph) (tys : List TypeId) :
    Except GenerationError (List (String × TypeId)) :=
  tys.mapM fun ty =>
    match g.identity? ty with
    | some identity => .ok (identity, ty)
    | none => .error (.unknownType ty)

/-- Keeps the first of neighbours with the same identity. -/
def dropRepeated : List (String × TypeId) → List (String × TypeId)
  | a :: b :: rest =>
    if a.1 = b.1 then dropRepeated (a :: rest) else a :: dropRepeated (b :: rest)
  | l => l
termination_by l => l.length

/-- The roots in the order of their identities, each identity once. -/
def orderedRoots (roots : List (String × TypeId)) : List TypeId :=
  (dropRepeated (roots.mergeSort (fun a b => a.1 ≤ b.1))).map (·.2)

/-- Generates the document of some roots. -/
def generateDocument (gen : Generator) (g : TypeGraph) (roots : List TypeId) :
    Work SchemaDocument := do
  match identified g roots with
  | .error e => throw e
  | .ok named =>
    let ordered := orderedRoots named
    let c ← addRoots gen g {} ordered
    let c ← drain gen g (g.ids.filter (· ∉ ordered)) c
    return ⟨gen.config.version, c.components⟩

end TypeSchema
