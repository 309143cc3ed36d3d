import TypeSchema.Diagnostic.Event
import TypeSchema.Graph.Shape
import TypeSchema.Schema.Node

/-!
# Guarding the expansion

The guard knows which types are being expanded, innermost first. A type that is open already is a
cycle, and a type that would be one too many is too deep; both get a placeholder instead of an
expansion. Each type gets at most one placeholder for each reason, and only its creation is
reported.
-/

namespace TypeSchema

/-- Why a generation fails. -/
inductive GenerationError where
  /-- A type was to be closed that is not the innermost open one. -/
  | guardMismatch (innermost? : Option TypeId) (closing : TypeId)
  /-- The graph does not know the type. -/
  | unknownType (ty : TypeId)
  /-- The type is made of wrappers or generic arguments that never end. -/
  | endless (ty : TypeId)
  deriving DecidableEq, Repr

/-- What an error says. -/
def GenerationError.message : GenerationError → String
  | guardMismatch (some innermost) closing =>
    "recursion guard mismatch: exiting " ++ toString closing ++ " but " ++ toString innermost
      ++ " is innermost"
  | guardMismatch none closing =>
    "recursion guard mismatch: exiting " ++ toString closing ++ " with an empty stack"
  | unknownType ty => "type " ++ toString ty ++ " is not known to the introspector"
  | endless ty => "type " ++ toString ty ++ " nests without end"

/-- The limit on open types where none is configured. -/
def defaultMaxDepth : Nat := 32

/-- A type that asks to be expanded. -/
structure Visit where
  type : TypeId
  typeName : String
  /-- The component that a placeholder refers to. -/
  identifier? : Option String

/-- The answer to a visit. -/
inductive Admission where
  /-- The type is open now and must be closed after its expansion. -/
  | expand
  /-- The node to use instead. -/
  | substitute (placeholder : NodeId)
  deriving DecidableEq

/-- The open types and the placeholders given out. -/
structure Guard where
  /-- The types that are being expanded, innermost first. -/
  active : List TypeId := []
  maxDepth : Nat
  placeholders : List ((TypeId × CutReason) × NodeId) := []
  deriving Inhabited

namespace Guard

/-- A guard without open types; at least one type may be open. -/
def new (maxDepth : Nat) : Guard := { maxDepth := max 1 maxDepth }

/-- How many types are open. -/
def depth (g : Guard) : Nat := g.active.length

/-- Whether a type is open. -/
def isExpanding (g : Guard) (ty : TypeId) : Bool := ty ∈ g.active

/-- Why a type may not be expanded now. A cycle is recognised before the depth is looked at. -/
def cutReason? (g : Guard) (ty : TypeId) : Option CutReason :=
  if g.isExpanding ty then some .cycle
  else if g.maxDepth ≤ g.depth then some .depth
  else none

/-- The report of a new placeholder. -/
def cutEvent (g : Guard) (typeName : String) (reason : CutReason) : DiagnosticEvent :=
  let (code, raw) := match reason with
    | .cycle => (DiagnosticCode.cycleDetected, "cycle detected at type '" ++ typeName ++ "'")
    | .depth =>
      (DiagnosticCode.depthExceeded,
        "maximum depth " ++ toString g.maxDepth ++ " exceeded at type '" ++ typeName ++ "'")
  .withFields .warn code raw
    [("type", .string typeName), ("depth", Json.ofNat g.depth),
      ("max_depth", Json.ofNat g.maxDepth)]

/-- The placeholder of a type for a reason, created at the first request. -/
def placeholder (g : Guard) (a : Arena) (v : Visit) (reason : CutReason) :
    NodeId × Guard × Arena × List DiagnosticEvent :=
  match g.placeholders.lookup (v.type, reason) with
  -- a second request is not reported
  | some id => (id, g, a, [])
  | none =>
    let (id, a) := a.push { kind := .placeholder ⟨v.typeName, v.identifier?, reason⟩ }
    (id, { g with placeholders := ((v.type, reason), id) :: g.placeholders }, a,
      [g.cutEvent v.typeName reason])

/-- Opens a type, or gives a placeholder for it. -/
def enter (g : Guard) (a : Arena) (v : Visit) :
    Admission × Guard × Arena × List DiagnosticEvent :=
  match g.cutReason? v.type with
  | none => (.expand, { g with active := v.type :: g.active }, a, [])
  | some reason =>
    let (id, g, a, events) := g.placeholder a v reason
    (.substitute id, g, a, events)

/-- Closes the innermost open type. -/
def exit (g : Guard) (ty : TypeId) : Except GenerationError Guard :=
  match g.active with
  | top :: rest =>
    if top = ty then .ok { g with active := rest } else .error (.guardMismatch top ty)
  | [] => .error (.guardMismatch none ty)

end Guard

end TypeSchema
