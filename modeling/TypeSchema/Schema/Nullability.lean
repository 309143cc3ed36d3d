import TypeSchema.Schema.Annotation

/-!
# Admitting null

OpenAPI 3.0 marks a schema that admits null with a flag; OpenAPI 3.1 has no such flag and writes a
union with the schema of null. A union that has null among its alternatives stays as it is, so
admitting null twice is admitting it once.
-/

namespace TypeSchema

/-- How a schema is made to admit null. -/
inductive NullEncoding where
  | flag
  | union
  deriving DecidableEq, Repr, Inhabited

namespace Arena

/-- The node for null. -/
def nullLeaf (a : Arena) : NodeId × Arena := a.push { kind := .null }

/-- Adds an alternative to a union. -/
def addAlternative (n : SchemaNode) (alternative : NodeId) : SchemaNode :=
  match n.kind with
  | .anyOf ids => { n with kind := .anyOf (ids ++ [alternative]) }
  | .oneOf ids => { n with kind := .oneOf (ids ++ [alternative]) }
  | _ => n

/-- The alternatives of a union. -/
def alternatives? (a : Arena) (id : NodeId) : Option (List NodeId) :=
  (a.get? id).bind fun n =>
    match n.kind with
    | .anyOf ids | .oneOf ids => some ids
    | _ => none

/-- Makes a node admit null; the node to use and the arena. -/
def admitNull (a : Arena) (encoding : NullEncoding) (id : NodeId) : NodeId × Arena :=
  match encoding with
  | .flag =>
    -- a shared node must not change, so the flag goes on a node around it
    if a.isShared id then a.push { kind := .allOf [id], nullable := true }
    else (id, a.modify id ({ · with nullable := true }))
  | .union =>
    match a.alternatives? id with
    | some ids =>
      if ids.any a.isNull then (id, a)
      else
        let (null, a) := a.nullLeaf
        (id, a.modify id (addAlternative · null))
    | none =>
      let (null, a) := a.nullLeaf
      a.push { kind := .anyOf [id, null] }

/-- Takes the flag for null off a node. -/
def clearNullFlag (a : Arena) (id : NodeId) : Arena :=
  if a.isShared id then a else a.modify id ({ · with nullable := false })

/-- Makes a node admit null, or takes its flag off. -/
def applyNull (a : Arena) (encoding : NullEncoding) (id : NodeId) (nullable : Bool) :
    NodeId × Arena :=
  if nullable then a.admitNull encoding id else (id, a.clearNullFlag id)

end Arena

end TypeSchema
