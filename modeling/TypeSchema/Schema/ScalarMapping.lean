import TypeSchema.Diagnostic.Event
import TypeSchema.Graph.Scalar
import TypeSchema.Schema.Node

/-!
# Scalars as schemas

A table gives each scalar of known meaning a primitive type and a format; a scalar known by name
only is an object. Overrides map types by name or identity to a primitive type of choice; the last
one registered for a name counts, and arrays and objects are refused.
-/

namespace TypeSchema

namespace ScalarKind

/-- The primitive type and the format of a scalar of known meaning. -/
def mapping? : ScalarKind → Option (PrimitiveType × Option String)
  | string | char => some (.string, none)
  | boolean => some (.boolean, none)
  | int8 | int16 | int32 | uint8 | uint16 => some (.integer, "int32")
  | uint32 | int64 | uint64 => some (.integer, "int64")
  | float32 => some (.number, "float")
  | float64 | decimal => some (.number, "double")
  | uuid => some (.string, "uuid")
  | dateTime => some (.string, "date-time")
  | date => some (.string, "date")
  | time => some (.string, "time")
  | duration => some (.string, "duration")
  | uri => some (.string, "uri")
  | binary => some (.string, "byte")
  | file => some (.string, "binary")
  | other _ => none

/-- The node of a scalar. -/
def node (kind : ScalarKind) : SchemaNode :=
  match kind.mapping? with
  | some (primitive, format?) => .ofPrimitive primitive format?
  | none => .ofPrimitive .object

/-- The node of a byte array: base64 text. -/
def bytesNode : SchemaNode := .ofPrimitive .string "byte"

end ScalarKind

/-- The schema that a type is mapped to in place of its own. -/
structure ScalarOverride where
  primitive : PrimitiveType
  format? : Option String := none
  deriving DecidableEq, Inhabited

namespace ScalarOverride

/-- The node of an override. -/
def node (o : ScalarOverride) : SchemaNode := .ofPrimitive o.primitive o.format?

/-- Whether the primitive type is one of scalars. -/
def isScalar (o : ScalarOverride) : Bool := o.primitive != .array && o.primitive != .object

/-- The report of an override that is refused. -/
def refusedEvent (typeName : String) (o : ScalarOverride) : DiagnosticEvent :=
  .withFields .error .unsupportedOverride
    ("override for '" ++ typeName ++ "' targets '" ++ o.primitive.name
      ++ "', which is not a scalar primitive")
    [("type", .string typeName)]

/-- The report of an override that is registered. -/
def registeredEvent (typeName : String) (o : ScalarOverride) (replaced : Bool) : DiagnosticEvent :=
  let format := match o.format? with
    | some f => "/" ++ f
    | none => ""
  .withFields .info .scalarOverride
    ("scalar override registered for '" ++ typeName ++ "' (" ++ o.primitive.name ++ format ++ ")")
    [("type", .string typeName), ("replaced", .bool replaced)]

end ScalarOverride

/-- Overrides by type name or identity. -/
abbrev Overrides := SortedMap ScalarOverride

namespace Overrides

/-- Registers an override; whether it was taken. -/
def register (os : Overrides) (typeName : String) (o : ScalarOverride) :
    Bool × Overrides × List DiagnosticEvent :=
  if o.isScalar then
    let replaced := SortedMap.contains os typeName
    (true, SortedMap.insert os typeName o, [o.registeredEvent typeName replaced])
  else (false, os, [o.refusedEvent typeName])

/-- Registers some overrides in order. -/
def registerAll (os : Overrides) : List (String × ScalarOverride) →
    Overrides × List DiagnosticEvent
  | [] => (os, [])
  | (typeName, o) :: rest =>
    let (_, os, events) := os.register typeName o
    let (os, more) := os.registerAll rest
    (os, events ++ more)

/-- The override of the first name that has one. -/
def lookup? (os : Overrides) (names : List String) : Option ScalarOverride :=
  names.findSome? (SortedMap.get? os)

end Overrides

end TypeSchema
