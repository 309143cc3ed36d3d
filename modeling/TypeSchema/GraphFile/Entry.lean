import TypeSchema.Graph.Constraint
import TypeSchema.Json.Value

/-!
# Type graph files

A file lists named types. Types of fields and capabilities are spelled as type expressions; what
the names in them stand for is decided when the graph is built.
-/

namespace TypeSchema.GraphFile

/-- What an entry declares. -/
inductive EntryKind where
  | object
  | enumeration
  /-- A scalar known by name only. -/
  | scalar
  deriving DecidableEq, Repr

/-- A field of an object, its type spelled out. -/
structure FieldEntry where
  name : String
  type : String
  required : Bool
  constraints : List Constraint
  example? : Option Json

/-- A member of an enumeration; one without a value has its position as value. -/
structure MemberEntry where
  name : String
  value? : Option Int

/-- A named type. Its name may have generic arguments, as `Page<Widget>` has. -/
structure TypeEntry where
  name : String
  ns? : Option String
  kind : EntryKind
  fields : List FieldEntry
  members : List MemberEntry
  repr? : Option String
  implements : List String
  constraints : List Constraint
  example? : Option Json

end TypeSchema.GraphFile
