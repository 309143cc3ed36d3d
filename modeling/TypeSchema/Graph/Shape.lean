import TypeSchema.Graph.Collection
import TypeSchema.Graph.Constraint
import TypeSchema.Graph.Enumeration
import TypeSchema.Graph.Scalar
import TypeSchema.Json.Value

/-!
# Types and their shapes

A type is known by its number in a graph. Its descriptor gives its identity, which tells it from all
other types, its display name, its generic arguments and its shape; shapes mention other types by
number, so types may contain each other.
-/

namespace TypeSchema

/-- The number of a type in its graph. -/
structure TypeId where
  index : Nat
  deriving DecidableEq, Repr, Inhabited

instance : ToString TypeId := ⟨fun ty => "#" ++ toString ty.index⟩

/-- What an object type can be used as besides having fields. -/
inductive Capability where
  | sequence (element : TypeId)
  | map (key value : TypeId)
  deriving DecidableEq, Repr

/-- A named member of an object type. -/
structure Field where
  name : String
  type : TypeId
  required : Bool := false
  constraints : List Constraint := []
  example? : Option Json := none

/-- The fields and capabilities of an object type, in order of declaration. -/
structure ObjectShape where
  fields : List Field := []
  capabilities : List Capability := []
  deriving Inhabited

/-- The structure of a type. -/
inductive Shape where
  | scalar (kind : ScalarKind)
  /-- A value of the inner type, or null. -/
  | nullable (inner : TypeId)
  | enumeration (e : Enumeration)
  | array (element : TypeId)
  /-- A generic abstraction with its arguments. -/
  | collection (kind : CollectionKind) (args : List TypeId)
  /-- An entry of a map. -/
  | pair (key value : TypeId)
  | object (o : ObjectShape)
  deriving Inhabited

/-- All that is known about a type. -/
structure TypeDescriptor where
  /-- What tells the type from all others, generic arguments included. -/
  identity : String
  /-- The display name, without namespace and generic arguments. -/
  name : String
  genericArgs : List TypeId := []
  shape : Shape
  constraints : List Constraint := []
  example? : Option Json := none
  deriving Inhabited

end TypeSchema
