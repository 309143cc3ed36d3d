import TypeSchema.Graph.TypeGraph

/-!
# Classifying types

How a type is expanded. A byte array is text and not a sequence. A sequence abstraction is a
sequence unless its elements are map entries, a map abstraction is a map only if its keys are
strings, and an object with capabilities is a map before it is a sequence. All else is an object.
-/

namespace TypeSchema

/-- What a type is expanded as. -/
inductive Classification where
  | scalar (kind : ScalarKind)
  /-- A byte array, written as base64 text. -/
  | bytes
  | nullable (inner : TypeId)
  | enumeration (e : Enumeration)
  | sequence (element : TypeId)
  /-- A map from strings. -/
  | map (value : TypeId)
  | pair (key value : TypeId)
  /-- An object; one without a list of fields is `none`. -/
  | object (o? : Option ObjectShape)

/-- What a collection holds. -/
inductive CollectionContent where
  | sequence (element : TypeId)
  | map (value : TypeId)
  deriving DecidableEq

namespace TypeGraph

/-- Whether a type is the string scalar. -/
def isString (g : TypeGraph) (ty : TypeId) : Bool :=
  match g.shape? ty with
  | some (.scalar .string) => true
  | _ => false

/-- Whether a type is the scalar of bytes. -/
def isByte (g : TypeGraph) (ty : TypeId) : Bool :=
  match g.shape? ty with
  | some (.scalar .uint8) => true
  | _ => false

/-- Whether a type is a map entry. -/
def isPair (g : TypeGraph) (ty : TypeId) : Bool :=
  match g.shape? ty with
  | some (.pair _ _) => true
  | _ => false

/-- A sequence, unless its elements are map entries. -/
def sequenceOf (g : TypeGraph) (element : TypeId) : Option CollectionContent :=
  if g.isPair element then none else some (.sequence element)

/-- A map, if its keys are strings. -/
def mapOf (g : TypeGraph) (key value : TypeId) : Option CollectionContent :=
  if g.isString key then some (.map value) else none

/-- The map that a capability offers. -/
def offeredMap (g : TypeGraph) : Capability → Option CollectionContent
  | .map key value => g.mapOf key value
  | .sequence _ => none

/-- The sequence that a capability offers. -/
def offeredSequence (g : TypeGraph) : Capability → Option CollectionContent
  | .sequence element => g.sequenceOf element
  | .map _ _ => none

/-- What a shape holds as a sequence or a map from strings, if it is one. -/
def collectionContent (g : TypeGraph) : Shape → Option CollectionContent
  | .array element => g.sequenceOf element
  | .collection kind [key, value] => if kind.isMap then g.mapOf key value else none
  | .collection kind [element] => if kind.isSequence then g.sequenceOf element else none
  | .object o =>
    -- any map among the capabilities comes before any sequence
    (o.capabilities.findSome? g.offeredMap).or (o.capabilities.findSome? g.offeredSequence)
  | _ => none

/-- What a shape is expanded as. -/
def classify (g : TypeGraph) (shape : Shape) : Classification :=
  let byContent := match g.collectionContent shape with
    | some (.sequence element) => .sequence element
    | some (.map value) => .map value
    | none =>
      match shape with
      | .object o => .object (some o)
      | _ => .object none
  match shape with
  | .array element => if g.isByte element then .bytes else byContent
  | .scalar kind => .scalar kind
  | .nullable inner => .nullable inner
  | .enumeration e => .enumeration e
  | .pair key value => .pair key value
  | _ => byContent

end TypeGraph

end TypeSchema
