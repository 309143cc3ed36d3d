import TypeSchema.Json.Value

/-!
# Schema nodes

A node is one schema object; it refers to other nodes by number. Placeholders and references stand
for another schema and carry no keyword of their own: keywords go on a node around them.
-/

namespace TypeSchema

/-- The number of a node in its arena. -/
structure NodeId where
  index : Nat
  deriving DecidableEq, Repr, Inhabited

/-- The values of the `type` keyword. -/
inductive PrimitiveType where
  | string
  | integer
  | number
  | boolean
  | array
  | object
  deriving DecidableEq, Repr, Inhabited

namespace PrimitiveType

/-- The word for a type. -/
def name : PrimitiveType → String
  | string => "string"
  | integer => "integer"
  | number => "number"
  | boolean => "boolean"
  | array => "array"
  | object => "object"

/-- The type of a word. -/
def ofName? (name : String) : Option PrimitiveType :=
  match name with
  | "string" => some string
  | "integer" => some integer
  | "number" => some number
  | "boolean" => some boolean
  | "array" => some array
  | "object" => some object
  | _ => none

end PrimitiveType

/-- Why an expansion was cut off. -/
inductive CutReason where
  /-- The type is being expanded already. -/
  | cycle
  /-- Too many expansions are open. -/
  | depth
  deriving DecidableEq, Repr, Inhabited

/-- The word for a reason. -/
def CutReason.name : CutReason → String
  | cycle => "cycle"
  | depth => "depth"

/-- A stand-in for a type whose expansion was cut off; with an identifier it refers to a
component. -/
structure Placeholder where
  typeName : String
  identifier? : Option String
  reason : CutReason
  deriving DecidableEq, Inhabited

/-- A repeated occurrence of a type that is expanded in the same arena. -/
structure Reference where
  typeName : String
  identifier : String
  target : NodeId
  deriving DecidableEq, Inhabited

/-- What a node is. -/
inductive NodeKind where
  | primitive (p : PrimitiveType)
  /-- The schema of null alone. -/
  | null
  | anyOf (alternatives : List NodeId)
  | oneOf (alternatives : List NodeId)
  | allOf (parts : List NodeId)
  | placeholder (p : Placeholder)
  | reference (r : Reference)
  deriving DecidableEq, Inhabited

/-- A short word for a kind. -/
def NodeKind.label : NodeKind → String
  | primitive p => p.name
  | null => "null"
  | anyOf _ => "anyOf"
  | oneOf _ => "oneOf"
  | allOf _ => "allOf"
  | placeholder _ => "placeholder"
  | reference _ => "reference"

/-- The validation keywords. The two length bounds count items on an array. -/
structure Keywords where
  minimum : Option Float := none
  maximum : Option Float := none
  minLength : Option Nat := none
  maxLength : Option Nat := none
  pattern : Option String := none
  deriving DecidableEq, Inhabited

/-- Whether no keyword is set. -/
def Keywords.isEmpty (k : Keywords) : Bool :=
  k.minimum.isNone && k.maximum.isNone && k.minLength.isNone && k.maxLength.isNone
    && k.pattern.isNone

/-- A list that was cut to a limit: its full length and how many entries were dropped. -/
structure Truncation where
  total : Nat
  dropped : Nat
  deriving DecidableEq, Inhabited

/-- One schema object. -/
structure SchemaNode where
  kind : NodeKind
  format? : Option String := none
  /-- Null is admitted as well, in the manner of OpenAPI 3.0. -/
  nullable : Bool := false
  /-- Literals, in order. -/
  enumValues : List Json := []
  properties : SortedMap NodeId := {}
  /-- Names of required properties. -/
  required : SortedMap Unit := {}
  items? : Option NodeId := none
  additional? : Option NodeId := none
  keywords : Keywords := {}
  example? : Option Json := none
  /-- The component that this node expands. -/
  identifier? : Option String := none
  truncation? : Option Truncation := none
  deriving Inhabited

namespace SchemaNode

/-- The node of a primitive type. -/
def ofPrimitive (p : PrimitiveType) (format? : Option String := none) : SchemaNode :=
  { kind := .primitive p, format? := format? }

/-- Whether the node is a placeholder. -/
def isPlaceholder (n : SchemaNode) : Bool :=
  match n.kind with
  | .placeholder _ => true
  | _ => false

/-- Whether the node stands for another schema and must stay as it is. -/
def isShared (n : SchemaNode) : Bool :=
  match n.kind with
  | .placeholder _ | .reference _ => true
  | _ => false

/-- Whether the node is the schema of null. -/
def isNull (n : SchemaNode) : Bool :=
  match n.kind with
  | .null => true
  | _ => false

/-- The primitive type of a node that has one. -/
def primitive? (n : SchemaNode) : Option PrimitiveType :=
  match n.kind with
  | .primitive p => some p
  | _ => none

end SchemaNode

/-! ### Arenas -/

/-- The nodes of one generation, by number. -/
structure Arena where
  nodes : Array SchemaNode := #[]
  deriving Inhabited

namespace Arena

/-- The arena without nodes. -/
def empty : Arena := {}

/-- The number of nodes. -/
def size (a : Arena) : Nat := a.nodes.size

/-- A node by number. -/
def get? (a : Arena) (id : NodeId) : Option SchemaNode := a.nodes[id.index]?

/-- Adds a node; its number is the number of nodes before. -/
def push (a : Arena) (n : SchemaNode) : NodeId × Arena :=
  (⟨a.size⟩, { a with nodes := a.nodes.push n })

/-- Changes a node; an unknown number changes nothing. -/
def modify (a : Arena) (id : NodeId) (f : SchemaNode → SchemaNode) : Arena :=
  { a with nodes := a.nodes.modify id.index f }

/-- Whether a node is a placeholder or a reference. -/
def isShared (a : Arena) (id : NodeId) : Bool := (a.get? id).any (·.isShared)

/-- Whether a node is the schema of null. -/
def isNull (a : Arena) (id : NodeId) : Bool := (a.get? id).any (·.isNull)

/-- The placeholders with their numbers, in order of creation. -/
def placeholders (a : Arena) : List (NodeId × Placeholder) :=
  a.nodes.toList.zipIdx.filterMap fun (n, i) =>
    match n.kind with
    | .placeholder p => some (⟨i⟩, p)
    | _ => none

end Arena

end TypeSchema
