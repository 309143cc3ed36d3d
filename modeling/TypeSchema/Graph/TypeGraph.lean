import TypeSchema.Graph.Shape
import TypeSchema.SortedMap

/-!
# Type graphs

A graph holds the descriptors of its types; the number of a type is its position. It also holds the
number of each identity. Scalars, wrappers, collections and named types are interned by identity:
asking for a type a second time gives the type that is there, and a type that is new is entered in
both places. A named type is declared first, as an object without fields, and defined later, so that
types may refer to themselves and to each other.
-/

namespace TypeSchema

/-- Types by number, and their numbers by identity. -/
structure TypeGraph where
  types : Array TypeDescriptor := #[]
  byIdentity : SortedMap TypeId := {}
  deriving Inhabited

namespace TypeGraph

/-- The graph without types. -/
def empty : TypeGraph := {}

/-- The number of types. -/
def size (g : TypeGraph) : Nat := g.types.size

/-- The descriptor of a type; `none` if the graph does not know it. -/
def describe? (g : TypeGraph) (ty : TypeId) : Option TypeDescriptor := g.types[ty.index]?

/-- The shape of a type. -/
def shape? (g : TypeGraph) (ty : TypeId) : Option Shape := (g.describe? ty).map (·.shape)

/-- The identity of a type. -/
def identity? (g : TypeGraph) (ty : TypeId) : Option String := (g.describe? ty).map (·.identity)

/-- The type that is entered under an identity. -/
def find? (g : TypeGraph) (identity : String) : Option TypeId := g.byIdentity.get? identity

/-- All types, in order of their numbers. -/
def ids (g : TypeGraph) : List TypeId := (List.range g.size).map TypeId.mk

/-! ### Identities -/

/-- The identity of a type, or a question mark and its number if it is not known. -/
def identityText (g : TypeGraph) (ty : TypeId) : String :=
  (g.identity? ty).getD ("?" ++ toString ty.index)

/-- The identity of a generic type with arguments, such as `app.Page<app.Widget>`. -/
def genericIdentity (g : TypeGraph) (outer : String) (args : List TypeId) : String :=
  if args.isEmpty then outer
  else outer ++ "<" ++ ",".intercalate (args.map g.identityText) ++ ">"

/-- The part of a list after the last occurrence of `sep`, or all of it; `tail` is the part that
begins where the search stands in a candidate. -/
def afterLast (sep : List Char) (tail : List Char) : List Char → List Char
  | [] => tail
  | c :: rest =>
    if sep.isPrefixOf (c :: rest) then afterLast sep ((c :: rest).drop sep.length) rest
    else afterLast sep tail rest

/-- The last part of a name qualified with `::` or `.`. -/
def simpleName (qualified : String) : String :=
  let tail := afterLast [':', ':'] qualified.toList qualified.toList
  String.ofList (afterLast ['.'] tail tail)

/-! ### Interning -/

/-- Adds a descriptor, and enters its type under its identity. -/
def add (g : TypeGraph) (d : TypeDescriptor) : TypeGraph where
  types := g.types.push d
  byIdentity := g.byIdentity.insert d.identity ⟨g.size⟩

/-- The type with the identity of a descriptor, which is added if there is none yet. -/
def intern (g : TypeGraph) (d : TypeDescriptor) : TypeId × TypeGraph :=
  match g.find? d.identity with
  | some ty => (ty, g)
  | none => (⟨g.size⟩, g.add d)

/-- A scalar type. -/
def scalar (g : TypeGraph) (kind : ScalarKind) : TypeId × TypeGraph :=
  g.intern { identity := kind.name, name := kind.name, shape := .scalar kind }

/-- The values of a type, or null. -/
def nullable (g : TypeGraph) (inner : TypeId) : TypeId × TypeGraph :=
  g.intern {
    identity := g.genericIdentity "Nullable" [inner], name := "Nullable", genericArgs := [inner],
    shape := .nullable inner }

/-- Arrays of a type. -/
def array (g : TypeGraph) (element : TypeId) : TypeId × TypeGraph :=
  g.intern {
    identity := g.identityText element ++ "[]", name := "Array", genericArgs := [element],
    shape := .array element }

/-- A generic abstraction with arguments. -/
def collection (g : TypeGraph) (kind : CollectionKind) (args : List TypeId) : TypeId × TypeGraph :=
  g.intern {
    identity := g.genericIdentity kind.name args, name := kind.name, genericArgs := args,
    shape := .collection kind args }

/-- Entries of a map. -/
def pair (g : TypeGraph) (key value : TypeId) : TypeId × TypeGraph :=
  g.intern {
    identity := g.genericIdentity "KeyValuePair" [key, value], name := "KeyValuePair",
    genericArgs := [key, value], shape := .pair key value }

/-- A named type with generic arguments; a new one is an object without fields. -/
def declareGeneric (g : TypeGraph) (qualified : String) (args : List TypeId) : TypeId × TypeGraph :=
  g.intern {
    identity := g.genericIdentity qualified args, name := simpleName qualified, genericArgs := args,
    shape := .object {} }

/-- A named type; a new one is an object without fields. -/
def declare (g : TypeGraph) (qualified : String) : TypeId × TypeGraph :=
  g.declareGeneric qualified []

/-! ### Defining -/

/-- Changes the descriptor of a type; an unknown type changes nothing. -/
def modify (g : TypeGraph) (ty : TypeId) (f : TypeDescriptor → TypeDescriptor) : TypeGraph :=
  { g with types := g.types.modify ty.index f }

/-- Whether the graph knows a type. -/
def knows (g : TypeGraph) (ty : TypeId) : Bool := ty.index < g.size

/-- Replaces the shape of a type. -/
def define (g : TypeGraph) (ty : TypeId) (shape : Shape) : TypeGraph :=
  g.modify ty ({ · with shape })

/-- Replaces the constraints of a type. -/
def setConstraints (g : TypeGraph) (ty : TypeId) (constraints : List Constraint) : TypeGraph :=
  g.modify ty ({ · with constraints })

/-- Sets the declared example of a type. -/
def setExample (g : TypeGraph) (ty : TypeId) (v : Json) : TypeGraph :=
  g.modify ty ({ · with example? := some v })

/-- Changes the display name of a type; its identity stays. -/
def rename (g : TypeGraph) (ty : TypeId) (name : String) : TypeGraph :=
  g.modify ty ({ · with name })

/-- A named type, declared and defined at once. -/
def declareAs (g : TypeGraph) (qualified : String) (shape : Shape) : TypeId × TypeGraph :=
  let (ty, g) := g.declare qualified
  (ty, g.define ty shape)

/-- A named scalar of unknown kind. -/
def opaqueScalar (g : TypeGraph) (qualified : String) : TypeId × TypeGraph :=
  g.declareAs qualified (.scalar (.other (simpleName qualified)))

end TypeGraph

end TypeSchema
