import TypeSchema.Schema.Node

/-!
# Rendering schemas

A node is rendered as a JSON object with one field for each keyword that it carries. A reference is
rendered as a `$ref` and a placeholder as an `x-placeholder`, with a `$ref` if it has an identifier;
neither has any other keyword.

Rendering follows the edges of an arena down to its leaves. On an arena without cycles no path is
longer than the number of nodes, and this number is the limit it is given.
-/

namespace TypeSchema

/-- What a component's identifier is appended to in a `$ref`. -/
def componentRef (identifier : String) : Json := .string ("#/components/schemas/" ++ identifier)

namespace SchemaNode

/-- A field for a number that is there. -/
def numberField (key : String) (n? : Option Nat) : List (String × Json) :=
  Json.optionalField key (n?.map Json.ofNat)

/-- The names of the keywords for length bounds: those of arrays count items. -/
def lengthKeys (n : SchemaNode) : String × String :=
  if n.primitive? = some .array then ("minItems", "maxItems") else ("minLength", "maxLength")

/-- The fields of a node that is no stand-in, given how its children are rendered. -/
def keywordFields (n : SchemaNode) (child : NodeId → Json) : List (String × Json) :=
  Json.optionalField "format" (n.format?.map .string)
  ++ (if n.nullable then [("nullable", .bool true)] else [])
  ++ (if n.enumValues.isEmpty then [] else [("enum", .array n.enumValues)])
  ++ (if n.properties.isEmpty then []
      else [("properties", Json.ofMap (n.properties.mapValues child))])
  ++ (if n.required.isEmpty then [] else [("required", Json.ofStrings n.required.keys)])
  ++ Json.optionalField "items" (n.items?.map child)
  ++ Json.optionalField "additionalProperties" (n.additional?.map child)
  ++ Json.optionalField "minimum" (n.keywords.minimum.map Json.ofBound)
  ++ Json.optionalField "maximum" (n.keywords.maximum.map Json.ofBound)
  ++ numberField n.lengthKeys.1 n.keywords.minLength
  ++ numberField n.lengthKeys.2 n.keywords.maxLength
  ++ Json.optionalField "pattern" (n.keywords.pattern.map .string)
  ++ Json.optionalField "example" n.example?
  ++ Json.optionalField "x-schema-id" (n.identifier?.map .string)
  ++ Json.optionalField "x-virtualized" (n.truncation?.map fun t =>
      Json.ofFields [("total", Json.ofNat t.total), ("truncated", Json.ofNat t.dropped)])

/-- A node, given how its children are rendered. -/
def render (n : SchemaNode) (child : NodeId → Json) : Json :=
  match n.kind with
  | .placeholder p =>
    Json.ofFields (("x-placeholder",
      Json.ofFields [("type", .string p.typeName), ("reason", .string p.reason.name)])
      :: Json.optionalField "$ref" (p.identifier?.map componentRef))
  | .reference r => Json.ofFields [("$ref", componentRef r.identifier)]
  | .primitive p => Json.ofFields (("type", .string p.name) :: n.keywordFields child)
  | .null => Json.ofFields (("type", .string "null") :: n.keywordFields child)
  | .anyOf ids => Json.ofFields (("anyOf", .array (ids.map child)) :: n.keywordFields child)
  | .oneOf ids => Json.ofFields (("oneOf", .array (ids.map child)) :: n.keywordFields child)
  | .allOf ids => Json.ofFields (("allOf", .array (ids.map child)) :: n.keywordFields child)

end SchemaNode

namespace Arena

/-- Renders a node down to a number of levels; what lies deeper, and an unknown node, is the
schema without keywords. -/
def renderTo (a : Arena) : (levels : Nat) → NodeId → Json
  | 0, _ => .object []
  | levels + 1, id =>
    match a.get? id with
    | some n => n.render (a.renderTo levels)
    | none => .object []

/-- Renders a node. -/
def render (a : Arena) (id : NodeId) : Json := a.renderTo a.size id

end Arena

end TypeSchema
