import TypeSchema.Diagnostic.Event
import TypeSchema.Graph.Enumeration
import TypeSchema.Schema.Node
import TypeSchema.Text.Words

/-!
# Encoding enumerations

An enumeration becomes the list of its member names, under a naming policy, or of its values. Values
beyond signed 64-bit integers are written as texts instead. A list longer than a limit is cut, and
the node says by how much.
-/

namespace TypeSchema

/-- What the literals of an enumeration are. -/
inductive EnumMode where
  /-- Member names. -/
  | string
  /-- Member values. -/
  | integer
  deriving DecidableEq, Repr, Inhabited

namespace EnumMode

/-- The word for a mode. -/
def name : EnumMode → String
  | string => "string"
  | integer => "integer"

/-- The mode of its own word. -/
def ofName? (name : String) : Option EnumMode :=
  match name with
  | "string" => some string
  | "integer" => some integer
  | _ => none

/-- The mode of a word, in any case of its ASCII letters. -/
def parse? (s : String) : Option EnumMode :=
  match Text.asciiLower s with
  | "string" | "name" | "names" => some string
  | "integer" | "int" | "numeric" => some integer
  | _ => none

end EnumMode

/-- How member names are written. -/
inductive NamingPolicy where
  | preserve
  | camel
  | pascal
  | snake
  | kebab
  | screamingSnake
  deriving DecidableEq, Repr, Inhabited

namespace NamingPolicy

/-- The word for a policy. -/
def name : NamingPolicy → String
  | preserve => "preserve"
  | camel => "camel"
  | pascal => "pascal"
  | snake => "snake"
  | kebab => "kebab"
  | screamingSnake => "screaming_snake"

/-- The policy of its own word. -/
def ofName? (name : String) : Option NamingPolicy :=
  match name with
  | "preserve" => some preserve
  | "camel" => some camel
  | "pascal" => some pascal
  | "snake" => some snake
  | "kebab" => some kebab
  | "screaming_snake" => some screamingSnake
  | _ => none

/-- The policy of a word or one of its variants, in any case of its ASCII letters. -/
def parse? (s : String) : Option NamingPolicy :=
  match Text.asciiLower s with
  | "preserve" | "none" => some preserve
  | "camel" | "camelcase" => some camel
  | "pascal" | "pascalcase" => some pascal
  | "snake" | "snake_case" => some snake
  | "kebab" | "kebab-case" => some kebab
  | "screaming" | "screaming_snake" | "screaming-snake" | "shouty" => some screamingSnake
  | _ => none

/-- A name under a policy. -/
def apply (p : NamingPolicy) (name : String) : String :=
  let ws := Text.words name
  match p with
  | preserve => name
  | camel =>
    match ws with
    | [] => ""
    | w :: rest => Text.joinWords "" (Text.lowerWord w :: rest.map Text.capitalized)
  | pascal => Text.joinWords "" (ws.map Text.capitalized)
  | snake => Text.joinWords "_" (ws.map Text.lowerWord)
  | kebab => Text.joinWords "-" (ws.map Text.lowerWord)
  | screamingSnake => Text.joinWords "_" (ws.map Text.upperWord)

end NamingPolicy

/-- How enumerations are encoded. -/
structure EnumEncoding where
  mode : EnumMode
  /-- The greatest number of literals; zero is no limit. -/
  threshold : Nat
  naming : NamingPolicy
  /-- Renames members in place of the naming policy. -/
  renamer? : Option (String → String) := none

namespace EnumEncoding

/-- The literal for a member name. -/
def rename (enc : EnumEncoding) (name : String) : String :=
  match enc.renamer? with
  | some f => f name
  | none => enc.naming.apply name

/-- The format of integer literals: 64 bits if the representation is wide and some value needs
them. -/
def integerFormat (repr : IntegerRepr) (e : Enumeration) : String :=
  if repr.isWide && e.members.any (fun m => !fitsSigned 32 m.value) then "int64" else "int32"

/-- The first member of an unsigned representation that no signed 64-bit integer holds. -/
def overflowing? (repr : IntegerRepr) (e : Enumeration) : Option EnumMember :=
  if repr.isSigned then none else e.members.find? (fun m => !fitsSigned 64 m.value)

/-- The report of a value beyond signed 64-bit integers. -/
def overflowEvent (typeName : String) (m : EnumMember) : DiagnosticEvent :=
  .withFields .warn .enumOverflow
    ("enum '" ++ typeName ++ "' member '" ++ m.name ++ "' = " ++ toString m.value
      ++ " does not fit a signed 64-bit integer; emitting string literals")
    [("type", .string typeName), ("member", .string m.name),
      ("value", .string (toString m.value))]

/-- The report of a list that was cut. -/
def truncationEvent (typeName : String) (total kept : Nat) : DiagnosticEvent :=
  .withFields .info .enumVirtualized
    ("enum '" ++ typeName ++ "' has " ++ toString total ++ " members; kept " ++ toString kept
      ++ " and dropped " ++ toString (total - kept))
    [("type", .string typeName), ("total", Json.ofNat total),
      ("truncated", Json.ofNat (total - kept))]

/-- The node of an enumeration with all its literals. -/
def complete (enc : EnumEncoding) (typeName : String) (e : Enumeration) :
    SchemaNode × List DiagnosticEvent :=
  match enc.mode with
  | .string =>
    ({ SchemaNode.ofPrimitive .string with
        enumValues := e.members.map fun m => .string (enc.rename m.name) }, [])
  | .integer =>
    let repr := e.effectiveRepr
    match overflowing? repr e with
    | some m =>
      ({ SchemaNode.ofPrimitive .string with
          enumValues := e.members.map fun m => .string (toString m.value) },
        [overflowEvent typeName m])
    | none =>
      ({ SchemaNode.ofPrimitive .integer (integerFormat repr e) with
          enumValues :=
            (e.members.filter fun m => fitsSigned 64 m.value).map fun m => .int m.value },
        [])

/-- Cuts the literals of a node to the limit. -/
def truncate (enc : EnumEncoding) (typeName : String) (n : SchemaNode) :
    SchemaNode × List DiagnosticEvent :=
  let total := n.enumValues.length
  if 0 < enc.threshold ∧ enc.threshold < total then
    ({ n with
        enumValues := n.enumValues.take enc.threshold
        truncation? := some ⟨total, total - enc.threshold⟩ },
      [truncationEvent typeName total enc.threshold])
  else (n, [])

/-- The node of an enumeration, and what is reported about it. -/
def encode (enc : EnumEncoding) (typeName : String) (e : Enumeration) :
    SchemaNode × List DiagnosticEvent :=
  let (n, overflow) := enc.complete typeName e
  let (n, truncation) := enc.truncate typeName n
  (n, overflow ++ truncation)

end EnumEncoding

end TypeSchema
