import TypeSchema.Guard
import TypeSchema.Schema.EnumEncoding
import TypeSchema.Schema.Example
import TypeSchema.Schema.Nullability
import TypeSchema.Schema.ScalarMapping
import TypeSchema.Text.Blank

/-!
# Configuration

What a generation can be told: the OpenAPI version, limits, how enumerations are written, overrides
of scalars and whether components get examples.
-/

namespace TypeSchema

/-- The OpenAPI version of a document. -/
inductive OpenApiVersion where
  | v30
  | v31
  deriving DecidableEq, Repr, Inhabited

namespace OpenApiVersion

/-- The version of a text such as `3.0` or `3.0.3`, blanks around it aside. -/
def parse? (s : String) : Option OpenApiVersion :=
  let s := Text.trimBlank s
  if s = "3.0" ∨ s.startsWith "3.0." then some v30
  else if s = "3.1" ∨ s.startsWith "3.1." then some v31
  else none

/-- The short name of a version. -/
def name : OpenApiVersion → String
  | v30 => "3.0"
  | v31 => "3.1"

/-- The version that a document states. -/
def documentVersion : OpenApiVersion → String
  | v30 => "3.0.3"
  | v31 => "3.1.0"

/-- How null is admitted. -/
def nullEncoding : OpenApiVersion → NullEncoding
  | v30 => .flag
  | v31 => .union

end OpenApiVersion

/-- The greatest number of literals where none is configured. -/
def defaultEnumThreshold : Nat := 256

/-- A configuration. -/
structure Config where
  version : OpenApiVersion := .v31
  /-- How many expansions may be open. -/
  maxDepth : Nat := defaultMaxDepth
  /-- The greatest number of literals of an enumeration; zero is no limit. -/
  enumThreshold : Nat := defaultEnumThreshold
  /-- The greatest number of fields of an object. -/
  memberThreshold? : Option Nat := none
  /-- Milliseconds for each example. -/
  exampleBudget : Nat := defaultExampleBudget
  enumMode : EnumMode := .string
  enumNaming : NamingPolicy := .preserve
  /-- Renames enumeration members in place of the policy. -/
  enumRenamer? : Option (String → String) := none
  overrides : Overrides := SortedMap.empty
  /-- Whether the components of a document get examples. -/
  synthesizeExamples : Bool := true
  deriving Inhabited

namespace Config

/-- Sets the limit on open expansions, which is at least one. -/
def withMaxDepth (c : Config) (depth : Nat) : Config := { c with maxDepth := max 1 depth }

/-- How null is admitted. -/
def nullEncoding (c : Config) : NullEncoding := c.version.nullEncoding

/-- How enumerations are encoded. -/
def enumEncoding (c : Config) : EnumEncoding :=
  ⟨c.enumMode, c.enumThreshold, c.enumNaming, c.enumRenamer?⟩

end Config

end TypeSchema
