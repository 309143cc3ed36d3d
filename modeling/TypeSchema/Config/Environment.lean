import TypeSchema.Config.Basic
import TypeSchema.Number.Bounds
import TypeSchema.Text.Numeral

/-!
# Configuration from variables

Each setting has a variable. One that is not set, or whose text is not understood, leaves the
setting at its default.
-/

namespace TypeSchema

/-- What variables are set to. -/
abbrev Environment := String → Option String

/-- The truth value of a word, blanks around it and the case of its letters aside. -/
def truthOf? (s : String) : Option Bool :=
  match Text.asciiLower (Text.trimBlank s) with
  | "1" | "true" | "yes" | "on" => some true
  | "0" | "false" | "no" | "off" => some false
  | _ => none

/-- A number of at most 64 bits, blanks around it aside. -/
def countOf? (s : String) : Option Nat := Text.readUnsigned? (unsignedMax 64) (Text.trimBlank s)

namespace Config

/-- The value of a variable, if it is set and understood. -/
def setting? {α : Type} (env : Environment) (name : String) (read : String → Option α) :
    Option α :=
  (env ("SCHEMAFORGE_" ++ name)).bind read

/-- The names of the variables. -/
def variableNames : List String :=
  ["SPEC_VERSION", "MAX_DEPTH", "ENUM_THRESHOLD", "OBJECT_MEMBER_THRESHOLD", "EXAMPLE_BUDGET_MS",
    "ENUM_MODE", "ENUM_NAMING", "SYNTHESIZE_EXAMPLES"].map ("SCHEMAFORGE_" ++ ·)

/-- The configuration that the variables describe. -/
def ofEnvironment (env : Environment) : Config :=
  let c : Config := {}
  { c with
    version := (setting? env "SPEC_VERSION" OpenApiVersion.parse?).getD c.version
    maxDepth := (setting? env "MAX_DEPTH" countOf?).elim c.maxDepth (max 1)
    enumThreshold := (setting? env "ENUM_THRESHOLD" countOf?).getD c.enumThreshold
    memberThreshold? := setting? env "OBJECT_MEMBER_THRESHOLD" countOf?
    exampleBudget := (setting? env "EXAMPLE_BUDGET_MS" countOf?).getD c.exampleBudget
    enumMode := (setting? env "ENUM_MODE" EnumMode.parse?).getD c.enumMode
    enumNaming := (setting? env "ENUM_NAMING" NamingPolicy.parse?).getD c.enumNaming
    synthesizeExamples :=
      (setting? env "SYNTHESIZE_EXAMPLES" truthOf?).getD c.synthesizeExamples }

end Config

/-! ### Logging -/

/-- Settings of the log. -/
structure LogConfig where
  level : String := "info"
  json : Bool := false
  targetFilter? : Option String := none
  includeLocation : Bool := false
  deriving Inhabited

namespace LogConfig

/-- Whether a format's name is that of JSON lines, in any case; other names are those of plain
text. -/
def isJsonFormat (s : String) : Bool := Text.asciiLower s == "json"

/-- The truth value of the exact words. -/
def exactTruth? (s : String) : Option Bool :=
  match s with
  | "true" => some true
  | "false" => some false
  | _ => none

/-- The settings that the variables describe. -/
def ofEnvironment (env : Environment) : LogConfig where
  level := (env "SCHEMAFORGE_LOG_LEVEL").getD "info"
  json := (env "SCHEMAFORGE_LOG_FORMAT").any isJsonFormat
  targetFilter? := env "SCHEMAFORGE_LOG_TARGET_FILTER"
  includeLocation := ((env "SCHEMAFORGE_LOG_INCLUDE_LOCATION").bind exactTruth?).getD false

end LogConfig

end TypeSchema
