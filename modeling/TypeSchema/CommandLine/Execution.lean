import TypeSchema.CommandLine.Arguments
import TypeSchema.Config.Environment
import TypeSchema.Config.File
import TypeSchema.Generation.Document
import TypeSchema.GraphFile.Build
import TypeSchema.GraphFile.JsonFormat
import TypeSchema.GraphFile.YamlFormat
import TypeSchema.Pattern.Validity
import TypeSchema.Yaml.Writer

/-!
# Execution

A command sees the variables and the texts of files, and its result is a text that is printed or
saved. Saving is left to the caller, so executing is a function. The configuration is read first,
then the type graph, then the roots are looked up; the first mistake ends the execution.
-/

namespace TypeSchema

/-- The generator of a configuration, and the reports of registering its overrides. A command takes
no notice of how long examples take, so only a budget of zero is ever spent. -/
def Generator.ofConfig (c : Config) : Generator × List DiagnosticEvent :=
  Generator.register Pattern.isValid .still c

namespace CommandLine

/-- What a command sees. -/
structure Surroundings where
  environment : Environment
  /-- The text at a path, if there is a readable one. -/
  textAt? : String → Option String

/-- What is to be done with a result. -/
inductive Output where
  | print (text : String)
  | save (path text : String)
  deriving DecidableEq, Repr, Inhabited

/-- Why a command has no result. -/
inductive Failure where
  | unreadableConfig (path : String)
  | invalidConfig (path : String)
  | unsupportedVersion (version : String)
  | unreadableGraph (path : String)
  | invalidGraph (path : String)
  | unbuildableGraph (path : String) (cause : GraphFile.BuildError)
  | unknownRoot (name : String)
  | failedGeneration (path : String) (cause : GenerationError)
  | unwritableDocument (path : String)

/-- The text of a failure: what failed, and behind a colon its cause. -/
def Failure.message : Failure → String
  | unreadableConfig path => "Failed to read generator config: " ++ path
  | invalidConfig path =>
    "Failed to parse generator config: " ++ path ++ ": invalid generator config"
  | unsupportedVersion version => "unsupported OpenAPI version '" ++ version ++ "'"
  | unreadableGraph path => "Failed to read type graph: " ++ path
  | invalidGraph path =>
    "Failed to parse type graph: " ++ path ++ ": invalid type graph document"
  | unbuildableGraph path cause =>
    "Failed to build type graph: " ++ path ++ ": " ++ cause.message
  | unknownRoot name => "unknown root type '" ++ name ++ "'"
  | failedGeneration path cause =>
    "Failed to generate schemas from " ++ path ++ ": " ++ cause.message
  | unwritableDocument path => "Failed to write document: " ++ path

/-! ### Paths -/

/-- The parts of a path: what stands between its slashes, without the empty parts and the dots that
stand for the directory itself. -/
def pathParts (path : String) : List String :=
  (path.splitOn "/").filter fun part => part ≠ "" && part ≠ "."

/-- The extension of a file name: what follows its last dot, unless nothing precedes that dot. -/
def extension? (name : String) : Option String :=
  if name = ".." then none
  else
    let cs := name.toList.reverse
    match cs.dropWhile (· ≠ '.') with
    | _ :: _ :: _ => some (String.ofList (cs.takeWhile (· ≠ '.')).reverse)
    | _ => none

/-- Whether a path is that of a JSON file; all others are read as YAML. -/
def isJsonPath (path : String) : Bool :=
  ((pathParts path).getLast?.bind extension?) == some "json"

/-! ### Inputs -/

/-- The configuration without the options: that of the file, or that of the variables. -/
def baseConfig (s : Surroundings) (source : Source) : Except Failure Config :=
  match source.config? with
  | none => .ok (Config.ofEnvironment s.environment)
  | some path =>
    match s.textAt? path with
    | none => .error (.unreadableConfig path)
    | some text =>
      match Config.ofToml? text with
      | some c => .ok c
      | none => .error (.invalidConfig path)

/-- The configuration in which the options replace settings. -/
def config (s : Surroundings) (source : Source) : Except Failure Config := do
  let c ← baseConfig s source
  let c ← match source.specVersion? with
    | none => pure c
    | some version =>
      match OpenApiVersion.parse? version with
      | some version => pure { c with version }
      | none => throw (.unsupportedVersion version)
  let c := source.maxDepth?.elim c c.withMaxDepth
  return if source.noExamples then { c with synthesizeExamples := false } else c

/-- The type graph of a file. -/
def loadGraph (s : Surroundings) (path : String) : Except Failure GraphFile.LoadedGraph :=
  match s.textAt? path with
  | none => .error (.unreadableGraph path)
  | some text =>
    match if isJsonPath path then GraphFile.ofJson? text else GraphFile.ofYaml? text with
    | none => .error (.invalidGraph path)
    | some entries => (GraphFile.build entries).mapError (.unbuildableGraph path)

/-- The types of some names, or all declared ones without any. -/
def rootTypes (l : GraphFile.LoadedGraph) (names : List String) : Except Failure (List TypeId) :=
  if names.isEmpty then .ok (l.declared.map (·.type))
  else
    names.mapM fun name =>
      match l.find? name with
      | some ty => .ok ty
      | none => .error (.unknownRoot name)

/-! ### Results -/

/-- The document of a source, and the registry with the identifiers in it. -/
def generateFrom (s : Surroundings) (source : Source) :
    Except Failure (SchemaDocument × Registry) := do
  let c ← config s source
  let l ← loadGraph s source.types
  let roots ← rootTypes l source.roots
  let (gen, events) := Generator.ofConfig c
  match generateDocument gen l.graph roots { events } with
  | .ok d w => return (d, w.registry)
  | .error e _ => throw (.failedGeneration source.types e)

/-- A text that ends its last line. -/
def endLine (s : String) : String := if s.toList.getLast? = some '\n' then s else s ++ "\n"

/-- A document as a text. -/
def OutputFormat.write (format : OutputFormat) (d : SchemaDocument) : String :=
  match format with
  | .json => endLine d.toJson.pretty
  | .yaml => endLine d.toJson.toYaml

/-- The identifiers in order, each with the type it was given to on a line of its own. -/
def identifierLines (r : Registry) : String :=
  String.join (r.assigned.toList.map fun (id, identity) => id ++ "\t" ++ identity ++ "\n")

/-- Executes a command. -/
def Command.execute (s : Surroundings) : Command → Except Failure Output
  | .generate source format output? => do
    let (d, _) ← generateFrom s source
    return match output? with
      | some path => .save path (format.write d)
      | none => .print (format.write d)
  | .fingerprint source => do
    let (d, _) ← generateFrom s source
    return .print (d.fingerprint ++ "\n")
  | .ids source => do
    let (_, r) ← generateFrom s source
    return .print (identifierLines r)

end CommandLine

end TypeSchema
