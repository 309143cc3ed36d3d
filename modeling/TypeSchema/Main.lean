import TypeSchema.CommandLine.Execution

/-!
# The program

Reads the variables and the files that a command names, executes it, and prints or saves its result.
Mistakes in the arguments end the program with the status 2, all others with 1.
-/

namespace TypeSchema.CommandLine

/-- The text at a path, if there is a readable one. -/
def readText? (path : String) : IO (Option String) :=
  try return some (← IO.FS.readFile path) catch _ => return none

/-- What a command sees: the variables, and the files that it names. -/
def surroundings (source : Source) : IO Surroundings := do
  let values ← Config.variableNames.mapM fun name => return (name, ← IO.getEnv name)
  let texts ← (source.types :: source.config?.toList).mapM fun path =>
    return (path, ← readText? path)
  return ⟨fun name => (values.lookup name).join, fun path => (texts.lookup path).join⟩

/-- Reports a failure; the status of the program. -/
def report (e : Failure) : IO UInt32 := do
  IO.eprintln ("Error: " ++ e.message)
  return 1

/-- Prints or saves a result; the status of the program. -/
def deliver : Output → IO UInt32
  | .print text => do
    IO.print text
    return 0
  | .save path text =>
    try
      IO.FS.writeFile path text
      return 0
    catch _ => report (.unwritableDocument path)

end TypeSchema.CommandLine

open TypeSchema.CommandLine

def main (args : List String) : IO UInt32 := do
  match Command.ofArguments args with
  | .error .displayHelp =>
    IO.println "Compile type graphs into OpenAPI schema documents"
    return 0
  | .error e =>
    IO.eprintln ("error: " ++ e.name)
    return 2
  | .ok command =>
    match command.execute (← surroundings command.source) with
    | .error e => report e
    | .ok output => deliver output
