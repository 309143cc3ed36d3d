import TypeSchema.Number.Bounds
import TypeSchema.Text.Numeral

/-!
# Arguments

The first argument is a command, and the others are its options. The value of an option is its next
argument, unless that looks like an option, or follows an equals sign; after the letter of an option
it may follow directly. An option's value is checked when the next option is met or the arguments
end, so of two mistakes not always the first one is reported.
-/

namespace TypeSchema.CommandLine

/-! ### Commands -/

/-- How a document is written. -/
inductive OutputFormat where
  | json
  | yaml
  deriving DecidableEq, Repr, Inhabited

/-- The format of its own word. -/
def OutputFormat.ofName? (name : String) : Option OutputFormat :=
  match name with
  | "json" => some json
  | "yaml" => some yaml
  | _ => none

/-- What all commands read. -/
structure Source where
  /-- The path of the type graph file. -/
  types : String
  /-- The names of the root types; without any, all declared types are roots. -/
  roots : List String := []
  /-- The path of the configuration file; without one, the environment is read. -/
  config? : Option String := none
  specVersion? : Option String := none
  maxDepth? : Option Nat := none
  noExamples : Bool := false
  deriving DecidableEq, Repr, Inhabited

/-- A command. -/
inductive Command where
  /-- Write the document, to a file if a path is given. -/
  | generate (source : Source) (format : OutputFormat) (output? : Option String)
  /-- Write the document's fingerprint. -/
  | fingerprint (source : Source)
  /-- Write the identifiers and the types they were given to. -/
  | ids (source : Source)
  deriving DecidableEq, Repr, Inhabited

/-- What a command reads. -/
def Command.source : Command → Source
  | generate source _ _ | fingerprint source | ids source => source

/-- Why arguments are no command. -/
inductive UsageError where
  | displayHelp
  | displayHelpOnMissingArgumentOrSubcommand
  | invalidSubcommand
  | unknownArgument
  | invalidValue
  | valueValidation
  | tooManyValues
  | argumentConflict
  | missingRequiredArgument
  deriving DecidableEq, Repr

/-- The name of an error. -/
def UsageError.name : UsageError → String
  | displayHelp => "DisplayHelp"
  | displayHelpOnMissingArgumentOrSubcommand => "DisplayHelpOnMissingArgumentOrSubcommand"
  | invalidSubcommand => "InvalidSubcommand"
  | unknownArgument => "UnknownArgument"
  | invalidValue => "InvalidValue"
  | valueValidation => "ValueValidation"
  | tooManyValues => "TooManyValues"
  | argumentConflict => "ArgumentConflict"
  | missingRequiredArgument => "MissingRequiredArgument"

/-! ### Options -/

/-- The name of a command. -/
inductive CommandName where
  | generate
  | fingerprint
  | ids
  deriving DecidableEq, Repr

/-- The command of a word. -/
def CommandName.ofName? (name : String) : Option CommandName :=
  match name with
  | "generate" => some generate
  | "fingerprint" => some fingerprint
  | "ids" => some ids
  | _ => none

/-- An option. -/
inductive OptionName where
  | types
  | root
  | config
  | specVersion
  | maxDepth
  | noExamples
  | format
  | output
  | help
  deriving DecidableEq, Repr

namespace OptionName

/-- All options. -/
def all : List OptionName :=
  [types, root, config, specVersion, maxDepth, noExamples, format, output, help]

/-- The word of an option. -/
def word : OptionName → String
  | types => "types"
  | root => "root"
  | config => "config"
  | specVersion => "spec-version"
  | maxDepth => "max-depth"
  | noExamples => "no-examples"
  | format => "format"
  | output => "output"
  | help => "help"

/-- The letter of an option, if it has one. -/
def letter? : OptionName → Option Char
  | types => some 't'
  | root => some 'r'
  | config => some 'c'
  | output => some 'o'
  | help => some 'h'
  | _ => none

/-- Whether an option has a value. -/
def hasValue : OptionName → Bool
  | noExamples | help => false
  | _ => true

/-- Whether a command knows an option. -/
def isOf (command : CommandName) : OptionName → Bool
  | format | output => command = .generate
  | _ => true

/-- The option of a word. -/
def ofWord? (command : CommandName) (word : String) : Option OptionName :=
  all.find? fun o => o.isOf command && o.word == word

/-- The option of a letter. -/
def ofLetter? (command : CommandName) (letter : Char) : Option OptionName :=
  all.find? fun o => o.isOf command && o.letter? == some letter

end OptionName

/-- The values of the options that were given. -/
structure Given where
  types? : Option String := none
  roots : List String := []
  config? : Option String := none
  specVersion? : Option String := none
  maxDepth? : Option Nat := none
  noExamples : Bool := false
  format? : Option OutputFormat := none
  output? : Option String := none
  deriving DecidableEq, Repr, Inhabited

namespace Given

/-- Sets a value that was not set before. -/
def once {α β : Type} (old? : Option α) (read : Except UsageError α) (set : α → β) :
    Except UsageError β :=
  match old? with
  | some _ => .error .argumentConflict
  | none => read.map set

/-- A path, which is not empty. -/
def path (v : String) : Except UsageError String :=
  if v.isEmpty then .error .invalidValue else .ok v

/-- A number of 64 bits. -/
def number (v : String) : Except UsageError Nat :=
  match Text.readUnsigned? (unsignedMax 64) v with
  | some n => .ok n
  | none => .error .valueValidation

/-- A format. -/
def formatOf (v : String) : Except UsageError OutputFormat :=
  match OutputFormat.ofName? v with
  | some f => .ok f
  | none => .error .invalidValue

/-- Takes an option with its value. -/
def take (g : Given) (o : OptionName) (v : String) : Except UsageError Given :=
  match o with
  | .types => once g.types? (path v) fun x => { g with types? := some x }
  | .root => .ok { g with roots := g.roots ++ [v] }
  | .config => once g.config? (path v) fun x => { g with config? := some x }
  | .specVersion => once g.specVersion? (.ok v) fun x => { g with specVersion? := some x }
  | .maxDepth => once g.maxDepth? (number v) fun x => { g with maxDepth? := some x }
  | .format => once g.format? (formatOf v) fun x => { g with format? := some x }
  | .output => once g.output? (path v) fun x => { g with output? := some x }
  | .noExamples | .help => .error .tooManyValues

/-- Takes an option without a value. -/
def takeFlag (g : Given) (o : OptionName) : Except UsageError Given :=
  match o with
  | .help => .error .displayHelp
  | .noExamples =>
    if g.noExamples then .error .argumentConflict else .ok { g with noExamples := true }
  | _ => .error .invalidValue

/-- The options that all commands have. -/
def source (g : Given) : Except UsageError Source :=
  match g.types? with
  | none => .error .missingRequiredArgument
  | some types =>
    .ok ⟨types, g.roots, g.config?, g.specVersion?, g.maxDepth?, g.noExamples⟩

/-- The command with its options. -/
def command (g : Given) (name : CommandName) : Except UsageError Command :=
  g.source.map fun source =>
    match name with
    | .generate => .generate source (g.format?.getD .json) g.output?
    | .fingerprint => .fingerprint source
    | .ids => .ids source

end Given

/-! ### Reading -/

/-- Options that were read, and the last one if it is not taken yet: it still waits for its value,
or the value waits for what follows. -/
structure Reading where
  given : Given := {}
  last? : Option (OptionName × Option String) := none

namespace Reading

/-- Takes the last option. -/
def settle (r : Reading) : Except UsageError Given :=
  match r.last? with
  | none => .ok r.given
  | some (_, none) => .error .invalidValue
  | some (o, some v) => r.given.take o v

/-- An option whose value is to follow, if it has one. -/
def option (r : Reading) (o : OptionName) : Except UsageError Reading :=
  r.settle.bind fun g =>
    if o.hasValue then .ok ⟨g, some (o, none)⟩ else (g.takeFlag o).map (⟨·, none⟩)

/-- An option with its value. -/
def optionWith (r : Reading) (o : OptionName) (v : String) : Except UsageError Reading :=
  if o.hasValue then r.settle.bind fun g => (g.take o v).map (⟨·, none⟩)
  else .error .tooManyValues

/-- Options by their words. -/
def long (r : Reading) (command : CommandName) (cs : List Char) : Except UsageError Reading :=
  let word := String.ofList (cs.takeWhile (· ≠ '='))
  match OptionName.ofWord? command word with
  | none => .error .unknownArgument
  | some o =>
    match cs.dropWhile (· ≠ '=') with
    | _ :: v => r.optionWith o (String.ofList v)
    | [] => r.option o

/-- Options by their letters, and a value behind the last one. -/
def short (r : Reading) (command : CommandName) : List Char → Except UsageError Reading
  | [] => .ok r
  | c :: rest =>
    match OptionName.ofLetter? command c with
    | none => .error .unknownArgument
    | some o =>
      if o.hasValue then
        match rest with
        | [] => r.option o
        | '=' :: v => r.optionWith o (String.ofList v)
        | v => r.optionWith o (String.ofList v)
      else (r.option o).bind fun r => r.short command rest

/-- Reads the arguments of a command. -/
def all (r : Reading) (command : CommandName) : List String → Except UsageError Reading
  | [] => .ok r
  | arg :: rest =>
    match arg.toList with
    | ['-', '-'] => if rest.isEmpty then .ok r else .error .unknownArgument
    | '-' :: '-' :: cs => (r.long command cs).bind fun r => r.all command rest
    | '-' :: c :: cs => (r.short command (c :: cs)).bind fun r => r.all command rest
    | _ =>
      match r.last? with
      | some (o, none) => Reading.all ⟨r.given, some (o, some arg)⟩ command rest
      | _ => .error .unknownArgument

end Reading

/-- The arguments of the command that explains commands: none, or the name of one. -/
def helpError (args : List String) : UsageError :=
  match args with
  | [] => .displayHelp
  | [name] =>
    if name = "help" ∨ (CommandName.ofName? name).isSome then .displayHelp else .invalidSubcommand
  | _ => .invalidSubcommand

/-- Why a first argument that is no command is a mistake. -/
def firstError (arg : String) : UsageError :=
  match arg.toList with
  | '-' :: '-' :: cs =>
    if String.ofList cs = "help" then .displayHelp
    else if String.ofList (cs.takeWhile (· ≠ '=')) = "help" then .tooManyValues
    else .unknownArgument
  | '-' :: 'h' :: _ => .displayHelp
  | '-' :: _ :: _ => .unknownArgument
  | _ => .invalidSubcommand

/-- Reads the arguments of the program. -/
def Command.ofArguments (args : List String) : Except UsageError Command :=
  match args with
  | [] => .error .displayHelpOnMissingArgumentOrSubcommand
  | "help" :: rest => .error (helpError rest)
  | "--" :: [] => .error .displayHelpOnMissingArgumentOrSubcommand
  | "--" :: arg :: _ =>
    if arg = "help" ∨ (CommandName.ofName? arg).isSome then .error .unknownArgument
    else .error .invalidSubcommand
  | arg :: rest =>
    match CommandName.ofName? arg with
    | some name =>
      (Reading.all {} name rest).bind fun r => r.settle.bind fun g => g.command name
    | none => .error (firstError arg)

end TypeSchema.CommandLine
