/-!
# Command line options

What is asked for on the command line: options, then a command with options of its own. An
option is given as `--name value` or `--name=value`. The first thing that is wrong counts,
and a request for the version or for help ends the reading.
-/
namespace Keyspace.CommandLine

inductive OutputFormat where
  | yaml
  | json
deriving DecidableEq, Inhabited, Repr

def OutputFormat.ofName? (name : String) : Option OutputFormat :=
  [("yaml", OutputFormat.yaml), ("json", .json)].lookup name

inductive Command where
  /-- Write templates, models and handlers; the directories of the configuration are the
  default. -/
  | generate (infraOut runtimeOut : Option String)
  /-- Build and check everything without writing files. -/
  | check
  /-- Print the blueprint. -/
  | ir
deriving DecidableEq, Inhabited, Repr

structure Options where
  config : Option String
  /-- Patterns of schema files, in place of the configured ones. -/
  schemas : List String
  format : OutputFormat
  command : Command
deriving DecidableEq, Inhabited, Repr

inductive Request where
  | run (options : Options)
  | version
  | help
deriving DecidableEq, Inhabited, Repr

inductive UsageError where
  | unknownArgument (argument : String)
  | missingValue (option : String)
  | invalidValue (option value : String)
  | repeatedOption (option : String)
  | missingCommand
  | unknownCommand (command : String)
deriving DecidableEq, Inhabited, Repr

def UsageError.message : UsageError → String
  | unknownArgument argument => s!"unexpected argument '{argument}'"
  | missingValue option => s!"a value is required for '--{option}'"
  | invalidValue option value => s!"invalid value '{value}' for '--{option}'"
  | repeatedOption option => s!"the argument '--{option}' cannot be used multiple times"
  | missingCommand => "a command is required"
  | unknownCommand command => s!"unrecognized subcommand '{command}'"

/-- An option that takes a value. -/
structure OptionSpec where
  name : String
  accepts : String → Bool
  isRepeatable : Bool

/-- A flag asks for something else than a run. -/
structure FlagSpec where
  name : String
  letter : Char
  request : Request

def helpFlag : FlagSpec := ⟨"help", 'h', .help⟩

def versionFlag : FlagSpec := ⟨"version", 'V', .version⟩

/-- An argument as the reader takes it. -/
inductive Argument where
  | word (text : String)
  | option (name : String) (value : Option String)
  | letters (letters : List Char)
  /-- Two dashes: words follow. -/
  | escape
deriving DecidableEq, Inhabited, Repr

def Argument.ofText (text : String) : Argument :=
  match text.toList with
  | ['-', '-'] => .escape
  | '-' :: '-' :: rest =>
    let name := String.ofList (rest.takeWhile (· ≠ '='))
    match rest.dropWhile (· ≠ '=') with
    | [] => .option name none
    | _ :: value => .option name (some (String.ofList value))
  | '-' :: letter :: rest => .letters (letter :: rest)
  | _ => .word text

/-- Options read so far, in order. -/
abbrev Given := List (String × String)

/-- How far the reading of options came. -/
inductive Reading where
  /-- A request that ends the reading. -/
  | stopped (request : Request)
  /-- The options, and the words after them. -/
  | read (given : Given) (words : List String)
deriving DecidableEq, Inhabited, Repr

/-- Adds an option to those that were read. -/
def addOption (options : List OptionSpec) (given : Given) (name value : String) :
    Except UsageError Given :=
  match options.find? (·.name = name) with
  | none => .error (.unknownArgument ("--" ++ name))
  | some spec =>
    if !spec.accepts value then .error (.invalidValue name value)
    else if !spec.isRepeatable && given.any (·.1 = name) then .error (.repeatedOption name)
    else .ok (given ++ [(name, value)])

/-- Reads options and flags up to the first word. -/
def readOptions (options : List OptionSpec) (flags : List FlagSpec) :
    (given : Given) → (arguments : List String) → Except UsageError Reading
  | given, [] => .ok (.read given [])
  | given, text :: rest =>
    match Argument.ofText text with
    | .word _ => .ok (.read given (text :: rest))
    | .escape =>
      match rest with
      | [] => .ok (.read given [])
      | word :: _ => .error (.unknownArgument word)
    | .letters letters =>
      match flags.find? fun flag => letters.head? = some flag.letter with
      | some flag => .ok (.stopped flag.request)
      | none => .error (.unknownArgument text)
    | .option name (some value) => do
      readOptions options flags (← addOption options given name value) rest
    | .option name none =>
      match flags.find? (·.name = name) with
      | some flag => .ok (.stopped flag.request)
      | none =>
        if !options.any (·.name = name) then .error (.unknownArgument text)
        else match rest with
          | [] => .error (.missingValue name)
          | value :: rest =>
            match Argument.ofText value with
            | .word _ => do
              readOptions options flags (← addOption options given name value) rest
            | _ => .error (.missingValue name)

def isPath (value : String) : Bool := value ≠ ""

def mainOptions : List OptionSpec := [
  ⟨"config", isPath, false⟩,
  ⟨"schema", fun _ => true, true⟩,
  ⟨"format", fun value => (OutputFormat.ofName? value).isSome, false⟩]

def outputOptions : List OptionSpec := [⟨"infra-out", isPath, false⟩, ⟨"runtime-out", isPath, false⟩]

/-- Reads the options of a command, after which nothing may follow. -/
def readCommand (options : List OptionSpec) (arguments : List String)
    (finish : Given → Command) : Except UsageError (Request ⊕ Command) := do
  match ← readOptions options [helpFlag] [] arguments with
  | .stopped request => pure (.inl request)
  | .read given [] => pure (.inr (finish given))
  | .read _ (word :: _) => throw (.unknownArgument word)

def commandNames : List String := ["generate", "check", "ir", "help"]

/-- Reads a request for help on a command. -/
def readHelp (words : List String) : Except UsageError Request :=
  match words with
  | [] => .ok .help
  | [name] => if commandNames.contains name then .ok .help else .error (.unknownCommand name)
  | name :: other :: _ =>
    .error (.unknownCommand (if commandNames.contains name then other else name))

/-- Reads a command by its name, with the arguments after it. -/
def readNamed (name : String) (arguments : List String) : Except UsageError (Request ⊕ Command) :=
  match name with
  | "generate" => readCommand outputOptions arguments fun own =>
    .generate (own.lookup "infra-out") (own.lookup "runtime-out")
  | "check" => readCommand [] arguments fun _ => .check
  | "ir" => readCommand [] arguments fun _ => .ir
  | "help" => (readHelp arguments).map .inl
  | other => .error (.unknownCommand other)

/-- The request that the arguments make. -/
def Request.read (arguments : List String) : Except UsageError Request := do
  match ← readOptions mainOptions [helpFlag, versionFlag] [] arguments with
  | .stopped request => pure request
  | .read _ [] => throw .missingCommand
  | .read given (name :: rest) =>
    match ← readNamed name rest with
    | .inl request => pure request
    | .inr command => pure (.run {
        config := given.lookup "config"
        schemas := (given.filter (·.1 = "schema")).map (·.2)
        format := ((given.lookup "format").bind OutputFormat.ofName?).getD .yaml
        command })

end Keyspace.CommandLine
