import Keyspace.Artifacts.Writing
import Keyspace.Blueprint.Build
import Keyspace.Blueprint.Json
import Keyspace.CommandLine.Options
import Keyspace.Config.Reader
import Keyspace.Files.Search
import Keyspace.Json.Printer
import Keyspace.Yaml.Printer

/-!
# Running a request

`execute` does what the arguments ask for, with any file system, and answers what the process
shows and the code it ends with. Paths are taken from the directory of the configuration.
-/
namespace Keyspace.CommandLine

def programName : String := "dynaform"

def version : String := "0.4.0"

def defaultConfig : String := "dynaform.yml"

/-- Why a run failed. -/
inductive Failure where
  | noConfig (path : String)
  | noSchema (patterns : List String)
  | pattern (e : PatternError)
  | compile (e : Error)
deriving DecidableEq, Repr

def Failure.message : Failure → String
  | noConfig path => s!"configuration file {path} not found"
  | noSchema patterns => "no schema files match " ++ ", ".intercalate patterns
  | pattern e => e.message
  | compile e => e.message

/-- What a process leaves behind. -/
structure Outcome where
  code : Nat
  stdout : String
  stderr : String
deriving DecidableEq, Inhabited, Repr

variable {m : Type → Type} [Monad m]

/-- A part of a run. -/
abbrev Run (m : Type → Type) (α : Type) := ExceptT Failure m α

/-- A part of a run that fails with an error of the compiler. -/
def compiling (action : ExceptT Error m α) : Run m α := action.adapt .compile

def compiled (result : Result α) : Run m α := compiling (liftExcept result)

/-- The configuration, and the directory that paths are taken from. Only a configuration
that was asked for has to be there. -/
def readConfig (fs : FileSystem m) (path : Option String) : Run m (Config × String) := do
  let file := path.getD defaultConfig
  let baseDir := match Path.parent? file with
    | some "" => "."
    | some directory => directory
    | none => "."
  if ← ExceptT.lift (fs.exists file) then
    let text ← compiling (fs.read file)
    pure (← compiled (Config.parse text), baseDir)
  else if path.isSome then throw (.noConfig file)
  else pure (.default, baseDir)

/-- The files that match a pattern. -/
def filesMatching (fs : FileSystem m) (baseDir pattern : String) : Run m (List String) :=
  match Pattern.read (Path.join baseDir pattern) with
  | .ok pattern => compiling (pattern.search fs)
  | .error e => throw (.pattern e)

/-- The schema text: the files that match any of the patterns, in order. -/
def readSchema (fs : FileSystem m) (baseDir : String) (patterns : List String) :
    Run m String := do
  let files := (← patterns.mapM (filesMatching fs baseDir)).flatten
  if files.isEmpty then throw (.noSchema patterns)
  let texts ← (Pattern.inOrder files).mapM fun path => compiling (fs.read path)
  pure (String.join (texts.map (· ++ "\n")))

def summary (b : Blueprint) : String :=
  s!"OK: {b.models.length} model(s), {b.tables.length} table(s), {b.handlers.length} CDC handler(s)\n"

def reportText (report : WriteReport) : String :=
  String.join
    (report.written.map (fun path => s!"wrote {path}\n")
      ++ report.skipped.map fun path => s!"kept  {path}\n")

/-- A blueprint in an output format. -/
def shown (format : OutputFormat) (b : Blueprint) : String :=
  match format with
  | .json => b.toJson.pretty ++ "\n"
  | .yaml => Yaml.print b.toJson

/-- Runs a command; gives what it prints. -/
def run (fs : FileSystem m) (options : Options) : Run m String := do
  let (config, baseDir) ← readConfig fs options.config
  let patterns := if options.schemas.isEmpty then config.schema else options.schemas
  let b ← compiled (Blueprint.ofSchema config (← readSchema fs baseDir patterns))
  match options.command with
  | .generate infraOut runtimeOut =>
    let infraDir := infraOut.getD (Path.join baseDir config.outputs.infrastructure)
    let runtimeDir := runtimeOut.getD (Path.join baseDir config.outputs.runtime)
    let artifacts ← compiled (Artifacts.ofBlueprint config b)
    pure (reportText (← compiling (artifacts.write fs infraDir runtimeDir)))
  | .check =>
    let _ ← compiled (Artifacts.ofBlueprint config b)
    pure (summary b)
  | .ir => pure (shown options.format b)

def help : String := "Usage: dynaform [OPTIONS] <COMMAND>

Commands:
  generate  Generate templates, models and handler skeletons
  check     Build and check everything without writing files
  ir        Print the intermediate representation

Options:
  --config <FILE>          Compiler configuration (default: ./dynaform.yml when present)
  --schema <PATTERN>       Schema files, instead of the configured patterns (repeatable)
  --format <FORMAT>        Output format for printed documents: yaml, json
  --infra-out <DIRECTORY>    Infrastructure output directory (generate)
  --runtime-out <DIRECTORY>  Runtime output directory (generate)
  -h, --help               Print help
  -V, --version            Print version
"

/-- What a process shows that failed. A fault ends it at once. -/
def Failure.outcome (failure : Failure) : Outcome :=
  match failure with
  | .compile (.fault _) => ⟨101, "", failure.message ++ "\n"⟩
  | _ => ⟨1, "", "ERROR:" ++ failure.message ++ "\n"⟩

/-- Does what the arguments ask for. -/
def execute (fs : FileSystem m) (arguments : List String) : m Outcome := do
  match Request.read arguments with
  | .error e => pure ⟨2, "", s!"error: {e.message}\n\n{help}"⟩
  | .ok .version => pure ⟨0, s!"{programName} {version}\n", ""⟩
  | .ok .help => pure ⟨0, help, ""⟩
  | .ok (.run options) =>
    match ← (run fs options).run with
    | .ok printed => pure ⟨0, printed, ""⟩
    | .error failure => pure failure.outcome

end Keyspace.CommandLine
