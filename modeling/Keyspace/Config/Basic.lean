import Keyspace.Blueprint.Basic
import Keyspace.Error
import Keyspace.Json.Basic

/-!
# Compiler configuration

Everything a project may set about the compilation, with its defaults, and the checks that
a configuration has to pass.
-/
namespace Keyspace

structure OutputPaths where
  /-- Directory of the templates. -/
  infrastructure : String
  /-- Directory of the generated code. -/
  runtime : String
deriving DecidableEq, Repr

structure DispatcherDefaults where
  batchSize : Nat
  maximumRetryAttempts : Nat
  sizing : Sizing
deriving DecidableEq, Repr

/-- Where deployed function code lives, relative to the nested templates. -/
structure CodeLocation where
  uri : String
  runtime : String
  architecture : String
deriving DecidableEq, Repr

structure Config where
  /-- Patterns of the schema files. -/
  schema : List String
  outputs : OutputPaths
  dispatcher : DispatcherDefaults
  handler : Sizing
  /-- Variables forwarded to every function as parameters. -/
  environment : List String
  /-- The `Globals` section of the root template. -/
  globals : Option Json
  /-- Parameters of the root template. -/
  parameters : Dict Json
  code : CodeLocation
deriving DecidableEq

namespace Config

def default : Config where
  schema := ["schema/**/*.graphql"]
  outputs := ⟨"build/infra", "src/generated"⟩
  dispatcher := ⟨10, 3, ⟨384, 60⟩⟩
  handler := ⟨256, 30⟩
  environment := []
  globals := none
  parameters := []
  code := ⟨"../../target/lambda", "provided.al2023", "arm64"⟩

/-- Upper-case letters, digits and underscores, at least one. -/
def isVariableName (name : String) : Bool :=
  !name.isEmpty && name.toList.all fun c => c.isUpper || c.isDigit || c = '_'

/-- Checks a configuration and gives it back. -/
def validate (c : Config) : Result Config := do
  if c.dispatcher.batchSize = 0 then
    throw (.config "dispatcher.batchSize must be at least 1")
  match c.environment.find? fun name => !isVariableName name with
  | some name =>
    throw (.config s!"environment variable '{name}' must be SCREAMING_SNAKE_CASE")
  | none => pure ()
  match c.globals with
  | some (.obj _) => pure c
  | none => pure c
  | some _ => throw (.config "globals must be a mapping")

/-- The configuration as JSON. -/
def toJson (c : Config) : Json :=
  .object [
    ("schema", .ofStrings c.schema),
    ("outputs", .object [
      ("infrastructure", .str c.outputs.infrastructure), ("runtime", .str c.outputs.runtime)]),
    ("dispatcher", .object [
      ("batchSize", .int c.dispatcher.batchSize),
      ("maximumRetryAttempts", .int c.dispatcher.maximumRetryAttempts),
      ("memorySize", .int c.dispatcher.sizing.memorySize),
      ("timeout", .int c.dispatcher.sizing.timeout)]),
    ("handler", .object [
      ("memorySize", .int c.handler.memorySize), ("timeout", .int c.handler.timeout)]),
    ("environment", .ofStrings c.environment),
    ("globals", c.globals.getD .null),
    ("parameters", .obj c.parameters),
    ("code", .object [
      ("codeUri", .str c.code.uri), ("runtime", .str c.code.runtime),
      ("architecture", .str c.code.architecture)])]

end Config

end Keyspace
