import Keyspace.Config.Basic
import Keyspace.Text.Basic
import Keyspace.Yaml.Reader

/-!
# Reading a configuration

A configuration is a YAML mapping. Sections and settings that are left out take their
defaults, unknown ones are passed over, and one given twice is refused.
-/
namespace Keyspace.Config

open Yaml

/-- The value of a setting, if it is given; none at all if it is given twice. -/
def setting? (entries : List (String × Node)) (name : String) : Option (Option Node) :=
  match entries.filter (·.1 = name) with
  | [] => some none
  | [entry] => some (some entry.2)
  | _ => none

/-- The settings of a section. A section that is left empty has none. -/
def section? : Node → Option (List (String × Node))
  | .mapping _ entries => entries.mapM fun
    | (.scalar key, value) => some (key.text, value)
    | _ => none
  | .scalar s => if s.isAbsent then some [] else none
  | .sequence _ _ => none

def text? : Node → Option String
  | .scalar s => some s.text
  | _ => none

def texts? : Node → Option (List String)
  | .sequence _ items => items.mapM text?
  | .scalar s => if s.isAbsent then some [] else none
  | .mapping _ _ => none

/-- A whole number of 32 bits, written plain. -/
def count? : Node → Option Nat
  | .scalar s =>
    if s.isPlain then do
      let digits := match s.text.toList with
        | '+' :: rest => rest
        | digits => digits
      let n ← unsigned? digits
      if n ≤ uint32Max then some n else none
    else none
  | _ => none

/-- A setting with a default. -/
def settingOr (entries : List (String × Node)) (name : String) (default : α)
    (read : Node → Option α) : Option α := do
  match ← setting? entries name with
  | none => some default
  | some node => read node

def readOutputs? (node : Node) : Option OutputPaths := do
  let entries ← section? node
  pure {
    infrastructure := ← settingOr entries "infrastructure" default.outputs.infrastructure text?
    runtime := ← settingOr entries "runtime" default.outputs.runtime text? }

def readDispatcher? (node : Node) : Option DispatcherDefaults := do
  let entries ← section? node
  let base := default.dispatcher
  pure {
    batchSize := ← settingOr entries "batchSize" base.batchSize count?
    maximumRetryAttempts := ←
      settingOr entries "maximumRetryAttempts" base.maximumRetryAttempts count?
    sizing := {
      memorySize := ← settingOr entries "memorySize" base.sizing.memorySize count?
      timeout := ← settingOr entries "timeout" base.sizing.timeout count? } }

def readHandler? (node : Node) : Option Sizing := do
  let entries ← section? node
  pure {
    memorySize := ← settingOr entries "memorySize" default.handler.memorySize count?
    timeout := ← settingOr entries "timeout" default.handler.timeout count? }

def readCode? (node : Node) : Option CodeLocation := do
  let entries ← section? node
  pure {
    uri := ← settingOr entries "codeUri" default.code.uri text?
    runtime := ← settingOr entries "runtime" default.code.runtime text?
    architecture := ← settingOr entries "architecture" default.code.architecture text? }

/-- Globals that are null count as left out. -/
def readGlobals? (node : Node) : Option (Option Json) :=
  match node with
  | .scalar s => if s.isNull then some none else s.resolve.map some
  | node => node.toJson?.map some

def readParameters? (node : Node) : Option (Dict Json) := do
  match node with
  | .mapping _ entries => (Json.object (← entriesToJson? entries)).asObject?
  | .scalar s => if s.isAbsent then some [] else none
  | .sequence _ _ => none

/-- Reads a configuration without checking it. -/
def ofNode? (node : Node) : Option Config := do
  let entries ← section? node
  pure {
    schema := ← settingOr entries "schema" default.schema texts?
    outputs := ← settingOr entries "outputs" default.outputs readOutputs?
    dispatcher := ← settingOr entries "dispatcher" default.dispatcher readDispatcher?
    handler := ← settingOr entries "handler" default.handler readHandler?
    environment := ← settingOr entries "environment" default.environment texts?
    globals := ← settingOr entries "globals" default.globals readGlobals?
    parameters := ← settingOr entries "parameters" default.parameters readParameters?
    code := ← settingOr entries "code" default.code readCode? }

/-- Reads and checks a configuration. A blank text is the default one. -/
def parse (text : String) : Result Config :=
  if text.toList.all Text.isBlank then .ok default
  else match (Yaml.parse? text).bind ofNode? with
    | some config => config.validate
    | none => .error (.yaml "not a configuration")

end Keyspace.Config
