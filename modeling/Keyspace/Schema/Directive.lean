import Keyspace.Dict
import Keyspace.Error
import Keyspace.Schema.Document

/-!
# The catalog of directives

Every directive of the catalog says where it may stand and which arguments it takes.
`Directive.read?` checks a written directive against its entry and gives its typed
arguments; a directive outside the catalog is passed over.
-/
namespace Keyspace.Schema

namespace Directive

inductive Kind where
  | table
  | partitionKey
  | compositeKey
  | simpleIndex
  | secondaryIndex
  | ledger
  | publicModel
  | consistent
  | reacts
  | enriches
  | reduces
  | column
  | computed
  | ttl
deriving DecidableEq, Repr

inductive Location where
  | type
  | field
deriving DecidableEq, Repr

end Directive

namespace Argument

inductive Kind where
  | string
  | boolean
  | int
  | enum (values : List String)
  | stringList
deriving DecidableEq, Repr

/-- A checked argument. -/
inductive Value where
  | string (text : String)
  | boolean (value : Bool)
  | int (value : Int)
  | enum (name : String)
  | stringList (texts : List String)
deriving DecidableEq, Repr

/-- What a directive says about one of its arguments. -/
structure Spec where
  name : String
  kind : Kind
  required : Bool
deriving DecidableEq, Repr

def Kind.describe : Kind → String
  | string => "string"
  | boolean => "boolean"
  | int => "int"
  | enum values => "enum (" ++ String.intercalate "|" values ++ ")"
  | stringList => "list of strings"

end Argument

namespace Directive.Kind

def all : List Kind :=
  [table, partitionKey, compositeKey, simpleIndex, secondaryIndex, ledger, publicModel,
   consistent, reacts, enriches, reduces, column, computed, ttl]

def name : Kind → String
  | table => "table"
  | partitionKey => "partitionKey"
  | compositeKey => "compositeKey"
  | simpleIndex => "simpleIndex"
  | secondaryIndex => "secondaryIndex"
  | ledger => "ledger"
  | publicModel => "public"
  | consistent => "consistent"
  | reacts => "reacts"
  | enriches => "enriches"
  | reduces => "reduces"
  | column => "column"
  | computed => "computed"
  | ttl => "ttl"

def ofName? (name : String) : Option Kind := all.find? fun kind => kind.name = name

def location : Kind → Location
  | column => .field
  | computed => .field
  | ttl => .field
  | _ => .type

def changeEvents : List String := ["INSERT", "MODIFY", "REMOVE", "UPSERT"]

def indexTypes : List String := ["GSI", "LSI"]

def projections : List String := ["ALL", "KEYS_ONLY"]

def handlerArguments : List Argument.Spec :=
  [⟨"handler", .string, false⟩, ⟨"readsFrom", .stringList, false⟩,
   ⟨"writesTo", .stringList, false⟩, ⟨"memorySize", .int, false⟩, ⟨"timeout", .int, false⟩]

def targetedArguments : List Argument.Spec :=
  ⟨"event", .enum changeEvents, true⟩ :: ⟨"targetModel", .string, true⟩ :: handlerArguments

def arguments : Kind → List Argument.Spec
  | table =>
    [⟨"name", .string, true⟩, ⟨"enablePointInTimeRecovery", .boolean, false⟩,
     ⟨"enableStreaming", .boolean, false⟩]
  | partitionKey => [⟨"pkFields", .stringList, true⟩, ⟨"pkPrefix", .string, false⟩]
  | compositeKey =>
    [⟨"pkFields", .stringList, true⟩, ⟨"pkPrefix", .string, false⟩,
     ⟨"skFields", .stringList, true⟩, ⟨"skPrefix", .string, false⟩]
  | simpleIndex => [⟨"field", .string, true⟩, ⟨"name", .string, false⟩]
  | secondaryIndex =>
    [⟨"name", .string, true⟩, ⟨"type", .enum indexTypes, false⟩,
     ⟨"pkFields", .stringList, false⟩, ⟨"pkPrefix", .string, false⟩,
     ⟨"skFields", .stringList, false⟩, ⟨"skPrefix", .string, false⟩,
     ⟨"projection", .enum projections, false⟩]
  | reacts => ⟨"event", .enum changeEvents, true⟩ :: handlerArguments
  | enriches => targetedArguments
  | reduces => targetedArguments
  | column => [⟨"name", .string, true⟩, ⟨"legacyNames", .stringList, false⟩]
  | computed => [⟨"function", .string, true⟩, ⟨"virtual", .boolean, false⟩]
  | ttl => [⟨"duration", .string, false⟩]
  | _ => []

/-- Whether a node may carry the directive more than once. -/
def isRepeatable : Kind → Bool
  | simpleIndex => true
  | secondaryIndex => true
  | reacts => true
  | enriches => true
  | reduces => true
  | _ => false

def isPrimaryKey : Kind → Bool
  | partitionKey => true
  | compositeKey => true
  | _ => false

theorem ofName?_name (kind : Kind) : ofName? kind.name = some kind := by
  cases kind <;> decide

end Directive.Kind

/-- A directive of the catalog whose arguments matched its entry. -/
structure Directive where
  kind : Directive.Kind
  /-- `Type` or `Type.field`, for messages. -/
  location : String
  arguments : Dict Argument.Value
deriving DecidableEq, Repr

namespace Directive

def string? (d : Directive) (name : String) : Option String :=
  match d.arguments.get? name with
  | some (.string text) => some text
  | _ => none

def boolean? (d : Directive) (name : String) : Option Bool :=
  match d.arguments.get? name with
  | some (.boolean value) => some value
  | _ => none

def int? (d : Directive) (name : String) : Option Int :=
  match d.arguments.get? name with
  | some (.int value) => some value
  | _ => none

def enum? (d : Directive) (name : String) : Option String :=
  match d.arguments.get? name with
  | some (.enum value) => some value
  | _ => none

def stringList? (d : Directive) (name : String) : Option (List String) :=
  match d.arguments.get? name with
  | some (.stringList texts) => some texts
  | _ => none

/-- An error about one of the directive's arguments. -/
def error (d : Directive) (argument detail : String) : Error :=
  .directive d.location d.kind.name argument detail

def requiredString (d : Directive) (name : String) : Result String :=
  match d.string? name with
  | some text => .ok text
  | none => .error (d.error name "is required")

def requiredStringList (d : Directive) (name : String) : Result (List String) :=
  match d.stringList? name with
  | some texts => .ok texts
  | none => .error (d.error name "is required")

/-- A whole number that has to lie between 1 and 2 ^ 32 - 1, if it is given. -/
def positiveInt (d : Directive) (name : String) : Result (Option Nat) :=
  match d.int? name with
  | none => .ok none
  | some value =>
    if 0 < value ∧ value ≤ uint32Max then .ok (some value.toNat)
    else .error (d.error name s!"must be a positive integer, got {value}")

/-- What a written value is called in messages. -/
def describeValue : Value → String
  | .variable _ => "variable"
  | .int _ => "int"
  | .float _ => "float"
  | .string _ => "string"
  | .boolean _ => "boolean"
  | .null => "null"
  | .enum _ => "enum"
  | .list _ => "list"
  | .object _ => "object"

/-- The strings of a list; the error says what else it holds. -/
def stringElements : List Value → Except String (List String)
  | [] => .ok []
  | .string text :: rest => (stringElements rest).map (text :: ·)
  | other :: _ => .error s!"a list containing {describeValue other}"

/-- A written value as an argument of a kind; the error says what was found instead. -/
def coerce : Argument.Kind → Value → Except String Argument.Value
  | .string, .string text => .ok (.string text)
  | .boolean, .boolean value => .ok (.boolean value)
  | .int, .int value => .ok (.int value)
  | .enum allowed, .enum name =>
    if allowed.contains name then .ok (.enum name) else .error s!"unknown enum value {name}"
  | .stringList, .list elements => (stringElements elements).map .stringList
  | _, other => .error (describeValue other)

/-- Adds a written argument to those read so far. A null argument is as good as none. -/
def readArgument (location : String) (kind : Kind) (read : Dict Argument.Value)
    (written : String × Value) : Result (Dict Argument.Value) :=
  let fail (argument detail : String) : Result (Dict Argument.Value) :=
    .error (.directive location kind.name argument detail)
  match kind.arguments.find? (·.name = written.1) with
  | none => fail written.1 "is not a known argument"
  | some spec =>
    if read.contains spec.name then fail spec.name "is given more than once"
    else match written.2 with
      | .null => .ok read
      | value => match coerce spec.kind value with
        | .ok argument => .ok (read.insert spec.name argument)
        | .error found => fail spec.name s!"expected {spec.kind.describe}, found {found}"

/-- The first required argument that is missing. -/
def missing? (kind : Kind) (read : Dict Argument.Value) : Option Argument.Spec :=
  kind.arguments.find? fun spec => spec.required && !read.contains spec.name

/-- Where a directive may stand, in messages. -/
def Location.allowed : Location → String
  | .type => "types"
  | .field => "fields"

/-- Checks a written directive of a kind against the catalog. -/
def readAs (location : String) (expected : Location) (kind : Kind) (use : DirectiveUse) :
    Result Directive := do
  if kind.location ≠ expected then
    throw (.directive location kind.name "" s!"may only be used on {kind.location.allowed}")
  let arguments ← use.arguments.foldlM (readArgument location kind) []
  match missing? kind arguments with
  | some spec =>
    throw (.directive location kind.name spec.name s!"is required ({spec.kind.describe})")
  | none => pure ⟨kind, location, arguments⟩

/-- Reads a written directive; none if the catalog does not know it. -/
def read? (location : String) (expected : Location) (use : DirectiveUse) :
    Result (Option Directive) :=
  match Kind.ofName? use.name with
  | none => .ok none
  | some kind => (readAs location expected kind use).map some

/-- Adds a written directive to those read before it on the same node. -/
def readNext (location : String) (expected : Location) (read : List Directive)
    (use : DirectiveUse) : Result (List Directive) := do
  match ← read? location expected use with
  | none => pure read
  | some d =>
    if !d.kind.isRepeatable && read.any (·.kind = d.kind) then
      throw (d.error "" "may only appear once")
    else pure (read ++ [d])

/-- Reads the directives of a node. -/
def readAll (location : String) (expected : Location) (uses : List DirectiveUse) :
    Result (List Directive) :=
  uses.foldlM (readNext location expected) []

end Directive

end Keyspace.Schema
