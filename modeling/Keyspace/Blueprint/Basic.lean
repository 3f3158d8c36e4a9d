import Keyspace.Text.Words
import Keyspace.Schema.Duration

/-!
# Blueprints

A blueprint is what a schema compiles to: its models and tables, sorted by name, and the
enums its fields use. Everything downstream (templates, code, the record store) reads the
blueprint and never the schema.
-/
namespace Keyspace

/-- An enum used as a field type. -/
structure EnumType where
  name : String
  values : List String
deriving DecidableEq, Inhabited, Repr

inductive FieldKind where
  | scalar
  | enum
  /-- An object type without a key, stored as a nested map. -/
  | embedded
deriving DecidableEq, Inhabited, Repr

structure ComputeFunction where
  function : String
  /-- Derived on every read and never persisted. -/
  isVirtual : Bool
deriving DecidableEq, Inhabited, Repr

/-- One attribute of a model. -/
structure Field where
  name : String
  /-- The attribute the field is persisted under. -/
  column : String
  /-- Older attributes still accepted on read. -/
  legacyColumns : List String
  typeName : String
  kind : FieldKind
  isList : Bool
  isRequired : Bool
  isDateType : Bool
  computed : Option ComputeFunction
  namePlaceholder : String
  valuePlaceholder : String
deriving DecidableEq, Inhabited, Repr

namespace Field

/-- The column and then the legacy columns, each once. -/
def readColumns (f : Field) : List String :=
  f.legacyColumns.foldl (fun names name => if names.contains name then names else names ++ [name])
    [f.column]

def isVirtual (f : Field) : Bool :=
  match f.computed with
  | some c => c.isVirtual
  | none => false

def isStored (f : Field) : Bool := !f.isVirtual

end Field

/-- One half of a key: the fields it is built from and an optional lead text. -/
structure KeyPart where
  /-- The attribute the key is stored under. -/
  attributeName : String
  fields : List String
  lead : Option String
  /-- One field and no lead text: the field's own column is the key. -/
  isSingleField : Bool
deriving DecidableEq, Inhabited, Repr

inductive PrimaryKey where
  | simple (partitionKey : KeyPart)
  | composite (partitionKey sortKey : KeyPart)
deriving DecidableEq, Inhabited, Repr

namespace PrimaryKey

def isComposite : PrimaryKey → Bool
  | simple _ => false
  | composite _ _ => true

def partitionKey : PrimaryKey → KeyPart
  | simple p => p
  | composite p _ => p

def sortKey? : PrimaryKey → Option KeyPart
  | simple _ => none
  | composite _ s => some s

def parts (key : PrimaryKey) : List KeyPart := key.partitionKey :: key.sortKey?.toList

end PrimaryKey

inductive Projection where
  | all
  | keysOnly
deriving DecidableEq, Inhabited, Repr

def Projection.name : Projection → String
  | all => "ALL"
  | keysOnly => "KEYS_ONLY"

inductive SecondaryIndex where
  | global (name : String) (partitionKey : KeyPart) (sortKey : Option KeyPart)
      (projection : Projection)
  /-- Shares the partition key of its table. -/
  | local (name : String) (sortKey : KeyPart) (projection : Projection)
deriving DecidableEq, Inhabited, Repr

namespace SecondaryIndex

def name : SecondaryIndex → String
  | .global name _ _ _ => name
  | .local name _ _ => name

def projection : SecondaryIndex → Projection
  | .global _ _ _ projection => projection
  | .local _ _ projection => projection

def isLocal : SecondaryIndex → Bool
  | .global _ _ _ _ => false
  | .local _ _ _ => true

/-- The key parts the index adds to the primary key. -/
def parts : SecondaryIndex → List KeyPart
  | .global _ partitionKey sortKey _ => partitionKey :: sortKey.toList
  | .local _ sortKey _ => [sortKey]

end SecondaryIndex

/-- The field items of a model expire by. -/
structure TimeToLive where
  field : String
  column : String
  /-- Applied on create when the field is unset. -/
  seconds : Option Nat
deriving DecidableEq, Inhabited, Repr

/-- A change a handler asks for. -/
inductive ChangeEvent where
  | insert
  | modify
  | remove
  | upsert
deriving DecidableEq, Inhabited, Repr

namespace ChangeEvent

def name : ChangeEvent → String
  | insert => "INSERT"
  | modify => "MODIFY"
  | remove => "REMOVE"
  | upsert => "UPSERT"

def all : List ChangeEvent := [insert, modify, remove, upsert]

def ofName? (name : String) : Option ChangeEvent := all.find? fun event => event.name = name

/-- The names of the mutations that trigger the event. -/
def mutationNames : ChangeEvent → List String
  | insert => ["INSERT"]
  | modify => ["MODIFY"]
  | remove => ["REMOVE"]
  | upsert => ["INSERT", "MODIFY"]

/-- Handlers for anything but removal work from the new image. -/
def requiresNewImage : ChangeEvent → Bool
  | remove => false
  | _ => true

end ChangeEvent

/-- What a change handler does. -/
inductive HandlerKind where
  | enricher
  | reactor
  | reducer
deriving DecidableEq, Inhabited, Repr

namespace HandlerKind

def name : HandlerKind → String
  | enricher => "ENRICHER"
  | reactor => "REACTOR"
  | reducer => "REDUCER"

/-- The verb of default handler names. -/
def verb : HandlerKind → String
  | enricher => "enrich"
  | reactor => "react"
  | reducer => "reduce"

end HandlerKind

/-- Memory in megabytes and time limit in seconds. -/
structure Sizing where
  memorySize : Nat
  timeout : Nat
deriving DecidableEq, Inhabited, Repr

/-- A handler for changes of a model. -/
structure ChangeHandler where
  kind : HandlerKind
  event : ChangeEvent
  source : String
  target : Option String
  /-- The handler's name in camel case. -/
  name : String
  /-- The logical name of the handler's function. -/
  functionName : String
  readableTables : List String
  writableTables : List String
  sizing : Sizing
deriving DecidableEq, Inhabited, Repr

/-- The function that turns a table's stream into events. -/
structure Dispatcher where
  batchSize : Nat
  maximumRetryAttempts : Nat
  sizing : Sizing
  functionName : String
deriving DecidableEq, Inhabited, Repr

structure Model where
  name : String
  table : String
  fields : List Field
  primaryKey : PrimaryKey
  indexes : List SecondaryIndex
  ttl : Option TimeToLive
  isConsistent : Bool
  isLedger : Bool
  isPublic : Bool
  handlers : List ChangeHandler
deriving DecidableEq, Inhabited, Repr

def Model.field? (m : Model) (name : String) : Option Field := m.fields.find? (·.name = name)

structure Table where
  name : String
  primaryKey : PrimaryKey
  indexes : List SecondaryIndex
  isStreaming : Bool
  pointInTimeRecovery : Bool
  /-- The attribute the storage service expires items by. -/
  ttlAttribute : Option String
  dispatcher : Option Dispatcher
deriving DecidableEq, Inhabited, Repr

def Table.hasHandlers (t : Table) : Bool := t.dispatcher.isSome

/-- The variable that carries a table's physical name. -/
def tableVariable (table : String) : String := "TABLE_" ++ Text.screamingSnakeCase table

structure Blueprint where
  models : List Model
  tables : List Table
  enums : List EnumType
deriving DecidableEq, Inhabited, Repr

namespace Blueprint

def empty : Blueprint := ⟨[], [], []⟩

def model? (b : Blueprint) (name : String) : Option Model := b.models.find? (·.name = name)

def table? (b : Blueprint) (name : String) : Option Table := b.tables.find? (·.name = name)

def modelsOn (b : Blueprint) (table : Table) : List Model :=
  b.models.filter (·.table = table.name)

/-- Every change handler, in model order. -/
def handlers (b : Blueprint) : List ChangeHandler := b.models.flatMap (·.handlers)

end Blueprint

/-- The attribute type of a key part: only a single numeric field is stored as a number. -/
def keyAttributeType (model : Model) (part : KeyPart) : String :=
  if part.isSingleField then
    match part.fields.head?.bind model.field? with
    | some f => if f.typeName = "Int" ∨ f.typeName = "Float" then "N" else "S"
    | none => "S"
  else "S"

end Keyspace
