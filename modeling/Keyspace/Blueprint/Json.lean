import Keyspace.Blueprint.Basic
import Keyspace.Json.Decode

/-!
# Blueprints as JSON

Each record is an object of its members, an optional member being null when it is unset.
A primary key and an index carry their kind under `type`. The decoders read what the
encoders write, and the array form of each record besides.
-/
namespace Keyspace

namespace Json

/-- The member of a tagged record that names its kind, and a reader of the other members.
In array form the tag comes first. -/
def tagged? (value : Json) : Option (String × Json) :=
  match value with
  | obj members => do
    let tag ← (Dict.get? members "type").bind asString?
    pure (tag, obj (Dict.erase members "type"))
  | arr (str tag :: rest) => some (tag, arr rest)
  | _ => none

end Json

open Json

namespace EnumType

def toJson (e : EnumType) : Json := .object [("typeName", .str e.name), ("values", .ofStrings e.values)]

def ofJson? : Decoder EnumType := fun value => do
  let [name, values] ← members? [.listed "typeName", .listed "values"] value | none
  pure ⟨← required decodeString name, ← required (decodeList decodeString) values⟩

end EnumType

namespace FieldKind

def names : List (String × FieldKind) :=
  [("SCALAR", scalar), ("ENUM", enum), ("EMBEDDED", embedded)]

def name : FieldKind → String
  | scalar => "SCALAR"
  | enum => "ENUM"
  | embedded => "EMBEDDED"

end FieldKind

namespace ComputeFunction

def toJson (c : ComputeFunction) : Json :=
  .object [("function", .str c.function), ("isVirtual", .bool c.isVirtual)]

def ofJson? : Decoder ComputeFunction := fun value => do
  let [function, isVirtual] ← members? [.listed "function", .listed "isVirtual"] value | none
  pure ⟨← required decodeString function, ← required decodeBool isVirtual⟩

end ComputeFunction

namespace Field

def toJson (f : Field) : Json := .object [
  ("fieldName", .str f.name),
  ("columnName", .str f.column),
  ("legacyColumnNames", .ofStrings f.legacyColumns),
  ("typeName", .str f.typeName),
  ("kind", .str f.kind.name),
  ("isList", .bool f.isList),
  ("isRequired", .bool f.isRequired),
  ("isDateType", .bool f.isDateType),
  ("computed", .ofOption ComputeFunction.toJson f.computed),
  ("ean", .str f.namePlaceholder),
  ("eav", .str f.valuePlaceholder)]

def ofJson? : Decoder Field := fun value => do
  let [name, column, legacy, typeName, kind, isList, isRequired, isDateType, computed, ean, eav] ←
    members? (["fieldName", "columnName", "legacyColumnNames", "typeName", "kind", "isList",
      "isRequired", "isDateType", "computed", "ean", "eav"].map .listed) value | none
  pure {
    name := ← required decodeString name
    column := ← required decodeString column
    legacyColumns := ← required (decodeList decodeString) legacy
    typeName := ← required decodeString typeName
    kind := ← required (decodeChoice FieldKind.names) kind
    isList := ← required decodeBool isList
    isRequired := ← required decodeBool isRequired
    isDateType := ← required decodeBool isDateType
    computed := ← optional ComputeFunction.ofJson? computed
    namePlaceholder := ← required decodeString ean
    valuePlaceholder := ← required decodeString eav }

end Field

namespace KeyPart

def toJson (p : KeyPart) : Json := .object [
  ("attributeName", .str p.attributeName),
  ("fields", .ofStrings p.fields),
  ("prefix", .ofOption .str p.lead),
  ("isSingleField", .bool p.isSingleField)]

def ofJson? : Decoder KeyPart := fun value => do
  let [attributeName, fields, lead, isSingleField] ←
    members? (["attributeName", "fields", "prefix", "isSingleField"].map .listed) value | none
  pure {
    attributeName := ← required decodeString attributeName
    fields := ← required (decodeList decodeString) fields
    lead := ← optional decodeString lead
    isSingleField := ← required decodeBool isSingleField }

end KeyPart

namespace PrimaryKey

def toJson : PrimaryKey → Json
  | simple p => .object [("type", .str "SIMPLE"), ("partition_key", p.toJson)]
  | composite p s =>
    .object [("type", .str "COMPOSITE"), ("partition_key", p.toJson), ("sort_key", s.toJson)]

def ofJson? : Decoder PrimaryKey := fun value => do
  match ← tagged? value with
  | ("SIMPLE", body) =>
    let [p] ← members? [.listed "partition_key"] body | none
    pure (.simple (← required KeyPart.ofJson? p))
  | ("COMPOSITE", body) =>
    let [p, s] ← members? [.listed "partition_key", .listed "sort_key"] body | none
    pure (.composite (← required KeyPart.ofJson? p) (← required KeyPart.ofJson? s))
  | _ => none

end PrimaryKey

def Projection.names : List (String × Projection) := [("ALL", all), ("KEYS_ONLY", keysOnly)]

namespace SecondaryIndex

def toJson : SecondaryIndex → Json
  | .global name p s projection => .object [
      ("type", .str "GSI"), ("name", .str name), ("partition_key", p.toJson),
      ("sort_key", .ofOption KeyPart.toJson s), ("projection", .str projection.name)]
  | .local name s projection => .object [
      ("type", .str "LSI"), ("name", .str name), ("sort_key", s.toJson),
      ("projection", .str projection.name)]

def ofJson? : Decoder SecondaryIndex := fun value => do
  match ← tagged? value with
  | ("GSI", body) =>
    let [name, p, s, projection] ←
      members? (["name", "partition_key", "sort_key", "projection"].map .listed) body | none
    pure (.global (← required decodeString name) (← required KeyPart.ofJson? p)
      (← optional KeyPart.ofJson? s) (← required (decodeChoice Projection.names) projection))
  | ("LSI", body) =>
    let [name, s, projection] ←
      members? (["name", "sort_key", "projection"].map .listed) body | none
    pure (.local (← required decodeString name) (← required KeyPart.ofJson? s)
      (← required (decodeChoice Projection.names) projection))
  | _ => none

end SecondaryIndex

namespace TimeToLive

def toJson (t : TimeToLive) : Json := .object [
  ("fieldName", .str t.field), ("columnName", .str t.column),
  ("durationSeconds", .ofOption (fun n : Nat => .int n) t.seconds)]

def ofJson? : Decoder TimeToLive := fun value => do
  let [field, column, seconds] ←
    members? (["fieldName", "columnName", "durationSeconds"].map .listed) value | none
  pure ⟨← required decodeString field, ← required decodeString column,
    ← optional decodeUInt64 seconds⟩

end TimeToLive

namespace Sizing

def toJson (s : Sizing) : Json :=
  .object [("memorySize", .int s.memorySize), ("timeout", .int s.timeout)]

def ofJson? : Decoder Sizing := fun value => do
  let [memorySize, timeout] ← members? [.listed "memorySize", .listed "timeout"] value | none
  pure ⟨← required decodeUInt32 memorySize, ← required decodeUInt32 timeout⟩

end Sizing

def ChangeEvent.names : List (String × ChangeEvent) := all.map fun event => (event.name, event)

def HandlerKind.names : List (String × HandlerKind) :=
  [("ENRICHER", enricher), ("REACTOR", reactor), ("REDUCER", reducer)]

namespace ChangeHandler

def toJson (h : ChangeHandler) : Json := .object [
  ("type", .str h.kind.name),
  ("event", .str h.event.name),
  ("sourceModelName", .str h.source),
  ("targetModelName", .ofOption .str h.target),
  ("handlerName", .str h.name),
  ("functionName", .str h.functionName),
  ("readableTables", .ofStrings h.readableTables),
  ("writableTables", .ofStrings h.writableTables),
  ("sizing", h.sizing.toJson)]

def ofJson? : Decoder ChangeHandler := fun value => do
  let [kind, event, source, target, name, functionName, readable, writable, sizing] ←
    members? (["type", "event", "sourceModelName", "targetModelName", "handlerName",
      "functionName", "readableTables", "writableTables", "sizing"].map .listed) value | none
  pure {
    kind := ← required (decodeChoice HandlerKind.names) kind
    event := ← required (decodeChoice ChangeEvent.names) event
    source := ← required decodeString source
    target := ← optional decodeString target
    name := ← required decodeString name
    functionName := ← required decodeString functionName
    readableTables := ← required (decodeList decodeString) readable
    writableTables := ← required (decodeList decodeString) writable
    sizing := ← required Sizing.ofJson? sizing }

end ChangeHandler

namespace Dispatcher

def toJson (d : Dispatcher) : Json := .object [
  ("batchSize", .int d.batchSize),
  ("maximumRetryAttempts", .int d.maximumRetryAttempts),
  ("sizing", d.sizing.toJson),
  ("functionName", .str d.functionName)]

def ofJson? : Decoder Dispatcher := fun value => do
  let [batchSize, retries, sizing, functionName] ←
    members? (["batchSize", "maximumRetryAttempts", "sizing", "functionName"].map .listed) value
    | none
  pure {
    batchSize := ← required decodeUInt32 batchSize
    maximumRetryAttempts := ← required decodeUInt32 retries
    sizing := ← required Sizing.ofJson? sizing
    functionName := ← required decodeString functionName }

end Dispatcher

namespace Model

def toJson (m : Model) : Json := .object [
  ("typeName", .str m.name),
  ("tableName", .str m.table),
  ("fields", .arr (m.fields.map Field.toJson)),
  ("primaryKey", m.primaryKey.toJson),
  ("secondaryIndexes", .arr (m.indexes.map SecondaryIndex.toJson)),
  ("ttl", .ofOption TimeToLive.toJson m.ttl),
  ("consistent", .bool m.isConsistent),
  ("isLedger", .bool m.isLedger),
  ("isPublic", .bool m.isPublic),
  ("changeDataCapture", .arr (m.handlers.map ChangeHandler.toJson))]

def ofJson? : Decoder Model := fun value => do
  let [name, table, fields, key, indexes, ttl, isConsistent, isLedger, isPublic, handlers] ←
    members? (["typeName", "tableName", "fields", "primaryKey", "secondaryIndexes", "ttl",
      "consistent", "isLedger", "isPublic", "changeDataCapture"].map .listed) value | none
  pure {
    name := ← required decodeString name
    table := ← required decodeString table
    fields := ← required (decodeList Field.ofJson?) fields
    primaryKey := ← required PrimaryKey.ofJson? key
    indexes := ← required (decodeList SecondaryIndex.ofJson?) indexes
    ttl := ← optional TimeToLive.ofJson? ttl
    isConsistent := ← required decodeBool isConsistent
    isLedger := ← required decodeBool isLedger
    isPublic := ← required decodeBool isPublic
    handlers := ← required (decodeList ChangeHandler.ofJson?) handlers }

end Model

namespace Table

def toJson (t : Table) : Json := .object [
  ("tableName", .str t.name),
  ("primaryKey", t.primaryKey.toJson),
  ("secondaryIndexes", .arr (t.indexes.map SecondaryIndex.toJson)),
  ("enableStreaming", .bool t.isStreaming),
  ("enablePointInTimeRecovery", .bool t.pointInTimeRecovery),
  ("ttlAttribute", .ofOption .str t.ttlAttribute),
  ("dispatcherConfig", .ofOption Dispatcher.toJson t.dispatcher)]

def ofJson? : Decoder Table := fun value => do
  let [name, key, indexes, streaming, recovery, ttl, dispatcher] ←
    members? (["tableName", "primaryKey", "secondaryIndexes", "enableStreaming",
      "enablePointInTimeRecovery", "ttlAttribute", "dispatcherConfig"].map .listed) value | none
  pure {
    name := ← required decodeString name
    primaryKey := ← required PrimaryKey.ofJson? key
    indexes := ← required (decodeList SecondaryIndex.ofJson?) indexes
    isStreaming := ← required decodeBool streaming
    pointInTimeRecovery := ← required decodeBool recovery
    ttlAttribute := ← optional decodeString ttl
    dispatcher := ← optional Dispatcher.ofJson? dispatcher }

end Table

namespace Blueprint

def toJson (b : Blueprint) : Json := .object [
  ("models", .arr (b.models.map Model.toJson)),
  ("tables", .arr (b.tables.map Table.toJson)),
  ("enums", .arr (b.enums.map EnumType.toJson))]

def ofJson? : Decoder Blueprint := fun value => do
  let [models, tables, enums] ←
    members? [.listed "models", .listed "tables", .defaulted "enums"] value | none
  pure {
    models := ← required (decodeList Model.ofJson?) models
    tables := ← required (decodeList Table.ofJson?) tables
    enums := ← orDefault [] (decodeList EnumType.ofJson?) enums }

end Blueprint

end Keyspace
