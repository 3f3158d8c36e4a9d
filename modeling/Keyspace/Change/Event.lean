import Keyspace.Change.Stream
import Keyspace.Error
import Keyspace.Time.Reading

/-!
# Broker events

The dispatcher turns each stream record into one event for the broker, named after the
table and the model. The broker delivers an event to handlers in an envelope of its own.
-/
namespace Keyspace

/-- An event as it is handed to the broker. -/
structure PublishedEvent where
  /-- The table and the model, with a dot in between. -/
  source : String
  /-- The name of the mutation. -/
  detailType : String
  detail : Json
  time : Option Timestamp
  bus : Option String
deriving DecidableEq, Inhabited

/-- An event as it is delivered to a handler. -/
structure BrokerEvent where
  id : Option String
  detailType : String
  source : String
  time : Option Timestamp
  detail : StreamRecord
deriving DecidableEq, Inhabited

/-- A change with its images in plain JSON. -/
structure RawChange where
  mutation : Mutation
  old : Option (Dict Json)
  new : Option (Dict Json)
deriving DecidableEq, Inhabited

def decodeTimestamp : Json.Decoder Timestamp := fun value =>
  (Json.decodeString value).bind Timestamp.readLoose?

def Timestamp.toJson (t : Timestamp) : Json := .str (t.toText .exact)

namespace PublishedEvent

def toJson (e : PublishedEvent) : Json :=
  .object ([("Source", .str e.source), ("DetailType", .str e.detailType), ("Detail", e.detail)]
    ++ (e.time.map fun t => ("Time", t.toJson)).toList
    ++ (e.bus.map fun bus => ("EventBusName", Json.str bus)).toList)

open Json in
def ofJson? : Decoder PublishedEvent := fun value => do
  let [source, detailType, detail, time, bus] ← members?
      [.listed "Source", .listed "DetailType", .listed "Detail", .defaulted "Time",
       .defaulted "EventBusName"] value
    | none
  some {
    source := ← required decodeString source
    detailType := ← required decodeString detailType
    detail := ← required decodeAny detail
    time := ← optional decodeTimestamp time
    bus := ← optional decodeString bus }

/-- What comes first in a resource name's table part, and what ends it. -/
def tableMarks : List Char × List Char := (":table/".toList, "/stream/".toList)

/-- The table in the name of a stream: the first text between the marks that is not empty
and has no slash. -/
def tableOf? : List Char → Option (List Char)
  | [] => none
  | c :: rest =>
    let here := do
      let after ← Text.dropBeginning? tableMarks.1 (c :: rest)
      let (table, after) := after.span (· != '/')
      if table = [] then none
      else (Text.dropBeginning? tableMarks.2 after).map fun _ => table
    match here with
    | some table => some table
    | none => tableOf? rest

/-- The event of a stream record. A record whose table or model is unknown has none. -/
def ofRecord (bus : Option String) (r : StreamRecord) : Result PublishedEvent := do
  let table ← match tableOf? r.source.toList with
    | some table => pure (String.ofList table)
    | none => throw (.dataIntegrity "stream" "eventSourceARN" s!"cannot parse {r.source}")
  let model ← match r.currentImage.bind entityType? with
    | some model => pure model
    | none => throw (.dataIntegrity table entityTypeAttribute
        s!"{r.mutation.name} record has no model type discriminator")
  pure {
    source := s!"{table}.{model}"
    detailType := r.mutation.name
    detail := r.toJson
    time := r.changedAt
    bus := bus }

end PublishedEvent

/-- A broker in memory keeps the events handed to it, first ones first. -/
abbrev PublishedEvents := List PublishedEvent

namespace PublishedEvents

/-- Publishes the event of a record. -/
def dispatch (bus : Option String) (r : StreamRecord) (events : PublishedEvents) :
    Result PublishedEvent × PublishedEvents :=
  match PublishedEvent.ofRecord bus r with
  | .ok event => (.ok event, events ++ [event])
  | .error e => (.error e, events)

/-- Publishes the events of a batch in order and counts them. The first record without an
event ends it, so that the stream delivers the batch again. -/
def dispatchAll (bus : Option String) (batch : List StreamRecord) (events : PublishedEvents) :
    Result Nat × PublishedEvents :=
  match batch with
  | [] => (.ok 0, events)
  | r :: rest =>
    match dispatch bus r events with
    | (.error e, events) => (.error e, events)
    | (.ok _, events) =>
      let (count, events) := dispatchAll bus rest events
      (count.map (· + 1), events)

end PublishedEvents

namespace BrokerEvent

def toJson (e : BrokerEvent) : Json :=
  .object ((e.id.map fun id => ("id", Json.str id)).toList
    ++ [("detail-type", .str e.detailType), ("source", .str e.source)]
    ++ (e.time.map fun t => ("time", t.toJson)).toList
    ++ [("detail", e.detail.toJson)])

open Json in
def ofJson? : Decoder BrokerEvent := fun value => do
  let [id, detailType, source, time, detail] ← members?
      [.defaulted "id", .listed "detail-type", .listed "source", .defaulted "time",
       .listed "detail"] value
    | none
  some {
    id := ← optional decodeString id
    detailType := ← required decodeString detailType
    source := ← required decodeString source
    time := ← optional decodeTimestamp time
    detail := ← required StreamRecord.ofJson? detail }

/-- The envelope in which the broker delivers a published event. -/
def ofPublished (e : PublishedEvent) : Result BrokerEvent :=
  match StreamRecord.ofJson? e.detail with
  | some detail => .ok ⟨none, e.detailType, e.source, e.time, detail⟩
  | none => .error (.json "the detail is no stream record")

end BrokerEvent

/-- The images of an event in plain JSON. -/
def RawChange.ofEvent (e : BrokerEvent) : RawChange :=
  ⟨e.detail.mutation, e.detail.payload.oldImage.map Item.plain,
   e.detail.payload.newImage.map Item.plain⟩

end Keyspace
