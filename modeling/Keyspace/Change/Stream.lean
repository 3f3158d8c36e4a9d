import Keyspace.Blueprint.Basic
import Keyspace.Json.Decode
import Keyspace.Storage.Condition
import Keyspace.Time.Timestamp

/-!
# Change streams

The storage service reports every mutation of an item as a stream record: what happened,
where, and the images of the item before and after.
-/
namespace Keyspace

/-- What happened to an item. -/
inductive Mutation where
  | insert
  | modify
  | remove
deriving DecidableEq, Inhabited, Repr

namespace Mutation

def name : Mutation → String
  | insert => "INSERT"
  | modify => "MODIFY"
  | remove => "REMOVE"

def all : List Mutation := [insert, modify, remove]

def ofName? (name : String) : Option Mutation := all.find? fun m => m.name = name

/-- Whether a handler for an event runs on this mutation. -/
def triggers (m : Mutation) (event : ChangeEvent) : Bool := event.mutationNames.contains m.name

end Mutation

/-- The images of an item around a mutation, and when it happened. -/
structure StreamPayload where
  /-- Seconds since 1970, as far as they are known. -/
  time : Option Double
  keys : Item
  newImage : Option Item
  oldImage : Option Item
  sequenceNumber : Option String
  viewType : Option String
deriving DecidableEq, Inhabited

structure StreamRecord where
  id : Option String
  mutation : Mutation
  /-- The resource name of the stream, which names the table. -/
  source : String
  payload : StreamPayload
deriving DecidableEq, Inhabited

/-- The model that an image belongs to. -/
def entityType? (image : Item) : Option String :=
  (image.get? entityTypeAttribute).bind AttributeValue.asText?

namespace StreamPayload

def toJson (p : StreamPayload) : Json :=
  let member (name : String) (value : Option Json) : List (String × Json) :=
    (value.map fun v => (name, v)).toList
  .object (member "ApproximateCreationDateTime" (p.time.map .ofDouble)
    ++ [("Keys", p.keys.toJson)]
    ++ member "NewImage" (p.newImage.map Item.toJson)
    ++ member "OldImage" (p.oldImage.map Item.toJson)
    ++ member "SequenceNumber" (p.sequenceNumber.map .str)
    ++ member "StreamViewType" (p.viewType.map .str))

open Json in
def ofJson? : Decoder StreamPayload := fun value => do
  let [time, keys, newImage, oldImage, sequenceNumber, viewType] ← members?
      [.defaulted "ApproximateCreationDateTime", .defaulted "Keys", .defaulted "NewImage",
       .defaulted "OldImage", .defaulted "SequenceNumber", .defaulted "StreamViewType"] value
    | none
  some {
    time := ← optional decodeDouble time
    keys := ← orDefault .empty Item.ofJson? keys
    newImage := ← optional Item.ofJson? newImage
    oldImage := ← optional Item.ofJson? oldImage
    sequenceNumber := ← optional decodeString sequenceNumber
    viewType := ← optional decodeString viewType }

end StreamPayload

namespace StreamRecord

def toJson (r : StreamRecord) : Json :=
  .object ((r.id.map fun id => ("eventID", Json.str id)).toList ++ [
    ("eventName", .str r.mutation.name),
    ("eventSourceARN", .str r.source),
    ("dynamodb", r.payload.toJson)])

open Json in
def ofJson? : Decoder StreamRecord := fun value => do
  let [id, mutation, source, payload] ← members?
      [.defaulted "eventID", .listed "eventName", .listed "eventSourceARN",
       .listed "dynamodb"] value
    | none
  some {
    id := ← optional decodeString id
    mutation := ← required (decodeChoice (Mutation.all.map fun m => (m.name, m))) mutation
    source := ← required decodeString source
    payload := ← required StreamPayload.ofJson? payload }

/-- The image after the mutation, or before it if the item was removed. -/
def currentImage (r : StreamRecord) : Option Item :=
  match r.mutation with
  | .remove => r.payload.oldImage
  | _ => r.payload.newImage

/-- The nearest whole number of 64 bits, a half going away from zero. What lies beyond them gives
the nearest bound, and a NaN gives 0. -/
def nearestInt64 (x : Double) : Int :=
  match x.round? with
  | some n => max int64Min (min int64Max n)
  | none => if x.isNaN then 0 else if x.isNegative then int64Min else int64Max

/-- When the mutation happened, to the nearest millisecond. -/
def changedAt (r : StreamRecord) : Option Timestamp := do
  let seconds ← r.payload.time
  Timestamp.ofMillis? (nearestInt64 (seconds.mul (.ofNat 1000)))

end StreamRecord

/-- The records of a batch in JSON. -/
def StreamRecord.batchOfJson? : Json.Decoder (List StreamRecord) := fun value => do
  let [records] ← Json.members? [.defaulted "Records"] value | none
  Json.orDefault [] (Json.decodeList StreamRecord.ofJson?) records

end Keyspace
