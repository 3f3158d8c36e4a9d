import Keyspace.Change.Event
import Keyspace.Proofs.Action
import Keyspace.Proofs.Json.Members
import Keyspace.Proofs.Template.EventRules

/-!
# Delivery of published events

A stream record travels to its handlers in JSON, inside the event that the dispatcher hands to
the broker. It arrives as it was: attribute values at any depth, images that are empty and images
that are missing, and the time, provided that it is a finite number.
-/
namespace Keyspace

open Json (decodeString decodeDouble required optional orDefault)

namespace AttributeValue

mutual

/-- The service's JSON form of a value tells the value. -/
theorem ofJson?_toJson (value : AttributeValue) : ofJson? value.toJson = some value := by
  cases value with
  | text content => simp [toJson, ofJson?]
  | number content => simp [toJson, ofJson?]
  | binary content => simp [toJson, ofJson?]
  | bool content => simp [toJson, ofJson?]
  | null content => simp [toJson, ofJson?]
  | list elements => simp [toJson, ofJson?, elementsOfJson?_elementsToJson elements]
  | map members => simp [toJson, ofJson?, membersOfJson?_membersToJson members]
  | textSet elements => simp [toJson, ofJson?, Json.decodeList_ofStrings elements]
  | numberSet elements => simp [toJson, ofJson?, Json.decodeList_ofStrings elements]
  | binarySet elements => simp [toJson, ofJson?, Json.decodeList_ofStrings elements]

theorem elementsOfJson?_elementsToJson (elements : List AttributeValue) :
    elementsOfJson? (elementsToJson elements) = some elements := by
  cases elements with
  | nil => rfl
  | cons x xs =>
    simp [elementsToJson, elementsOfJson?, ofJson?_toJson x, elementsOfJson?_elementsToJson xs]

theorem membersOfJson?_membersToJson (members : List (String × AttributeValue)) :
    membersOfJson? (membersToJson members) = some members := by
  cases members with
  | nil => rfl
  | cons entry rest =>
    obtain ⟨key, x⟩ := entry
    simp [membersToJson, membersOfJson?, ofJson?_toJson x, membersOfJson?_membersToJson rest]

end

end AttributeValue

theorem Item.ofJson?_toJson (item : Item) : Item.ofJson? item.toJson = some item :=
  AttributeValue.membersOfJson?_membersToJson item

theorem Item.optional_toJson (image : Option Item) :
    optional Item.ofJson? (image.map Item.toJson) = some image :=
  Json.optional_map (fun item _ => Item.ofJson?_toJson item) fun _ _ h => by cases h

theorem optional_str (text : Option String) :
    optional decodeString (text.map .str) = some text :=
  Json.optional_map (fun _ _ => rfl) fun _ _ h => by cases h

/-- A finite number is read back from its JSON form; any other number has none. -/
theorem optional_ofDouble {time : Option Double} (h : ∀ seconds ∈ time, seconds.isFinite = true) :
    optional decodeDouble (time.map .ofDouble) = some time := by
  have hform : ∀ seconds ∈ time, Json.ofDouble seconds = .float seconds :=
    fun seconds hseconds => if_pos (h seconds hseconds)
  refine Json.optional_map (fun seconds hseconds => ?_) fun seconds hseconds hnull => ?_
  · rw [hform seconds hseconds]
    rfl
  · rw [hform seconds hseconds] at hnull
    cases hnull

theorem Mutation.decodeChoice_name (m : Mutation) :
    Json.decodeChoice (Mutation.all.map fun m => (m.name, m)) (.str m.name) = some m := by
  cases m <;> decide

theorem StreamPayload.ofJson?_toJson {p : StreamPayload}
    (h : ∀ seconds ∈ p.time, seconds.isFinite = true) : ofJson? p.toJson = some p := by
  have hmembers : Json.members? [.defaulted "ApproximateCreationDateTime", .defaulted "Keys",
      .defaulted "NewImage", .defaulted "OldImage", .defaulted "SequenceNumber",
      .defaulted "StreamViewType"] p.toJson =
        some [p.time.map .ofDouble, some p.keys.toJson, p.newImage.map Item.toJson,
          p.oldImage.map Item.toJson, p.sequenceNumber.map .str, p.viewType.map .str] := by
    unfold toJson
    simp only [Json.members?_object, List.map_cons, List.map_nil, Json.Member.defaulted,
      Dict.get?_ofList_append, Dict.get?_ofList_option, Dict.get?_ofList_cons]
    simp [Dict.ofList]
  unfold ofJson?
  rw [hmembers]
  simp [optional_ofDouble h, Item.optional_toJson, optional_str, orDefault, Item.ofJson?_toJson]

theorem StreamRecord.ofJson?_toJson {r : StreamRecord}
    (h : ∀ seconds ∈ r.payload.time, seconds.isFinite = true) : ofJson? r.toJson = some r := by
  have hid : (r.id.map fun id => ("eventID", Json.str id)) =
      (r.id.map Json.str).map fun v => ("eventID", v) := by
    rw [Option.map_map]
    rfl
  have hmembers : Json.members? [.defaulted "eventID", .listed "eventName",
      .listed "eventSourceARN", .listed "dynamodb"] r.toJson =
        some [r.id.map .str, some (.str r.mutation.name), some (.str r.source),
          some r.payload.toJson] := by
    unfold toJson
    rw [hid]
    simp only [Json.members?_object, List.map_cons, List.map_nil, Json.Member.defaulted,
      Json.Member.listed, Dict.get?_ofList_append, Dict.get?_ofList_option, Dict.get?_ofList_cons]
    simp [Dict.ofList]
  unfold ofJson?
  rw [hmembers]
  simp [optional_str, required, Mutation.decodeChoice_name, StreamPayload.ofJson?_toJson h]

/-- All that an event says of its record but the names of the table and the model. -/
theorem PublishedEvent.ofRecord_eq_ok {bus : Option String} {r : StreamRecord} {e : PublishedEvent}
    (h : ofRecord bus r = .ok e) :
    ∃ source, e = ⟨source, r.mutation.name, r.toJson, r.changedAt, bus⟩ := by
  unfold ofRecord at h
  cases htable : tableOf? r.source.toList with
  | none =>
    rw [htable] at h
    cases h
  | some table =>
    cases hmodel : r.currentImage.bind entityType? with
    | none =>
      rw [htable, hmodel] at h
      cases h
    | some model =>
      rw [htable, hmodel] at h
      cases h
      exact ⟨_, rfl⟩

theorem PublishedEvents.dispatch_eq_ok {bus : Option String} {r : StreamRecord}
    {events events' : PublishedEvents} {e : PublishedEvent}
    (h : dispatch bus r events = (.ok e, events')) :
    PublishedEvent.ofRecord bus r = .ok e ∧ events' = events ++ [e] := by
  unfold dispatch at h
  split at h
  · next hevent =>
    cases h
    exact ⟨hevent, rfl⟩
  · cases h

/-- What the dispatcher publishes of a record is delivered, and tells the record as it was. The
source, the kind and the time of the event are those of the published one. -/
theorem delivered_as_dispatched {r : StreamRecord}
    (h : ∀ seconds ∈ r.payload.time, seconds.isFinite = true) {bus : Option String}
    {events events' : PublishedEvents} {e : PublishedEvent}
    (hdispatch : PublishedEvents.dispatch bus r events = (.ok e, events')) :
    events' = events ++ [e] ∧
      BrokerEvent.ofPublished e = .ok ⟨none, e.detailType, e.source, e.time, r⟩ := by
  obtain ⟨hevent, hevents⟩ := PublishedEvents.dispatch_eq_ok hdispatch
  obtain ⟨source, rfl⟩ := PublishedEvent.ofRecord_eq_ok hevent
  refine ⟨hevents, ?_⟩
  unfold BrokerEvent.ofPublished
  rw [StreamRecord.ofJson?_toJson h]

namespace NestedImageExample

def payload : StreamPayload where
  time := some (.ofNat 1714564800)
  keys := [("pk", .text "ORDER#1")]
  newImage := some [(entityTypeAttribute, .text "Order"), ("lines", .list [.map
    [("codes", .textSet []), ("gift", .bool false), ("note", .null true)], .map []])]
  oldImage := some []
  sequenceNumber := none
  viewType := some "NEW_AND_OLD_IMAGES"

/-- In the table `Orders`, nested values take the place of an empty image. -/
def record : StreamRecord where
  id := none
  mutation := .modify
  source := "arn:aws:dynamodb:us-east-1:123456789012:table/Orders/stream/2024-05-01T00:00:00.000"
  payload := payload

end NestedImageExample

open NestedImageExample in
/-- The record of a nested image arrives as it was, its old image being empty still. -/
theorem nested_image_is_delivered :
    (∀ seconds ∈ payload.time, seconds.isFinite = true) ∧
      ∃ e, PublishedEvents.dispatch (some "bus") record [] = (.ok e, [e]) ∧
        BrokerEvent.ofPublished e = .ok ⟨none, "MODIFY", "Orders.Order", e.time, record⟩ := by
  have hfinite : ∀ seconds ∈ payload.time, seconds.isFinite = true := by
    intro seconds hseconds
    rw [← Option.some.inj hseconds]
    decide +kernel
  have htable : NamesTable record.source "Orders" :=
    PublishedEvent.tableOf?_iff_namesTable.mp (by decide +kernel)
  have hmodel : record.currentImage.bind entityType? = some "Order" := rfl
  obtain ⟨e, hdispatch, hsource, hkind⟩ :=
    PublishedEvents.dispatch_of_namesTable htable hmodel (some "bus") []
  have hdelivered := (delivered_as_dispatched hfinite hdispatch).2
  rw [hsource, hkind] at hdelivered
  exact ⟨hfinite, e, hdispatch, hdelivered⟩

end Keyspace
