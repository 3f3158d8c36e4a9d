import Keyspace.Proofs.Template.EventRules

/-!
# Dispatching a batch

The dispatcher can tell where a record belongs if the resource name of its stream has the name
of a table in it and the image that matters, the old one of a removal and the new one of any
other change, names its model. A batch is published record by record up to the first one of
which this cannot be told. The stream then delivers the batch again.
-/
namespace Keyspace

/-- The name of a table stands between its marks somewhere in a resource name. -/
def HasTable (source : String) : Prop :=
  ∃ before rest table, source.toList = before ++ rest ∧ BeginsWithTable rest table

namespace PublishedEvent

/-- Wherever a table stands, the search finds one. -/
theorem tableOf?_isSome {before rest table : List Char} (h : BeginsWithTable rest table) :
    (tableOf? (before ++ rest)).isSome = true := by
  induction before with
  | nil =>
    cases rest with
    | nil =>
      obtain ⟨after, hafter⟩ := h.marked
      simp at hafter
    | cons c rest => simp [tableOf?_cons, tableHere?_eq_some.mpr h]
  | cons c before ih => simp [tableOf?_cons, ih]

/-- Among the places at which a table stands in a resource name, one is the first. -/
theorem hasTable_iff {source : String} : HasTable source ↔ ∃ table, NamesTable source table := by
  constructor
  · rintro ⟨before, rest, table, hsplit, htable⟩
    have hsome : (tableOf? source.toList).isSome = true := hsplit ▸ tableOf?_isSome htable
    obtain ⟨found, hfound⟩ := Option.isSome_iff_exists.mp hsome
    exact ⟨String.ofList found, tableOf?_iff_namesTable.mp (by rw [hfound, String.toList_ofList])⟩
  · rintro ⟨table, before, rest, hsplit, htable, -⟩
    exact ⟨before, rest, table.toList, hsplit, htable⟩

-- A table of an index has no stream mark after its name, so the search goes on.
example : tableOf? ":table/Orders/index:table/Archive/stream/1".toList = some "Archive".toList := by
  decide

end PublishedEvent

theorem AttributeValue.asText?_eq_some {value : AttributeValue} {text : String} :
    value.asText? = some text ↔ value = .text text := by
  cases value <;> simp [asText?]

namespace StreamRecord

/-- The image that the mutation leaves, or the one that it takes away, has the name of a model
in it, as a text. -/
def NamesModel (r : StreamRecord) (model : String) : Prop :=
  ∃ image, (if r.mutation = .remove then r.payload.oldImage else r.payload.newImage) = some image ∧
    image.get? entityTypeAttribute = some (.text model)

/-- A record whose table and model can both be told. -/
def IsAttributable (r : StreamRecord) : Prop :=
  HasTable r.source ∧ ∃ model, r.NamesModel model

theorem bind_entityType?_eq_some {r : StreamRecord} {model : String} :
    r.currentImage.bind entityType? = some model ↔ r.NamesModel model := by
  have himage : r.currentImage =
      if r.mutation = .remove then r.payload.oldImage else r.payload.newImage := by
    unfold currentImage
    cases r.mutation <;> rfl
  simp only [NamesModel, entityType?, himage, Option.bind_eq_some_iff,
    AttributeValue.asText?_eq_some, exists_eq_right]

/-- The event that is published of a record. -/
structure HasEvent (r : StreamRecord) (bus : Option String) (e : PublishedEvent) : Prop where
  source : ∃ table model, NamesTable r.source table ∧ r.NamesModel model ∧
    e.source = table ++ "." ++ model
  kind : e.detailType = r.mutation.name
  detail : e.detail = r.toJson
  time : e.time = r.changedAt
  bus : e.bus = bus

/-- The error that is reported of a record that cannot be attributed. -/
inductive Fails (r : StreamRecord) : Error → Prop where
  | table (h : ¬HasTable r.source) :
      Fails r (.dataIntegrity "stream" "eventSourceARN" ("cannot parse " ++ r.source))
  | model {table : String} (htable : NamesTable r.source table) (h : ∀ model, ¬r.NamesModel model) :
      Fails r (.dataIntegrity table entityTypeAttribute
        (r.mutation.name ++ " record has no model type discriminator"))

theorem Fails.not_isAttributable {r : StreamRecord} {e : Error} (h : r.Fails e) :
    ¬r.IsAttributable := by
  rintro ⟨htable, model, hmodel⟩
  cases h with
  | table hnone => exact hnone htable
  | model _ hnone => exact hnone model hmodel

end StreamRecord

open StreamRecord

/-- A record has an event if it can be attributed, and fails otherwise. -/
theorem PublishedEvent.ofRecord_cases (bus : Option String) (r : StreamRecord) :
    (∃ e, ofRecord bus r = .ok e ∧ r.IsAttributable ∧ r.HasEvent bus e) ∨
      ∃ e, ofRecord bus r = .error e ∧ r.Fails e := by
  unfold ofRecord
  cases hfound : tableOf? r.source.toList with
  | none =>
    have hnone : ¬HasTable r.source := by
      rw [hasTable_iff]
      rintro ⟨table, htable⟩
      cases hfound.symm.trans (tableOf?_iff_namesTable.mpr htable)
    exact Or.inr ⟨_, rfl, .table hnone⟩
  | some found =>
    have htable : NamesTable r.source (String.ofList found) :=
      tableOf?_iff_namesTable.mp (by rw [hfound, String.toList_ofList])
    cases hmodel : r.currentImage.bind entityType? with
    | none =>
      refine Or.inr ⟨_, rfl, .model htable fun model hnamed => ?_⟩
      cases hmodel.symm.trans (bind_entityType?_eq_some.mpr hnamed)
    | some model =>
      have hnamed := bind_entityType?_eq_some.mp hmodel
      exact Or.inl ⟨_, rfl, ⟨hasTable_iff.mpr ⟨_, htable⟩, model, hnamed⟩,
        ⟨⟨_, model, htable, hnamed, rfl⟩, rfl, rfl, rfl, rfl⟩⟩

namespace PublishedEvents

variable {bus : Option String} {r : StreamRecord} {batch : List StreamRecord}
  {events : PublishedEvents}

theorem dispatchAll_cons_of_event {e : PublishedEvent} (h : PublishedEvent.ofRecord bus r = .ok e) :
    dispatchAll bus (r :: batch) events =
      ((dispatchAll bus batch (events ++ [e])).1.map (· + 1),
        (dispatchAll bus batch (events ++ [e])).2) := by
  simp [dispatchAll, dispatch, h]

theorem dispatchAll_cons_of_failure {e : Error} (h : PublishedEvent.ofRecord bus r = .error e) :
    dispatchAll bus (r :: batch) events = (.error e, events) := by
  simp [dispatchAll, dispatch, h]

/-- A batch is published up to the first record that cannot be attributed, with one event for
each record before it and in their order. What was published before stays, and nothing else is
added. The result is the number of records, or the error of that record. -/
theorem dispatchAll_attributable (bus : Option String) (batch : List StreamRecord)
    (events : PublishedEvents) :
    ∃ attributed rest published, batch = attributed ++ rest ∧
      (∀ r ∈ attributed, r.IsAttributable) ∧ (∀ r ∈ rest.head?, ¬r.IsAttributable) ∧
      List.Forall₂ (HasEvent · bus) attributed published ∧
      (dispatchAll bus batch events).2 = events ++ published ∧
      (rest = [] → (dispatchAll bus batch events).1 = .ok batch.length) ∧
      ∀ r ∈ rest.head?, ∃ e, r.Fails e ∧ (dispatchAll bus batch events).1 = .error e := by
  induction batch generalizing events with
  | nil => exact ⟨[], [], [], by simp [dispatchAll]⟩
  | cons r batch ih =>
    rcases PublishedEvent.ofRecord_cases bus r with ⟨e, hevent, hr, hpublished⟩ | ⟨e, hfailure, hr⟩
    · obtain ⟨attributed, rest, published, hsplit, hall, hstop, hevents, hadded, hcount, herror⟩ :=
        ih (events ++ [e])
      rw [dispatchAll_cons_of_event hevent]
      refine ⟨r :: attributed, rest, e :: published, by rw [hsplit, List.cons_append], ?_, hstop,
        .cons hpublished hevents, ?_, fun hrest => ?_, fun r' hr' => ?_⟩
      · simpa [hr] using hall
      · simpa using hadded
      · simp [hcount hrest, Except.map]
      · obtain ⟨e', hfails, hresult⟩ := herror r' hr'
        exact ⟨e', hfails, by simp [hresult, Except.map]⟩
    · rw [dispatchAll_cons_of_failure hfailure]
      refine ⟨[], r :: batch, [], rfl, by simp, ?_, .nil, by simp, by simp, ?_⟩
      · simpa using hr.not_isAttributable
      · simpa using hr

end PublishedEvents

end Keyspace
