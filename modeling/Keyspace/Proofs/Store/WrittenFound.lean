import Keyspace.Proofs.Record.WrittenRead
import Keyspace.Proofs.Store.CreateFind
import Keyspace.Proofs.Store.Operation

/-!
# Written records can be read

Whatever create and update leave in the storage in memory can be read again under the key of the
record, with one exception: a field that is never unset and holds a JSON null is written as a
null, which the reader takes for a missing attribute. From then on no call can read that key.
-/
namespace Keyspace

namespace RecordType

variable {t : RecordType} {now : Timestamp} {r prepared : Record}

/-- What the generated code of a model needs in order to compile, as far as it matters to its
records: members of a structure have different names, and the seconds of the expiry are taken of
a point in time. -/
structure Compiles (t : RecordType) : Prop where
  distinct : (t.model.fields.map (·.name)).Nodup
  expiry : ∀ f ∈ t.model.fields, t.model.isExpiry f = true → t.valueType f = .timestamp

/-- A record of a model whose dates and times lie in the years 0 to 9999. -/
structure IsRecordInYears (t : RecordType) (r : Record) : Prop where
  values : ∀ f ∈ t.model.fields, ∀ value ∈ r.get? f.name, (t.valueType f).HasInYears value
  complete : ∀ f ∈ t.model.fields, f.isList = true ∨ f.isRequired = true → (r.get? f.name).isSome
  createdAt : ∀ time ∈ r.revision.createdAt, time.HasFourDigits

/-- No field that is never unset is null; lists are not, whatever they hold. -/
def HasNoNull (t : RecordType) (r : Record) : Prop :=
  ∀ f ∈ t.model.fields, f.isRequired = true → f.isList = false →
    r.get? f.name ≠ some (.json .null)

theorem IsRecordInYears.storesReadably (h : t.IsRecordInYears r) (ht : t.Compiles) :
    t.StoresReadably r := by
  refine ⟨h.complete, fun f hf _ => h.values f hf, fun f hf hexpiry => ?_⟩
  have htype := ht.expiry f hf hexpiry
  refine ⟨htype, fun value hvalue => ?_⟩
  have hyears := h.values f hf value hvalue
  rw [htype] at hyears
  cases value with
  | timestamp time => exact ⟨time, rfl, hyears.point.inRange⟩
  | _ => cases hyears

/-- Creation prepares a record that can be stored, and makes no difference to its nulls. -/
theorem IsRecordInYears.beforeCreate (h : t.IsRecordInYears r) (ht : t.Compiles)
    (hprepared : t.beforeCreate now r = .ok prepared) :
    t.StoresReadably prepared ∧ (t.HasNoNull prepared ↔ t.HasNoNull r) := by
  have hr := h.storesReadably ht
  obtain rfl | ⟨ttl, later, httl, -, hunset, ⟨seconds, hlater⟩, rfl⟩ := beforeCreate_eq_ok hprepared
  · exact ⟨hr, Iff.rfl⟩
  have hisExpiry {f : Field} (hname : f.name = ttl.field) : t.model.isExpiry f = true := by
    unfold Model.isExpiry
    rw [httl]
    exact decide_eq_true hname.symm
  have hrange := (plusSeconds?_whole hlater).1
  constructor
  · constructor
    case complete =>
      intro f hf hset
      rw [Record.get?_set]
      split
      · rfl
      · exact hr.complete f hf hset
    case plain =>
      intro f hf hplain value hvalue
      have hne : f.name ≠ ttl.field := by
        intro hname
        rw [hisExpiry hname] at hplain
        cases hplain
      rw [Record.get?_set, if_neg hne] at hvalue
      exact hr.plain f hf hplain value hvalue
    case expiry =>
      intro f hf hexpires
      refine ⟨(hr.expiry f hf hexpires).1, fun value hvalue => ?_⟩
      rw [Record.get?_set] at hvalue
      split at hvalue
      · exact ⟨later, (Option.some.inj hvalue).symm, hrange⟩
      · exact (hr.expiry f hf hexpires).2 value hvalue
  · refine forall₂_congr fun f hf => imp_congr_right fun _ => imp_congr_right fun _ => not_congr ?_
    rw [Record.get?_set]
    split
    · next hname =>
      rw [hname, hunset]
      simp
    · rfl

end RecordType

namespace Store

variable {e : Environment} {t : RecordType} {now : Timestamp} {r written : Record}
  {s s' : MemoryStorage}

/-- A record just written under its key is found if its image can be read. -/
theorem exists_found_iff (hbound : IsBound e t) (hplain : ∀ f ∈ t.model.fields, f.computed = none)
    (ht : t.Compiles) (key : Item) (stored : Record) :
    (∃ found, (inMemory e).find t key (s.write (slotOf e t key) (t.toItem stored)) =
      (.ok (some found), s.write (slotOf e t key) (t.toItem stored)) ∧ t.IsRecord found) ↔
      ∃ found, t.unmarshal (t.toItem stored) = .ok found := by
  rw [find_apply hbound, MemoryStorage.itemAt?_write, if_pos rfl, Option.mapM_some]
  constructor
  · rintro ⟨found, hfound, -⟩
    obtain ⟨read, hread, -⟩ := Result.map_eq_ok.mp (Prod.mk.inj hfound).1
    exact ⟨read, hread⟩
  · rintro ⟨found, hfound⟩
    refine ⟨found, ?_, RecordType.isRecord_of_unmarshal hplain ht.distinct hfound⟩
    rw [hfound]
    rfl

/-- A record that is created or updated is found under its key afterwards, exactly if no field
that is never unset holds a JSON null. -/
theorem written_is_found_iff {config : Config} {text : String} {b : Blueprint}
    (hb : Blueprint.ofSchema config text = .ok b) (hm : t.model ∈ b.models)
    (hplain : ∀ f ∈ t.model.fields, f.computed = none) (ht : t.Compiles)
    (hr : t.IsRecordInYears r) (hnow : now.HasFourDigits)
    (h : (inMemory e).create t now r s = (.ok written, s') ∨
      (inMemory e).update t now r s = (.ok written, s')) :
    (∃ found, (inMemory e).find t (t.key r) s' = (.ok (some found), s') ∧ t.IsRecord found) ↔
      t.HasNoNull r := by
  have hkeys := (Blueprint.ofSchema_isSound hb).keyFieldsRequired t.model hm
  have hmodel : RecordType.IsStoredPlainly t.model :=
    ⟨Blueprint.ofSchema_columnsApart hb hm, hkeys, hplain⟩
  have hindexes := Blueprint.ofSchema_indexesNamed hb hm
  rcases h with h | h
  · obtain ⟨hbound, prepared, hprepared, rfl, rfl⟩ := create_eq_ok h
    obtain ⟨hstores, hnull⟩ := hr.beforeCreate ht hprepared
    have hcreated : t.StoresReadably (prepared.created now) :=
      ⟨hstores.complete, hstores.plain, hstores.expiry⟩
    have hrevision : (prepared.created now).revision.HasFourDigits :=
      ⟨(by decide : fitsInt64 1 = true), by simpa [Record.created] using hnow,
        by simpa [Record.created] using hnow⟩
    have hkey : t.key prepared = t.key r := RecordType.key_beforeCreate hkeys hprepared
    have hcreatedKey : t.key (prepared.created now) = t.key r := hkey
    rw [hcreatedKey, exists_found_iff hbound hplain ht,
      RecordType.exists_unmarshal_toItem_iff hmodel hindexes hcreated hrevision]
    exact hnull
  · obtain ⟨hbound, hfits, -, rfl⟩ := update_eq_ok h
    have hstores := hr.storesReadably ht
    have hupdated : t.StoresReadably (r.updated now) :=
      ⟨hstores.complete, hstores.plain, hstores.expiry⟩
    have hrevision : (r.updated now).revision.HasFourDigits :=
      ⟨hfits, hr.createdAt, by simpa [Record.updated] using hnow⟩
    rw [exists_found_iff hbound hplain ht,
      RecordType.exists_unmarshal_toItem_iff hmodel hindexes hupdated hrevision]
    rfl

namespace BodyExample

/-- A body of any JSON that is never unset. -/
def schema : String :=
  "type Note @partitionKey(pkFields: [\"id\"]) \x7b id: ID! body: JSONObject! editedAt: DateTime \x7d"

def key : PrimaryKey := .simple ⟨"id", ["id"], none, true⟩

def note : RecordType :=
  ⟨⟨"Note", "Note", [.scalar "id" "ID" true, .scalar "body" "JSONObject" true,
    { Field.scalar "editedAt" "DateTime" false with isDateType := true }], key, [], none, false,
    false, false, []⟩, [], .empty, Code.functionPath?⟩

def blueprint : Blueprint := ⟨[note.model], [⟨"Note", key, [], false, false, none, none⟩], []⟩

def bindings : Environment := .detached [(tableVariable "Note", "notes")]

/-- A little after the first of May 2024, at noon. -/
def noon : Timestamp := ⟨1714564800, 123456789⟩

def record (body : Json) : Record :=
  ⟨[("body", .json body), ("editedAt", .timestamp noon), ("id", .text "n1")], .unwritten⟩

/-- What the storage holds once a note is created. -/
def storage (body : Json) : MemoryStorage :=
  MemoryStorage.empty.write (slotOf bindings note (note.key (record body)))
    (note.toItem ((record body).created noon))

theorem isBound : IsBound bindings note := rfl

theorem create_record (body : Json) : (inMemory bindings).create note noon (record body) .empty =
    (.ok ((record body).created noon), storage body) := by
  have hprepared : note.beforeCreate noon (record body) = .ok (record body) := rfl
  rw [create_apply isBound hprepared, MemoryStorage.itemAt?_empty]
  rfl

theorem noon_hasFourDigits : noon.HasFourDigits :=
  ⟨⟨by decide, Or.inl (by decide)⟩, by decide, by decide⟩

theorem compiles : note.Compiles := ⟨by decide, by decide⟩

theorem isRecordInYears (body : Json) : note.IsRecordInYears (record body) := by
  refine ⟨?_, ?_, by simp [record, Revision.unwritten]⟩
  · intro f hf value hvalue
    simp only [note, List.mem_cons, List.not_mem_nil, or_false] at hf
    rcases hf with rfl | rfl | rfl
    case inl => cases hvalue; trivial
    case inr.inl => cases hvalue; trivial
    case inr.inr => cases hvalue; exact noon_hasFourDigits
  · intro f hf hset
    simp only [note, List.mem_cons, List.not_mem_nil, or_false] at hf
    rcases hf with rfl | rfl | rfl <;> rfl

end BodyExample

open BodyExample in
/-- A note whose body is an empty list is found, without the fraction of the millisecond. -/
theorem created_note_is_found : Blueprint.ofSchema .default schema = .ok blueprint ∧
    note.model ∈ blueprint.models ∧
    (inMemory bindings).create note noon (record (.arr [])) .empty =
      (.ok ((record (.arr [])).created noon), storage (.arr [])) ∧
    ∃ found, (inMemory bindings).find note (note.key (record (.arr []))) (storage (.arr [])) =
      (.ok (some found), storage (.arr [])) ∧ note.IsRecord found := by
  have hschema : Blueprint.ofSchema .default schema = .ok blueprint := by decide +kernel
  have hmem : note.model ∈ blueprint.models := List.mem_singleton_self _
  have hplain : ∀ f ∈ note.model.fields, f.computed = none := by decide
  have hcreated := create_record (.arr [])
  refine ⟨hschema, hmem, hcreated, (written_is_found_iff hschema hmem hplain compiles
    (isRecordInYears (.arr [])) noon_hasFourDigits (Or.inl hcreated)).mpr ?_⟩
  intro f hf hrequired hlist hnull
  simp only [note, List.mem_cons, List.not_mem_nil, or_false] at hf
  rcases hf with rfl | rfl | rfl
  case inl => cases hnull
  case inr.inl => cases hnull
  case inr.inr => cases hnull

open BodyExample in
/-- A note whose body is null is created, and cannot be found from then on. -/
theorem null_note_is_not_found : Blueprint.ofSchema .default schema = .ok blueprint ∧
    note.model ∈ blueprint.models ∧ (∀ f ∈ note.model.fields, f.computed = none) ∧
    note.Compiles ∧ note.IsRecordInYears (record .null) ∧ noon.HasFourDigits ∧
    (inMemory bindings).create note noon (record .null) .empty =
      (.ok ((record .null).created noon), storage .null) ∧
    (inMemory bindings).find note (note.key (record .null)) (storage .null) =
      (.error (.dataIntegrity "Note" "body" "required attribute is missing"), storage .null) := by
  refine ⟨by decide +kernel, List.mem_singleton_self _, by decide, compiles, isRecordInYears .null,
    noon_hasFourDigits, create_record .null, ?_⟩
  have hread : note.unmarshal (note.toItem ((record .null).created noon)) =
      .error (.dataIntegrity "Note" "body" "required attribute is missing") := by rfl
  rw [find_apply isBound, storage, MemoryStorage.itemAt?_write, if_pos rfl, Option.mapM_some, hread]
  rfl

end Store

end Keyspace
