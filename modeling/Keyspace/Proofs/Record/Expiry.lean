import Keyspace.Proofs.Blueprint.Expiry
import Keyspace.Proofs.Record.KeyTypes

/-!
# Items that expire

The resource of a table names the attribute that its items expire by: a number of seconds since
1970. Images have that number if the expiry of their model is a point in time that no function
computes. A day is accepted for the expiry too, and so is a computed field, but neither is ever
written as a number, so that their items never expire.
-/
namespace Keyspace

/-- The seconds from the start of 1970 to a point in time, or to the start of a day. -/
def Value.epochSeconds? : Value → Option Int
  | .timestamp time => some time.seconds
  | .date day => some (day.toDays * 86400)
  | _ => none

/-- The attribute by which the items of a table expire, if they do. -/
def Json.expiryAttribute? (properties : Json) : Option String :=
  (properties.get? "TimeToLiveSpecification").bind fun settings =>
    if (settings.get? "Enabled").bind asBool? = some true then settings.textAt? "AttributeName"
    else none

namespace RecordType

variable {t : RecordType} {r : Record}

/-- The image has the seconds of a value as a number under an attribute. -/
def WritesSeconds (t : RecordType) (r : Record) (attributeName : String) (value : Value) : Prop :=
  ∃ seconds, value.epochSeconds? = some seconds ∧
    Dict.get? (t.marshal r) attributeName = some (.number (toString seconds))

/-- The step of the expiry writes its seconds, over the key if the field is part of it. -/
theorem get?_marshal_expiry (h : t.model.ColumnsApart) {f : Field} (hf : f ∈ t.model.fields)
    (hexpiry : t.model.isExpiry f = true) (hplain : f.computed = none) {time : Timestamp}
    (htime : r.get? f.name = some (.timestamp time)) :
    Dict.get? (t.marshal r) f.column = some (.number (toString time.seconds)) := by
  have hstored : f.isStored = true := by
    rw [Field.isStored, Field.isVirtual, hplain]
    rfl
  have hstep : t.model.fieldStep? t.paths f = some (.expiry f.column f.name f.isRequired) :=
    Model.fieldStep?_eq_some.mpr ⟨hstored, Or.inr (Or.inl ⟨hplain, hexpiry, rfl⟩)⟩
  have hwritten : t.written? r (.expiry f.column f.name f.isRequired) =
      some (.number (toString time.seconds)) := written?_expiry_eq_some.mpr ⟨time, htime, rfl⟩
  rw [get?_marshal_column h hf, hstep, Option.bind_some, hwritten, Option.some_or]

/-- No other step of a field for points in time or days writes a number, nor does the key. -/
theorem plain_of_number (h : t.model.ColumnsApart) (hkeys : Blueprint.KeyFieldsRequired t.model)
    (hr : t.IsTyped r) {f : Field} (hf : f ∈ t.model.fields)
    (htext : (t.valueType f).wireType? = some "S") {number : String}
    (hnumber : Dict.get? (t.marshal r) f.column = some (.number number)) :
    f.computed = none ∧ t.valueType f = .timestamp := by
  by_contra hother
  have hstored : t.storedType? f = some "S" := by
    rw [storedType?, if_neg fun hexpires => hother ⟨hexpires.1, hexpires.2.2⟩, htext]
  have htype := (typeName_of_get?_marshal h hkeys hr hf hnumber).2 "S" hstored
  exact absurd htype (show "N" ≠ "S" by decide)

theorem writesSeconds_iff (h : t.model.ColumnsApart) (hkeys : Blueprint.KeyFieldsRequired t.model)
    (hr : t.IsTyped r) {f : Field} (hf : f ∈ t.model.fields) (hexpiry : t.model.isExpiry f = true)
    (hdated : t.valueType f = .date ∨ t.valueType f = .timestamp) {value : Value}
    (hvalue : r.get? f.name = some value) :
    t.WritesSeconds r f.column value ↔ t.valueType f = .timestamp ∧ f.computed = none := by
  constructor
  · rintro ⟨seconds, -, hnumber⟩
    have htext : (t.valueType f).wireType? = some "S" := by
      rcases hdated with hdate | htimestamp
      · rw [hdate, ValueType.wireType?]
      · rw [htimestamp, ValueType.wireType?]
    exact (plain_of_number h hkeys hr hf htext hnumber).symm
  · rintro ⟨htimestamp, hplain⟩
    have htyped := hr.values f hf value hvalue
    rw [htimestamp] at htyped
    cases value with
    | timestamp time => exact ⟨time.seconds, rfl, get?_marshal_expiry h hf hexpiry hplain hvalue⟩
    | _ => cases htyped

/-- The type of a field that a model may have as its expiry. -/
theorem valueType_of_dated {f : Field} (hkind : f.kind = .scalar) (hsingle : f.isList = false)
    (hname : f.typeName = "Date" ∨ f.typeName = "DateTime") :
    (t.valueType f = .date ∨ t.valueType f = .timestamp) ∧
      (t.valueType f = .timestamp ↔ f.typeName = "DateTime") := by
  have htype : t.valueType f = ValueType.ofScalar f.typeName := by
    unfold valueType
    rw [hkind, hsingle]
    rfl
  rw [htype]
  rcases hname with hname | hname <;> rw [hname]
  · exact ⟨Or.inl rfl, nofun, by decide⟩
  · exact ⟨Or.inr rfl, fun _ => rfl, fun _ => rfl⟩

end RecordType

namespace Blueprint

open RecordType Template

theorem expiryAttribute?_tableResource (b : Blueprint) (t : Table) :
    (tableResource b t).properties.expiryAttribute? = t.ttlAttribute := by
  unfold Json.expiryAttribute? tableResource
  simp only [Json.get?_object, List.filter_append, filter_listUnlessEmpty]
  cases t.isStreaming <;> cases t.ttlAttribute <;>
    simp [Json.textAt?, Json.get?_object, Json.asBool?, Json.asString?]

/-- In an accepted schema the table of a model with an expiry names the attribute of that field. The
images of records with the field set have its seconds there if the field is a point in time that no
function computes, and only then. -/
theorem expiry_written_iff {config : Config} {text : String} {b : Blueprint}
    (hb : ofSchema config text = .ok b) {m : Model} (hm : m ∈ b.models) {ttl : TimeToLive}
    (httl : m.ttl = some ttl) :
    ∃ t ∈ b.tables, t.name = m.table ∧ ∃ attributeName f,
      (tableResource b t).properties.expiryAttribute? = some attributeName ∧
      m.field? ttl.field = some f ∧
      ∀ paths functions r value, (b.recordType paths m functions).IsTyped r →
        r.get? ttl.field = some value →
          ((b.recordType paths m functions).WritesSeconds r attributeName value ↔
            f.typeName = "DateTime" ∧ f.computed = none) := by
  obtain ⟨document, -, hdocument⟩ := ofSchema_eq_ok hb
  obtain ⟨type, directives, horigin⟩ := exists_origin hdocument hm
  obtain ⟨t, ht, hname, -⟩ := (ofSchema_isSound hb).tableOf m hm
  have hmember : m ∈ b.modelsOn t := List.mem_filter.mpr ⟨hm, by simpa using hname.symm⟩
  obtain ⟨d, f, hfound, hexpiry⟩ := horigin.exists_expiryField httl
  have hf : f ∈ m.fields := List.mem_of_find?_eq_some hfound
  have hattribute : (tableResource b t).properties.expiryAttribute? = some f.column := by
    rw [expiryAttribute?_tableResource, (ofSchema_isMergeOf hb ht).ttlAttribute_eq hmember httl,
      hexpiry.column_eq]
  refine ⟨t, ht, hname, f.column, f, hattribute, hfound,
    fun paths functions r value hr hvalue => ?_⟩
  obtain ⟨hkind, htype⟩ := horigin.kind_of_dated hf hexpiry.dated
  obtain ⟨hdated, htimestamp⟩ :=
    valueType_of_dated (t := b.recordType paths m functions) hkind hexpiry.single htype
  have hisExpiry : m.isExpiry f = true := by
    rw [Model.isExpiry, httl]
    exact decide_eq_true hexpiry.field_eq
  rw [← htimestamp]
  exact writesSeconds_iff (t := b.recordType paths m functions) horigin.columnsApart
    ((ofSchema_isSound hb).keyFieldsRequired m hm) hr hf hisExpiry hdated
    (hexpiry.field_eq ▸ hvalue)

namespace PassExample

def schema (directives : String) : String :=
  "type Pass @partitionKey(pkFields: [\"id\"]) \x7b id: ID! until: DateTime @ttl " ++ directives ++
    "\x7d"

def key : PrimaryKey := .simple ⟨"id", ["id"], none, true⟩

/-- Passes end at a point in time, which a function may compute. -/
def pass (computed : Option ComputeFunction) : Model :=
  ⟨"Pass", "Pass", [.scalar "id" "ID" true,
    { Field.scalar "until" "DateTime" false with isDateType := true, computed := computed }],
    key, [], some ⟨"until", "until", none⟩, false, false, false, []⟩

def passes : Table := ⟨"Pass", key, [], false, false, some "until", none⟩

def blueprint (computed : Option ComputeFunction) : Blueprint := ⟨[pass computed], [passes], []⟩

def record : Record := ⟨[("id", .text "7"), ("until", .timestamp ⟨86400, 0⟩)], .unwritten⟩

theorem ofSchema_plain : ofSchema .default (schema "") = .ok (blueprint none) := by
  decide +kernel

/-- The function gives the value that the record has. -/
def functions : Dict Computation := [("crate::pass::until", fun r => r.get? "until")]

def ending : ComputeFunction := ⟨"crate::pass::until", false⟩

theorem ofSchema_computed :
    ofSchema .default (schema "@computed(function: \"crate::pass::until\")") =
      .ok (blueprint (some ending)) := by
  decide +kernel

def passType (computed : Option ComputeFunction) : RecordType :=
  (blueprint computed).recordType Code.functionPath? (pass computed) functions

theorem isTyped_record (computed : Option ComputeFunction)
    (hending : ∀ c ∈ computed, c = ending) : (passType computed).IsTyped record := by
  have hvalue (value : Value) (hvalue : record.get? "until" = some value) :
      ValueType.timestamp.Has value := by
    cases hvalue
    trivial
  constructor
  case values =>
    simp only [passType, recordType, pass, List.forall_mem_cons]
    refine ⟨fun value hid => ?_, hvalue, by simp⟩
    cases hid
    trivial
  case required =>
    simp only [passType, recordType, pass, List.forall_mem_cons]
    exact ⟨fun _ => rfl, fun hrequired => absurd hrequired Bool.false_ne_true, by simp⟩
  case computed =>
    simp only [passType, recordType, pass, List.forall_mem_cons]
    refine ⟨fun c hc => absurd hc (Option.not_mem_none c), fun c hc value hcomputed => ?_, by simp⟩
    cases hending c hc
    exact hvalue value hcomputed

end PassExample

open PassExample in
/-- A pass that ends a day after the start of 1970 expires then. -/
theorem pass_expires_when_it_ends : ofSchema .default (schema "") = .ok (blueprint none) ∧
    pass none ∈ (blueprint none).models ∧ (pass none).ttl = some ⟨"until", "until", none⟩ ∧
    ∃ t ∈ (blueprint none).tables,
      (tableResource (blueprint none) t).properties.expiryAttribute? = some "until" ∧
      (passType none).WritesSeconds record "until" (.timestamp ⟨86400, 0⟩) := by
  have hmem : pass none ∈ (blueprint none).models := List.mem_singleton_self _
  obtain ⟨t, ht, -, attributeName, f, hattribute, hfound, hiff⟩ :=
    expiry_written_iff ofSchema_plain hmem rfl
  obtain rfl := List.mem_singleton.mp ht
  cases hfound
  rw [expiryAttribute?_tableResource] at hattribute
  cases hattribute
  have hwrites := (hiff _ functions record _ (isTyped_record none (by simp)) rfl).mpr ⟨rfl, rfl⟩
  exact ⟨ofSchema_plain, hmem, rfl, passes, ht, expiryAttribute?_tableResource _ _, hwrites⟩

open PassExample in
/-- A function that computes the end of a pass is accepted. What it gives is written as a text, by
which no item expires. -/
theorem computed_expiry_is_text :
    ofSchema .default (schema "@computed(function: \"crate::pass::until\")") =
      .ok (blueprint (some ending)) ∧
    pass (some ending) ∈ (blueprint (some ending)).models ∧
    (pass (some ending)).ttl = some ⟨"until", "until", none⟩ ∧
    passes ∈ (blueprint (some ending)).tables ∧
    (tableResource (blueprint (some ending)) passes).properties.expiryAttribute? = some "until" ∧
    (passType (some ending)).IsTyped record ∧
    record.get? "until" = some (.timestamp ⟨86400, 0⟩) ∧
    Dict.get? ((passType (some ending)).marshal record) "until" =
      some (.text "1970-01-02T00:00:00.000Z") ∧
    ¬(passType (some ending)).WritesSeconds record "until" (.timestamp ⟨86400, 0⟩) := by
  have htext : Dict.get? ((passType (some ending)).marshal record) "until" =
      some (.text "1970-01-02T00:00:00.000Z") := by
    decide +kernel
  refine ⟨ofSchema_computed, List.mem_singleton_self _, rfl, List.mem_singleton_self _,
    expiryAttribute?_tableResource _ _, isTyped_record _ fun c hc => (Option.some.inj hc).symm, rfl,
    htext, ?_⟩
  rintro ⟨seconds, -, hnumber⟩
  cases htext.symm.trans hnumber

end Blueprint

end Keyspace
