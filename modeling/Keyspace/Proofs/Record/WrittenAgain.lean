import Keyspace.Proofs.Store.WrittenFound
import Keyspace.Proofs.Time.Readers

/-!
# Writing back what was read

A record that was read from an item, whatever columns and forms its values stood in, is written
in one form: under current columns, and with texts that the readers accept. Reading that form
may change a value once more, since a point in time loses what is finer than a millisecond, or
than a second in an expiry column. But what is lost is no part of what is written, and so the
image of the record that is read is the same image.
-/
namespace Keyspace

open Result

namespace ValueType

/-- Whether some value of a type is any JSON. -/
def holdsJson : ValueType → Bool
  | json => true
  | list element => element.holdsJson
  | _ => false

/-- The dates and times of a value lie in the years 0 to 9999. -/
def WithinYears : ValueType → Value → Prop
  | timestamp, .timestamp t => 0 ≤ t.date.year ∧ t.date.year ≤ 9999
  | date, .date d => 0 ≤ d.year ∧ d.year ≤ 9999
  | list element, .list elements => ∀ value ∈ elements, element.WithinYears value
  | _, _ => True

/-- The doubles of a value are read back from their texts. -/
def KeepsDoubles : ValueType → Value → Prop
  | float, .float x => Double.read? (NumberForm.plain.write x) = some x
  | list element, .list elements => ∀ value ∈ elements, element.KeepsDoubles value
  | _, _ => True

variable {type : ValueType} {value read : Value} {found : AttributeValue}

/-! ## What is read -/

theorem isPoint_of_readTimestamp {t : Timestamp} (h : readTimestamp found = .ok t) :
    t.IsPoint := by
  cases found with
  | text content =>
    unfold readTimestamp at h
    dsimp only at h
    cases hread : Timestamp.read? content with
    | none => rw [hread] at h; cases h
    | some point =>
      rw [hread] at h
      cases h
      exact Timestamp.isPoint_of_read? hread
  | number content =>
    obtain ⟨seconds, -, hseconds⟩ := Option.bind_eq_some_iff.mp (of_recognised_eq_ok h)
    exact Timestamp.isPoint_of_ofSeconds? hseconds
  | _ => cases h

theorem isDay_of_readDate {day : Date} (h : readDate found = .ok day) : day.IsDay := by
  obtain ⟨content, -, h⟩ := bind_eq_ok.mp h
  cases hread : Date.read? content with
  | none => rw [hread] at h; cases h
  | some date =>
    rw [hread] at h
    cases h
    exact Date.isDay_of_read? hread

/-- What was read is a value whose attribute can be read, if its years have four digits. -/
theorem hasInYears_of_ofAttribute (h : type.ofAttribute found = .ok value)
    (hyears : type.WithinYears value) : type.HasInYears value := by
  induction type generalizing found value with
  | timestamp =>
    obtain ⟨t, hread, rfl⟩ := map_eq_ok.mp h
    exact ⟨isPoint_of_readTimestamp hread, hyears.1, hyears.2⟩
  | date =>
    obtain ⟨day, hread, rfl⟩ := map_eq_ok.mp h
    exact ⟨isDay_of_readDate hread, hyears.1, hyears.2⟩
  | list element ih =>
    obtain ⟨elements, -, hread⟩ := bind_eq_ok.mp h
    obtain ⟨values, hvalues, rfl⟩ := map_eq_ok.mp hread
    intro value hvalue
    obtain ⟨stored, -, hstored⟩ := exists_of_mem_mapM hvalues hvalue
    exact ih hstored (hyears value hvalue)
  | _ => exact has_of_ofAttribute h

/-- A null is no value of another type than JSON. -/
theorem not_hasInYears_json (hjson : type.holdsJson = false) {content : Json} :
    ¬type.HasInYears (.json content) := by
  intro hvalue
  cases type with
  | json => cases hjson
  | _ => cases hvalue

/-! ## What is read once more -/

theorem elements_of_reread {element : ValueType} {elements values : List Value}
    (h : ∀ value ∈ elements, ∀ read, element.ofAttribute value.toAttribute = .ok read →
      read.toAttribute = value.toAttribute)
    (hvalues : (Value.elementsToAttributes elements).mapM element.ofAttribute = .ok values) :
    Value.elementsToAttributes values = Value.elementsToAttributes elements := by
  induction elements generalizing values with
  | nil => cases hvalues; rfl
  | cons value rest ih =>
    rw [Value.elementsToAttributes, List.mapM_cons] at hvalues
    obtain ⟨first, hfirst, hvalues⟩ := bind_eq_ok.mp hvalues
    obtain ⟨others, hothers, hvalues⟩ := bind_eq_ok.mp hvalues
    cases pure_eq_ok.mp hvalues
    rw [Value.elementsToAttributes, Value.elementsToAttributes,
      h value List.mem_cons_self first hfirst,
      ih (fun other hother => h other (List.mem_cons_of_mem value hother)) hothers]

theorem toAttribute_of_stores (hstores : type.Stores value)
    (h : type.ofAttribute value.toAttribute = .ok read) :
    read.toAttribute = value.toAttribute := by
  rw [ofAttribute_toAttribute hstores] at h
  rw [Except.ok.inj h]

/-- What is read from the attribute of a value has that attribute again. -/
theorem toAttribute_of_reread (hjson : type.holdsJson = false) (hvalue : type.HasInYears value)
    (hdoubles : type.KeepsDoubles value) (h : type.ofAttribute value.toAttribute = .ok read) :
    read.toAttribute = value.toAttribute := by
  induction type generalizing value read with
  | json => cases hjson
  | text => cases value with
    | text content => exact @toAttribute_of_stores .text _ _ trivial h
    | _ => cases hvalue
  | bool => cases value with
    | bool content => exact @toAttribute_of_stores .bool _ _ trivial h
    | _ => cases hvalue
  | int => cases value with
    | int n => exact @toAttribute_of_stores .int _ _ hvalue h
    | _ => cases hvalue
  | float => cases value with
    | float x =>
      have hread : float.ofAttribute (Value.float x).toAttribute = .ok (.float x) :=
        Item.ofAttribute_float hdoubles
      rw [hread] at h
      cases h
      rfl
    | _ => cases hvalue
  | timestamp => cases value with
    | timestamp t =>
      have hread : timestamp.ofAttribute (Value.timestamp t).toAttribute =
          .ok (.timestamp t.floorMillis) := ofAttribute_timestamp hvalue.read?_toText
      rw [hread] at h
      cases h
      rw [Value.toAttribute, Value.toAttribute, Timestamp.toText_floorMillis]
    | _ => cases hvalue
  | date => cases value with
    | date day => exact @toAttribute_of_stores .date _ _ hvalue h
    | _ => cases hvalue
  | choice name values => cases value with
    | text content => exact @toAttribute_of_stores (.choice name values) _ _ hvalue h
    | _ => cases hvalue
  | list element ih => cases value with
    | list elements =>
      obtain ⟨values, hvalues, rfl⟩ := map_eq_ok.mp h
      rw [Value.toAttribute, Value.toAttribute]
      exact congrArg AttributeValue.list (elements_of_reread (fun value hmem read hread =>
        ih hjson (hvalue value hmem) (hdoubles value hmem) hread) hvalues)
    | _ => cases hvalue

end ValueType

/-! ## Revisions -/

/-- The times of a revision are what was read as points in time. -/
theorem Revision.ofItem_eq_ok {item : Item} {model : String} {revision : Revision}
    (h : ofItem item model = .ok revision) :
    (∃ created, item.readOptional .timestamp model [createdAtAttribute] = .ok created ∧
      ∀ time, revision.createdAt = some time ↔ created = some (.timestamp time)) ∧
    ∃ updated, item.readOptional .timestamp model [updatedAtAttribute] = .ok updated ∧
      ∀ time, revision.updatedAt = some time ↔ updated = some (.timestamp time) := by
  unfold ofItem at h
  obtain ⟨version, hversion, h⟩ := bind_eq_ok.mp h
  obtain ⟨created, hcreated, h⟩ := bind_eq_ok.mp h
  obtain ⟨updated, hupdated, h⟩ := bind_eq_ok.mp h
  obtain ⟨text, n, -, -, rfl⟩ := Item.readRequired_int hversion
  cases pure_eq_ok.mp h
  refine ⟨⟨created, hcreated, fun time => ?_⟩, updated, hupdated, fun time => ?_⟩
  · cases created with
    | none => simp
    | some value => cases value <;> simp
  · cases updated with
    | none => simp
    | some value => cases value <;> simp

/-- A time that was read of an item is a point in time. -/
theorem Item.isPoint_of_readOptional {item : Item} {model : String} {columns : List String}
    {time : Timestamp}
    (h : item.readOptional .timestamp model columns = .ok (some (.timestamp time))) :
    time.IsPoint := by
  rcases Item.readOptional_eq_ok.mp h with ⟨-, hnone⟩ | ⟨found, value, -, hfound, hvalue⟩
  · cases hnone
  · cases hvalue
    obtain ⟨t, hread, ht⟩ := map_eq_ok.mp hfound
    cases ht
    exact ValueType.isPoint_of_readTimestamp hread

/-- The expiry field is no part of a key or an index. -/
def Model.ExpiresApart (m : Model) : Prop :=
  ∀ f ∈ m.fields, m.isExpiry f = true →
    ∀ part ∈ m.primaryKey.parts ++ m.indexes.flatMap (·.parts), f.name ∉ part.fields

instance (m : Model) : Decidable m.ExpiresApart := inferInstanceAs (Decidable (∀ f ∈ m.fields, _))

namespace RecordType

variable {t : RecordType} {r r' : Record} {f : Field} {item : Item}

/-- The dates and times of a record lie in the years 0 to 9999, those of its revision included. -/
structure IsWithinYears (t : RecordType) (r : Record) : Prop where
  values : ∀ f ∈ t.model.fields, ∀ value ∈ r.get? f.name, (t.valueType f).WithinYears value
  createdAt : ∀ time ∈ r.revision.createdAt, 0 ≤ time.date.year ∧ time.date.year ≤ 9999
  updatedAt : ∀ time ∈ r.revision.updatedAt, 0 ≤ time.date.year ∧ time.date.year ≤ 9999

/-! ## Records written alike -/

/-- Two records of which the same is written: equal attributes, times equal as far as they are
written, and the same version. -/
structure IsWrittenAlike (t : RecordType) (r r' : Record) : Prop where
  plain : ∀ f ∈ t.model.fields, t.model.isExpiry f = false →
    r.attribute? f.name = r'.attribute? f.name
  expiry : ∀ f ∈ t.model.fields, t.model.isExpiry f = true →
    t.written? r (.expiry f.column f.name f.isRequired) =
      t.written? r' (.expiry f.column f.name f.isRequired)
  version : r.revision.version = r'.revision.version
  createdAt : r.revision.createdAt.map (Timestamp.toText .millis) =
    r'.revision.createdAt.map (Timestamp.toText .millis)
  updatedAt : r.revision.updatedAt.map (Timestamp.toText .millis) =
    r'.revision.updatedAt.map (Timestamp.toText .millis)

/-- The attributes that keys and indexes are made of are equal. -/
theorem IsWrittenAlike.part (h : t.IsWrittenAlike r r') (hexpiry : t.model.ExpiresApart)
    {part : KeyPart} (hpart : part ∈ t.model.primaryKey.parts ++ t.model.indexes.flatMap (·.parts))
    {name : String} (hname : name ∈ part.fields)
    (hfound : ∃ f ∈ t.model.fields, f.name = name) : r.attribute? name = r'.attribute? name := by
  obtain ⟨f, hf, rfl⟩ := hfound
  refine h.plain f hf ?_
  by_contra hexpires
  exact hexpiry f hf (by simpa using hexpires) part hpart hname

theorem marshal_congr (hkey : t.key r = t.key r')
    (hsteps : ∀ step ∈ t.model.writeSteps t.paths, t.written? r step = t.written? r' step) :
    t.marshal r = t.marshal r' := by
  unfold marshal
  rw [hkey]
  refine List.foldl_ext _ _ _ fun image step hstep => ?_
  rw [write_eq, write_eq, hsteps step hstep]

theorem toItem_congr (hmarshal : t.marshal r = t.marshal r')
    (hversion : r.revision.version = r'.revision.version)
    (hcreated : r.revision.createdAt.map (Timestamp.toText .millis) =
      r'.revision.createdAt.map (Timestamp.toText .millis))
    (hupdated : r.revision.updatedAt.map (Timestamp.toText .millis) =
      r'.revision.updatedAt.map (Timestamp.toText .millis)) : t.toItem r = t.toItem r' := by
  have htime (time : Option Timestamp) : (time.map fun t => (Value.timestamp t).toAttribute) =
      (time.map (Timestamp.toText .millis)).map AttributeValue.text := by
    rw [Option.map_map]
    rfl
  unfold toItem Revision.writeTo
  dsimp only
  rw [hmarshal, hversion, htime r.revision.createdAt, htime r.revision.updatedAt, hcreated,
    hupdated, ← htime, ← htime]

/-- Records that are written alike have one image. -/
theorem IsWrittenAlike.toItem_eq (h : t.IsWrittenAlike r r') (hexpiry : t.model.ExpiresApart)
    (hplain : ∀ f ∈ t.model.fields, f.computed = none)
    (hfound : ∀ part ∈ t.model.primaryKey.parts ++ t.model.indexes.flatMap (·.parts),
      ∀ name ∈ part.fields, ∃ f ∈ t.model.fields, f.name = name) : t.toItem r = t.toItem r' := by
  have hpart : ∀ part ∈ t.model.primaryKey.parts ++ t.model.indexes.flatMap (·.parts),
      ∀ name ∈ part.fields, r.attribute? name = r'.attribute? name :=
    fun part hpart name hname => h.part hexpiry hpart hname (hfound part hpart name hname)
  refine toItem_congr (marshal_congr ?_ fun step hstep => ?_) h.version h.createdAt h.updatedAt
  · refine Model.keyOf_congr fun part hmem name hname => ?_
    rw [hpart part (List.mem_append_left _ hmem) name hname]
  · obtain ⟨part, hmem, -, rfl⟩ | ⟨f, hf, hstep⟩ := Model.mem_writeSteps.mp hstep
    · simp only [written?]
      rw [List.map_congr_left (hpart part (List.mem_append_right _ hmem))]
    · obtain ⟨-, ⟨c, hc, -, -⟩ | ⟨-, hexpires, rfl⟩ | ⟨-, hstays, rfl⟩⟩ :=
        Model.fieldStep?_eq_some.mp hstep
      · rw [hplain f hf] at hc
        cases hc
      · exact h.expiry f hf hexpires
      · exact h.plain f hf hstays

/-! ## What was read can be written -/

/-- A record that was read can be stored in a form that can be read. -/
theorem storesReadably_of_unmarshal (hplain : ∀ f ∈ t.model.fields, f.computed = none)
    (ht : t.Compiles) (hyears : t.IsWithinYears r) (h : t.unmarshal item = .ok r) :
    t.StoresReadably r := by
  have hread : ∀ f ∈ t.model.fields, t.readField item f = .ok (r.get? f.name) :=
    fun f hf => readField_of_unmarshal h (computedOnRead_eq_nil hplain) ht.distinct hf
  have hvalues : ∀ f ∈ t.model.fields, ∀ value ∈ r.get? f.name,
      (t.valueType f).HasInYears value := by
    intro f hf value hvalue
    refine value_of_readField (isStored_of_plain (hplain f hf))
      ((hread f hf).trans (congrArg Except.ok hvalue))
      (P := fun type value => type.WithinYears value → type.HasInYears value)
      (fun found value => ValueType.hasInYears_of_ofAttribute) (fun element _ => ?_)
      (hyears.values f hf value hvalue)
    exact fun value hvalue => absurd hvalue List.not_mem_nil
  refine ⟨(isRecord_of_unmarshal hplain ht.distinct h).complete,
    fun f hf _ => hvalues f hf, fun f hf hexpires => ?_⟩
  have htype := ht.expiry f hf hexpires
  refine ⟨htype, fun value hvalue => ?_⟩
  have htime := hvalues f hf value hvalue
  rw [htype] at htime
  cases value with
  | timestamp time => exact ⟨time, rfl, htime.point.inRange⟩
  | _ => cases htime

theorem hasFourDigits_of_unmarshal (hyears : t.IsWithinYears r) (h : t.unmarshal item = .ok r) :
    r.revision.HasFourDigits := by
  obtain ⟨⟨created, hcreated, hcreatedAt⟩, updated, hupdated, hupdatedAt⟩ :=
    Revision.ofItem_eq_ok (ofItem_of_unmarshal h)
  refine ⟨Condition.fitsInt64_of_storedVersion? (storedVersion?_of_unmarshal h),
    fun time htime => ?_, fun time htime => ?_⟩
  · rw [(hcreatedAt time).mp htime] at hcreated
    exact ⟨Item.isPoint_of_readOptional hcreated, (hyears.createdAt time htime).1,
      (hyears.createdAt time htime).2⟩
  · rw [(hupdatedAt time).mp htime] at hupdated
    exact ⟨Item.isPoint_of_readOptional hupdated, (hyears.updatedAt time htime).1,
      (hyears.updatedAt time htime).2⟩

/-! ## What is read once more -/

section Reread

variable (hmodel : IsStoredPlainly t.model) (hr : t.StoresReadably r)
  (hdistinct : (t.model.fields.map (·.name)).Nodup)
  (hread : t.unmarshal (t.toItem r) = .ok r')
include hmodel hdistinct hread

/-- What is read for a field of an image is read from what was written for it. -/
theorem get?_of_reread (hf : f ∈ t.model.fields) {step : WriteStep}
    (hstep : t.model.fieldStep? t.paths f = some step) {found : AttributeValue}
    (hfound : t.written? r step = some found) (hnull : found.isNull = false) :
    ∃ value, (t.valueType f).ofAttribute found = .ok value ∧ r'.get? f.name = some value := by
  have hfield := readField_of_unmarshal hread (computedOnRead_eq_nil hmodel.notComputed) hdistinct hf
  have hfind : (t.toItem r).find? f.readColumns = some found := by
    rw [find?_toItem hmodel hf, get?_toItem_of_written hmodel.apart hf hstep hfound]
    simp [Option.filter, hnull]
  rcases readField_cases (isStored_of_plain (hmodel.notComputed f hf)) hfield with
    ⟨other, value, hother, hvalue, hget⟩ | ⟨hnone, -⟩
  · obtain rfl : other = found := Option.some.inj (hother.symm.trans hfind)
    exact ⟨value, hvalue, hget⟩
  · rw [hfind] at hnone
    cases hnone

include hr

theorem get?_of_reread_unset (hf : f ∈ t.model.fields) (hunset : r.get? f.name = none) :
    r'.get? f.name = none := by
  have hfield := readField_of_unmarshal hread (computedOnRead_eq_nil hmodel.notComputed) hdistinct hf
  have hoptional : ¬(f.isList = true ∨ f.isRequired = true) := by
    intro hset
    have hsome := hr.complete f hf hset
    rw [hunset] at hsome
    cases hsome
  rw [not_or, Bool.not_eq_true, Bool.not_eq_true] at hoptional
  have hnone : (t.toItem r).find? f.readColumns = none := by
    rw [find?_toItem hmodel hf, get?_toItem_column hmodel.apart hf f.column_mem_columns,
      get?_marshal_of_unset hmodel hf hoptional.2 hunset f.column_mem_columns]
    rfl
  rcases readField_cases (isStored_of_plain (hmodel.notComputed f hf)) hfield with
    ⟨found, value, hfound, -, -⟩ | ⟨-, ⟨hlist, -⟩ | ⟨-, -, hget⟩⟩
  · rw [hnone] at hfound
    cases hfound
  · rw [hoptional.1] at hlist
    cases hlist
  · exact hget

/-- A field other than the expiry has its attribute again. -/
theorem attribute?_of_reread (hf : f ∈ t.model.fields) (hstays : t.model.isExpiry f = false)
    (hjson : (t.valueType f).holdsJson = false)
    (hdoubles : ∀ value ∈ r.get? f.name, (t.valueType f).KeepsDoubles value) :
    r'.attribute? f.name = r.attribute? f.name := by
  unfold Record.attribute?
  cases hvalue : r.get? f.name with
  | none => rw [get?_of_reread_unset hmodel hr hdistinct hread hf hvalue]
  | some value =>
    have hyears := hr.plain f hf hstays value hvalue
    have hstep : t.model.fieldStep? t.paths f = some (.plain f.column f.name) :=
      Model.fieldStep?_eq_some.mpr ⟨isStored_of_plain (hmodel.notComputed f hf),
        Or.inr (Or.inr ⟨hmodel.notComputed f hf, hstays, rfl⟩)⟩
    have hwritten : t.written? r (.plain f.column f.name) = some value.toAttribute := by
      show (r.get? f.name).map Value.toAttribute = _
      rw [hvalue]
      rfl
    have hnull : value.toAttribute.isNull = false := by
      by_contra hisNull
      have hjsonNull : value = .json .null := Value.isNull_toAttribute_iff.mp (by simpa using hisNull)
      rw [hjsonNull] at hyears
      exact ValueType.not_hasInYears_json hjson hyears
    obtain ⟨value', hvalue', hget⟩ := get?_of_reread hmodel hdistinct hread hf hstep hwritten hnull
    rw [hget, Option.map_some, Option.map_some,
      ValueType.toAttribute_of_reread hjson hyears (hdoubles value hvalue) hvalue']

/-- The expiry has its seconds again. -/
theorem expiry_of_reread (hf : f ∈ t.model.fields) (hexpires : t.model.isExpiry f = true) :
    t.written? r' (.expiry f.column f.name f.isRequired) =
      t.written? r (.expiry f.column f.name f.isRequired) := by
  obtain ⟨htype, htimes⟩ := hr.expiry f hf hexpires
  cases hvalue : r.get? f.name with
  | none =>
    have hunset := get?_of_reread_unset hmodel hr hdistinct hread hf hvalue
    simp only [written?, hvalue, hunset]
  | some value =>
    obtain ⟨time, rfl, hrange⟩ := htimes value hvalue
    have hstep : t.model.fieldStep? t.paths f = some (.expiry f.column f.name f.isRequired) :=
      Model.fieldStep?_eq_some.mpr ⟨isStored_of_plain (hmodel.notComputed f hf),
        Or.inr (Or.inl ⟨hmodel.notComputed f hf, hexpires, rfl⟩)⟩
    have hwritten : t.written? r (.expiry f.column f.name f.isRequired) =
        some (.number (toString time.seconds)) := written?_expiry_eq_some.mpr ⟨time, hvalue, rfl⟩
    obtain ⟨value', hvalue', hget⟩ := get?_of_reread hmodel hdistinct hread hf hstep hwritten rfl
    have hseconds := @ValueType.ofAttribute_seconds ⟨time.seconds, 0⟩ hrange rfl
    rw [htype, hseconds] at hvalue'
    cases hvalue'
    rw [hwritten]
    exact written?_expiry_eq_some.mpr ⟨⟨time.seconds, 0⟩, hget, rfl⟩

end Reread

/-- The times of the revision have their texts again. -/
theorem revision_of_reread (hapart : t.model.ColumnsApart)
    (hindexes : Blueprint.IndexesNamed t.model.indexes) (hrevision : r.revision.HasFourDigits)
    (hread : t.unmarshal (t.toItem r) = .ok r') :
    r'.revision.version = r.revision.version ∧
      r'.revision.createdAt = r.revision.createdAt.map Timestamp.floorMillis ∧
      r'.revision.updatedAt = r.revision.updatedAt.map Timestamp.floorMillis := by
  obtain ⟨⟨created, hcreated, hcreatedAt⟩, updated, hupdated, hupdatedAt⟩ :=
    Revision.ofItem_eq_ok (ofItem_of_unmarshal hread)
  rw [readOptional_time hapart hindexes (by decide) (get?_toItem_createdAt t r)
    hrevision.createdAt] at hcreated
  rw [readOptional_time hapart hindexes (by decide) (get?_toItem_updatedAt t r)
    hrevision.updatedAt] at hupdated
  cases hcreated
  cases hupdated
  refine ⟨unmarshal_version hread (t.storedVersion?_toItem r hrevision.version), ?_, ?_⟩
  · refine Option.ext fun time => (hcreatedAt time).trans ?_
    cases r.revision.createdAt <;> simp
  · refine Option.ext fun time => (hupdatedAt time).trans ?_
    cases r.revision.updatedAt <;> simp

theorem map_toText_floorMillis (time : Option Timestamp) :
    (time.map Timestamp.floorMillis).map (Timestamp.toText .millis) =
      time.map (Timestamp.toText .millis) := by
  cases time with
  | none => rfl
  | some point => exact congrArg some (Timestamp.toText_floorMillis point)

/-- An image that was written for a record that was read is stable: it has none of the older
columns, and it is read as a record that has this image again. -/
theorem written_again {config : Config} {text : String} {b : Blueprint}
    (hb : Blueprint.ofSchema config text = .ok b) (hm : t.model ∈ b.models)
    (hplain : ∀ f ∈ t.model.fields, f.computed = none) (ht : t.Compiles)
    (hjson : ∀ f ∈ t.model.fields, (t.valueType f).holdsJson = false)
    (hexpiry : t.model.ExpiresApart) (hread : t.unmarshal item = .ok r)
    (hyears : t.IsWithinYears r)
    (hdoubles : ∀ f ∈ t.model.fields, ∀ value ∈ r.get? f.name, (t.valueType f).KeepsDoubles value) :
    (∀ f ∈ t.model.fields, ∀ column ∈ f.legacyColumns, Dict.get? (t.toItem r) column = none) ∧
      ∃ r', t.unmarshal (t.toItem r) = .ok r' ∧ t.toItem r' = t.toItem r := by
  have hapart := Blueprint.ofSchema_columnsApart hb hm
  have hindexes := Blueprint.ofSchema_indexesNamed hb hm
  have hmodel : IsStoredPlainly t.model :=
    ⟨hapart, (Blueprint.ofSchema_isSound hb).keyFieldsRequired t.model hm, hplain⟩
  have hr := storesReadably_of_unmarshal hplain ht hyears hread
  have hrevision := hasFourDigits_of_unmarshal hyears hread
  have hnotNull : ∀ f ∈ t.model.fields, f.isRequired = true → f.isList = false →
      r.get? f.name ≠ some (.json .null) := by
    intro f hf _ _ hnull
    have hstays : t.model.isExpiry f = false := by
      by_contra hexpires
      obtain ⟨-, htimes⟩ := hr.expiry f hf (by simpa using hexpires)
      obtain ⟨time, htime, -⟩ := htimes _ hnull
      cases htime
    exact ValueType.not_hasInYears_json (hjson f hf) (hr.plain f hf hstays _ hnull)
  obtain ⟨r', hread'⟩ := (exists_unmarshal_toItem_iff hmodel hindexes hr hrevision).mpr hnotNull
  obtain ⟨hversion, hcreated, hupdated⟩ := revision_of_reread hapart hindexes hrevision hread'
  have halike : t.IsWrittenAlike r' r := by
    constructor
    case plain =>
      intro f hf hstays
      exact attribute?_of_reread hmodel hr ht.distinct hread' hf hstays (hjson f hf) (hdoubles f hf)
    case expiry => exact fun f hf => expiry_of_reread hmodel hr ht.distinct hread' hf
    case version => exact hversion
    case createdAt => rw [hcreated, map_toText_floorMillis]
    case updatedAt => rw [hupdated, map_toText_floorMillis]
  refine ⟨fun f hf column hcolumn => get?_toItem_legacy hapart hf hcolumn, r', hread',
    halike.toItem_eq hexpiry hplain fun part hpart name hname => ?_⟩
  rcases List.mem_append.mp hpart with hkey | hindex
  · obtain ⟨f, hfind, -⟩ := Blueprint.ofSchema_keyFields hb hm hkey hname
    exact ⟨f, List.mem_of_find?_eq_some hfind, by simpa using List.find?_some hfind⟩
  · exact Blueprint.ofSchema_indexFieldsFound hb hm hindex hname

end RecordType

namespace LabelExample

def schema : String :=
  "type Note @partitionKey(pkFields: [\"id\"]) \x7b id: ID! tags: [String] @column(name: \"tags\", legacyNames: [\"labels\"]) score: Float until: DateTime @ttl \x7d"

def tags : Field :=
  { Field.scalar "tags" "String" false with isList := true, legacyColumns := ["labels"] }

def until_ : Field := { Field.scalar "until" "DateTime" false with isDateType := true }

def key : PrimaryKey := .simple ⟨"id", ["id"], none, true⟩

def note : RecordType :=
  ⟨⟨"Note", "Note", [.scalar "id" "ID" true, tags, .scalar "score" "Float" false, until_], key, [],
    some ⟨"until", "until", none⟩, false, false, false, []⟩, [], .empty, Code.functionPath?⟩

def blueprint : Blueprint :=
  ⟨[note.model], [⟨"Note", key, [], false, false, some "until", none⟩], []⟩

/-- A set under an older column, a number with a needless digit, and a time of another zone. -/
def item : Item :=
  [("_ct", .text "2024-05-01T12:00:00.25+02:00"), ("_et", .text "Note"), ("_v", .number "1"),
    ("id", .text "n1"), ("labels", .textSet ["a", "b"]), ("score", .number "1.50"),
    ("until", .number "1714564800")]

def revision : Revision := ⟨1, some ⟨1714557600, 250000000⟩, none⟩

theorem ofItem_item : Revision.ofItem item "Note" = .ok revision := by decide +kernel

/-- One and a half. -/
def score : Double := ⟨0x3FF8000000000000⟩

theorem score_reads_back : Double.read? (NumberForm.plain.write score) = some score := by
  decide +kernel

/-- Every field of the item is read as a value whose texts can be read. -/
theorem readField_item {f : Field} (hf : f ∈ note.model.fields) :
    ∃ value, note.readField item f = .ok (some value) ∧
      (note.valueType f).WithinYears value ∧ (note.valueType f).KeepsDoubles value := by
  have hplainTexts : ∀ value ∈ [Value.text "a", .text "b"],
      ValueType.text.WithinYears value ∧ ValueType.text.KeepsDoubles value := by
    intro value hvalue
    rcases List.mem_pair.mp hvalue with rfl | rfl <;> exact ⟨trivial, trivial⟩
  have hscore : ValueType.float.ofAttribute (.number "1.50") = .ok (.float score) :=
    Item.ofAttribute_float (by decide +kernel)
  have huntil : ValueType.timestamp.ofAttribute (.number "1714564800") =
      .ok (.timestamp ⟨1714564800, 0⟩) :=
    @ValueType.ofAttribute_seconds ⟨1714564800, 0⟩ (by decide) rfl
  have hscoreAt : Dict.get? item "score" = some (.number "1.50") := by decide
  have huntilAt : Dict.get? item "until" = some (.number "1714564800") := by decide
  simp only [note, List.mem_cons, List.not_mem_nil, or_false] at hf
  rcases hf with rfl | rfl | rfl | rfl
  · exact ⟨.text "n1", rfl, trivial, trivial⟩
  · exact ⟨.list [.text "a", .text "b"], rfl, fun value hvalue => (hplainTexts value hvalue).1,
      fun value hvalue => (hplainTexts value hvalue).2⟩
  · exact ⟨.float score, Item.readOptional_of_get? hscoreAt rfl hscore, trivial, score_reads_back⟩
  · have hyear : 0 ≤ (Timestamp.date ⟨1714564800, 0⟩).year ∧
        (Timestamp.date ⟨1714564800, 0⟩).year ≤ 9999 := by decide
    exact ⟨.timestamp ⟨1714564800, 0⟩, Item.readOptional_of_get? huntilAt rfl huntil, hyear, trivial⟩

end LabelExample

open LabelExample in
theorem labels_written_again : Blueprint.ofSchema .default schema = .ok blueprint ∧
    ∃ r r', note.unmarshal item = .ok r ∧ Dict.get? (note.toItem r) "labels" = none ∧
      note.unmarshal (note.toItem r) = .ok r' ∧ note.toItem r' = note.toItem r := by
  have haccepted : Blueprint.ofSchema .default schema = .ok blueprint := by decide +kernel
  have hmem : note.model ∈ blueprint.models := List.mem_singleton_self _
  have hplain : ∀ f ∈ note.model.fields, f.computed = none := by decide
  have hcompiles : note.Compiles := ⟨by decide, by decide⟩
  have hread : ∃ r, note.unmarshal item = .ok r := by
    refine RecordType.exists_unmarshal_iff.mpr ⟨fun f hf => ?_, revision, ofItem_item⟩
    obtain ⟨value, hvalue, -⟩ := readField_item hf
    exact ⟨some value, hvalue⟩
  obtain ⟨r, hr⟩ := hread
  have hrevision : r.revision = revision :=
    Except.ok.inj ((RecordType.ofItem_of_unmarshal hr).symm.trans ofItem_item)
  have hvalues : ∀ f ∈ note.model.fields, ∀ value ∈ r.get? f.name,
      (note.valueType f).WithinYears value ∧ (note.valueType f).KeepsDoubles value := by
    intro f hf value hvalue
    obtain ⟨known, hknown, htexts⟩ := readField_item hf
    rw [RecordType.readField_of_unmarshal hr (RecordType.computedOnRead_eq_nil hplain)
      hcompiles.distinct hf, Option.mem_def.mp hvalue] at hknown
    cases hknown
    exact htexts
  have hyears : note.IsWithinYears r := by
    refine ⟨fun f hf value hvalue => (hvalues f hf value hvalue).1, ?_, ?_⟩ <;> rw [hrevision] <;>
      decide
  obtain ⟨hlegacy, r', hread', hagain⟩ := RecordType.written_again haccepted hmem hplain hcompiles
    (by decide) (by decide) hr hyears fun f hf value hvalue => (hvalues f hf value hvalue).2
  exact ⟨haccepted, r, r', hr, hlegacy tags (by decide) "labels" (by decide), hread', hagain⟩

end Keyspace
