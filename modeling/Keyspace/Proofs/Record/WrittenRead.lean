import Keyspace.Proofs.Record.ReadBack
import Keyspace.Proofs.Record.ReadableValues

/-!
# Images that can be read

The image of a record is read as some record of its model, though not always as the same one: an
attribute may hold another value in place of the field's. Only a null keeps an image from being
read. A field that is never unset is looked for under its columns, and a null found there counts
for nothing; JSON is the only type with a value that is written as null.
-/
namespace Keyspace

open Result

namespace RecordType

variable {t : RecordType} {r : Record} {f : Field}

/-- A record of a model: values of the types of its fields, one for every field that is never
unset. -/
structure IsRecord (t : RecordType) (r : Record) : Prop where
  values : ∀ f ∈ t.model.fields, ∀ value ∈ r.get? f.name, (t.valueType f).Has value
  complete : ∀ f ∈ t.model.fields, f.isList = true ∨ f.isRequired = true → (r.get? f.name).isSome

/-! ## What is read is a record -/

theorem valueType_list (t : RecordType) (h : f.isList = true) :
    ∃ element, t.valueType f = .list element := by
  unfold valueType
  rw [h]
  exact ⟨_, rfl⟩

/-- All that reading a stored field can give: the value of the attribute that is found, or, if
none is found, the empty list or nothing. -/
theorem readField_cases {item : Item} {read : Option Value} (hstored : f.isStored = true)
    (h : t.readField item f = .ok read) :
    (∃ found value, item.find? f.readColumns = some found ∧
      (t.valueType f).ofAttribute found = .ok value ∧ read = some value) ∨
    item.find? f.readColumns = none ∧
      (f.isList = true ∧ read = some (.list []) ∨
        f.isList = false ∧ f.isRequired = false ∧ read = none) := by
  unfold readField Field.readRule at h
  rw [hstored] at h
  cases hlist : f.isList with
  | true =>
    rw [hlist] at h
    obtain ⟨elements, helements, rfl⟩ := map_eq_ok.mp h
    rcases Item.readOptional_eq_ok.mp helements with ⟨hnone, rfl⟩ | ⟨found, value, hfind, hvalue, rfl⟩
    · exact Or.inr ⟨hnone, Or.inl ⟨rfl, rfl⟩⟩
    · exact Or.inl ⟨found, value, hfind, hvalue, rfl⟩
  | false =>
    rw [hlist] at h
    cases hrequired : f.isRequired with
    | true =>
      rw [hrequired] at h
      obtain ⟨value, hread, rfl⟩ := map_eq_ok.mp h
      obtain ⟨found, hfind, hvalue⟩ := Item.readRequired_eq_ok.mp hread
      exact Or.inl ⟨found, value, hfind, hvalue, rfl⟩
    | false =>
      rw [hrequired] at h
      rcases Item.readOptional_eq_ok.mp h with ⟨hnone, rfl⟩ | ⟨found, value, hfind, hvalue, rfl⟩
      · exact Or.inr ⟨hnone, Or.inr ⟨rfl, rfl, rfl⟩⟩
      · exact Or.inl ⟨found, value, hfind, hvalue, rfl⟩

/-- Whatever holds of the values that attributes of a type hold, and of every empty list, holds
of the value that is read for a field. -/
theorem value_of_readField {item : Item} {value : Value} (hstored : f.isStored = true)
    (h : t.readField item f = .ok (some value)) {P : ValueType → Value → Prop}
    (hread : ∀ found value, (t.valueType f).ofAttribute found = .ok value → P (t.valueType f) value)
    (hempty : ∀ element, P (.list element) (.list [])) : P (t.valueType f) value := by
  rcases readField_cases hstored h with ⟨found, read, -, hfound, hvalue⟩ |
    ⟨-, ⟨hlist, hvalue⟩ | ⟨-, -, hvalue⟩⟩
  · cases hvalue
    exact hread found _ hfound
  · cases hvalue
    obtain ⟨element, htype⟩ := t.valueType_list hlist
    rw [htype]
    exact hempty element
  · cases hvalue

/-- A field that is never unset is read as some value. -/
theorem isSome_of_readField {item : Item} {read : Option Value} (hstored : f.isStored = true)
    (h : t.readField item f = .ok read) (hset : f.isList = true ∨ f.isRequired = true) :
    read.isSome := by
  rcases readField_cases hstored h with ⟨found, value, -, -, rfl⟩ |
    ⟨-, ⟨-, rfl⟩ | ⟨hlist, hrequired, -⟩⟩
  · rfl
  · rfl
  · simp [hlist, hrequired] at hset

theorem computedOnRead_eq_nil (h : ∀ f ∈ t.model.fields, f.computed = none) :
    t.model.computedOnRead t.paths = [] := by
  refine List.filterMap_eq_nil_iff.mpr fun f hf => ?_
  rw [isStored_of_plain (h f hf)]
  rfl

/-- Whatever an item is read as is a record of the model. -/
theorem isRecord_of_unmarshal {item : Item} (hplain : ∀ f ∈ t.model.fields, f.computed = none)
    (hdistinct : (t.model.fields.map (·.name)).Nodup) (h : t.unmarshal item = .ok r) :
    t.IsRecord r := by
  have hstored : ∀ f ∈ t.model.fields, f.isStored = true :=
    fun f hf => isStored_of_plain (hplain f hf)
  have hread : ∀ f ∈ t.model.fields, t.readField item f = .ok (r.get? f.name) :=
    fun f hf => readField_of_unmarshal h (computedOnRead_eq_nil hplain) hdistinct hf
  refine ⟨fun f hf value hvalue => ?_, fun f hf => isSome_of_readField (hstored f hf) (hread f hf)⟩
  refine value_of_readField (hstored f hf) ((hread f hf).trans (congrArg Except.ok hvalue))
    (fun found value => ValueType.has_of_ofAttribute) fun element => ?_
  exact fun value hvalue => absurd hvalue List.not_mem_nil

/-! ## What is written for a field -/

/-- A record that its attributes hold in some form: its dates and times lie in the years 0 to
9999, other than that of the expiry, which is kept in seconds. -/
structure StoresReadably (t : RecordType) (r : Record) : Prop where
  complete : ∀ f ∈ t.model.fields, f.isList = true ∨ f.isRequired = true → (r.get? f.name).isSome
  plain : ∀ f ∈ t.model.fields, t.model.isExpiry f = false →
    ∀ value ∈ r.get? f.name, (t.valueType f).HasInYears value
  expiry : ∀ f ∈ t.model.fields, t.model.isExpiry f = true → t.valueType f = .timestamp ∧
    ∀ value ∈ r.get? f.name, ∃ time, value = .timestamp time ∧
      Timestamp.inRange time.seconds = true

/-- A field that is set is stored in a form that can be read, and as null only if it is one. -/
theorem exists_readable (h : IsStoredPlainly t.model) (hr : t.StoresReadably r)
    (hf : f ∈ t.model.fields) {value : Value} (hvalue : r.get? f.name = some value) :
    ∃ found, Dict.get? (t.toItem r) f.column = some found ∧
      (found.isNull = true ↔ value = .json .null) ∧
        ∃ read, (t.valueType f).ofAttribute found = .ok read := by
  have hstored : f.isStored = true := isStored_of_plain (h.notComputed f hf)
  cases hexpiry : t.model.isExpiry f with
  | true =>
    obtain ⟨htype, htimes⟩ := hr.expiry f hf hexpiry
    obtain ⟨time, rfl, hrange⟩ := htimes value hvalue
    have hstep : t.model.fieldStep? t.paths f = some (.expiry f.column f.name f.isRequired) :=
      Model.fieldStep?_eq_some.mpr ⟨hstored, Or.inr (Or.inl ⟨h.notComputed f hf, hexpiry, rfl⟩)⟩
    refine ⟨.number (toString time.seconds), get?_toItem_of_written h.apart hf hstep
      (written?_expiry_eq_some.mpr ⟨time, hvalue, rfl⟩), by simp [AttributeValue.isNull],
      .timestamp ⟨time.seconds, 0⟩, ?_⟩
    rw [htype]
    exact @ValueType.ofAttribute_seconds ⟨time.seconds, 0⟩ hrange rfl
  | false =>
    have hstep : t.model.fieldStep? t.paths f = some (.plain f.column f.name) :=
      Model.fieldStep?_eq_some.mpr ⟨hstored, Or.inr (Or.inr ⟨h.notComputed f hf, hexpiry, rfl⟩)⟩
    have hwritten : t.written? r (.plain f.column f.name) = some value.toAttribute := by
      show (r.get? f.name).map Value.toAttribute = _
      rw [hvalue]
      rfl
    exact ⟨value.toAttribute, get?_toItem_of_written h.apart hf hstep hwritten,
      Value.isNull_toAttribute_iff,
      ValueType.exists_ofAttribute_toAttribute (hr.plain f hf hexpiry value hvalue)⟩

/-- The older columns of a field are in no image. -/
theorem get?_toItem_legacy (h : t.model.ColumnsApart) (hf : f ∈ t.model.fields)
    {column : String} (hcolumn : column ∈ f.legacyColumns) :
    Dict.get? (t.toItem r) column = none := by
  have hown : f.column ∉ f.legacyColumns := (List.nodup_cons.mp (h.columns_nodup hf)).1
  have hmem : column ∈ f.columns := List.mem_cons_of_mem _ hcolumn
  -- A field whose current column this is would be the field itself.
  have hother {f' : Field} (hf' : f' ∈ t.model.fields) : f'.column ≠ column := by
    rintro rfl
    obtain rfl : f' = f := h.eq_of_mem_columns hf' hf f'.column_mem_columns hmem
    exact hown hcolumn
  have hunwritten : column ∉ (t.model.writeSteps t.paths).map (·.column) := by
    intro hwritten
    obtain ⟨step, hstep, hname⟩ := List.mem_map.mp hwritten
    obtain ⟨part, hpart, hjoined, rfl⟩ | ⟨f', hf', hstep'⟩ := Model.mem_writeSteps.mp hstep
    · exact h.ne_indexAttribute hf hmem hpart hjoined hname
    · exact hother hf' ((Model.column_fieldStep? hstep').symm.trans hname)
  rw [get?_toItem_column h hf hmem, get?_marshal_of_not_written r hunwritten,
    Dict.get?_eq_none_iff]
  intro hkey
  obtain ⟨part, hpart, hname⟩ := Model.mem_keys_keyOf_iff.mp hkey
  obtain ⟨role, hrole, hbuilt⟩ := h.part_isBuilt hpart
  cases hbuilt with
  | @single name f' hfind _ _ => exact hother (List.mem_of_find?_eq_some hfind) hname
  | joined names lead =>
    have hreserved : ∀ role ∈ ["pk", "sk"], role ∈ Blueprint.reservedColumns := by decide
    exact h.ne_reserved hf hmem (hreserved role hrole) hname

/-- In an image a field is found under its current column, unless it is null there. -/
theorem find?_toItem (h : IsStoredPlainly t.model) (hf : f ∈ t.model.fields) :
    (t.toItem r).find? f.readColumns =
      (Dict.get? (t.toItem r) f.column).filter (!·.isNull) := by
  have hlegacy : f.legacyColumns.filterMap (Dict.get? (t.toItem r)) = [] :=
    List.filterMap_eq_nil_iff.mpr fun column hcolumn => get?_toItem_legacy h.apart hf hcolumn
  unfold Item.find?
  rw [Field.readColumns_eq (h.apart.columns_nodup hf), Field.columns]
  cases hget : Dict.get? (t.toItem r) f.column with
  | none => rw [List.filterMap_cons_none hget, hlegacy]; rfl
  | some found =>
    rw [List.filterMap_cons_some hget, hlegacy]
    cases hnull : found.isNull <;> simp [hnull, Option.filter]

/-- Either nothing is found for a field, which is unset or null, or what is found can be read. -/
theorem find?_toItem_cases (h : IsStoredPlainly t.model) (hr : t.StoresReadably r)
    (hf : f ∈ t.model.fields) :
    (t.toItem r).find? f.readColumns = none ∧
        (r.get? f.name = none ∨ r.get? f.name = some (.json .null)) ∨
      r.get? f.name ≠ some (.json .null) ∧ ∃ found read,
        (t.toItem r).find? f.readColumns = some found ∧
          (t.valueType f).ofAttribute found = .ok read := by
  rw [find?_toItem h hf]
  cases hvalue : r.get? f.name with
  | none =>
    have hoptional : f.isRequired = false := by
      by_contra hrequired
      have hset := hr.complete f hf (Or.inr (by simpa using hrequired))
      rw [hvalue] at hset
      cases hset
    have hcolumn : Dict.get? (t.toItem r) f.column = none := by
      rw [get?_toItem_column h.apart hf f.column_mem_columns]
      exact get?_marshal_of_unset h hf hoptional hvalue f.column_mem_columns
    exact Or.inl ⟨by rw [hcolumn]; rfl, Or.inl rfl⟩
  | some value =>
    obtain ⟨found, hget, hnull, read, hread⟩ := exists_readable h hr hf hvalue
    rw [hget]
    by_cases hisNull : found.isNull = true
    · exact Or.inl ⟨by simp [Option.filter, hisNull], Or.inr (by rw [hnull.mp hisNull])⟩
    · exact Or.inr ⟨by simpa [← hnull] using hisNull, found, read, by simp [Option.filter, hisNull],
        hread⟩

/-- A field can be read from the image unless it has to be there and is null. -/
theorem exists_readField_toItem_iff (h : IsStoredPlainly t.model) (hr : t.StoresReadably r)
    (hf : f ∈ t.model.fields) :
    (∃ read, t.readField (t.toItem r) f = .ok read) ↔
      (f.isRequired = true → f.isList = false → r.get? f.name ≠ some (.json .null)) := by
  have hcases := find?_toItem_cases h hr hf
  have hoptional : ∃ read,
      (t.toItem r).readOptional (t.valueType f) t.model.name f.readColumns = .ok read := by
    rcases hcases with ⟨hnone, -⟩ | ⟨-, found, read, hfound, hread⟩
    · exact ⟨none, Item.readOptional_eq_ok.mpr (Or.inl ⟨hnone, rfl⟩)⟩
    · exact ⟨some read, Item.readOptional_eq_ok.mpr (Or.inr ⟨found, read, hfound, hread, rfl⟩)⟩
  unfold readField Field.readRule
  rw [isStored_of_plain (h.notComputed f hf)]
  cases hlist : f.isList with
  | true =>
    obtain ⟨read, hread⟩ := hoptional
    exact iff_of_true ⟨_, map_eq_ok.mpr ⟨read, hread, rfl⟩⟩ (by simp)
  | false =>
    cases hrequired : f.isRequired with
    | false => exact iff_of_true hoptional (by simp)
    | true =>
      rcases hcases with ⟨hnone, hnull⟩ | ⟨hset, found, read, hfound, hread⟩
      · have hvalue : r.get? f.name = some (.json .null) := by
          refine hnull.resolve_left fun hunset => ?_
          have hset := hr.complete f hf (Or.inr hrequired)
          rw [hunset] at hset
          cases hset
        refine iff_of_false ?_ fun hne => hne rfl rfl hvalue
        rintro ⟨read, hread⟩
        obtain ⟨value, hvalue, -⟩ := map_eq_ok.mp hread
        obtain ⟨found, hfound, -⟩ := Item.readRequired_eq_ok.mp hvalue
        rw [hnone] at hfound
        cases hfound
      · exact iff_of_true ⟨some read, map_eq_ok.mpr ⟨read,
          Item.readRequired_eq_ok.mpr ⟨found, hfound, hread⟩, rfl⟩⟩ fun _ _ => hset

end RecordType

/-! ## Revisions -/

/-- A revision whose times lie in the years 0 to 9999. -/
structure Revision.HasFourDigits (revision : Revision) : Prop where
  version : fitsInt64 revision.version = true
  createdAt : ∀ time ∈ revision.createdAt, time.HasFourDigits
  updatedAt : ∀ time ∈ revision.updatedAt, time.HasFourDigits

namespace RecordType

variable {t : RecordType} {r : Record}

/-- The attributes that keys build end in their roles, unlike those of the times. -/
theorem ne_time_of_role {name role time : String} (hrole : role ∈ ["pk", "sk"])
    (htime : time ∈ [createdAtAttribute, updatedAtAttribute]) : name ++ role ≠ time := by
  have hroleEnd : ∀ role ∈ ["pk", "sk"], role.toList.getLast? = some 'k' := by decide
  have htimeEnd : ∀ time ∈ [createdAtAttribute, updatedAtAttribute],
      time.toList.getLast? ≠ some 'k' := by decide
  rintro rfl
  refine htimeEnd _ htime ?_
  rw [String.toList_append, List.getLast?_append, hroleEnd role hrole]
  rfl

/-- The columns of the times of a revision are written by nothing else. -/
theorem get?_marshal_time (h : t.model.ColumnsApart)
    (hindexes : Blueprint.IndexesNamed t.model.indexes) {time : String}
    (htime : time ∈ [createdAtAttribute, updatedAtAttribute]) :
    Dict.get? (t.marshal r) time = none := by
  have hreserved : ∀ time ∈ [createdAtAttribute, updatedAtAttribute],
      time ∈ Blueprint.reservedColumns := by decide
  have hfield {f : Field} (hf : f ∈ t.model.fields) : f.column ≠ time :=
    (h.ne_reserved hf f.column_mem_columns (hreserved time htime)).symm
  have hunwritten : time ∉ (t.model.writeSteps t.paths).map (·.column) := by
    intro hwritten
    obtain ⟨step, hstep, hcolumn⟩ := List.mem_map.mp hwritten
    obtain ⟨part, hpart, hjoined, rfl⟩ | ⟨f, hf, hstep⟩ := Model.mem_writeSteps.mp hstep
    · obtain ⟨name, role, hrole, hattribute⟩ := hindexes.exists_role hpart hjoined
      exact ne_time_of_role hrole htime (hattribute.symm.trans hcolumn)
    · exact hfield hf ((Model.column_fieldStep? hstep).symm.trans hcolumn)
  rw [get?_marshal_of_not_written r hunwritten, Dict.get?_eq_none_iff]
  intro hkey
  obtain ⟨part, hpart, hattribute⟩ := Model.mem_keys_keyOf_iff.mp hkey
  obtain ⟨role, hrole, hbuilt⟩ := h.part_isBuilt hpart
  cases hbuilt with
  | @single name f hfind _ _ => exact hfield (List.mem_of_find?_eq_some hfind) hattribute
  | joined names lead =>
    refine @ne_time_of_role "" role time hrole htime ?_
    rw [String.empty_append]
    exact hattribute

/-- A time of a revision is read from the image as its last whole millisecond. -/
theorem readOptional_time (h : t.model.ColumnsApart)
    (hindexes : Blueprint.IndexesNamed t.model.indexes) {name model : String}
    {time : Option Timestamp} (hname : name ∈ [createdAtAttribute, updatedAtAttribute])
    (hget : Dict.get? (t.toItem r) name =
      (time.map fun point => .text (point.toText .millis)).or (Dict.get? (t.marshal r) name))
    (hyears : ∀ point ∈ time, point.HasFourDigits) :
    (t.toItem r).readOptional .timestamp model [name] =
      .ok (time.map fun point => .timestamp point.floorMillis) := by
  rw [get?_marshal_time h hindexes hname, Option.or_none] at hget
  cases time with
  | none =>
    refine Item.readOptional_of_absent fun column hcolumn => ?_
    rw [List.mem_singleton.mp hcolumn, hget]
    rfl
  | some point =>
    exact Item.readOptional_of_get? hget rfl
      (ValueType.ofAttribute_timestamp (hyears point rfl).read?_toText)

/-- The revision of a written record can be read. -/
theorem exists_ofItem_toItem (h : t.model.ColumnsApart)
    (hindexes : Blueprint.IndexesNamed t.model.indexes) (hr : r.revision.HasFourDigits)
    (model : String) : ∃ revision, Revision.ofItem (t.toItem r) model = .ok revision := by
  have hversion : (t.toItem r).readRequired .int model [versionAttribute] =
      .ok (.int r.revision.version) :=
    Item.readRequired_of_get? (t.get?_toItem_version r) rfl
      (@ValueType.ofAttribute_toAttribute .int (.int r.revision.version) hr.version)
  unfold Revision.ofItem
  rw [hversion,
    readOptional_time h hindexes (by decide) (get?_toItem_createdAt t r) hr.createdAt,
    readOptional_time h hindexes (by decide) (get?_toItem_updatedAt t r) hr.updatedAt]
  exact ⟨_, rfl⟩

/-! ## Records -/

/-- The image of a record is read as a record, unless a field that has to be there is null. -/
theorem exists_unmarshal_toItem_iff (h : IsStoredPlainly t.model)
    (hindexes : Blueprint.IndexesNamed t.model.indexes) (hr : t.StoresReadably r)
    (hrevision : r.revision.HasFourDigits) :
    (∃ read, t.unmarshal (t.toItem r) = .ok read) ↔
      ∀ f ∈ t.model.fields, f.isRequired = true → f.isList = false →
        r.get? f.name ≠ some (.json .null) := by
  rw [exists_unmarshal_iff, and_iff_left (exists_ofItem_toItem h.apart hindexes hrevision _)]
  exact forall₂_congr fun f hf => exists_readField_toItem_iff h hr hf

end RecordType

end Keyspace
