import Keyspace.Proofs.Record.OwnKey
import Keyspace.Proofs.Record.Reading
import Keyspace.Proofs.Wire.Values

/-!
# Images are read back

The image of a record that its attributes hold exactly is read as the record itself. A field
that is set is found under its own column, which no other step writes; a field that is unset is
found under none of its columns, the older ones included, since all of them are its own.
-/
namespace Keyspace

open Result

namespace Revision

/-- The revision of a record that was written, if its attributes hold it exactly. -/
structure IsExact (revision : Revision) : Prop where
  version : fitsInt64 revision.version = true
  createdAt : ∃ time, revision.createdAt = some time ∧ time.IsWholeMillis
  updatedAt : ∃ time, revision.updatedAt = some time ∧ time.IsWholeMillis

end Revision

namespace RecordType

variable {t : RecordType} {r : Record}

/-- A record that its attributes hold exactly: it has values for fields of its model and for all
that are never unset, each a value of its type that its attribute holds exactly. The expiry
column holds whole seconds. -/
structure StoresExactly (t : RecordType) (r : Record) : Prop where
  ordered : r.values.Ordered
  known : ∀ name ∈ r.values.keys, ∃ f ∈ t.model.fields, f.name = name
  complete : ∀ f ∈ t.model.fields, f.isList = true ∨ f.isRequired = true → (r.get? f.name).isSome
  plain : ∀ f ∈ t.model.fields, t.model.isExpiry f = false →
    ∀ value ∈ r.get? f.name, (t.valueType f).Stores value
  expiry : ∀ f ∈ t.model.fields, t.model.isExpiry f = true → t.valueType f = .timestamp ∧
    ∀ value ∈ r.get? f.name, ∃ time, value = .timestamp time ∧
      Timestamp.inRange time.seconds = true ∧ time.nanos = 0

/-- A model whose fields are stored as they are, under columns of their own. -/
structure IsStoredPlainly (m : Model) : Prop where
  apart : m.ColumnsApart
  keysRequired : Blueprint.KeyFieldsRequired m
  notComputed : ∀ f ∈ m.fields, f.computed = none

theorem isStored_of_plain {f : Field} (h : f.computed = none) : f.isStored = true := by
  unfold Field.isStored Field.isVirtual
  rw [h]
  rfl

/-! ## Columns of unset fields -/

/-- The columns of an optional field are no attributes of the key. -/
theorem get?_key_of_optional (h : IsStoredPlainly t.model) {f : Field} (hf : f ∈ t.model.fields)
    (hoptional : f.isRequired = false) {column : String} (hcolumn : column ∈ f.columns) :
    Dict.get? (t.key r) column = none := by
  rw [Dict.get?_eq_none_iff]
  intro hkey
  obtain ⟨part, hpart, rfl⟩ := Model.mem_keys_keyOf_iff.mp hkey
  obtain ⟨role, hrole, hbuilt⟩ := h.apart.part_isBuilt hpart
  cases hbuilt with
  | @single name f' hfind _ _ =>
    have hsame : f' = f := h.apart.eq_of_mem_columns (List.mem_of_find?_eq_some hfind) hf
      f'.column_mem_columns hcolumn
    obtain ⟨required, hrequired, hset⟩ := h.keysRequired _ hpart name (List.mem_singleton_self _)
    have hfound : some required = some f' := hrequired.symm.trans hfind
    cases hfound
    rw [hsame, hoptional] at hset
    cases hset
  | joined names lead =>
    have hreserved : ∀ role ∈ ["pk", "sk"], role ∈ Blueprint.reservedColumns := by decide
    exact h.apart.ne_reserved hf hcolumn (hreserved role hrole) rfl

/-- No step writes one of the columns of an unset field. -/
theorem get?_marshal_of_unset (h : IsStoredPlainly t.model) {f : Field} (hf : f ∈ t.model.fields)
    (hoptional : f.isRequired = false) (hunset : r.get? f.name = none) {column : String}
    (hcolumn : column ∈ f.columns) : Dict.get? (t.marshal r) column = none := by
  have hkey := get?_key_of_optional (r := r) h hf hoptional hcolumn
  by_cases hwritten : column ∈ (t.model.writeSteps t.paths).map (·.column)
  · obtain ⟨step, hstep, rfl⟩ := List.mem_map.mp hwritten
    have hnone : t.written? r step = none := by
      obtain ⟨part, hpart, hjoined, rfl⟩ | ⟨f', hf', hown⟩ := Model.mem_writeSteps.mp hstep
      · exact absurd rfl (h.apart.ne_indexAttribute hf hcolumn hpart hjoined)
      · rw [Model.column_fieldStep? hown] at hcolumn
        have hsame : f' = f := h.apart.eq_of_mem_columns hf' hf f'.column_mem_columns hcolumn
        subst hsame
        obtain ⟨-, ⟨c, hc, -, -⟩ | ⟨-, -, rfl⟩ | ⟨-, -, rfl⟩⟩ := Model.fieldStep?_eq_some.mp hown
        · rw [h.notComputed f' hf] at hc
          cases hc
        · simp only [written?, hunset]
        · simp only [written?, Record.attribute?, hunset, Option.map_none]
    rw [get?_marshal r h.apart hstep, hnone, hkey]
    rfl
  · rw [get?_marshal_of_not_written r hwritten, hkey]

/-! ## Fields -/

/-- What the store writes itself lies apart from the columns of fields. -/
theorem get?_toItem_column (h : t.model.ColumnsApart) {f : Field} (hf : f ∈ t.model.fields)
    {column : String} (hcolumn : column ∈ f.columns) :
    Dict.get? (t.toItem r) column = Dict.get? (t.marshal r) column := by
  have hreserved : ∀ name ∈ [entityTypeAttribute, versionAttribute, createdAtAttribute,
      updatedAtAttribute], name ∈ Blueprint.reservedColumns := by decide
  refine t.get?_toItem r fun hsystem => ?_
  exact h.ne_reserved hf hcolumn (hreserved column hsystem) rfl

/-- What the step of a field writes is under the column of the field. -/
theorem get?_toItem_of_written (h : t.model.ColumnsApart) {f : Field} (hf : f ∈ t.model.fields)
    {step : WriteStep} (hstep : t.model.fieldStep? t.paths f = some step) {found : AttributeValue}
    (hfound : t.written? r step = some found) :
    Dict.get? (t.toItem r) f.column = some found := by
  have hput := get?_marshal r h (Model.mem_writeSteps.mpr (Or.inr ⟨f, hf, hstep⟩))
  rw [Model.column_fieldStep? hstep, hfound] at hput
  rw [get?_toItem_column h hf f.column_mem_columns, hput]
  rfl

/-- A field that is set is stored under its column in a form that reads as its value. -/
theorem exists_stored (h : IsStoredPlainly t.model) (hr : t.StoresExactly r) {f : Field}
    (hf : f ∈ t.model.fields) {value : Value} (hvalue : r.get? f.name = some value) :
    ∃ found, Dict.get? (t.toItem r) f.column = some found ∧ found.isNull = false ∧
      (t.valueType f).ofAttribute found = .ok value := by
  have hstored : f.isStored = true := isStored_of_plain (h.notComputed f hf)
  cases hexpiry : t.model.isExpiry f with
  | true =>
    obtain ⟨htype, htimes⟩ := hr.expiry f hf hexpiry
    obtain ⟨time, rfl, hrange, hwhole⟩ := htimes value hvalue
    refine ⟨.number (toString time.seconds), get?_toItem_of_written h.apart hf
      (Model.fieldStep?_eq_some.mpr
      ⟨hstored, Or.inr (Or.inl ⟨h.notComputed f hf, hexpiry, rfl⟩)⟩)
        (written?_expiry_eq_some.mpr ⟨time, hvalue, rfl⟩), rfl, ?_⟩
    rw [htype]
    exact ValueType.ofAttribute_seconds hrange hwhole
  | false =>
    have hstores := hr.plain f hf hexpiry value hvalue
    refine ⟨value.toAttribute, get?_toItem_of_written h.apart hf (Model.fieldStep?_eq_some.mpr
      ⟨hstored, Or.inr (Or.inr ⟨h.notComputed f hf, hexpiry, rfl⟩)⟩) ?_,
      ValueType.isNull_toAttribute hstores, ValueType.ofAttribute_toAttribute hstores⟩
    show (r.get? f.name).map Value.toAttribute = _
    rw [hvalue]
    rfl

theorem readField_toItem (h : IsStoredPlainly t.model) (hr : t.StoresExactly r) {f : Field}
    (hf : f ∈ t.model.fields) : t.readField (t.toItem r) f = .ok (r.get? f.name) := by
  have hstored : f.isStored = true := isStored_of_plain (h.notComputed f hf)
  have hcolumns : f.readColumns = f.column :: f.legacyColumns :=
    Field.readColumns_eq (h.apart.columns_nodup hf)
  unfold readField Field.readRule
  rw [hstored, hcolumns]
  dsimp only [Bool.not_true]
  cases hvalue : r.get? f.name with
  | some value =>
    obtain ⟨found, hfound, hnull, hread⟩ := exists_stored h hr hf hvalue
    cases f.isList with
    | true =>
      show (Item.readOptional _ _ _ _).map _ = _
      rw [Item.readOptional_of_get? hfound hnull hread]
      rfl
    | false =>
      cases f.isRequired with
      | true =>
        show (Item.readRequired _ _ _ _).map some = _
        rw [Item.readRequired_of_get? hfound hnull hread]
        rfl
      | false => exact Item.readOptional_of_get? hfound hnull hread
  | none =>
    have hunset : ¬ (f.isList = true ∨ f.isRequired = true) := by
      intro hset
      have := hr.complete f hf hset
      rw [hvalue] at this
      cases this
    rw [not_or, Bool.not_eq_true, Bool.not_eq_true] at hunset
    rw [hunset.1, hunset.2]
    refine Item.readOptional_of_absent fun column hcolumn => ?_
    rw [get?_toItem_column h.apart hf hcolumn]
    exact get?_marshal_of_unset h hf hunset.2 hvalue hcolumn

/-! ## Records -/

theorem get?_toItem_createdAt (t : RecordType) (r : Record) :
    Dict.get? (t.toItem r) createdAtAttribute =
      (r.revision.createdAt.map fun time => .text (time.toText .millis)).or
        (Dict.get? (t.marshal r) createdAtAttribute) := by
  unfold toItem Revision.writeTo
  rw [Dict.get?_insert_ne _ _ (by decide), Item.get?_put_ne (by decide), get?_put_self,
    Item.get?_put_ne (by decide)]
  rfl

theorem get?_toItem_updatedAt (t : RecordType) (r : Record) :
    Dict.get? (t.toItem r) updatedAtAttribute =
      (r.revision.updatedAt.map fun time => .text (time.toText .millis)).or
        (Dict.get? (t.marshal r) updatedAtAttribute) := by
  unfold toItem Revision.writeTo
  rw [Dict.get?_insert_ne _ _ (by decide), get?_put_self, Item.get?_put_ne (by decide),
    Item.get?_put_ne (by decide)]
  rfl

theorem ofItem_toItem (hr : r.revision.IsExact) (model : String) :
    Revision.ofItem (t.toItem r) model = .ok r.revision := by
  obtain ⟨hfits, ⟨created, hcreated, hexact⟩, updated, hupdated, hexact'⟩ := hr
  have hread : readInt64? (toString r.revision.version) = some r.revision.version := by
    rw [readInt64?_toString, if_pos hfits]
  have hcreatedAt : Dict.get? (t.toItem r) createdAtAttribute =
      some (.text (created.toText .millis)) := by
    rw [get?_toItem_createdAt, hcreated]
    rfl
  have hupdatedAt : Dict.get? (t.toItem r) updatedAtAttribute =
      some (.text (updated.toText .millis)) := by
    rw [get?_toItem_updatedAt, hupdated]
    rfl
  unfold Revision.ofItem
  rw [Item.readRequired_of_get? (t.get?_toItem_version r) rfl (Item.ofAttribute_int hread),
    Item.readOptional_of_get? hcreatedAt rfl
      (ValueType.ofAttribute_timestamp (Timestamp.read?_toText hexact)),
    Item.readOptional_of_get? hupdatedAt rfl
      (ValueType.ofAttribute_timestamp (Timestamp.read?_toText hexact'))]
  show Except.ok (⟨r.revision.version, some created, some updated⟩ : Revision) = _
  rw [← hcreated, ← hupdated]

/-- The values that are read for the fields are those of the record. -/
theorem ofList_values (hr : t.StoresExactly r) :
    Dict.ofList (t.model.fields.filterMap fun f => (r.get? f.name).map fun v => (f.name, v)) =
      r.values := by
  refine Dict.Ordered.ext (Dict.ordered_ofList _) hr.ordered fun key => ?_
  have hentry : ∀ entry ∈ t.model.fields.filterMap fun f =>
      (r.get? f.name).map fun v => (f.name, v), r.get? entry.1 = some entry.2 := by
    intro entry hentry
    obtain ⟨f, -, hf⟩ := List.mem_filterMap.mp hentry
    obtain ⟨value, hvalue, rfl⟩ := Option.map_eq_some_iff.mp hf
    exact hvalue
  cases hvalue : Dict.get? r.values key with
  | none =>
    rw [Dict.get?_eq_none_iff, Dict.mem_keys_ofList]
    intro hkey
    obtain ⟨entry, hmem, rfl⟩ := List.mem_map.mp hkey
    have hsome := hentry entry hmem
    rw [Record.get?, hvalue] at hsome
    cases hsome
  | some value =>
    obtain ⟨f, hf, rfl⟩ := hr.known key
      (Dict.mem_keys_iff.mpr (Option.isSome_iff_exists.mpr ⟨value, hvalue⟩))
    have hmem : (f.name, value) ∈ t.model.fields.filterMap fun f =>
        (r.get? f.name).map fun v => (f.name, v) := by
      refine List.mem_filterMap.mpr ⟨f, hf, ?_⟩
      rw [Record.get?, hvalue]
      rfl
    refine Dict.get?_union_of_agree ⟨_, hmem, rfl⟩ fun entry hin hname => ?_
    have hsame := hentry entry hin
    rw [hname, Record.get?, hvalue] at hsame
    exact (Option.some.inj hsame).symm

/-- The image of a record that it holds exactly is read as the record. -/
theorem unmarshal_toItem (h : IsStoredPlainly t.model) (hr : t.StoresExactly r)
    (hrevision : r.revision.IsExact) : t.unmarshal (t.toItem r) = .ok r := by
  have hfields : t.model.fields.mapM (fun f => do
      pure ((← t.readField (t.toItem r) f).map fun v => (f.name, v)) : Field → Result _) =
        .ok (t.model.fields.map fun f => (r.get? f.name).map fun v => (f.name, v)) := by
    rw [mapM_eq_ok, List.forall₂_map_right_iff, List.forall₂_same]
    intro f hf
    rw [readField_toItem h hr hf]
    rfl
  have hcomputed : t.model.computedOnRead t.paths = [] := by
    refine List.filterMap_eq_nil_iff.mpr fun f hf => ?_
    rw [isStored_of_plain (h.notComputed f hf)]
    rfl
  have hvalues : (t.model.fields.map fun f => (r.get? f.name).map fun v => (f.name, v)).filterMap id
      = t.model.fields.filterMap fun f => (r.get? f.name).map fun v => (f.name, v) := by
    rw [List.filterMap_map]
    rfl
  unfold unmarshal
  rw [hfields, ofItem_toItem hrevision]
  show Except.ok (t.computeVirtual ⟨.ofList (List.filterMap id _), r.revision⟩) = _
  rw [computeVirtual_eq_self hcomputed, hvalues, ofList_values hr]

end RecordType

end Keyspace
