import Keyspace.Proofs.Action
import Keyspace.Proofs.Record.Image

/-!
# Reading images

A record read from an image has the version that the image stores, and each of its fields
has the value that was read for it.
-/
namespace Keyspace

open Result

namespace Item

theorem find?_of_get? {item : Item} {column : String} {columns : List String}
    {value : AttributeValue} (h : Dict.get? item column = some value) (hnull : value.isNull = false) :
    item.find? (column :: columns) = some value := by
  unfold find?
  rw [List.filterMap_cons_some h, List.find?_cons_of_pos (by simp [hnull])]

theorem blame_eq_ok {α : Type} {model : String} {columns : List String} {x : Except String α}
    {a : α} : blame model columns x = .ok a ↔ x = .ok a := by
  cases x <;> simp [blame, Except.mapError]

/-- A value that has to be there is read from the attribute that is found. -/
theorem readRequired_eq_ok {type : ValueType} {item : Item} {model : String}
    {columns : List String} {value : Value} :
    item.readRequired type model columns = .ok value ↔
      ∃ found, item.find? columns = some found ∧ type.ofAttribute found = .ok value := by
  rw [readRequired, blame_eq_ok]
  cases item.find? columns <;> simp

theorem readOptional_eq_ok {type : ValueType} {item : Item} {model : String}
    {columns : List String} {read : Option Value} :
    item.readOptional type model columns = .ok read ↔
      item.find? columns = none ∧ read = none ∨
        ∃ found value, item.find? columns = some found ∧ type.ofAttribute found = .ok value ∧
          read = some value := by
  rw [readOptional, blame_eq_ok]
  cases item.find? columns with
  | none => simp [eq_comm]
  | some found => cases htype : type.ofAttribute found <;> simp [htype, Except.map, eq_comm]

/-- A column that is there and not null is read before its older names. -/
theorem readRequired_of_get? {type : ValueType} {item : Item} {column model : String}
    {columns : List String} {found : AttributeValue} {value : Value}
    (h : Dict.get? item column = some found) (hnull : found.isNull = false)
    (hvalue : type.ofAttribute found = .ok value) :
    item.readRequired type model (column :: columns) = .ok value :=
  readRequired_eq_ok.mpr ⟨found, find?_of_get? h hnull, hvalue⟩

theorem readOptional_of_get? {type : ValueType} {item : Item} {column model : String}
    {columns : List String} {found : AttributeValue} {value : Value}
    (h : Dict.get? item column = some found) (hnull : found.isNull = false)
    (hvalue : type.ofAttribute found = .ok value) :
    item.readOptional type model (column :: columns) = .ok (some value) :=
  readOptional_eq_ok.mpr (Or.inr ⟨found, value, find?_of_get? h hnull, hvalue, rfl⟩)

/-- A field none of whose columns is there is read as unset. -/
theorem readOptional_of_absent {type : ValueType} {item : Item} {model : String}
    {columns : List String} (h : ∀ column ∈ columns, Dict.get? item column = none) :
    item.readOptional type model columns = .ok none := by
  have hnone : item.find? columns = none := by
    unfold find?
    rw [List.filterMap_eq_nil_iff.mpr h]
    rfl
  exact readOptional_eq_ok.mpr (Or.inl ⟨hnone, rfl⟩)

theorem ofAttribute_int {text : String} {n : Int} (hn : readInt64? text = some n) :
    ValueType.int.ofAttribute (.number text) = .ok (.int n) := by
  show (ValueType.recognised text "an integer" (readInt64? text)).map Value.int = _
  rw [hn]
  rfl

theorem ofAttribute_float {text : String} {x : Double} (hx : Double.read? text = some x) :
    ValueType.float.ofAttribute (.number text) = .ok (.float x) := by
  show (ValueType.recognised text "a number" (Double.read? text)).map Value.float = _
  rw [hx]
  rfl

theorem blame_eq_error {α : Type} {model : String} {columns : List String} {x : Except String α}
    {err : Error} (h : blame model columns x = .error err) :
    ∃ column detail, err = .dataIntegrity model column detail := by
  cases x with
  | ok _ => cases h
  | error detail =>
    cases h
    exact ⟨_, detail, rfl⟩

/-- What is read as an integer is a number whose text is an integer of 64 bits. -/
theorem readRequired_int {item : Item} {model : String} {columns : List String} {value : Value}
    (h : item.readRequired .int model columns = .ok value) :
    ∃ text n, item.find? columns = some (.number text) ∧ readInt64? text = some n ∧
      value = .int n := by
  obtain ⟨found, hfound, h⟩ := readRequired_eq_ok.mp h
  cases found with
  | number content =>
    change (ValueType.recognised content "an integer" (readInt64? content)).map Value.int = _ at h
    cases hread : readInt64? content with
    | none => rw [hread] at h; cases h
    | some n => rw [hread] at h; cases h; exact ⟨content, n, hfound, hread, rfl⟩
  | _ => cases h

theorem get?_of_find? {item : Item} {column : String} {value : AttributeValue}
    (h : item.find? [column] = some value) : Dict.get? item column = some value := by
  unfold find? at h
  have hmem := List.mem_of_find?_eq_some h
  obtain ⟨_, hcolumn, hget⟩ := List.mem_filterMap.mp hmem
  cases List.mem_singleton.mp hcolumn
  exact hget

/-- What is read as a double is a double. -/
theorem readRequired_float {item : Item} {model : String} {columns : List String} {value : Value}
    (h : item.readRequired .float model columns = .ok value) : ∃ x, value = .float x := by
  obtain ⟨found, -, h⟩ := readRequired_eq_ok.mp h
  cases found with
  | number content =>
    change (ValueType.recognised content "a number" (Double.read? content)).map Value.float = _ at h
    cases hread : Double.read? content with
    | none => rw [hread] at h; cases h
    | some x => rw [hread] at h; cases h; exact ⟨x, rfl⟩
  | _ => cases h

end Item

/-- A stored version has 64 bits. -/
theorem Condition.fitsInt64_of_storedVersion? {current : Option Item} {version : Int}
    (h : storedVersion? current = some version) : fitsInt64 version = true := by
  obtain ⟨item, -, h⟩ := Option.bind_eq_some_iff.mp h
  obtain ⟨value, -, h⟩ := Option.bind_eq_some_iff.mp h
  obtain ⟨text, -, h⟩ := Option.bind_eq_some_iff.mp h
  exact fitsInt64_of_readInt64? h

namespace RecordType

variable {t : RecordType}

@[simp] theorem revision_assign (r : Record) (field : String) (value : Option Value) :
    (r.assign field value).revision = r.revision := by
  cases value <;> rfl

@[simp] theorem revision_computeVirtual (t : RecordType) (r : Record) :
    (t.computeVirtual r).revision = r.revision := by
  unfold computeVirtual
  induction t.model.computedOnRead t.paths generalizing r with
  | nil => rfl
  | cons entry rest ih =>
    rw [List.foldl_cons, ih, revision_assign]

theorem computeVirtual_eq_self (h : t.model.computedOnRead t.paths = []) (r : Record) :
    t.computeVirtual r = r := by
  unfold computeVirtual
  rw [h]
  rfl

theorem storedVersion?_of_ofItem {item : Item} {model : String} {revision : Revision}
    (h : Revision.ofItem item model = .ok revision) :
    Condition.storedVersion? (some item) = some revision.version := by
  unfold Revision.ofItem at h
  obtain ⟨value, hvalue, h⟩ := bind_eq_ok.mp h
  obtain ⟨created, -, h⟩ := bind_eq_ok.mp h
  obtain ⟨updated, -, h⟩ := bind_eq_ok.mp h
  obtain ⟨text, n, hfound, hread, rfl⟩ := Item.readRequired_int hvalue
  have hget : Dict.get? item versionAttribute = some (.number text) := Item.get?_of_find? hfound
  rw [← pure_eq_ok.mp h]
  unfold Condition.storedVersion?
  show (Dict.get? item versionAttribute).bind (fun value => value.asNumber?.bind readInt64?) = _
  rw [hget]
  exact hread

theorem ofItem_of_unmarshal {item : Item} {r : Record} (h : t.unmarshal item = .ok r) :
    Revision.ofItem item t.model.name = .ok r.revision := by
  unfold unmarshal at h
  obtain ⟨values, -, h⟩ := bind_eq_ok.mp h
  obtain ⟨revision, hrevision, h⟩ := bind_eq_ok.mp h
  rw [← pure_eq_ok.mp h, revision_computeVirtual]
  exact hrevision

/-- A record that was read from an item has the version that the item stores. -/
theorem storedVersion?_of_unmarshal {item : Item} {r : Record} (h : t.unmarshal item = .ok r) :
    Condition.storedVersion? (some item) = some r.revision.version :=
  storedVersion?_of_ofItem (ofItem_of_unmarshal h)

theorem unmarshal_version {item : Item} {r : Record} {version : Int}
    (h : t.unmarshal item = .ok r)
    (hversion : Condition.storedVersion? (some item) = some version) :
    r.revision.version = version :=
  Option.some.inj ((storedVersion?_of_unmarshal h).symm.trans hversion)

theorem readField_error {item : Item} {f : Field} {err : Error}
    (h : t.readField item f = .error err) :
    ∃ column detail, err = .dataIntegrity t.model.name column detail := by
  unfold readField at h
  split at h
  · cases h
  · exact Item.blame_eq_error (of_map_eq_error h)
  · exact Item.blame_eq_error (of_map_eq_error h)
  · exact Item.blame_eq_error h

theorem ofItem_error {item : Item} {model : String} {err : Error}
    (h : Revision.ofItem item model = .error err) :
    ∃ column detail, err = .dataIntegrity model column detail := by
  unfold Revision.ofItem at h
  rcases of_bind_eq_error h with hversion | ⟨version, -, h⟩
  · exact Item.blame_eq_error hversion
  rcases of_bind_eq_error h with hcreated | ⟨created, -, h⟩
  · exact Item.blame_eq_error hcreated
  rcases of_bind_eq_error h with hupdated | ⟨updated, -, h⟩
  · exact Item.blame_eq_error hupdated
  split at h <;> cases h

/-- An item that cannot be read is blamed on one of its columns, and nothing else goes wrong. -/
theorem unmarshal_error {item : Item} {err : Error} (h : t.unmarshal item = .error err) :
    ∃ column detail, err = .dataIntegrity t.model.name column detail := by
  unfold unmarshal at h
  rcases of_bind_eq_error h with hfields | ⟨values, -, h⟩
  · obtain ⟨f, -, hf⟩ := exists_of_mapM_eq_error hfields
    rcases of_bind_eq_error hf with hread | ⟨value, -, hpure⟩
    · exact readField_error hread
    · cases hpure
  rcases of_bind_eq_error h with hrevision | ⟨revision, -, h⟩
  · exact ofItem_error hrevision
  · cases h

/-- A field of a record that was read has the value that was read for it. -/
theorem readField_of_unmarshal {item : Item} {r : Record} {f : Field}
    (h : t.unmarshal item = .ok r) (hcomputed : t.model.computedOnRead t.paths = [])
    (hdistinct : (t.model.fields.map (·.name)).Nodup) (hf : f ∈ t.model.fields) :
    t.readField item f = .ok (r.get? f.name) := by
  unfold unmarshal at h
  obtain ⟨entries, hentries, h⟩ := bind_eq_ok.mp h
  obtain ⟨revision, -, h⟩ := bind_eq_ok.mp h
  have hr := pure_eq_ok.mp h
  rw [computeVirtual_eq_self hcomputed] at hr
  obtain ⟨entry, hmem, hentry⟩ := mapM_reads_mem hentries hf
  obtain ⟨read, hread, hentry⟩ := bind_eq_ok.mp hentry
  cases pure_eq_ok.mp hentry
  have hread_of_mem {f' : Field} {entry : Option (String × Value)}
      (hentry : (do pure ((← t.readField item f').map fun v => (f'.name, v)) : Result _) =
        .ok entry) : ∃ read', t.readField item f' = .ok read' ∧
          entry = read'.map fun v => (f'.name, v) := by
    obtain ⟨read', hread', hentry⟩ := bind_eq_ok.mp hentry
    exact ⟨read', hread', (pure_eq_ok.mp hentry).symm⟩
  rw [hread, ← hr]
  refine congrArg Except.ok ?_
  show read = Dict.get? (Dict.ofList (entries.filterMap id)) f.name
  cases read with
  | some value =>
    have hnames := (mapM_eq_ok.mp hentries).imp
      (S := fun f entry => ∀ b : String × Value, entry = some b → b.1 = f.name)
      fun f entry hentry b hb => by
        obtain ⟨read', -, rfl⟩ := hread_of_mem hentry
        obtain ⟨v, -, rfl⟩ := Option.map_eq_some_iff.mp hb
        rfl
    have hkeys := List.Nodup.sublist (map_filterMap_sublist hnames) hdistinct
    exact (Dict.get?_ofList_of_mem hkeys (List.mem_filterMap.mpr ⟨_, hmem, rfl⟩)).symm
  | none =>
    -- An entry of this name would be that of a field of the same name, which is this one.
    refine (Dict.get?_eq_none_iff.mpr fun hkey => ?_).symm
    obtain ⟨b, hb, hname⟩ := List.mem_map.mp (Dict.mem_keys_ofList.mp hkey)
    obtain ⟨entry, hentry, rfl⟩ := List.mem_filterMap.mp hb
    obtain ⟨f', hf', hread'⟩ := exists_of_mem_mapM hentries hentry
    obtain ⟨read', hread', hsome⟩ := hread_of_mem hread'
    obtain ⟨v, rfl, rfl⟩ := Option.map_eq_some_iff.mp hsome.symm
    obtain rfl : f' = f := List.inj_on_of_nodup_map hdistinct hf' hf hname
    rw [hread] at hread'
    cases hread'

/-- A required field of a record that was read has the value read from its columns. -/
theorem get?_unmarshal {item : Item} {r : Record} {f : Field} {columns : List String}
    (h : t.unmarshal item = .ok r) (hcomputed : t.model.computedOnRead t.paths = [])
    (hdistinct : (t.model.fields.map (·.name)).Nodup) (hf : f ∈ t.model.fields)
    (hrule : f.readRule = .required columns) :
    ∃ value, item.readRequired (t.valueType f) t.model.name columns = .ok value ∧
      r.get? f.name = some value := by
  have hread := readField_of_unmarshal h hcomputed hdistinct hf
  unfold readField at hread
  rw [hrule] at hread
  obtain ⟨value, hvalue, hget⟩ := map_eq_ok.mp hread
  exact ⟨value, hvalue, hget.symm⟩

/-- An item is read as a record if each of its fields can be read, and its revision. -/
theorem exists_unmarshal_iff {item : Item} : (∃ r, t.unmarshal item = .ok r) ↔
    (∀ f ∈ t.model.fields, ∃ value, t.readField item f = .ok value) ∧
      ∃ revision, Revision.ofItem item t.model.name = .ok revision := by
  constructor
  · rintro ⟨r, h⟩
    obtain ⟨entries, hentries, h⟩ := bind_eq_ok.mp h
    obtain ⟨revision, hrevision, -⟩ := bind_eq_ok.mp h
    refine ⟨fun f hf => ?_, revision, hrevision⟩
    obtain ⟨entry, hentry⟩ := exists_mapM_eq_ok_iff.mp ⟨entries, hentries⟩ f hf
    obtain ⟨value, hvalue, -⟩ := bind_eq_ok.mp hentry
    exact ⟨value, hvalue⟩
  · rintro ⟨hfields, revision, hrevision⟩
    obtain ⟨entries, hentries⟩ := exists_mapM_eq_ok_iff.mpr fun f hf => by
      obtain ⟨value, hvalue⟩ := hfields f hf
      exact ⟨value.map fun v => (f.name, v), bind_eq_ok.mpr ⟨value, hvalue, rfl⟩⟩
    exact ⟨_, bind_eq_ok.mpr ⟨entries, hentries, bind_eq_ok.mpr ⟨revision, hrevision, rfl⟩⟩⟩

end RecordType

end Keyspace
