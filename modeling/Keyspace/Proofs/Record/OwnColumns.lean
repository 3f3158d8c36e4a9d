import Keyspace.Proofs.Record.WrittenRead

/-!
# Fields read their own columns

What is read for a field depends on its own columns alone. In an accepted model these are apart
from the columns of all other fields, from what the store writes itself and from the attributes
that keys and indexes build, whether or not the columns are still in use. So none of those
attributes is ever taken for a field, whatever item it stands in.
-/
namespace Keyspace

open Result

/-- The attributes that the keys and indexes of a model build. -/
def Model.syntheticAttributes (m : Model) : List String :=
  ((m.primaryKey.parts ++ m.indexes.flatMap (·.parts)).filter (!·.isSingleField)).map
    (·.attributeName)

/-- An attribute with another purpose than to hold a field. -/
inductive Model.IsForeign (m : Model) (f : Field) (attributeName : String) : Prop
  | column {other : Field} (mem : other ∈ m.fields) (ne : other ≠ f)
      (reads : attributeName ∈ other.readColumns)
  | reserved (mem : attributeName ∈ Blueprint.reservedColumns)
  | synthetic (mem : attributeName ∈ m.syntheticAttributes)

namespace Item

theorem find?_congr {item item' : Item} {columns : List String}
    (h : ∀ column ∈ columns, Dict.get? item column = Dict.get? item' column) :
    item.find? columns = item'.find? columns := by
  unfold find?
  rw [List.filterMap_congr h]

/-- Whatever is found under some columns stands under one of them. -/
theorem exists_of_find? {item : Item} {columns : List String} {found : AttributeValue}
    (h : item.find? columns = some found) :
    ∃ column ∈ columns, Dict.get? item column = some found :=
  List.mem_filterMap.mp (List.mem_of_find?_eq_some h)

end Item

namespace RecordType

variable {t : RecordType} {r : Record} {f : Field}

/-- Items that agree on the columns of a field give it the same value, or the same error. -/
theorem readField_congr {item item' : Item}
    (h : ∀ column ∈ f.readColumns, Dict.get? item column = Dict.get? item' column) :
    t.readField item f = t.readField item' f := by
  have hfind := Item.find?_congr h
  unfold readField Field.readRule Item.readOptional Item.readRequired
  cases f.isStored <;> cases f.isList <;> cases f.isRequired <;>
    simp only [Bool.not_true, Bool.not_false, if_true, Bool.false_eq_true, if_false, hfind]

/-- In an image a field has at most its current column, with what its own step has written or
its own part of the key. -/
theorem get?_toItem_own (h : t.model.ColumnsApart) (hf : f ∈ t.model.fields) {column : String}
    (hcolumn : column ∈ f.columns) {found : AttributeValue}
    (hfound : Dict.get? (t.toItem r) column = some found) :
    column = f.column ∧
      ((∃ step, t.model.fieldStep? t.paths f = some step ∧ t.written? r step = some found) ∨
        t.model.IsKeyColumn f ∧ found = keyComponent (r.attribute? f.name)) := by
  have hcurrent : column = f.column := by
    rcases List.mem_cons.mp hcolumn with rfl | hlegacy
    · rfl
    · rw [get?_toItem_legacy h hf hlegacy] at hfound
      cases hfound
  subst hcurrent
  refine ⟨rfl, ?_⟩
  rw [get?_toItem_column h hf hcolumn] at hfound
  have hkey (hget : Dict.get? (t.key r) f.column = some found) :
      t.model.IsKeyColumn f ∧ found = keyComponent (r.attribute? f.name) := by
    obtain ⟨part, hpart, hname⟩ := Model.mem_keys_keyOf_iff.mp
      (Dict.mem_keys_iff.mpr (Option.isSome_iff_exists.mpr ⟨found, hget⟩))
    obtain ⟨hsingle, -, hvalue⟩ := keyPart_of_column (r := r) h hf hpart hname
    rw [← hname, get?_key h hpart, hvalue] at hget
    exact ⟨⟨part, hpart, hsingle, hname⟩, (Option.some.inj hget).symm⟩
  by_cases hwritten : f.column ∈ (t.model.writeSteps t.paths).map (·.column)
  · obtain ⟨step, hstep, hname⟩ := List.mem_map.mp hwritten
    have hown : t.model.fieldStep? t.paths f = some step := by
      obtain ⟨part, hpart, hjoined, rfl⟩ | ⟨f', hf', hstep'⟩ := Model.mem_writeSteps.mp hstep
      · exact absurd hname (h.ne_indexAttribute hf hcolumn hpart hjoined)
      · obtain rfl : f' = f := h.eq_of_mem_columns hf' hf f'.column_mem_columns
          ((Model.column_fieldStep? hstep').symm.trans hname ▸ hcolumn)
        exact hstep'
    rw [← hname, get?_marshal r h hstep] at hfound
    cases hput : t.written? r step with
    | some put =>
      rw [hput] at hfound
      exact Or.inl ⟨step, hown, hput.trans hfound⟩
    | none =>
      rw [hput, hname] at hfound
      exact Or.inr (hkey hfound)
  · rw [get?_marshal_of_not_written r hwritten] at hfound
    exact Or.inr (hkey hfound)

end RecordType

/-- The columns of a model are apart, old names included, and no field reads an attribute with
another purpose. -/
structure Model.ReadsOwn (m : Model) : Prop where
  distinct : (m.fields.flatMap Field.readColumns).Nodup
  notReserved : ∀ column ∈ m.fields.flatMap Field.readColumns, column ∉ Blueprint.reservedColumns
  notSynthetic : ∀ column ∈ m.fields.flatMap Field.readColumns, column ∉ m.syntheticAttributes
  /-- Whatever is put under a foreign attribute, a field is read as before. -/
  undisturbed : ∀ t : RecordType, t.model = m → ∀ f ∈ m.fields, ∀ attributeName,
    m.IsForeign f attributeName → ∀ (item : Item) (value : Option AttributeValue),
      t.readField (item.put attributeName value) f = t.readField item f
  /-- What is found for a field in an image was written for the field. -/
  written : ∀ t : RecordType, t.model = m → ∀ (r : Record), ∀ f ∈ m.fields, ∀ found,
    (t.toItem r).find? f.readColumns = some found →
      (∃ step, m.fieldStep? t.paths f = some step ∧ t.written? r step = some found) ∨
        m.IsKeyColumn f ∧ found = keyComponent (r.attribute? f.name)

namespace Model.ColumnsApart

variable {m : Model} (h : m.ColumnsApart)
include h

theorem flatMap_readColumns : m.fields.flatMap Field.readColumns = m.fields.flatMap Field.columns :=
  List.flatMap_congr fun _ hf => Field.readColumns_eq (h.columns_nodup hf)

theorem not_mem_foreign {f : Field} (hf : f ∈ m.fields) {column : String}
    (hcolumn : column ∈ f.readColumns) :
    column ∉ Blueprint.reservedColumns ∧ column ∉ m.syntheticAttributes :=
  not_or.mp (mt List.mem_append.mpr (h.notReserved f hf column hcolumn))

/-- No field reads a foreign attribute. -/
theorem not_mem_of_isForeign {f : Field} (hf : f ∈ m.fields) {attributeName : String}
    (hforeign : m.IsForeign f attributeName) : attributeName ∉ f.readColumns := by
  intro hreads
  cases hforeign with
  | @column other hother hne hreads' =>
    rw [Field.readColumns_eq (h.columns_nodup hf)] at hreads
    rw [Field.readColumns_eq (h.columns_nodup hother)] at hreads'
    exact hne (h.eq_of_mem_columns hother hf hreads' hreads)
  | reserved hmem => exact (h.not_mem_foreign hf hreads).1 hmem
  | synthetic hmem => exact (h.not_mem_foreign hf hreads).2 hmem

theorem readsOwn : m.ReadsOwn where
  distinct := by
    rw [h.flatMap_readColumns]
    exact h.columnsDistinct
  notReserved := by
    intro column hcolumn
    obtain ⟨f, hf, hreads⟩ := List.mem_flatMap.mp hcolumn
    exact (h.not_mem_foreign hf hreads).1
  notSynthetic := by
    intro column hcolumn
    obtain ⟨f, hf, hreads⟩ := List.mem_flatMap.mp hcolumn
    exact (h.not_mem_foreign hf hreads).2
  undisturbed := by
    intro t _ f hf attributeName hforeign item value
    refine RecordType.readField_congr fun column hcolumn => Item.get?_put_ne ?_
    rintro rfl
    exact h.not_mem_of_isForeign hf hforeign hcolumn
  written := by
    rintro t rfl r f hf found hfound
    obtain ⟨column, hcolumn, hget⟩ := Item.exists_of_find? hfound
    rw [Field.readColumns_eq (h.columns_nodup hf)] at hcolumn
    exact (RecordType.get?_toItem_own h hf hcolumn hget).2

end Model.ColumnsApart

/-- In every model of an accepted schema the fields read their own columns. -/
theorem Blueprint.ofSchema_readsOwn {config : Config} {text : String} {b : Blueprint}
    (hb : ofSchema config text = .ok b) {m : Model} (hm : m ∈ b.models) : m.ReadsOwn :=
  (ofSchema_columnsApart hb hm).readsOwn

namespace ParcelExample

def schema : String := "type Parcel @partitionKey(pkFields: [\"depot\", \"shelf\"]) \x7b depot: ID! shelf: Int! state: String @column(name: \"st\", legacyNames: [\"status\"]) \x7d"

def parcel : Model :=
  ⟨"Parcel", "Parcel",
    [.scalar "depot" "ID" true, .scalar "shelf" "Int" true,
      { Field.scalar "state" "String" false with column := "st", legacyColumns := ["status"] }],
    .simple ⟨"pk", ["depot", "shelf"], none, false⟩, [], none, false, false, false, []⟩

def blueprint : Blueprint :=
  ⟨[parcel], [⟨"Parcel", parcel.primaryKey, [], false, false, none, none⟩], []⟩

end ParcelExample

open ParcelExample in
theorem parcel_readsOwn :
    Blueprint.ofSchema .default schema = .ok blueprint ∧ parcel ∈ blueprint.models ∧
    parcel.fields.flatMap Field.readColumns = ["depot", "shelf", "st", "status"] ∧
    parcel.syntheticAttributes = ["pk"] ∧ parcel.ReadsOwn := by
  have haccepted : Blueprint.ofSchema .default schema = .ok blueprint := by decide +kernel
  have hmem : parcel ∈ blueprint.models := List.mem_singleton_self _
  exact ⟨haccepted, hmem, by decide, by decide, Blueprint.ofSchema_readsOwn haccepted hmem⟩

end Keyspace
