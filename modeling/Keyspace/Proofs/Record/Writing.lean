import Keyspace.Proofs.Blueprint.Columns
import Keyspace.Proofs.Record.Image
import Mathlib.Data.List.Pairwise

/-!
# What writing puts where

A step of writing puts at most one attribute, under a column of its own. In a model whose
columns lie apart no two steps have one column. Its images therefore hold under each column
what the step of that column wrote, and the attribute of the key where no step wrote anything.
-/
namespace Keyspace

/-- The column a step of writing puts its attribute under. -/
def WriteStep.column : WriteStep → String
  | .index attributeName _ _ => attributeName
  | .computed column _ => column
  | .expiry column _ _ => column
  | .plain column _ => column

namespace Model

variable {m : Model} {paths : Code.PathReader}

/-- A field is written by its compute function, as an expiry, or as it is. -/
theorem fieldStep?_eq_some {f : Field} {step : WriteStep} :
    m.fieldStep? paths f = some step ↔ f.isStored = true ∧
      ((∃ c, f.computed = some c ∧ (paths c.function).isSome = true ∧
          step = .computed f.column c.function) ∨
        f.computed = none ∧ m.isExpiry f = true ∧ step = .expiry f.column f.name f.isRequired ∨
        f.computed = none ∧ m.isExpiry f = false ∧ step = .plain f.column f.name) := by
  unfold fieldStep?
  cases f.isStored <;> cases f.computed with
  | none => cases m.isExpiry f <;> simp [@eq_comm _ step]
  | some c => cases paths c.function <;> simp [@eq_comm _ step]

theorem column_fieldStep? {f : Field} {step : WriteStep} (h : m.fieldStep? paths f = some step) :
    step.column = f.column := by
  obtain ⟨-, ⟨c, -, -, rfl⟩ | ⟨-, -, rfl⟩ | ⟨-, -, rfl⟩⟩ := fieldStep?_eq_some.mp h <;> rfl

/-- The steps after the key are those of the indexes and those of the fields. -/
theorem mem_writeSteps {step : WriteStep} : step ∈ m.writeSteps paths ↔
    (∃ part ∈ m.indexes.flatMap (·.parts), part.isSingleField = false ∧
      step = .index part.attributeName part.lead part.fields) ∨
    ∃ f ∈ m.fields, m.fieldStep? paths f = some step := by
  unfold writeSteps indexSteps
  rw [List.mem_append, List.mem_map, List.mem_filterMap]
  simp only [List.mem_filter, Bool.not_eq_eq_eq_not, Bool.not_true, and_assoc, @eq_comm _ step]

theorem columns_indexSteps (m : Model) : m.indexSteps.map (·.column) =
    ((m.indexes.flatMap (·.parts)).filter (!·.isSingleField)).map (·.attributeName) := by
  rw [indexSteps, List.map_map]
  rfl

theorem columns_fieldSteps (m : Model) (paths : Code.PathReader) :
    List.Sublist ((m.fields.filterMap (m.fieldStep? paths)).map (·.column))
      (m.fields.map (·.column)) := by
  induction m.fields with
  | nil => exact List.Sublist.slnil
  | cons f fields ih =>
    cases hstep : m.fieldStep? paths f with
    | none =>
      rw [List.filterMap_cons_none hstep]
      exact ih.cons _
    | some step =>
      rw [List.filterMap_cons_some hstep, List.map_cons, List.map_cons, column_fieldStep? hstep]
      exact ih.cons_cons _

namespace ColumnsApart

variable (h : m.ColumnsApart)
include h

theorem columns_nodup {f : Field} (hf : f ∈ m.fields) : f.columns.Nodup :=
  (List.nodup_flatMap.mp h.columnsDistinct).1 f hf

theorem eq_of_mem_columns {f f' : Field} (hf : f ∈ m.fields) (hf' : f' ∈ m.fields)
    {column : String} (hcolumn : column ∈ f.columns) (hcolumn' : column ∈ f'.columns) : f = f' := by
  by_contra hne
  have hsymm : Std.Symm (Function.onFun List.Disjoint Field.columns) :=
    ⟨fun _ _ hdisjoint => List.disjoint_symm hdisjoint⟩
  have hdisjoint := (List.nodup_flatMap.mp h.columnsDistinct).2.forall hf hf' hne
  exact hdisjoint hcolumn hcolumn'

theorem fieldColumns_nodup : (m.fields.map (·.column)).Nodup := by
  refine (List.nodup_flatMap.mp h.columnsDistinct).2.map _ fun f f' hdisjoint hsame => ?_
  exact hdisjoint f.column_mem_columns (hsame ▸ f'.column_mem_columns)

/-- No column of a field is an attribute that a key builds. -/
theorem not_mem_keyAttributes {f : Field} (hf : f ∈ m.fields) {column : String}
    (hcolumn : column ∈ f.columns) : column ∉ Blueprint.keyAttributes m.primaryKey m.indexes :=
  h.notReserved f hf column (by rwa [Field.readColumns_eq (h.columns_nodup hf)])

/-- No column of a field is an attribute that a key or an index builds of several fields. -/
theorem not_mem_columns_of_joined {part : KeyPart} (hpart : part ∈ m.keyParts)
    (hjoined : part.isSingleField = false) {f : Field} (hf : f ∈ m.fields) :
    part.attributeName ∉ f.columns := by
  intro hcolumn
  refine h.not_mem_keyAttributes hf hcolumn (List.mem_append_right _ (List.mem_map_of_mem ?_))
  exact List.mem_filter.mpr ⟨hpart, by simpa using hjoined⟩

theorem ne_indexAttribute {f : Field} (hf : f ∈ m.fields) {column : String}
    (hcolumn : column ∈ f.columns) {part : KeyPart} (hpart : part ∈ m.indexes.flatMap (·.parts))
    (hjoined : part.isSingleField = false) : part.attributeName ≠ column := by
  rintro rfl
  exact h.not_mem_columns_of_joined (List.mem_append_right _ hpart) hjoined hf hcolumn

theorem ne_reserved {f : Field} (hf : f ∈ m.fields) {column : String}
    (hcolumn : column ∈ f.columns) {name : String} (hname : name ∈ Blueprint.reservedColumns) :
    name ≠ column := by
  rintro rfl
  exact h.not_mem_keyAttributes hf hcolumn (List.mem_append_left _ hname)

/-- No two steps of writing have one column. -/
theorem steps_nodup : ((m.writeSteps paths).map (·.column)).Nodup := by
  rw [writeSteps, List.map_append, columns_indexSteps]
  refine List.nodup_append.mpr ⟨h.indexAttributesDistinct,
    h.fieldColumns_nodup.sublist (m.columns_fieldSteps paths), ?_⟩
  rintro name hindex _ hfield rfl
  obtain ⟨part, hpart, rfl⟩ := List.mem_map.mp hindex
  obtain ⟨f, hf, hsame⟩ := List.mem_map.mp ((m.columns_fieldSteps paths).subset hfield)
  obtain ⟨hpart, hjoined⟩ := List.mem_filter.mp hpart
  exact h.ne_indexAttribute hf f.column_mem_columns hpart (by simpa using hjoined) hsame.symm

theorem part_isBuilt {part : KeyPart} (hpart : part ∈ m.primaryKey.parts) :
    ∃ role ∈ ["pk", "sk"], part.IsBuilt m.fields role := by
  rcases List.mem_cons.mp hpart with rfl | hpart
  · exact ⟨"pk", by decide, h.partitionBuilt⟩
  · exact ⟨"sk", by decide, h.sortBuilt part (Option.mem_toList.mp hpart)⟩

/-- Parts built under different roles share no attribute unless they are one field. -/
theorem eq_of_isBuilt {part part' : KeyPart} {role role' : String}
    (hrole : role ∈ ["pk", "sk"]) (hrole' : role' ∈ ["pk", "sk"]) (hne : role ≠ role')
    (hpart : part.IsBuilt m.fields role) (hpart' : part'.IsBuilt m.fields role')
    (hsame : part.attributeName = part'.attributeName) : part = part' := by
  have hreserved : ∀ role ∈ ["pk", "sk"], role ∈ Blueprint.reservedColumns := by decide
  cases hpart with
  | @single name f hfind _ _ =>
    obtain ⟨hf, hname⟩ := Field.of_find? hfind
    cases hpart' with
    | @single name' f' hfind' _ _ =>
      obtain ⟨hf', hname'⟩ := Field.of_find? hfind'
      have hfield : f = f' := h.eq_of_mem_columns hf hf' f.column_mem_columns
        (by rw [show f.column = f'.column from hsame]; exact f'.column_mem_columns)
      rw [← hname, ← hname', hfield]
    | joined names lead =>
      exact absurd hsame.symm (h.ne_reserved hf f.column_mem_columns (hreserved role' hrole'))
  | joined names lead =>
    cases hpart' with
    | @single name f hfind _ _ =>
      exact absurd hsame (h.ne_reserved (List.mem_of_find?_eq_some hfind) f.column_mem_columns
        (hreserved role hrole))
    | joined names' lead' => exact absurd hsame hne

/-- The parts of a key are told apart by their attributes. -/
theorem part_inj {part part' : KeyPart} (hpart : part ∈ m.primaryKey.parts)
    (hpart' : part' ∈ m.primaryKey.parts) (hsame : part.attributeName = part'.attributeName) :
    part = part' := by
  rcases List.mem_cons.mp hpart with rfl | hsort <;> rcases List.mem_cons.mp hpart' with rfl | hsort'
  · rfl
  · exact h.eq_of_isBuilt (by decide) (by decide) (by decide) h.partitionBuilt
      (h.sortBuilt part' (Option.mem_toList.mp hsort')) hsame
  · exact h.eq_of_isBuilt (by decide) (by decide) (by decide)
      (h.sortBuilt part (Option.mem_toList.mp hsort)) h.partitionBuilt hsame
  · exact Option.mem_unique (Option.mem_toList.mp hsort) (Option.mem_toList.mp hsort')

end ColumnsApart

/-- A key is the dictionary of its parts. -/
theorem keyOf_eq (m : Model) (argument : String → AttributeValue) :
    m.keyOf argument = Dict.ofList (m.primaryKey.parts.map fun part =>
      (part.attributeName, keyAttribute part argument)) := by
  rw [Dict.ofList, List.foldl_map]
  rfl

theorem get?_keyOf (h : m.ColumnsApart) {part : KeyPart} (hpart : part ∈ m.primaryKey.parts)
    (argument : String → AttributeValue) :
    Dict.get? (m.keyOf argument) part.attributeName = some (keyAttribute part argument) := by
  rw [keyOf_eq]
  refine Dict.get?_union_of_agree ⟨_, List.mem_map_of_mem hpart, rfl⟩ fun entry hentry hkey => ?_
  obtain ⟨part', hpart', rfl⟩ := List.mem_map.mp hentry
  rw [h.part_inj hpart' hpart hkey]

theorem mem_keys_keyOf_iff {argument : String → AttributeValue} {column : String} :
    column ∈ Dict.keys (m.keyOf argument) ↔
      ∃ part ∈ m.primaryKey.parts, part.attributeName = column := by
  rw [keyOf_eq, Dict.mem_keys_ofList, List.map_map, List.mem_map]
  rfl

end Model

namespace RecordType

variable (t : RecordType) (r : Record)

/-- The attribute a step of writing puts, if it puts one. -/
def written? : WriteStep → Option AttributeValue
  | .index _ lead fields => sparseKeyValue? lead (fields.map r.attribute?)
  | .computed _ function => (t.compute function r).map Value.toAttribute
  | .expiry _ field _ =>
    match r.get? field with
    | some (.timestamp at_) => some (.number (toString at_.seconds))
    | _ => none
  | .plain _ field => r.attribute? field

theorem write_eq (item : Item) (step : WriteStep) :
    t.write r item step = item.put step.column (t.written? r step) := by
  cases step with
  | index _ _ _ => rfl
  | computed _ _ => rfl
  | plain _ _ => rfl
  | expiry column field _ =>
    simp only [write, written?]
    cases r.get? field with
    | none => rfl
    | some value => cases value <;> rfl

theorem get?_put_self (item : Item) (column : String) (value : Option AttributeValue) :
    Dict.get? (item.put column value) column = value.or (Dict.get? item column) := by
  cases value with
  | none => rfl
  | some value => exact Item.get?_put_self item column value

theorem get?_foldl_write_ne {steps : List WriteStep} {column : String}
    (h : column ∉ steps.map (·.column)) (item : Item) :
    Dict.get? (steps.foldl (t.write r) item) column = Dict.get? item column := by
  induction steps generalizing item with
  | nil => rfl
  | cons step steps ih =>
    rw [List.map_cons, List.mem_cons, not_or] at h
    rw [List.foldl_cons, ih h.2, write_eq, Item.get?_put_ne h.1]

/-- Steps with columns of their own do not hide what one of them wrote. -/
theorem get?_foldl_write {steps : List WriteStep} (hdistinct : (steps.map (·.column)).Nodup)
    {step : WriteStep} (hstep : step ∈ steps) (item : Item) :
    Dict.get? (steps.foldl (t.write r) item) step.column =
      (t.written? r step).or (Dict.get? item step.column) := by
  induction steps generalizing item with
  | nil => cases hstep
  | cons first steps ih =>
    obtain ⟨hfirst, hrest⟩ := List.nodup_cons.mp hdistinct
    rw [List.foldl_cons]
    rcases List.mem_cons.mp hstep with rfl | hmem
    · rw [get?_foldl_write_ne t r hfirst, write_eq, get?_put_self]
    · have hne : step.column ≠ first.column := fun hsame =>
        hfirst (List.mem_map.mpr ⟨step, hmem, hsame⟩)
      rw [ih hrest hmem, write_eq, Item.get?_put_ne hne]

variable {t}

theorem get?_marshal (h : t.model.ColumnsApart) {step : WriteStep}
    (hstep : step ∈ t.model.writeSteps t.paths) :
    Dict.get? (t.marshal r) step.column =
      (t.written? r step).or (Dict.get? (t.key r) step.column) :=
  t.get?_foldl_write r h.steps_nodup hstep _

theorem get?_marshal_of_not_written {column : String}
    (h : column ∉ (t.model.writeSteps t.paths).map (·.column)) :
    Dict.get? (t.marshal r) column = Dict.get? (t.key r) column :=
  t.get?_foldl_write_ne r h _

end RecordType

end Keyspace
