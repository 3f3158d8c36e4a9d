import Keyspace.Proofs.Record.OwnKey
import Keyspace.Proofs.Template.KeySchemas

/-!
# The types of key attributes

The resource of a table defines a type for every attribute that a key uses: a number where
the first use is a field of numbers by itself, and a text otherwise. What records store there
depends on each model and on each field. The two agree exactly if every attribute built of
several fields is defined as a text, and every field that has the column of such an attribute
is stored under the type defined for it.
-/
namespace Keyspace

namespace ValueType

/-- The values of a type. -/
def Has : ValueType → Value → Prop
  | text, .text _ => True
  | bool, .bool _ => True
  | int, .int n => fitsInt64 n = true
  | float, .float _ => True
  | timestamp, .timestamp _ => True
  | date, .date _ => True
  | json, .json _ => True
  | choice _ values, .text content => content ∈ values
  | list element, .list elements => ∀ value ∈ elements, element.Has value
  | _, _ => False

/-- The type of the attributes that hold values of a type. JSON is held by any attribute. -/
def wireType? : ValueType → Option String
  | text => some "S"
  | bool => some "BOOL"
  | int => some "N"
  | float => some "N"
  | timestamp => some "S"
  | date => some "S"
  | json => none
  | choice _ _ => some "S"
  | list _ => some "L"

theorem typeName_toAttribute {type : ValueType} {value : Value} {name : String}
    (hvalue : type.Has value) (hname : type.wireType? = some name) :
    value.toAttribute.typeName = name := by
  cases type <;> cases hname <;> cases value <;> first | rfl | cases hvalue

theorem eq_json_of_wireType? {type : ValueType} (h : type.wireType? = none) : type = json := by
  cases type <;> first | rfl | cases h

theorem has_json_iff {type : ValueType} {content : Json} : type.Has (.json content) ↔ type = json := by
  cases type <;> simp [Has]

end ValueType

namespace RecordType

variable {t : RecordType} {r : Record}

/-- The record and the functions of computed fields have values of the types of the fields. -/
structure IsTyped (t : RecordType) (r : Record) : Prop where
  values : ∀ f ∈ t.model.fields, ∀ value ∈ r.get? f.name, (t.valueType f).Has value
  required : ∀ f ∈ t.model.fields, f.isRequired = true → (r.get? f.name).isSome
  computed : ∀ f ∈ t.model.fields, ∀ c ∈ f.computed, ∀ value ∈ t.compute c.function r,
    (t.valueType f).Has value

/-- A typed record in which every field has a value. -/
structure IsFull (t : RecordType) (r : Record) : Prop extends IsTyped t r where
  set : ∀ f ∈ t.model.fields, (r.get? f.name).isSome
  computes : ∀ f ∈ t.model.fields, ∀ c ∈ f.computed, (t.compute c.function r).isSome

/-- Without computed fields it is enough that every field has a value of its type. -/
theorem isFull_of_plain (hplain : ∀ f ∈ t.model.fields, f.computed = none)
    (hvalues : ∀ f ∈ t.model.fields, ∃ value, r.get? f.name = some value ∧
      (t.valueType f).Has value) : t.IsFull r := by
  have hset (f : Field) (hf : f ∈ t.model.fields) : (r.get? f.name).isSome = true := by
    obtain ⟨value, hvalue, -⟩ := hvalues f hf
    exact Option.isSome_iff_exists.mpr ⟨value, hvalue⟩
  have hnone {f : Field} (hf : f ∈ t.model.fields) (c : ComputeFunction) : c ∉ f.computed := by
    rw [hplain f hf]
    exact Option.not_mem_none c
  refine ⟨⟨fun f hf value hvalue => ?_, fun f hf _ => hset f hf,
    fun f hf c hc => absurd hc (hnone hf c)⟩, hset, fun f hf c hc => absurd hc (hnone hf c)⟩
  obtain ⟨own, hown, htyped⟩ := hvalues f hf
  rw [hown, Option.mem_def, Option.some.injEq] at hvalue
  exact hvalue ▸ htyped

/-- The type of the attribute that holds a field: of an expiry the seconds, of other fields
their values. -/
def storedType? (t : RecordType) (f : Field) : Option String :=
  if f.computed = none ∧ t.model.isExpiry f = true ∧ t.valueType f = .timestamp then some "N"
  else (t.valueType f).wireType?

/-- The column of the field is in the images of records: the key has it, or a step writes it. -/
def IsKept (t : RecordType) (f : Field) : Prop :=
  t.model.IsKeyColumn f ∨
    f.isStored = true ∧ (∀ c ∈ f.computed, (t.paths c.function).isSome = true) ∧
      (f.computed = none → t.model.isExpiry f = true → t.valueType f = .timestamp)

/-! ## The columns of an image -/

/-- The column of a field has what the field's own step wrote, or else what the key has. -/
theorem get?_marshal_column (h : t.model.ColumnsApart) {f : Field} (hf : f ∈ t.model.fields) :
    Dict.get? (t.marshal r) f.column =
      ((t.model.fieldStep? t.paths f).bind (t.written? r)).or (Dict.get? (t.key r) f.column) := by
  cases hstep : t.model.fieldStep? t.paths f with
  | some step =>
    have hput := get?_marshal r h (Model.mem_writeSteps.mpr (Or.inr ⟨f, hf, hstep⟩))
    rwa [Model.column_fieldStep? hstep] at hput
  | none =>
    refine get?_marshal_of_not_written r fun hwritten => ?_
    obtain ⟨step, hmem, hcolumn⟩ := List.mem_map.mp hwritten
    obtain ⟨part, hpart, hjoined, rfl⟩ | ⟨f', hf', hstep'⟩ := Model.mem_writeSteps.mp hmem
    · exact h.ne_indexAttribute hf f.column_mem_columns hpart hjoined hcolumn
    · rw [Model.column_fieldStep? hstep'] at hcolumn
      have hsame : f' = f := h.eq_of_mem_columns hf' hf f'.column_mem_columns
        (hcolumn ▸ f.column_mem_columns)
      rw [hsame, hstep] at hstep'
      cases hstep'

/-- The key has the column of a field if the field is a key attribute by itself. -/
theorem get?_key_column (h : t.model.ColumnsApart) {f : Field} (hf : f ∈ t.model.fields) :
    Dict.get? (t.key r) f.column =
      if t.model.IsKeyColumn f then some (keyComponent (r.attribute? f.name)) else none := by
  split
  · next hkey =>
    obtain ⟨part, hpart, -, hcolumn⟩ := hkey
    rw [← hcolumn, get?_key h hpart, (keyPart_of_column h hf hpart hcolumn).2.2]
  · next hkey =>
    rw [Dict.get?_eq_none_iff]
    intro hmem
    obtain ⟨part, hpart, hcolumn⟩ := Model.mem_keys_keyOf_iff.mp hmem
    exact hkey ⟨part, hpart, (keyPart_of_column (r := r) h hf hpart hcolumn).1, hcolumn⟩

/-- What is no column of a field is an attribute built of several fields, and a text. -/
theorem exists_joined_of_get?_marshal (h : t.model.ColumnsApart) {name : String}
    (hname : ∀ f ∈ t.model.fields, f.column ≠ name) {value : AttributeValue}
    (hvalue : Dict.get? (t.marshal r) name = some value) :
    value.typeName = "S" ∧
      ∃ part ∈ t.model.keyParts, part.isSingleField = false ∧ part.attributeName = name := by
  have hkeyed (hkey : Dict.get? (t.key r) name = some value) : value.typeName = "S" ∧
      ∃ part ∈ t.model.keyParts, part.isSingleField = false ∧ part.attributeName = name := by
    obtain ⟨part, hpart, rfl⟩ := Model.mem_keys_keyOf_iff.mp
      (Dict.mem_keys_iff.mpr (Option.isSome_iff_exists.mpr ⟨value, hkey⟩))
    rw [get?_key h hpart, Option.some.injEq] at hkey
    obtain ⟨role, -, hbuilt⟩ := h.part_isBuilt hpart
    cases hbuilt with
    | single found stored scalar =>
      exact absurd rfl (hname _ (List.mem_of_find?_eq_some found))
    | joined names lead => exact ⟨hkey ▸ rfl, _, List.mem_append_left _ hpart, rfl, rfl⟩
  by_cases hwritten : name ∈ (t.model.writeSteps t.paths).map (·.column)
  · obtain ⟨step, hstep, rfl⟩ := List.mem_map.mp hwritten
    rw [get?_marshal r h hstep] at hvalue
    obtain ⟨part, hpart, hjoined, rfl⟩ | ⟨f, hf, hown⟩ := Model.mem_writeSteps.mp hstep
    · cases hput : t.written? r (.index part.attributeName part.lead part.fields) with
      | none =>
        rw [hput, Option.none_or] at hvalue
        exact hkeyed hvalue
      | some put =>
        rw [hput, Option.some_or, Option.some.injEq] at hvalue
        obtain ⟨parts, -, rfl⟩ := Option.map_eq_some_iff.mp hput
        exact ⟨hvalue ▸ rfl, part, List.mem_append_right _ hpart, hjoined, rfl⟩
    · exact absurd (Model.column_fieldStep? hown).symm (hname f hf)
  · rw [get?_marshal_of_not_written r hwritten] at hvalue
    exact hkeyed hvalue

/-- An attribute built of several fields is no column of a field. -/
theorem ne_column_of_joined (h : t.model.ColumnsApart) {part : KeyPart}
    (hpart : part ∈ t.model.keyParts) (hjoined : part.isSingleField = false) :
    ∀ f ∈ t.model.fields, f.column ≠ part.attributeName :=
  fun f hf hsame =>
    h.not_mem_columns_of_joined hpart hjoined hf (hsame ▸ f.column_mem_columns)

theorem isSome_sparseKeyValue? {lead : Option String} {parts : List (Option AttributeValue)}
    (h : ∀ part ∈ parts, part.isSome = true) : (sparseKeyValue? lead parts).isSome = true := by
  rw [sparseKeyValue?, Option.isSome_map]
  induction parts with
  | nil => rfl
  | cons part parts ih =>
    obtain ⟨value, rfl⟩ := Option.isSome_iff_exists.mp (h part (List.mem_cons_self ..))
    obtain ⟨values, hvalues⟩ := Option.isSome_iff_exists.mp
      (ih fun other hother => h other (List.mem_cons_of_mem _ hother))
    rw [List.mapM_cons, hvalues]
    rfl

/-- It is in the image of a record, as a text, if the fields are set. -/
theorem exists_text_of_joined (h : t.model.ColumnsApart) {part : KeyPart}
    (hpart : part ∈ t.model.keyParts) (hjoined : part.isSingleField = false)
    (hset : part ∈ t.model.indexes.flatMap (·.parts) →
      ∀ name ∈ part.fields, (r.get? name).isSome) :
    ∃ value, Dict.get? (t.marshal r) part.attributeName = some value ∧ value.typeName = "S" := by
  have hpresent : (Dict.get? (t.marshal r) part.attributeName).isSome = true := by
    rcases List.mem_append.mp hpart with hprimary | hindexed
    · have hkey := get?_key (r := r) h hprimary
      by_cases hwritten : part.attributeName ∈ (t.model.writeSteps t.paths).map (·.column)
      · obtain ⟨step, hstep, hcolumn⟩ := List.mem_map.mp hwritten
        rw [← hcolumn, get?_marshal r h hstep, hcolumn, hkey, Option.isSome_or]
        exact Bool.or_true _
      · rw [get?_marshal_of_not_written r hwritten, hkey]
        rfl
    · have hput := get?_marshal r h
        (Model.mem_writeSteps.mpr (Or.inl ⟨part, hindexed, hjoined, rfl⟩))
      have hwritten :
          (t.written? r (.index part.attributeName part.lead part.fields)).isSome = true := by
        refine isSome_sparseKeyValue? fun component hcomponent => ?_
        obtain ⟨name, hname, rfl⟩ := List.mem_map.mp hcomponent
        exact Option.isSome_map.trans (hset hindexed name hname)
      rw [show part.attributeName =
        (WriteStep.index part.attributeName part.lead part.fields).column from rfl, hput,
        Option.isSome_or, hwritten]
      rfl
  obtain ⟨value, hvalue⟩ := Option.isSome_iff_exists.mp hpresent
  exact ⟨value, hvalue,
    (exists_joined_of_get?_marshal h (ne_column_of_joined h hpart hjoined) hvalue).1⟩

/-! ## The types of attributes -/

/-- The field of a key attribute is required, so it has a value. -/
theorem exists_value_of_isKeyColumn (h : t.model.ColumnsApart)
    (hkeys : Blueprint.KeyFieldsRequired t.model) (hr : t.IsTyped r) {f : Field}
    (hf : f ∈ t.model.fields) (hkey : t.model.IsKeyColumn f) : ∃ value, r.get? f.name = some value := by
  obtain ⟨part, hpart, -, hcolumn⟩ := hkey
  obtain ⟨role, hrole, hbuilt⟩ := h.part_isBuilt hpart
  cases hbuilt with
  | @single name f' hfind _ _ =>
    have hsame : f' = f := h.eq_of_mem_columns (List.mem_of_find?_eq_some hfind) hf
      f'.column_mem_columns (by rw [show f'.column = f.column from hcolumn]; exact f.column_mem_columns)
    obtain ⟨required, hrequired, hset⟩ := hkeys _ hpart name (List.mem_singleton_self _)
    have hfound : some required = some f' := hrequired.symm.trans hfind
    cases hfound
    exact Option.isSome_iff_exists.mp (hr.required f hf (hsame ▸ hset))
  | joined names lead =>
    have hreserved : ∀ role ∈ ["pk", "sk"], role ∈ Blueprint.reservedColumns := by decide
    exact absurd hcolumn (h.ne_reserved hf f.column_mem_columns (hreserved role hrole))

theorem isStored_of_isKept (h : t.model.ColumnsApart) {f : Field} (hf : f ∈ t.model.fields)
    (hkept : t.IsKept f) : f.isStored = true := by
  rcases hkept with ⟨part, hpart, -, hcolumn⟩ | ⟨hstored, -⟩
  · exact (keyPart_of_column (r := .mk [] .unwritten) h hf hpart hcolumn).2.1
  · exact hstored

/-- A column that is kept is a key's, or the step of its field writes it. -/
theorem step_of_isKept {f : Field} (hkept : t.IsKept f) : t.model.IsKeyColumn f ∨
    (∃ c, f.computed = some c ∧
      t.model.fieldStep? t.paths f = some (.computed f.column c.function)) ∨
    (t.valueType f = .timestamp ∧
      t.model.fieldStep? t.paths f = some (.expiry f.column f.name f.isRequired)) ∨
    t.model.fieldStep? t.paths f = some (.plain f.column f.name) := by
  refine hkept.imp_right fun ⟨hstored, hpath, htimestamp⟩ => ?_
  cases hc : f.computed with
  | some c =>
    exact Or.inl ⟨c, rfl, Model.fieldStep?_eq_some.mpr ⟨hstored, Or.inl ⟨c, hc, hpath c hc, rfl⟩⟩⟩
  | none =>
    cases hexpiry : t.model.isExpiry f with
    | true =>
      exact Or.inr (Or.inl ⟨htimestamp hc hexpiry,
        Model.fieldStep?_eq_some.mpr ⟨hstored, Or.inr (Or.inl ⟨hc, hexpiry, rfl⟩)⟩⟩)
    | false =>
      exact Or.inr (Or.inr
        (Model.fieldStep?_eq_some.mpr ⟨hstored, Or.inr (Or.inr ⟨hc, hexpiry, rfl⟩)⟩))

/-- What the step of a field writes is of the type that the field is stored under. -/
theorem typeName_of_written (hr : t.IsTyped r) {f : Field} (hf : f ∈ t.model.fields)
    {value : AttributeValue}
    (hput : (t.model.fieldStep? t.paths f).bind (t.written? r) = some value) :
    t.IsKept f ∧ ∀ type, t.storedType? f = some type → value.typeName = type := by
  obtain ⟨step, hstep, hwritten⟩ := Option.bind_eq_some_iff.mp hput
  obtain ⟨hstored, ⟨c, hc, hpath, rfl⟩ | ⟨hplain, hexpiry, rfl⟩ | ⟨hplain, hexpiry, rfl⟩⟩ :=
    Model.fieldStep?_eq_some.mp hstep
  · obtain ⟨computed, hcomputed, rfl⟩ := Option.map_eq_some_iff.mp hwritten
    refine ⟨Or.inr ⟨hstored, fun c' hc' => ?_, fun hnone => ?_⟩, fun type htype => ?_⟩
    · rw [Option.mem_def.mp hc', Option.some.injEq] at hc
      rwa [hc]
    · rw [hnone] at hc
      cases hc
    · rw [storedType?, if_neg (by rw [hc]; simp)] at htype
      exact ValueType.typeName_toAttribute (hr.computed f hf c hc computed hcomputed) htype
  · obtain ⟨time, htime, rfl⟩ := written?_expiry_eq_some.mp hwritten
    have htyped := hr.values f hf _ htime
    have htimestamp : t.valueType f = .timestamp := by
      cases hvalueType : t.valueType f <;> rw [hvalueType] at htyped <;> first | rfl | cases htyped
    refine ⟨Or.inr ⟨hstored, fun c hc => ?_, fun _ _ => htimestamp⟩, fun type htype => ?_⟩
    · rw [hplain] at hc
      cases hc
    · rw [storedType?, if_pos ⟨hplain, hexpiry, htimestamp⟩, Option.some.injEq] at htype
      exact htype
  · obtain ⟨own, hown, rfl⟩ := Option.map_eq_some_iff.mp hwritten
    refine ⟨Or.inr ⟨hstored, fun c hc => ?_, fun _ hexpires => ?_⟩, fun type htype => ?_⟩
    · rw [hplain] at hc
      cases hc
    · rw [hexpiry] at hexpires
      cases hexpires
    · rw [storedType?, if_neg (by rw [hexpiry]; simp)] at htype
      exact ValueType.typeName_toAttribute (hr.values f hf own hown) htype

/-- So is what the key has, where the step of the field writes nothing. -/
theorem typeName_of_key (h : t.model.ColumnsApart)
    (hkeys : Blueprint.KeyFieldsRequired t.model) (hr : t.IsTyped r) {f : Field}
    (hf : f ∈ t.model.fields) (hput : (t.model.fieldStep? t.paths f).bind (t.written? r) = none)
    (hkey : t.model.IsKeyColumn f) {type : String} (htype : t.storedType? f = some type) :
    (keyComponent (r.attribute? f.name)).typeName = type := by
  obtain ⟨own, hown⟩ := exists_value_of_isKeyColumn h hkeys hr hf hkey
  have htyped := hr.values f hf own hown
  have hattribute : keyComponent (r.attribute? f.name) = own.toAttribute := by
    rw [Record.attribute?, hown]
    rfl
  rw [hattribute]
  rw [storedType?] at htype
  split at htype
  · next hexpires =>
    -- An expiry that holds a point in time is written over the key.
    obtain ⟨hplain, hexpiry, htimestamp⟩ := hexpires
    rw [htimestamp] at htyped
    cases own with
    | timestamp time =>
      have hstep : t.model.fieldStep? t.paths f = some (.expiry f.column f.name f.isRequired) :=
        Model.fieldStep?_eq_some.mpr
          ⟨isStored_of_isKept h hf (Or.inl hkey), Or.inr (Or.inl ⟨hplain, hexpiry, rfl⟩)⟩
      rw [hstep, Option.bind_some, written?_expiry_eq_some.mpr ⟨time, hown, rfl⟩] at hput
      cases hput
    | _ => cases htyped
  · exact ValueType.typeName_toAttribute htyped htype

/-- What a typed record has in the column of a field is of the type that the field is stored
under. -/
theorem typeName_of_get?_marshal (h : t.model.ColumnsApart)
    (hkeys : Blueprint.KeyFieldsRequired t.model) (hr : t.IsTyped r) {f : Field}
    (hf : f ∈ t.model.fields) {value : AttributeValue}
    (hvalue : Dict.get? (t.marshal r) f.column = some value) :
    t.IsKept f ∧ ∀ type, t.storedType? f = some type → value.typeName = type := by
  rw [get?_marshal_column h hf] at hvalue
  cases hput : (t.model.fieldStep? t.paths f).bind (t.written? r) with
  | some put =>
    rw [hput, Option.some_or, Option.some.injEq] at hvalue
    exact hvalue ▸ typeName_of_written hr hf hput
  | none =>
    rw [hput, Option.none_or, get?_key_column h hf] at hvalue
    split at hvalue
    · next hkey =>
      cases hvalue
      exact ⟨Or.inl hkey, fun type htype => typeName_of_key h hkeys hr hf hput hkey htype⟩
    · cases hvalue

/-- In a full record every column that is kept has an attribute. -/
theorem exists_get?_marshal_of_isKept (h : t.model.ColumnsApart) (hr : t.IsFull r) {f : Field}
    (hf : f ∈ t.model.fields) (hkept : t.IsKept f) :
    ∃ value, Dict.get? (t.marshal r) f.column = some value := by
  rw [get?_marshal_column h hf, ← Option.isSome_iff_exists, Option.isSome_or, Bool.or_eq_true]
  obtain ⟨own, hown⟩ := Option.isSome_iff_exists.mp (hr.set f hf)
  rcases step_of_isKept hkept with hkey | ⟨c, hc, hstep⟩ | ⟨htimestamp, hstep⟩ | hstep
  · rw [get?_key_column h hf, if_pos hkey]
    exact Or.inr rfl
  · rw [hstep, Option.bind_some]
    exact Or.inl (Option.isSome_map.trans (hr.computes f hf c hc))
  · have htyped := hr.values f hf own hown
    rw [htimestamp] at htyped
    cases own with
    | timestamp time =>
      rw [hstep, Option.bind_some, written?_expiry_eq_some.mpr ⟨time, hown, rfl⟩]
      exact Or.inl rfl
    | _ => cases htyped
  · rw [hstep, Option.bind_some]
    exact Or.inl (Option.isSome_map.trans (hr.set f hf))

/-! ## JSON that is null -/

/-- The record type in which functions compute what they compute of one record, and the function
of a field computes null. -/
def withNullComputed (t : RecordType) (r : Record) (f : Field) : RecordType :=
  { t with functions :=
      match f.computed with
      | some c => Dict.insert (Dict.mapValues (fun g _ => g r) t.functions) c.function
          fun _ => some (.json .null)
      | none => Dict.mapValues (fun g _ => g r) t.functions }

/-- A function computes what it did, or null if it is the function of the field. -/
theorem compute_withNullComputed {f : Field} {function : String} {r' : Record} :
    (t.withNullComputed r f).compute function r' =
      if ∃ c ∈ f.computed, c.function = function then some (.json .null)
      else t.compute function r := by
  have hold : (Dict.get? (Dict.mapValues (fun g _ => g r : Computation → Computation) t.functions)
      function).bind (· r') = t.compute function r := by
    rw [Dict.get?_mapValues, compute]
    cases Dict.get? t.functions function <;> rfl
  unfold compute withNullComputed
  cases hc : f.computed with
  | none => simpa [compute] using hold
  | some c =>
    by_cases hname : c.function = function
    · simp [hname]
    · simp only [Option.mem_def, Option.some.injEq, exists_eq_left', hname, if_false]
      rw [Dict.get?_insert_ne _ _ (Ne.symm hname)]
      exact hold

/-- A full record stays typed if a field of JSON is made null. -/
theorem isTyped_set_null (hr : t.IsFull r) {f : Field} (hf : f ∈ t.model.fields)
    (hjson : t.valueType f = .json) :
    (t.withNullComputed r f).IsTyped (r.set f.name (.json .null)) := by
  have hshared {f' : Field} {value : Value} (hown : (t.valueType f).Has value)
      (hother : (t.valueType f').Has value) : t.valueType f' = .json := by
    rw [hjson] at hown
    cases value with
    | json content => exact ValueType.has_json_iff.mp hother
    | _ => cases hown
  constructor
  case values =>
    intro f' hf' value hvalue
    rw [Record.get?_set, Option.mem_def] at hvalue
    split at hvalue
    · next hname =>
      cases hvalue
      obtain ⟨old, hold⟩ := Option.isSome_iff_exists.mp (hr.set f hf)
      exact ValueType.has_json_iff.mpr
        (hshared (hr.values f hf old hold) (hr.values f' hf' old (hname ▸ hold)))
    · exact hr.values f' hf' value hvalue
  case required =>
    intro f' hf' hrequired
    rw [Record.get?_set]
    split
    · rfl
    · exact hr.required f' hf' hrequired
  case computed =>
    intro f' hf' c' hc' value hvalue
    rw [compute_withNullComputed, Option.mem_def] at hvalue
    split at hvalue
    · next hsame =>
      obtain ⟨c, hc, hfunction⟩ := hsame
      cases hvalue
      obtain ⟨old, hold⟩ := Option.isSome_iff_exists.mp (hr.computes f hf c hc)
      exact ValueType.has_json_iff.mpr (hshared (hr.computed f hf c hc old hold)
        (hr.computed f' hf' c' hc' old (hfunction ▸ hold)))
    · exact hr.computed f' hf' c' hc' value hvalue

/-- Null is what is then stored for the field. -/
theorem get?_marshal_set_null (h : t.model.ColumnsApart) {f : Field} (hf : f ∈ t.model.fields)
    (hkept : t.IsKept f) (hjson : t.valueType f = .json) :
    Dict.get? ((t.withNullComputed r f).marshal (r.set f.name (.json .null))) f.column =
      some (.null true) := by
  have hown : (r.set f.name (.json .null)).get? f.name = some (.json .null) :=
    Dict.get?_insert_self ..
  have hkey : Dict.get? ((t.withNullComputed r f).key (r.set f.name (.json .null))) f.column =
      if t.model.IsKeyColumn f then some (.null true) else none := by
    rw [get?_key_column (t := t.withNullComputed r f) h hf, Record.attribute?, hown]
    rfl
  rw [get?_marshal_column (t := t.withNullComputed r f) h hf, hkey]
  show ((t.model.fieldStep? t.paths f).bind
    ((t.withNullComputed r f).written? (r.set f.name (.json .null)))).or _ = _
  cases hput : (t.model.fieldStep? t.paths f).bind
      ((t.withNullComputed r f).written? (r.set f.name (.json .null))) with
  | some put =>
    rw [Option.some_or]
    obtain ⟨step, hstep, hwritten⟩ := Option.bind_eq_some_iff.mp hput
    obtain ⟨-, ⟨c, hc, -, rfl⟩ | ⟨-, -, rfl⟩ | ⟨-, -, rfl⟩⟩ := Model.fieldStep?_eq_some.mp hstep
    · rw [written?, compute_withNullComputed, if_pos ⟨c, hc, rfl⟩] at hwritten
      exact hwritten.symm
    · obtain ⟨time, htime, -⟩ := written?_expiry_eq_some.mp hwritten
      rw [hown] at htime
      cases htime
    · rw [written?, Record.attribute?, hown] at hwritten
      exact hwritten.symm
  | none =>
    rw [Option.none_or]
    rcases step_of_isKept hkept with hkeyed | ⟨c, hc, hstep⟩ | ⟨htimestamp, -⟩ | hstep
    · rw [if_pos hkeyed]
    · rw [hstep, Option.bind_some, written?, compute_withNullComputed, if_pos ⟨c, hc, rfl⟩] at hput
      cases hput
    · rw [htimestamp] at hjson
      cases hjson
    · rw [hstep, Option.bind_some, written?, Record.attribute?, hown] at hput
      cases hput

end RecordType

/-! ## The types a table defines -/

/-- The type that the properties of a table define for an attribute. -/
def Json.definedType? (properties : Json) (name : String) : Option String :=
  ((properties.elementsAt "AttributeDefinitions").find? fun entry =>
    entry.textAt? "AttributeName" = some name).bind (·.textAt? "AttributeType")

namespace Blueprint

open RecordType Template

variable {b : Blueprint} {t : Table}

theorem definedType?_tableResource (b : Blueprint) (t : Table) (name : String) :
    (tableResource b t).properties.definedType? name =
      Dict.get? (keyAttributeTypes b t) name := by
  have hdefinitions := (properties_tableResource b t).1
  unfold Json.definedType? Json.elementsAt
  rw [hdefinitions]
  simp only [attributeDefinitions, Option.bind_some, Json.asArray?, Option.getD_some]
  induction keyAttributeTypes b t with
  | nil => rfl
  | cons entry rest ih =>
    obtain ⟨key, type⟩ := entry
    have hname : (Json.object [("AttributeName", .str key), ("AttributeType", .str type)]).textAt?
        "AttributeName" = some key := by
      simp [Json.textAt?, Json.get?_object, Json.asString?]
    have htype : (Json.object [("AttributeName", .str key), ("AttributeType", .str type)]).textAt?
        "AttributeType" = some type := by
      simp [Json.textAt?, Json.get?_object, Json.asString?]
    rw [List.map_cons, List.find?_cons, hname]
    by_cases hkey : key = name
    · subst hkey
      simp [htype, Dict.get?]
    · simpa [hkey, Dict.get?] using ih

/-- An attribute is defined as a text or as a number. -/
theorem definedType?_eq_some {name type : String}
    (h : (tableResource b t).properties.definedType? name = some type) :
    type = "S" ∨ type = "N" := by
  rw [definedType?_tableResource, get?_keyAttributeTypes, Option.map_eq_some_iff] at h
  obtain ⟨use, huse, rfl⟩ := h
  obtain ⟨m, -, hparts⟩ := List.mem_flatMap.mp (List.mem_of_find?_eq_some huse)
  obtain ⟨part, -, rfl⟩ := List.mem_map.mp hparts
  dsimp only
  unfold keyAttributeType
  split
  · split
    · split
      · exact Or.inr rfl
      · exact Or.inl rfl
    · exact Or.inl rfl
  · exact Or.inl rfl

/-- The records of a model of the blueprint. -/
def recordType (b : Blueprint) (paths : Code.PathReader) (m : Model)
    (functions : Dict Computation) : RecordType :=
  ⟨m, b.enums, functions, paths⟩

/-- Images have every key attribute under the type that the table defines for it. -/
def StoresDefinedTypes (b : Blueprint) (paths : Code.PathReader) (t : Table) : Prop :=
  ∀ m ∈ b.modelsOn t, ∀ functions r, (b.recordType paths m functions).IsTyped r →
    ∀ name type, (tableResource b t).properties.definedType? name = some type →
      ∀ value, Dict.get? ((b.recordType paths m functions).marshal r) name = some value →
        value.typeName = type

/-- The models of a table use its key attributes as it defines them: what they build of several
fields is a text, and a field is stored under the type defined for its column. -/
structure TypesFit (b : Blueprint) (paths : Code.PathReader) (t : Table) : Prop where
  joined : ∀ m ∈ b.modelsOn t, ∀ part ∈ m.keyParts, part.isSingleField = false →
    (tableResource b t).properties.definedType? part.attributeName = some "S"
  field : ∀ m ∈ b.modelsOn t, ∀ f ∈ m.fields, (b.recordType paths m .empty).IsKept f → ∀ type,
    (tableResource b t).properties.definedType? f.column = some type →
      (b.recordType paths m .empty).storedType? f = some type

/-- Every model of the table has a record with all fields set. -/
def HasFullRecords (b : Blueprint) (paths : Code.PathReader) (t : Table) : Prop :=
  ∀ m ∈ b.modelsOn t, ∃ functions r, (b.recordType paths m functions).IsFull r

theorem TypesFit.storesDefinedTypes {paths : Code.PathReader} (hfit : b.TypesFit paths t)
    (hapart : ∀ m ∈ b.models, m.ColumnsApart) (hkeys : ∀ m ∈ b.models, KeyFieldsRequired m) :
    b.StoresDefinedTypes paths t := by
  intro m hm functions r hr name type htype value hvalue
  have hmem := (List.mem_filter.mp hm).1
  by_cases hcolumn : ∃ f ∈ m.fields, f.column = name
  · obtain ⟨f, hf, rfl⟩ := hcolumn
    obtain ⟨hkept, hstored⟩ := typeName_of_get?_marshal (t := b.recordType paths m functions)
      (hapart m hmem) (hkeys m hmem) hr hf hvalue
    exact hstored type (hfit.field m hm f hf hkept type htype)
  · have hother : ∀ f ∈ m.fields, f.column ≠ name := fun f hf hsame => hcolumn ⟨f, hf, hsame⟩
    obtain ⟨htext, part, hpart, hjoined, rfl⟩ :=
      exists_joined_of_get?_marshal (t := b.recordType paths m functions) (hapart m hmem) hother
        hvalue
    rw [hfit.joined m hm part hpart hjoined, Option.some.injEq] at htype
    rw [htext, htype]

/-- Every attribute of a model's keys is defined. -/
theorem exists_definedType? {m : Model} (hm : m ∈ b.modelsOn t) {part : KeyPart}
    (hpart : part ∈ m.keyParts) :
    ∃ type, (tableResource b t).properties.definedType? part.attributeName = some type := by
  rw [definedType?_tableResource, ← Option.isSome_iff_exists, ← Dict.mem_keys_iff,
    mem_keys_keyAttributeTypes]
  exact ⟨m, hm, part, hpart, rfl⟩

theorem TypesFit.of_storesDefinedTypes {paths : Code.PathReader}
    (hstores : b.StoresDefinedTypes paths t)
    (hapart : ∀ m ∈ b.models, m.ColumnsApart) (hkeys : ∀ m ∈ b.models, KeyFieldsRequired m)
    (hfound : ∀ m ∈ b.models, ∀ part ∈ m.indexes.flatMap (·.parts), ∀ name ∈ part.fields,
      ∃ f ∈ m.fields, f.name = name)
    (hfull : b.HasFullRecords paths t) : b.TypesFit paths t := by
  constructor
  case joined =>
    intro m hm part hpart hjoined
    have hmem := (List.mem_filter.mp hm).1
    obtain ⟨type, htype⟩ := exists_definedType? hm hpart
    obtain ⟨functions, r, hr⟩ := hfull m hm
    have hset (hindexed : part ∈ m.indexes.flatMap (·.parts)) (name : String)
        (hname : name ∈ part.fields) : (r.get? name).isSome = true := by
      obtain ⟨f, hf, rfl⟩ := hfound m hmem part hindexed name hname
      exact hr.set f hf
    obtain ⟨value, hvalue, htext⟩ := exists_text_of_joined (t := b.recordType paths m functions)
      (hapart m hmem) hpart hjoined hset
    have hsame := hstores m hm functions r hr.toIsTyped _ type htype value hvalue
    rw [htype, ← hsame, htext]
  case field =>
    intro m hm f hf hkept type htype
    have hmem := (List.mem_filter.mp hm).1
    obtain ⟨functions, r, hr⟩ := hfull m hm
    cases hstored : (b.recordType paths m .empty).storedType? f with
    | some name =>
      obtain ⟨value, hvalue⟩ := exists_get?_marshal_of_isKept (t := b.recordType paths m functions)
        (hapart m hmem) hr hf hkept
      have hsame := hstores m hm functions r hr.toIsTyped _ type htype value hvalue
      have hown := (typeName_of_get?_marshal (t := b.recordType paths m functions) (hapart m hmem)
        (hkeys m hmem) hr.toIsTyped hf hvalue).2 name hstored
      rw [← hown, hsame]
    | none =>
      -- A field of JSON may be null, which is the type of no key attribute.
      have hjson : (b.recordType paths m functions).valueType f = .json := by
        rw [storedType?] at hstored
        split at hstored
        · cases hstored
        · exact ValueType.eq_json_of_wireType? hstored
      have hnull := hstores m hm _ _ (isTyped_set_null hr hf hjson) _ type htype _
        (get?_marshal_set_null (t := b.recordType paths m functions) (hapart m hmem) hf hkept hjson)
      rcases definedType?_eq_some htype with rfl | rfl <;> exact absurd hnull (by decide)

/-- In an accepted schema the images of all records have their key attributes under the types
that the table defines, exactly if its models use these attributes as defined. -/
theorem storesDefinedTypes_iff {config : Config} {text : String}
    (hb : ofSchema config text = .ok b) (paths : Code.PathReader) (t : Table) :
    (b.TypesFit paths t → b.StoresDefinedTypes paths t) ∧
      (b.HasFullRecords paths t → b.StoresDefinedTypes paths t → b.TypesFit paths t) := by
  have hapart : ∀ m ∈ b.models, m.ColumnsApart := fun m hm => ofSchema_columnsApart hb hm
  refine ⟨fun hfit => hfit.storesDefinedTypes hapart (ofSchema_isSound hb).keyFieldsRequired, ?_⟩
  exact fun hfull hstores => .of_storesDefinedTypes hstores hapart
    (ofSchema_isSound hb).keyFieldsRequired
    (fun m hm part hpart name hname => ofSchema_indexFieldsFound hb hm hpart hname) hfull

open BookExample in
/-- A whole number and a day as key attributes, one of them shared by two models. -/
theorem book_stores_defined_types : ofSchema .default schema = .ok blueprint ∧
    blueprint.HasFullRecords Code.functionPath? book ∧ blueprint.TypesFit Code.functionPath? book ∧
      blueprint.StoresDefinedTypes Code.functionPath? book := by
  have hfit : blueprint.TypesFit Code.functionPath? book := by
    constructor
    · have hnone : ∀ m ∈ blueprint.modelsOn book, ∀ part ∈ m.keyParts,
          part.isSingleField = true := by decide
      intro m hm part hpart hjoined
      rw [hnone m hm part hpart] at hjoined
      cases hjoined
    · have hfields : ∀ m ∈ blueprint.modelsOn book, ∀ f ∈ m.fields,
          (blueprint.recordType Code.functionPath? m .empty).storedType? f =
            (tableResource blueprint book).properties.definedType? f.column := by decide +kernel
      intro m hm f hf _ type htype
      rw [hfields m hm f hf, htype]
  have hfull : blueprint.HasFullRecords Code.functionPath? book := by
    have hmodels : blueprint.modelsOn book = [bill, note] := by decide
    intro m hm
    rw [hmodels] at hm
    let record : Record :=
      ⟨[("due", .date .epoch), ("id", .text "7"), ("page", .int 3)], .unwritten⟩
    refine ⟨.empty, record, ?_⟩
    rcases List.mem_cons.mp hm with rfl | hm
    · refine isFull_of_plain (by decide) ?_
      simp only [recordType, bill, keyFields, List.forall_mem_cons, List.cons_append,
        List.nil_append]
      exact ⟨⟨_, rfl, trivial⟩, ⟨.int 3, rfl, show fitsInt64 3 = true by decide⟩,
        ⟨_, rfl, trivial⟩, by simp⟩
    · rw [List.mem_singleton.mp hm]
      refine isFull_of_plain (by decide) ?_
      simp only [recordType, note, keyFields, List.forall_mem_cons]
      exact ⟨⟨_, rfl, trivial⟩, ⟨.int 3, rfl, show fitsInt64 3 = true by decide⟩, by simp⟩
  exact ⟨ofSchema_schema, hfull, hfit, (storesDefinedTypes_iff ofSchema_schema _ book).1 hfit⟩

namespace LeaseIndexExample

def schema : String :=
  "type Lease @partitionKey(pkFields: [\"id\"]) @simpleIndex(field: \"until\") \x7b
    id: ID! until: DateTime @ttl \x7d"

def key : PrimaryKey := .simple ⟨"id", ["id"], none, true⟩

def indexes : List SecondaryIndex :=
  [.global "until" ⟨"until", ["until"], none, true⟩ none .all]

def fields : List Field :=
  [.scalar "id" "ID" true, { Field.scalar "until" "DateTime" false with isDateType := true }]

def lease : Model :=
  ⟨"Lease", "Lease", fields, key, indexes, some ⟨"until", "until", none⟩, false, false, false, []⟩

def leases : Table := ⟨"Lease", key, indexes, false, false, some "until", none⟩

def blueprint : Blueprint := ⟨[lease], [leases], []⟩

def record : Record := ⟨[("id", .text "7"), ("until", .timestamp .epoch)], .unwritten⟩

end LeaseIndexExample

open LeaseIndexExample in
/-- An index on the field that expires items defines a text, and records have a number there. -/
theorem indexed_expiry_is_no_text : ofSchema .default schema = .ok blueprint ∧
    leases ∈ blueprint.tables ∧
    (tableResource blueprint leases).properties.definedType? "until" = some "S" ∧
    (blueprint.recordType Code.functionPath? lease .empty).IsTyped record ∧
    Dict.get? ((blueprint.recordType Code.functionPath? lease .empty).marshal record) "until" =
      some (.number "0") ∧
    ¬ blueprint.StoresDefinedTypes Code.functionPath? leases := by
  have htype : (tableResource blueprint leases).properties.definedType? "until" = some "S" := by
    decide +kernel
  have hitem : Dict.get? ((blueprint.recordType Code.functionPath? lease .empty).marshal record)
      "until" = some (.number "0") := by decide +kernel
  have htyped : (blueprint.recordType Code.functionPath? lease .empty).IsTyped record := by
    refine (isFull_of_plain (by decide) ?_).toIsTyped
    simp only [recordType, lease, fields, List.forall_mem_cons]
    exact ⟨⟨_, rfl, trivial⟩, ⟨_, rfl, trivial⟩, by simp⟩
  refine ⟨by decide +kernel, List.mem_singleton_self _, htype, htyped, hitem, fun hstores => ?_⟩
  have hsame := hstores lease (by decide) .empty record htyped "until" "S" htype _ hitem
  exact absurd hsame (by decide)

end Blueprint

end Keyspace
