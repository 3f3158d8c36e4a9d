import Keyspace.Proofs.Record.Writing

/-!
# Images and the keys they are stored under

An item is stored under the key of its record, so its attributes should repeat that key. The
key is written first, and a later step may write one of its attributes again: a field that is
a key attribute by itself and expires the items or is computed, and an index whose name leaves
its attributes those of the primary key. Nothing else touches the key of an accepted model.
-/
namespace Keyspace

/-- The column of the field is an attribute of the primary key by itself. -/
def Model.IsKeyColumn (m : Model) (f : Field) : Prop :=
  ∃ part ∈ m.primaryKey.parts, part.isSingleField = true ∧ part.attributeName = f.column

instance (m : Model) (f : Field) : Decidable (m.IsKeyColumn f) :=
  inferInstanceAs (Decidable (∃ part ∈ m.primaryKey.parts, _))

namespace RecordType

variable {t : RecordType} {r : Record}

/-- The attribute that a record gives to a part of its key. -/
def keyPartValue (r : Record) (part : KeyPart) : AttributeValue :=
  Model.keyAttribute part fun field => keyComponent (r.attribute? field)

/-- The image of a record has every attribute of its key, and with the same value. -/
def HoldsKey (t : RecordType) (r : Record) : Prop :=
  ∀ attributeName value, Dict.get? (t.key r) attributeName = some value →
    Dict.get? (t.marshal r) attributeName = some value

/-- The steps after the key write no other value over it. -/
structure LeavesKey (t : RecordType) (r : Record) : Prop where
  index : ∀ part ∈ t.model.primaryKey.parts, ∀ part' ∈ t.model.indexes.flatMap (·.parts),
    part'.isSingleField = false → part'.attributeName = part.attributeName →
      ∀ value ∈ sparseKeyValue? part'.lead (part'.fields.map r.attribute?),
        value = keyPartValue r part
  expiry : ∀ f ∈ t.model.fields, t.model.IsKeyColumn f → t.model.isExpiry f = true →
    f.computed = none → ∀ time, r.get? f.name ≠ some (.timestamp time)
  computed : ∀ f ∈ t.model.fields, t.model.IsKeyColumn f →
    ∀ c ∈ f.computed, (t.paths c.function).isSome = true → ∀ value ∈ t.compute c.function r,
      value.toAttribute = keyComponent (r.attribute? f.name)

theorem get?_key (h : t.model.ColumnsApart) {part : KeyPart}
    (hpart : part ∈ t.model.primaryKey.parts) :
    Dict.get? (t.key r) part.attributeName = some (keyPartValue r part) :=
  Model.get?_keyOf h hpart _

/-- A key survives writing if every step that writes one of its attributes writes the same. -/
theorem holdsKey_iff_steps (h : t.model.ColumnsApart) : t.HoldsKey r ↔
    ∀ part ∈ t.model.primaryKey.parts, ∀ step ∈ t.model.writeSteps t.paths,
      step.column = part.attributeName → ∀ value ∈ t.written? r step,
        value = keyPartValue r part := by
  constructor
  · intro hholds part hpart step hstep hcolumn value hvalue
    have hkept := hholds _ _ (get?_key (r := r) h hpart)
    rw [← hcolumn, get?_marshal r h hstep, Option.mem_def.mp hvalue] at hkept
    exact Option.some.inj hkept
  · intro hsteps attributeName value hvalue
    obtain ⟨part, hpart, rfl⟩ := Model.mem_keys_keyOf_iff.mp
      (Dict.mem_keys_iff.mpr (Option.isSome_iff_exists.mpr ⟨value, hvalue⟩))
    by_cases hwritten : part.attributeName ∈ (t.model.writeSteps t.paths).map (·.column)
    · obtain ⟨step, hstep, hcolumn⟩ := List.mem_map.mp hwritten
      rw [← hcolumn, get?_marshal r h hstep]
      cases hput : t.written? r step with
      | none => rwa [Option.none_or, hcolumn]
      | some put =>
        have hsame := hsteps part hpart step hstep hcolumn put hput
        rw [get?_key h hpart, ← hsame] at hvalue
        exact hvalue
    · rwa [get?_marshal_of_not_written r hwritten]

/-- A key part that has the column of a field is that field alone, which is stored. -/
theorem keyPart_of_column (h : t.model.ColumnsApart) {f : Field} (hf : f ∈ t.model.fields)
    {part : KeyPart} (hpart : part ∈ t.model.primaryKey.parts)
    (hcolumn : part.attributeName = f.column) :
    part.isSingleField = true ∧ f.isStored = true ∧
      keyPartValue r part = keyComponent (r.attribute? f.name) := by
  obtain ⟨role, hrole, hbuilt⟩ := h.part_isBuilt hpart
  cases hbuilt with
  | @single name f' hfind hstored _ =>
    obtain ⟨hf', hname⟩ := Field.of_find? hfind
    have hsame : f' = f := h.eq_of_mem_columns hf' hf f'.column_mem_columns
      (by rw [show f'.column = f.column from hcolumn]; exact f.column_mem_columns)
    subst hsame hname
    exact ⟨rfl, hstored, rfl⟩
  | joined names lead =>
    have hreserved : ∀ role ∈ ["pk", "sk"], role ∈ Blueprint.reservedColumns := by decide
    exact absurd hcolumn (h.ne_reserved hf f.column_mem_columns (hreserved role hrole))

theorem toAttribute_timestamp_ne_number (time : Timestamp) (text : String) :
    (Value.timestamp time).toAttribute ≠ .number text := by
  rw [Value.toAttribute]
  exact AttributeValue.noConfusion

theorem written?_expiry_eq_some {column field : String} {isRequired : Bool}
    {value : AttributeValue} :
    t.written? r (.expiry column field isRequired) = some value ↔
      ∃ time, r.get? field = some (.timestamp time) ∧ value = .number (toString time.seconds) := by
  simp only [written?]
  split
  · next time htime => simp [htime, eq_comm]
  · next hother =>
    constructor
    · intro hnone
      cases hnone
    · rintro ⟨time, htime, -⟩
      exact absurd htime (hother time)

theorem leavesKey_of_steps (h : t.model.ColumnsApart)
    (hsteps : ∀ part ∈ t.model.primaryKey.parts, ∀ step ∈ t.model.writeSteps t.paths,
      step.column = part.attributeName → ∀ value ∈ t.written? r step,
        value = keyPartValue r part) : t.LeavesKey r := by
  have hfield {f : Field} (hf : f ∈ t.model.fields) (hkey : t.model.IsKeyColumn f)
      {step : WriteStep} (hstep : t.model.fieldStep? t.paths f = some step) :
      ∀ value ∈ t.written? r step, value = keyComponent (r.attribute? f.name) := by
    obtain ⟨part, hpart, -, hcolumn⟩ := hkey
    rw [← (keyPart_of_column h hf hpart hcolumn).2.2]
    exact hsteps part hpart step (Model.mem_writeSteps.mpr (Or.inr ⟨f, hf, hstep⟩))
      ((Model.column_fieldStep? hstep).trans hcolumn.symm)
  have hstored {f : Field} (hf : f ∈ t.model.fields) (hkey : t.model.IsKeyColumn f) :
      f.isStored = true := by
    obtain ⟨part, hpart, -, hcolumn⟩ := hkey
    exact (keyPart_of_column (r := r) h hf hpart hcolumn).2.1
  constructor
  case index =>
    intro part hpart part' hpart' hjoined hname value hvalue
    exact hsteps part hpart _ (Model.mem_writeSteps.mpr (Or.inl ⟨part', hpart', hjoined, rfl⟩))
      hname value hvalue
  case expiry =>
    intro f hf hkey hexpiry hplain time htime
    have hstep : t.model.fieldStep? t.paths f = some _ := Model.fieldStep?_eq_some.mpr
      ⟨hstored hf hkey, Or.inr (Or.inl ⟨hplain, hexpiry, rfl⟩)⟩
    have hput := hfield hf hkey hstep _ (written?_expiry_eq_some.mpr ⟨time, htime, rfl⟩)
    rw [Record.attribute?, htime] at hput
    exact toAttribute_timestamp_ne_number time _ hput.symm
  case computed =>
    intro f hf hkey c hc hpath value hvalue
    have hstep : t.model.fieldStep? t.paths f = some _ := Model.fieldStep?_eq_some.mpr
      ⟨hstored hf hkey, Or.inl ⟨c, hc, hpath, rfl⟩⟩
    exact hfield hf hkey hstep _ (Option.mem_map_of_mem _ hvalue)

theorem LeavesKey.steps (h : t.model.ColumnsApart) (hleaves : t.LeavesKey r) :
    ∀ part ∈ t.model.primaryKey.parts, ∀ step ∈ t.model.writeSteps t.paths,
      step.column = part.attributeName → ∀ value ∈ t.written? r step,
        value = keyPartValue r part := by
  intro part hpart step hstep hcolumn value hvalue
  obtain ⟨part', hpart', hjoined, rfl⟩ | ⟨f, hf, hstep⟩ := Model.mem_writeSteps.mp hstep
  · exact hleaves.index part hpart part' hpart' hjoined hcolumn value hvalue
  · rw [Model.column_fieldStep? hstep] at hcolumn
    obtain ⟨hsingle, -, hown⟩ := keyPart_of_column (r := r) h hf hpart hcolumn.symm
    have hkey : t.model.IsKeyColumn f := ⟨part, hpart, hsingle, hcolumn.symm⟩
    rw [hown]
    obtain ⟨-, ⟨c, hc, hpath, rfl⟩ | ⟨hplain, hexpiry, rfl⟩ | ⟨-, -, rfl⟩⟩ :=
      Model.fieldStep?_eq_some.mp hstep
    · obtain ⟨computed, hcomputed, rfl⟩ := Option.map_eq_some_iff.mp hvalue
      exact hleaves.computed f hf hkey c hc hpath computed hcomputed
    · obtain ⟨time, htime, -⟩ := written?_expiry_eq_some.mp hvalue
      exact absurd htime (hleaves.expiry f hf hkey hexpiry hplain time)
    · rw [show r.attribute? f.name = some value from hvalue]
      rfl

/-- Images of an accepted model hold the key of their record if and only if no index, expiry or
computed field writes another value over it. -/
theorem holdsKey_iff {config : Config} {text : String} {b : Blueprint}
    (hb : Blueprint.ofSchema config text = .ok b) (hm : t.model ∈ b.models) (r : Record) :
    t.HoldsKey r ↔ t.LeavesKey r := by
  have h := Blueprint.ofSchema_columnsApart hb hm
  rw [holdsKey_iff_steps h]
  exact ⟨leavesKey_of_steps h, LeavesKey.steps h⟩

namespace ShelfExample

/-- A joined sort key, an index of its own, and an expiry off the key. -/
def schema : String :=
  "type Shelf @compositeKey(pkFields: [\"id\"], skFields: [\"rank\"], skPrefix: \"R\")
    @secondaryIndex(name: \"byDay\", pkFields: [\"day\"], pkPrefix: \"D\") \x7b
    id: ID! rank: Int! day: String! until: DateTime @ttl \x7d"

def key : PrimaryKey :=
  .composite ⟨"id", ["id"], none, true⟩ ⟨"sk", ["rank"], some "R", false⟩

def indexes : List SecondaryIndex :=
  [.global "byDay" ⟨"byDaypk", ["day"], some "D", false⟩ none .all]

def fields : List Field :=
  [.scalar "id" "ID" true, .scalar "rank" "Int" true, .scalar "day" "String" true,
    { Field.scalar "until" "DateTime" false with isDateType := true }]

def shelf : RecordType :=
  ⟨⟨"Shelf", "Shelf", fields, key, indexes, some ⟨"until", "until", none⟩, false, false, false, []⟩,
    [], .empty, Code.functionPath?⟩

def blueprint : Blueprint :=
  ⟨[shelf.model], [⟨"Shelf", key, indexes, false, false, some "until", none⟩], []⟩

def record : Record :=
  ⟨[("day", .text "monday"), ("id", .text "7"), ("rank", .int 3), ("until", .timestamp .epoch)],
    .unwritten⟩

end ShelfExample

open ShelfExample in
theorem shelf_holds_key : Blueprint.ofSchema .default schema = .ok blueprint ∧
    shelf.model ∈ blueprint.models ∧ shelf.HoldsKey record := by
  have hschema : Blueprint.ofSchema .default schema = .ok blueprint := by decide +kernel
  have hmem : shelf.model ∈ blueprint.models := List.mem_singleton_self _
  refine ⟨hschema, hmem, (holdsKey_iff hschema hmem record).mpr ⟨?_, ?_, ?_⟩⟩
  · have hnames : ∀ part ∈ shelf.model.primaryKey.parts,
        ∀ part' ∈ shelf.model.indexes.flatMap (·.parts),
          part'.attributeName ≠ part.attributeName := by decide
    intro part hpart part' hpart' _ hsame
    exact absurd hsame (hnames part hpart part' hpart')
  · have hexpiry : ∀ f ∈ shelf.model.fields, shelf.model.IsKeyColumn f →
        shelf.model.isExpiry f = false := by decide
    intro f hf hkey hexpires
    rw [hexpiry f hf hkey] at hexpires
    cases hexpires
  · have hplain : ∀ f ∈ shelf.model.fields, f.computed = none := by decide
    intro f hf _ c hc
    rw [hplain f hf] at hc
    cases hc

namespace LeaseExample

def schema : String :=
  "type Lease @partitionKey(pkFields: [\"until\"]) \x7b until: DateTime! @ttl \x7d"

def key : PrimaryKey := .simple ⟨"until", ["until"], none, true⟩

def lease : RecordType :=
  ⟨⟨"Lease", "Lease", [{ Field.scalar "until" "DateTime" true with isDateType := true }], key, [],
    some ⟨"until", "until", none⟩, false, false, false, []⟩, [], .empty, Code.functionPath?⟩

def blueprint : Blueprint :=
  ⟨[lease.model], [⟨"Lease", key, [], false, false, some "until", none⟩], []⟩

def record : Record := ⟨[("until", .timestamp .epoch)], .unwritten⟩

end LeaseExample

open LeaseExample in
/-- A key field that expires the items is stored in epoch seconds, the key in words. -/
theorem expiring_key_is_rewritten : Blueprint.ofSchema .default schema = .ok blueprint ∧
    lease.model ∈ blueprint.models ∧
    Dict.get? (lease.key record) "until" = some (.text "1970-01-01T00:00:00.000Z") ∧
    Dict.get? (lease.marshal record) "until" = some (.number "0") ∧ ¬ lease.HoldsKey record := by
  have hkey : Dict.get? (lease.key record) "until" = some (.text "1970-01-01T00:00:00.000Z") := by
    decide +kernel
  have hitem : Dict.get? (lease.marshal record) "until" = some (.number "0") := by decide +kernel
  refine ⟨by decide +kernel, List.mem_singleton_self _, hkey, hitem, fun hholds => ?_⟩
  have hsame := hholds "until" _ hkey
  rw [hitem] at hsame
  cases hsame

end RecordType

end Keyspace
