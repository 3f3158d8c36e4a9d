import Keyspace.Proofs.Dict
import Keyspace.Proofs.Number.IntegerText
import Keyspace.Record.Marshal

/-!
# What every stored image carries

An image is built from the key of its record by insertions alone, so it keeps the key's
attributes, and the version written last is the version read back. The key itself depends on
the values of the key fields only.
-/
namespace Keyspace

namespace Item

theorem mem_keys_put {item : Item} {column other : String} {value : Option AttributeValue}
    (h : other ∈ Dict.keys item) : other ∈ Dict.keys (item.put column value) := by
  cases value with
  | none => exact h
  | some v => exact Dict.mem_keys_insert.mpr (Or.inr h)

theorem get?_put_ne {item : Item} {column other : String} {value : Option AttributeValue}
    (h : other ≠ column) : Dict.get? (item.put column value) other = Dict.get? item other := by
  cases value with
  | none => rfl
  | some v => exact Dict.get?_insert_ne item v h

theorem get?_put_self (item : Item) (column : String) (value : AttributeValue) :
    Dict.get? (item.put column (some value)) column = some value :=
  Dict.get?_insert_self _ _ _

end Item

namespace Record

theorem get?_set (r : Record) (field name : String) (value : Value) :
    (r.set field value).get? name = if name = field then some value else r.get? name :=
  Dict.get?_insert ..

theorem attribute?_set (r : Record) (field name : String) (value : Value) :
    (r.set field value).attribute? name =
      if name = field then some value.toAttribute else r.attribute? name := by
  rw [attribute?, get?_set]
  split <;> rfl

end Record

namespace Model

/-- A key has an attribute for each of its parts. -/
theorem mem_keys_keyOf {m : Model} {part : KeyPart} (h : part ∈ m.primaryKey.parts)
    (argument : String → AttributeValue) :
    part.attributeName ∈ Dict.keys (m.keyOf argument) := by
  have hfold : m.keyOf argument = (m.primaryKey.parts.map fun part =>
      (part.attributeName, keyAttribute part argument)).foldl
        (fun key entry => Dict.insert key entry.1 entry.2) Dict.empty := by
    rw [List.foldl_map]
    rfl
  rw [hfold, Dict.mem_keys_foldl_insert]
  refine Or.inl ?_
  simp only [List.map_map, List.mem_map]
  exact ⟨part, h, rfl⟩

theorem partitionKey_mem_parts (key : PrimaryKey) : key.partitionKey ∈ key.parts :=
  List.mem_cons_self ..

theorem keyAttribute_congr {part : KeyPart} {argument argument' : String → AttributeValue}
    (h : ∀ field ∈ part.fields, argument field = argument' field) :
    keyAttribute part argument = keyAttribute part argument' := by
  unfold keyAttribute
  split
  · next field rest _ hfields => exact h field (by rw [hfields]; exact List.mem_cons_self ..)
  · rw [List.map_congr_left h]

/-- Two arguments that make the same attribute of each part make the same key. -/
theorem keyOf_congr_parts {m : Model} {argument argument' : String → AttributeValue}
    (h : ∀ part ∈ m.primaryKey.parts, keyAttribute part argument = keyAttribute part argument') :
    m.keyOf argument = m.keyOf argument' := by
  unfold keyOf
  refine List.foldl_ext _ _ _ fun key part hpart => ?_
  rw [h part hpart]

/-- Two arguments that agree on the key fields make the same key. -/
theorem keyOf_congr {m : Model} {argument argument' : String → AttributeValue}
    (h : ∀ part ∈ m.primaryKey.parts, ∀ field ∈ part.fields, argument field = argument' field) :
    m.keyOf argument = m.keyOf argument' :=
  keyOf_congr_parts fun part hpart => keyAttribute_congr (h part hpart)

end Model

namespace RecordType

variable (t : RecordType)

theorem key_congr {r r' : Record}
    (h : ∀ part ∈ t.model.primaryKey.parts, ∀ field ∈ part.fields, r.get? field = r'.get? field) :
    t.key r = t.key r' := by
  refine Model.keyOf_congr fun part hpart field hfield => ?_
  rw [Record.attribute?, Record.attribute?, h part hpart field hfield]

/-- No step of writing loses an attribute. -/
theorem mem_keys_write {r : Record} {item : Item} {step : WriteStep} {column : String}
    (h : column ∈ Dict.keys item) : column ∈ Dict.keys (t.write r item step) := by
  cases step with
  | index _ _ _ => exact Item.mem_keys_put h
  | computed _ _ => exact Item.mem_keys_put h
  | plain _ _ => exact Item.mem_keys_put h
  | expiry target field _ =>
    simp only [write]
    split
    · exact Item.mem_keys_put h
    · exact h

theorem mem_keys_marshal {r : Record} {column : String} (h : column ∈ Dict.keys (t.key r)) :
    column ∈ Dict.keys (t.marshal r) := by
  unfold marshal
  generalize t.key r = item at h
  induction t.model.writeSteps t.paths generalizing item with
  | nil => exact h
  | cons step rest ih => exact ih _ (t.mem_keys_write h)

theorem mem_keys_toItem {r : Record} {column : String} (h : column ∈ Dict.keys (t.key r)) :
    column ∈ Dict.keys (t.toItem r) := by
  unfold toItem Revision.writeTo
  refine Dict.mem_keys_insert.mpr (Or.inr ?_)
  exact Item.mem_keys_put (Item.mem_keys_put (Item.mem_keys_put (t.mem_keys_marshal h)))

/-- Apart from what the store writes itself, an image is what was marshalled. -/
theorem get?_toItem (r : Record) {column : String}
    (h : column ∉ [entityTypeAttribute, versionAttribute, createdAtAttribute, updatedAtAttribute]) :
    Dict.get? (t.toItem r) column = Dict.get? (t.marshal r) column := by
  simp only [List.mem_cons, List.not_mem_nil, or_false, not_or] at h
  obtain ⟨htype, hversion, hcreated, hupdated⟩ := h
  unfold toItem Revision.writeTo
  rw [Dict.get?_insert_ne _ _ htype, Item.get?_put_ne hupdated, Item.get?_put_ne hcreated,
    Item.get?_put_ne hversion]

/-- Every image has the attribute that keys are partitioned by. -/
theorem toItem_contains_partition (r : Record) :
    Dict.contains (t.toItem r) t.model.primaryKey.partitionKey.attributeName = true := by
  have hkey := Model.mem_keys_keyOf (Model.partitionKey_mem_parts t.model.primaryKey)
    fun field => keyComponent (r.attribute? field)
  exact Dict.mem_keys_iff.mp (t.mem_keys_toItem hkey)

theorem get?_toItem_version (r : Record) :
    Dict.get? (t.toItem r) versionAttribute = some (.number (toString r.revision.version)) := by
  unfold toItem Revision.writeTo
  rw [Dict.get?_insert_ne _ _ (by decide), Item.get?_put_ne (by decide),
    Item.get?_put_ne (by decide)]
  exact Dict.get?_insert_self _ _ _

/-- The version in an image is its record's, as far as 64 bits hold it. -/
theorem storedVersion?_toItem (r : Record) (h : fitsInt64 r.revision.version = true) :
    Condition.storedVersion? (some (t.toItem r)) = some r.revision.version := by
  unfold Condition.storedVersion?
  show ((t.toItem r).get? versionAttribute).bind
    (fun value => value.asNumber?.bind readInt64?) = _
  rw [get?_toItem_version]
  show readInt64? (toString r.revision.version) = _
  rw [readInt64?_toString, if_pos h]

end RecordType

end Keyspace
