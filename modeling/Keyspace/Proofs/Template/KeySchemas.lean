import Keyspace.Proofs.Blueprint.Merging
import Keyspace.Proofs.Record.Writing
import Keyspace.Template.Tables

/-!
# Key schemas and the keys of records

The properties of a table resource define attributes and say in key schemas which of them
make up the keys of the table and of its indexes. In an accepted schema the attributes are
defined once each and are exactly those of the key schemas, and the key schemas are those of
the keys and the indexes of every model on the table.
-/
namespace Keyspace

namespace Json

/-- The elements of a member that is a list; any other member has none. -/
def elementsAt (value : Json) (key : String) : List Json :=
  ((value.get? key).bind asArray?).getD []

/-- The text of a member. -/
def textAt? (value : Json) (key : String) : Option String := (value.get? key).bind asString?

/-- The attributes that the entries of a member name. -/
def attributesAt (value : Json) (key : String) : List String :=
  (value.elementsAt key).filterMap (·.textAt? "AttributeName")

/-- The attributes that a key schema gives a role. -/
def attributesInRole (value : Json) (role : String) : List String :=
  ((value.elementsAt "KeySchema").filter (·.textAt? "KeyType" = some role)).filterMap
    (·.textAt? "AttributeName")

theorem get?_object (members : List (String × Json)) (key : String) :
    (object members).get? key = (members.filter (·.1 = key)).getLast?.map (·.2) :=
  Dict.get?_ofList members key

end Json

namespace Template

/-! ## Reading the properties of a table -/

@[simp] theorem textAt?_keyElement (part : KeyPart) (role : String) :
    (keyElement part role).textAt? "AttributeName" = some part.attributeName ∧
      (keyElement part role).textAt? "KeyType" = some role := by
  simp [Json.textAt?, keyElement, Json.get?_object, Json.asString?]

theorem attributesAt_of_get? {value : Json} {key : String} {p : KeyPart} {s : Option KeyPart}
    (h : value.get? key = some (keySchema p s)) :
    value.attributesAt key = p.attributeName :: (s.map (·.attributeName)).toList := by
  unfold Json.attributesAt Json.elementsAt
  rw [h]
  cases s <;> simp [keySchema, Json.asArray?]

theorem attributesInRole_of_get? {value : Json} {p : KeyPart} {s : Option KeyPart}
    (h : value.get? "KeySchema" = some (keySchema p s)) :
    value.attributesInRole "HASH" = [p.attributeName] := by
  unfold Json.attributesInRole Json.elementsAt
  rw [h]
  cases s <;> simp [keySchema, Json.asArray?]

theorem filter_listUnlessEmpty (name key : String) (elements : List Json) :
    (listUnlessEmpty name elements).filter (·.1 = key) =
      if name = key then listUnlessEmpty name elements else [] := by
  unfold listUnlessEmpty
  cases elements.isEmpty <;> by_cases h : name = key <;> simp [h]

theorem getLast?_listUnlessEmpty (name : String) (elements : List Json) :
    (((listUnlessEmpty name elements).getLast?.map (·.2)).bind Json.asArray?).getD [] =
      elements := by
  unfold listUnlessEmpty
  cases elements <;> rfl

/-- The members of a table's properties that say something about keys. -/
theorem properties_tableResource (b : Blueprint) (t : Table) :
    (tableResource b t).properties.get? "AttributeDefinitions" = some (attributeDefinitions b t) ∧
    (tableResource b t).properties.get? "KeySchema" =
      some (keySchema t.primaryKey.partitionKey t.primaryKey.sortKey?) ∧
    (tableResource b t).properties.elementsAt "GlobalSecondaryIndexes" =
      t.indexes.filterMap globalIndexJson? ∧
    (tableResource b t).properties.elementsAt "LocalSecondaryIndexes" =
      t.indexes.filterMap (localIndexJson? t) := by
  unfold Json.elementsAt tableResource
  simp only [Json.get?_object, List.filter_append, filter_listUnlessEmpty]
  cases t.isStreaming <;> cases t.ttlAttribute <;> simp [getLast?_listUnlessEmpty]

/-! ## The indexes of a table -/

/-- The member of a table's properties that lists indexes of this kind. -/
def indexSection (index : SecondaryIndex) : String :=
  if index.isLocal then "LocalSecondaryIndexes" else "GlobalSecondaryIndexes"

/-- The entries of all indexes. -/
def indexEntries (properties : Json) : List Json :=
  properties.elementsAt "GlobalSecondaryIndexes" ++ properties.elementsAt "LocalSecondaryIndexes"

/-- The key schema of an index beside a primary key. -/
def indexKeySchema (key : PrimaryKey) : SecondaryIndex → Json
  | .global _ partitionKey sortKey _ => keySchema partitionKey sortKey
  | .local _ sortKey _ => keySchema key.partitionKey (some sortKey)

/-- The entry has the name and the key schema of the index. -/
def Describes (key : PrimaryKey) (entry : Json) (index : SecondaryIndex) : Prop :=
  entry.textAt? "IndexName" = some index.name ∧
    entry.get? "KeySchema" = some (indexKeySchema key index)

theorem describes_globalIndexJson? {key : PrimaryKey} {index : SecondaryIndex} {entry : Json}
    (h : globalIndexJson? index = some entry) :
    Describes key entry index ∧ index.isLocal = false := by
  cases index with
  | «local» name sortKey projection => cases h
  | «global» name partitionKey sortKey projection =>
    cases h
    simp [Describes, Json.textAt?, Json.get?_object, Json.asString?, SecondaryIndex.name,
      indexKeySchema, SecondaryIndex.isLocal]

theorem describes_localIndexJson? {t : Table} {index : SecondaryIndex} {entry : Json}
    (h : localIndexJson? t index = some entry) :
    Describes t.primaryKey entry index ∧ index.isLocal = true := by
  cases index with
  | «global» name partitionKey sortKey projection => cases h
  | «local» name sortKey projection =>
    cases h
    simp [Describes, Json.textAt?, Json.get?_object, Json.asString?, SecondaryIndex.name,
      indexKeySchema, SecondaryIndex.isLocal]

/-- Every index of a table has an entry among those of its kind. -/
theorem exists_indexEntry {b : Blueprint} {t : Table} {index : SecondaryIndex}
    (h : index ∈ t.indexes) :
    ∃ entry ∈ (tableResource b t).properties.elementsAt (indexSection index),
      Describes t.primaryKey entry index := by
  obtain ⟨-, -, hglobal, hlocal⟩ := properties_tableResource b t
  cases index with
  | «global» name partitionKey sortKey projection =>
    refine ⟨_, ?_, (describes_globalIndexJson? rfl).1⟩
    exact hglobal ▸ List.mem_filterMap.mpr ⟨_, h, rfl⟩
  | «local» name sortKey projection =>
    refine ⟨_, ?_, (describes_localIndexJson? rfl).1⟩
    exact hlocal ▸ List.mem_filterMap.mpr ⟨_, h, rfl⟩

/-- Every entry is that of an index of the table. -/
theorem exists_index {b : Blueprint} {t : Table} {entry : Json}
    (h : entry ∈ indexEntries (tableResource b t).properties) :
    ∃ index ∈ t.indexes, Describes t.primaryKey entry index := by
  obtain ⟨-, -, hglobal, hlocal⟩ := properties_tableResource b t
  rw [indexEntries, hglobal, hlocal] at h
  rcases List.mem_append.mp h with h | h
  · obtain ⟨index, hindex, hentry⟩ := List.mem_filterMap.mp h
    exact ⟨index, hindex, (describes_globalIndexJson? hentry).1⟩
  · obtain ⟨index, hindex, hentry⟩ := List.mem_filterMap.mp h
    exact ⟨index, hindex, (describes_localIndexJson? hentry).1⟩

theorem mem_indexEntries {properties entry : Json} {index : SecondaryIndex}
    (h : entry ∈ properties.elementsAt (indexSection index)) : entry ∈ indexEntries properties := by
  unfold indexSection at h
  split at h
  · exact List.mem_append_right _ h
  · exact List.mem_append_left _ h

/-- The attributes of an index's key schema: those of its own parts, and of a local index also
the partition key. -/
theorem mem_attributesAt_of_describes {key : PrimaryKey} {entry : Json} {index : SecondaryIndex}
    (h : Describes key entry index) {name : String} :
    name ∈ entry.attributesAt "KeySchema" ↔ name ∈ index.parts.map (·.attributeName) ∨
      index.isLocal = true ∧ name = key.partitionKey.attributeName := by
  obtain ⟨-, hschema⟩ := h
  cases index with
  | «global» _ partitionKey sortKey _ =>
    rw [attributesAt_of_get? hschema]
    cases sortKey <;> simp [SecondaryIndex.parts, SecondaryIndex.isLocal]
  | «local» _ sortKey _ =>
    rw [attributesAt_of_get? hschema]
    simp [SecondaryIndex.parts, SecondaryIndex.isLocal, or_comm]

/-- Indexes of one shape have one key schema beside keys of one shape. -/
theorem indexKeySchema_eq {key key' : PrimaryKey} {index index' : SecondaryIndex}
    (hkey : Blueprint.keyShape key = Blueprint.keyShape key')
    (hindex : Blueprint.indexShape index = Blueprint.indexShape index') :
    indexKeySchema key index = indexKeySchema key' index' := by
  have hpartition := Blueprint.partitionKey_of_keyShape hkey
  unfold Blueprint.indexShape at hindex
  rw [Prod.mk.injEq, Prod.mk.injEq] at hindex
  obtain ⟨hkind, hparts, -⟩ := hindex
  cases index with
  | «local» _ sortKey _ =>
    cases index' with
    | «global» _ _ _ _ => cases hkind
    | «local» _ sortKey' _ =>
      have hsort : sortKey.attributeName = sortKey'.attributeName := by
        simpa [SecondaryIndex.parts] using hparts
      simp [indexKeySchema, keySchema, keyElement, hpartition, hsort]
  | «global» _ partitionKey sortKey _ =>
    cases index' with
    | «local» _ _ _ => cases hkind
    | «global» _ partitionKey' sortKey' _ =>
      simp only [SecondaryIndex.parts, List.map_cons, List.cons.injEq] at hparts
      obtain ⟨hfirst, hrest⟩ := hparts
      cases sortKey <;> cases sortKey' <;>
        simp_all [indexKeySchema, keySchema, keyElement]

/-! ## The attributes defined -/

/-- Of several declarations of a name the first decides. -/
theorem get?_foldl_insert_new {uses : List (String × String)} {types : Dict String}
    {name : String} :
    Dict.get? (uses.foldl (fun types (name, type) =>
      if Dict.contains types name then types else Dict.insert types name type) types) name =
      (Dict.get? types name).or ((uses.find? (·.1 = name)).map (·.2)) := by
  induction uses generalizing types with
  | nil => simp
  | cons use uses ih =>
    obtain ⟨used, type⟩ := use
    rw [List.foldl_cons, ih]
    by_cases hname : used = name
    · subst hname
      cases hknown : Dict.get? types used <;> simp [Dict.contains, hknown]
    · have hother : Dict.get? (if Dict.contains types used then types
          else Dict.insert types used type) name = Dict.get? types name := by
        split
        · rfl
        · exact Dict.get?_insert_ne _ _ (Ne.symm hname)
      simp [hother, hname]

theorem ordered_keyAttributeTypes (b : Blueprint) (t : Table) :
    Dict.Ordered (keyAttributeTypes b t) := by
  unfold keyAttributeTypes
  refine List.foldlRecOn (motive := Dict.Ordered) _ _ Dict.ordered_nil ?_
  intro types htypes use _
  dsimp only
  split
  · exact htypes
  · exact htypes.insert _ _

/-- The type of an attribute is the one its first use asks for. -/
theorem get?_keyAttributeTypes {b : Blueprint} {t : Table} {name : String} :
    Dict.get? (keyAttributeTypes b t) name =
      (((b.modelsOn t).flatMap fun m => m.keyParts.map fun part =>
        (part.attributeName, keyAttributeType m part)).find? (·.1 = name)).map (·.2) := by
  unfold keyAttributeTypes
  rw [get?_foldl_insert_new, Dict.get?_nil, Option.none_or]
  rfl

theorem mem_keys_keyAttributeTypes {b : Blueprint} {t : Table} {name : String} :
    name ∈ Dict.keys (keyAttributeTypes b t) ↔
      ∃ m ∈ b.modelsOn t, ∃ part ∈ m.keyParts, part.attributeName = name := by
  rw [Dict.mem_keys_iff, get?_keyAttributeTypes, Option.isSome_map, List.find?_isSome]
  simp only [List.mem_flatMap, List.mem_map]
  constructor
  · rintro ⟨_, ⟨m, hm, part, hpart, rfl⟩, hname⟩
    exact ⟨m, hm, part, hpart, by simpa using hname⟩
  · rintro ⟨m, hm, part, hpart, rfl⟩
    exact ⟨_, ⟨m, hm, part, hpart, rfl⟩, by simp⟩

theorem attributesAt_attributeDefinitions (b : Blueprint) (t : Table) :
    (tableResource b t).properties.attributesAt "AttributeDefinitions" =
      Dict.keys (keyAttributeTypes b t) := by
  have hdefinitions := (properties_tableResource b t).1
  unfold Json.attributesAt Json.elementsAt
  rw [hdefinitions]
  simp only [attributeDefinitions, Option.bind_some, Json.asArray?, Option.getD_some,
    List.filterMap_map, Dict.keys]
  rw [← List.filterMap_eq_map]
  congr 1
  funext entry
  simp [Json.textAt?, Json.get?_object, Json.asString?]

/-! ## Both together -/

/-- The resource of a table and the models on it agree on keys. -/
structure KeysAgree (b : Blueprint) (t : Table) : Prop where
  definedOnce : ((tableResource b t).properties.attributesAt "AttributeDefinitions").Nodup
  defined_iff : ∀ name,
    name ∈ (tableResource b t).properties.attributesAt "AttributeDefinitions" ↔
      name ∈ (tableResource b t).properties.attributesAt "KeySchema" ∨
        ∃ entry ∈ indexEntries (tableResource b t).properties,
          name ∈ entry.attributesAt "KeySchema"
  keySet : ∀ m ∈ b.modelsOn t, ∀ argument name, name ∈ Dict.keys (m.keyOf argument) ↔
    name ∈ (tableResource b t).properties.attributesAt "KeySchema"
  hash : ∀ m ∈ b.modelsOn t, (tableResource b t).properties.attributesInRole "HASH" =
    [m.primaryKey.partitionKey.attributeName]
  index : ∀ m ∈ b.modelsOn t, ∀ index ∈ m.indexes,
    ∃ entry ∈ (tableResource b t).properties.elementsAt (indexSection index),
      Describes m.primaryKey entry index

/-- The attributes of a table's key schema are those of its primary key. -/
theorem attributesAt_keySchema (b : Blueprint) (t : Table) :
    (tableResource b t).properties.attributesAt "KeySchema" = Blueprint.keyShape t.primaryKey := by
  obtain ⟨-, hschema, -, -⟩ := properties_tableResource b t
  rw [attributesAt_of_get? hschema]
  unfold Blueprint.keyShape PrimaryKey.parts
  cases t.primaryKey.sortKey? <;> rfl

theorem indexSection_of_indexShape {index index' : SecondaryIndex}
    (h : Blueprint.indexShape index = Blueprint.indexShape index') :
    indexSection index = indexSection index' := by
  unfold indexSection
  rw [show index.isLocal = index'.isLocal from congrArg Prod.fst h]

section

variable {b : Blueprint} {t : Table} (hmerge : b.IsMergeOf t)
include hmerge

/-- An attribute of a model's key or index stands in a key schema of the table. -/
theorem mem_keySchema_of_keyParts {m : Model} (hm : m ∈ b.modelsOn t) {part : KeyPart}
    (hpart : part ∈ m.keyParts) :
    part.attributeName ∈ Blueprint.keyShape t.primaryKey ∨
      ∃ entry ∈ indexEntries (tableResource b t).properties,
        part.attributeName ∈ entry.attributesAt "KeySchema" := by
  rcases List.mem_append.mp hpart with hprimary | hindexed
  · rw [← hmerge.keyShape_eq hm]
    exact Or.inl (List.mem_map_of_mem hprimary)
  · obtain ⟨index, hindex, hpart⟩ := List.mem_flatMap.mp hindexed
    obtain ⟨known, hknown, -, hshape⟩ := hmerge.covers hm hindex
    obtain ⟨entry, hentry, hdescribes⟩ := exists_indexEntry (b := b) hknown
    refine Or.inr ⟨entry, mem_indexEntries hentry, ?_⟩
    rw [mem_attributesAt_of_describes hdescribes]
    have hparts : known.parts.map (·.attributeName) = index.parts.map (·.attributeName) :=
      congrArg (fun shape => shape.2.1) hshape
    rw [hparts]
    exact Or.inl (List.mem_map_of_mem hpart)

/-- Every index of a model has an entry among those of its kind. -/
theorem exists_entry_of_model {m : Model} (hm : m ∈ b.modelsOn t) {index : SecondaryIndex}
    (hindex : index ∈ m.indexes) :
    ∃ entry ∈ (tableResource b t).properties.elementsAt (indexSection index),
      Describes m.primaryKey entry index := by
  obtain ⟨known, hknown, hname, hshape⟩ := hmerge.covers hm hindex
  obtain ⟨entry, hentry, hentryName, hschema⟩ := exists_indexEntry (b := b) hknown
  rw [indexSection_of_indexShape hshape] at hentry
  rw [indexKeySchema_eq (hmerge.keyShape_eq hm).symm hshape] at hschema
  exact ⟨entry, hentry, hentryName.trans (congrArg some hname), hschema⟩

/-- Every entry describes an index of a model, beside the key of the model. -/
theorem exists_model_of_entry {entry : Json}
    (hentry : entry ∈ indexEntries (tableResource b t).properties) :
    ∃ m ∈ b.modelsOn t, ∃ index ∈ m.indexes, Describes m.primaryKey entry index := by
  obtain ⟨index, hindex, hname, hschema⟩ := exists_index hentry
  obtain ⟨m, hm, hown⟩ := hmerge.exists_model hindex
  rw [indexKeySchema_eq (hmerge.keyShape_eq hm).symm rfl] at hschema
  exact ⟨m, hm, index, hown, hname, hschema⟩

/-- An attribute of a key schema of the table is one of a model's key or index. -/
theorem exists_keyPart_of_keySchema {name : String}
    (h : name ∈ Blueprint.keyShape t.primaryKey ∨
      ∃ entry ∈ indexEntries (tableResource b t).properties,
        name ∈ entry.attributesAt "KeySchema") :
    ∃ m ∈ b.modelsOn t, ∃ part ∈ m.keyParts, part.attributeName = name := by
  have hprimary (hname : name ∈ Blueprint.keyShape t.primaryKey) :
      ∃ m ∈ b.modelsOn t, ∃ part ∈ m.keyParts, part.attributeName = name := by
    obtain ⟨first, hfirst, hkey, -⟩ := hmerge
    rw [hkey] at hname
    obtain ⟨part, hpart, rfl⟩ := List.mem_map.mp hname
    exact ⟨first, hfirst, part, List.mem_append_left _ hpart, rfl⟩
  rcases h with hname | ⟨entry, hentry, hname⟩
  · exact hprimary hname
  · obtain ⟨index, hindex, hdescribes⟩ := exists_index hentry
    rcases (mem_attributesAt_of_describes hdescribes).mp hname with hparts | ⟨-, rfl⟩
    · obtain ⟨m, hm, hown⟩ := hmerge.exists_model hindex
      obtain ⟨part, hpart, rfl⟩ := List.mem_map.mp hparts
      exact ⟨m, hm, part, List.mem_append_right _ (List.mem_flatMap.mpr ⟨index, hown, hpart⟩), rfl⟩
    · exact hprimary (List.mem_map_of_mem (List.mem_cons_self ..))

end

/-- In an accepted schema, table resources and models agree on keys. -/
theorem keys_agree {config : Config} {text : String} {b : Blueprint}
    (hb : Blueprint.ofSchema config text = .ok b) {t : Table} (ht : t ∈ b.tables) :
    KeysAgree b t := by
  have hmerge := Blueprint.ofSchema_isMergeOf hb ht
  constructor
  case definedOnce =>
    rw [attributesAt_attributeDefinitions]
    exact (ordered_keyAttributeTypes b t).keys_nodup
  case defined_iff =>
    intro name
    rw [attributesAt_attributeDefinitions, mem_keys_keyAttributeTypes, attributesAt_keySchema]
    constructor
    · rintro ⟨m, hm, part, hpart, rfl⟩
      exact mem_keySchema_of_keyParts hmerge hm hpart
    · exact exists_keyPart_of_keySchema hmerge
  case keySet =>
    intro m hm argument name
    rw [attributesAt_keySchema, ← hmerge.keyShape_eq hm, Model.mem_keys_keyOf_iff]
    exact List.mem_map.symm
  case hash =>
    intro m hm
    obtain ⟨-, hschema, -, -⟩ := properties_tableResource b t
    rw [attributesInRole_of_get? hschema,
      Blueprint.partitionKey_of_keyShape (hmerge.keyShape_eq hm)]
  case index =>
    intro m hm index hindex
    exact exists_entry_of_model hmerge hm hindex

namespace BookExample

/-- Two models on one table, of which one declares an index. -/
def schema : String :=
  "type Bill @table(name: \"Book\") @compositeKey(pkFields: [\"id\"], skFields: [\"page\"])
    @secondaryIndex(name: \"byDay\", type: LSI, skFields: [\"due\"]) \x7b
    id: ID! page: Int! due: Date! \x7d
  type Note @table(name: \"Book\") @compositeKey(pkFields: [\"id\"], skFields: [\"page\"]) \x7b
    id: ID! page: Int! \x7d"

def key : PrimaryKey := .composite ⟨"id", ["id"], none, true⟩ ⟨"page", ["page"], none, true⟩

def byDay : SecondaryIndex := .local "byDay" ⟨"due", ["due"], none, true⟩ .all

def keyFields : List Field := [.scalar "id" "ID" true, .scalar "page" "Int" true]

def due : Field := { Field.scalar "due" "Date" true with isDateType := true }

def bill : Model :=
  ⟨"Bill", "Book", keyFields ++ [due], key, [byDay], none, false, false, false, []⟩

def note : Model := ⟨"Note", "Book", keyFields, key, [], none, false, false, false, []⟩

def book : Table := ⟨"Book", key, [byDay], false, false, none, none⟩

def blueprint : Blueprint := ⟨[bill, note], [book], []⟩

theorem ofSchema_schema : Blueprint.ofSchema .default schema = .ok blueprint := by decide +kernel

end BookExample

open BookExample in
theorem book_keys_agree : Blueprint.ofSchema .default schema = .ok blueprint ∧
    book ∈ blueprint.tables ∧ KeysAgree blueprint book :=
  ⟨ofSchema_schema, List.mem_singleton_self _,
    keys_agree ofSchema_schema (List.mem_singleton_self _)⟩

end Template

end Keyspace
