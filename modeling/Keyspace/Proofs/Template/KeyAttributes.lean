import Keyspace.Proofs.Blueprint.KeyParts
import Keyspace.Proofs.Template.KeySchemas

/-!
# Keys of two attributes

A key schema with a partition key and a sort key should name two attributes, and a composite key
should have two. The attributes of an accepted model lie apart: one that is made for a part is no
column, and its name ends in the role of the part. So two parts that stand together share an
attribute if both are one and the same field, and only then; and nothing refuses that.
-/
namespace Keyspace

open Result

/-- Both parts are the same field by itself. -/
structure KeyPart.SameField (part part' : KeyPart) : Prop where
  single : part.isSingleField = true
  single' : part'.isSingleField = true
  fields_eq : part.fields = part'.fields

instance (part part' : KeyPart) : Decidable (part.SameField part') :=
  decidable_of_iff (part.isSingleField = true ∧ part'.isSingleField = true ∧
      part.fields = part'.fields)
    ⟨fun ⟨hsingle, hsingle', hfields⟩ => ⟨hsingle, hsingle', hfields⟩,
      fun ⟨hsingle, hsingle', hfields⟩ => ⟨hsingle, hsingle', hfields⟩⟩

/-! ## Parts that stand together -/

/-- The partition key with the sort key beside it. -/
def PrimaryKey.pairs (key : PrimaryKey) : List (KeyPart × KeyPart) :=
  key.sortKey?.toList.map (key.partitionKey, ·)

/-- A local index has its sort key beside the partition key of the table. -/
def SecondaryIndex.pairs (key : PrimaryKey) : SecondaryIndex → List (KeyPart × KeyPart)
  | .global _ partitionKey sortKey _ => sortKey.toList.map (partitionKey, ·)
  | .local _ sortKey _ => [(key.partitionKey, sortKey)]

namespace Model

variable {m : Model}

/-- The parts that stand together in the primary key or in an index. -/
def keyPairs (m : Model) : List (KeyPart × KeyPart) :=
  m.primaryKey.pairs ++ m.indexes.flatMap (·.pairs m.primaryKey)

/-- The attributes made for parts that stand together have different names. -/
theorem names_of_keyPairs {pair : KeyPart × KeyPart} (h : pair ∈ m.keyPairs) :
    ∃ name name', name ≠ name' ∧ (name, pair.1) ∈ m.namedParts ∧
      (name', pair.2) ∈ m.namedParts := by
  have hpartition : ("pk", m.primaryKey.partitionKey) ∈ m.namedParts :=
    List.mem_append_left _ List.mem_cons_self
  have hroles (name name' : String) : name ++ "pk" ≠ name' ++ "sk" := fun hsame =>
    absurd (Blueprint.indexAttribute_inj (by decide) (by decide) hsame).2 (by decide)
  have hindexed {index : SecondaryIndex} (hindex : index ∈ m.indexes) {entry : String × KeyPart}
      (hentry : entry ∈ index.namedParts) : entry ∈ m.namedParts :=
    List.mem_append_right _ (List.mem_flatMap.mpr ⟨index, hindex, hentry⟩)
  rcases List.mem_append.mp h with hprimary | hsecondary
  · obtain ⟨sort, hsort, rfl⟩ := List.mem_map.mp hprimary
    exact ⟨"pk", "sk", by decide, hpartition, List.mem_append_left _
      (List.mem_cons_of_mem _ (List.mem_map_of_mem hsort))⟩
  · obtain ⟨index, hindex, hpair⟩ := List.mem_flatMap.mp hsecondary
    cases index with
    | «global» name partitionKey sortKey projection =>
      obtain ⟨sort, hsort, rfl⟩ := List.mem_map.mp hpair
      exact ⟨name ++ "pk", name ++ "sk", hroles name name, hindexed hindex List.mem_cons_self,
        hindexed hindex (List.mem_cons_of_mem _ (List.mem_map_of_mem hsort))⟩
    | «local» name sortKey projection =>
      obtain rfl := List.mem_singleton.mp hpair
      exact ⟨"pk", name ++ "sk", hroles "" name, hpartition,
        hindexed hindex (List.mem_singleton_self _)⟩

/-- Parts with different names share an attribute only as columns of one field. -/
theorem ColumnsApart.attributeName_eq_iff (hapart : m.ColumnsApart) {part part' : KeyPart}
    {name name' : String} (hne : name ≠ name') (h : part.IsMarked m name)
    (h' : part'.IsMarked m name') :
    part.attributeName = part'.attributeName ↔ part.SameField part' := by
  constructor
  · intro hsame
    cases hsingle : part.isSingleField with
    | false =>
      obtain ⟨hname, hfree⟩ := h.joined hsingle
      cases hsingle' : part'.isSingleField with
      | false =>
        obtain ⟨hname', -⟩ := h'.joined hsingle'
        exact absurd (hname.symm.trans (hsame.trans hname')) hne
      | true =>
        obtain ⟨f, -, hf, -, hcolumn⟩ := h'.single hsingle'
        refine absurd f.column_mem_columns ?_
        rw [← hcolumn, ← hsame, hname]
        exact hfree f (List.mem_of_find?_eq_some hf)
    | true =>
      obtain ⟨f, hfields, hf, -, hcolumn⟩ := h.single hsingle
      cases hsingle' : part'.isSingleField with
      | false =>
        obtain ⟨hname', hfree⟩ := h'.joined hsingle'
        refine absurd f.column_mem_columns ?_
        rw [← hcolumn, hsame, hname']
        exact hfree f (List.mem_of_find?_eq_some hf)
      | true =>
        obtain ⟨f', hfields', hf', -, hcolumn'⟩ := h'.single hsingle'
        have hfield : f = f' := hapart.eq_of_mem_columns (List.mem_of_find?_eq_some hf)
          (List.mem_of_find?_eq_some hf') f.column_mem_columns
          (by rw [← hcolumn, hsame, hcolumn']; exact f'.column_mem_columns)
        exact ⟨hsingle, hsingle', by rw [hfields, hfields', hfield]⟩
  · rintro ⟨hsingle, hsingle', hfields⟩
    obtain ⟨f, hown, hf, -, hcolumn⟩ := h.single hsingle
    obtain ⟨f', hown', hf', -, hcolumn'⟩ := h'.single hsingle'
    have hname : f.name = f'.name := by
      rw [hown, hown'] at hfields
      exact List.head_eq_of_cons_eq hfields
    rw [hname] at hf
    cases hf.symm.trans hf'
    rw [hcolumn, hcolumn']

end Model

/-! ## Key schemas -/

namespace Json

/-- No attribute is both a partition key and a sort key. -/
def RolesApart (value : Json) : Prop :=
  ∀ hash ∈ value.attributesInRole "HASH", ∀ range ∈ value.attributesInRole "RANGE", hash ≠ range

end Json

namespace Template

/-- So it is for a table with these properties, and for each of its indexes. -/
structure KeysApart (properties : Json) : Prop where
  table : properties.RolesApart
  indexes : ∀ entry ∈ indexEntries properties, entry.RolesApart

theorem sortAttributes_of_get? {value : Json} {p : KeyPart} {s : Option KeyPart}
    (h : value.get? "KeySchema" = some (keySchema p s)) :
    value.attributesInRole "RANGE" = (s.map (·.attributeName)).toList := by
  unfold Json.attributesInRole Json.elementsAt
  rw [h]
  cases s <;> simp [keySchema, Json.asArray?]

theorem rolesApart_iff {value : Json} {p : KeyPart} {s : Option KeyPart}
    (h : value.get? "KeySchema" = some (keySchema p s)) :
    value.RolesApart ↔
      ∀ pair ∈ s.toList.map (p, ·), pair.1.attributeName ≠ pair.2.attributeName := by
  unfold Json.RolesApart
  rw [attributesInRole_of_get? h, sortAttributes_of_get? h]
  cases s <;> simp

theorem rolesApart_iff_of_describes {key : PrimaryKey} {entry : Json} {index : SecondaryIndex}
    (h : Describes key entry index) :
    entry.RolesApart ↔ ∀ pair ∈ index.pairs key, pair.1.attributeName ≠ pair.2.attributeName := by
  obtain ⟨-, hschema⟩ := h
  cases index with
  | «global» name partitionKey sortKey projection => exact rolesApart_iff hschema
  | «local» name sortKey projection => exact rolesApart_iff hschema

/-- Keys of one shape have one key schema. -/
theorem keySchema_eq {key key' : PrimaryKey}
    (h : Blueprint.keyShape key = Blueprint.keyShape key') :
    keySchema key.partitionKey key.sortKey? = keySchema key'.partitionKey key'.sortKey? := by
  unfold Blueprint.keyShape PrimaryKey.parts at h
  rw [List.map_cons, List.map_cons, List.cons.injEq] at h
  obtain ⟨hpartition, hsort⟩ := h
  cases hkey : key.sortKey? <;> cases hkey' : key'.sortKey? <;>
    simp_all [keySchema, keyElement]

section

variable {b : Blueprint} {t : Table} (hmerge : b.IsMergeOf t)
include hmerge

/-- The key schemas of a table are those of its models. -/
theorem keysApart_iff_attributes : KeysApart (tableResource b t).properties ↔
    ∀ m ∈ b.modelsOn t, ∀ pair ∈ m.keyPairs, pair.1.attributeName ≠ pair.2.attributeName := by
  obtain ⟨-, hschema, -, -⟩ := properties_tableResource b t
  have htable {m : Model} (hm : m ∈ b.modelsOn t) : (tableResource b t).properties.RolesApart ↔
      ∀ pair ∈ m.primaryKey.pairs, pair.1.attributeName ≠ pair.2.attributeName := by
    rw [← keySchema_eq (hmerge.keyShape_eq hm)] at hschema
    exact rolesApart_iff hschema
  constructor
  · rintro ⟨hprimary, hindexes⟩ m hm pair hpair
    rcases List.mem_append.mp hpair with hpair | hpair
    · exact (htable hm).mp hprimary pair hpair
    · obtain ⟨index, hindex, hpair⟩ := List.mem_flatMap.mp hpair
      obtain ⟨entry, hentry, hdescribes⟩ := exists_entry_of_model hmerge hm hindex
      exact (rolesApart_iff_of_describes hdescribes).mp (hindexes entry (mem_indexEntries hentry))
        pair hpair
  · intro hpairs
    constructor
    case table =>
      obtain ⟨first, hfirst, -⟩ := hmerge
      exact (htable hfirst).mpr fun pair hpair =>
        hpairs first hfirst pair (List.mem_append_left _ hpair)
    case indexes =>
      intro entry hentry
      obtain ⟨m, hm, index, hindex, hdescribes⟩ := exists_model_of_entry hmerge hentry
      exact (rolesApart_iff_of_describes hdescribes).mpr fun pair hpair =>
        hpairs m hm pair (List.mem_append_right _ (List.mem_flatMap.mpr ⟨index, hindex, hpair⟩))

end

end Template

/-! ## Composite keys -/

/-- Of two entries under one key only the second is left. -/
theorem Dict.length_insert_insert {α : Type} {key key' : String} {value value' : α} :
    (Dict.insert (Dict.insert .empty key value) key' value').length = 2 ↔ key ≠ key' := by
  have hone : Dict.insert .empty key value = [(key, value)] := rfl
  rw [hone, Dict.insert]
  by_cases hlt : key' < key
  · simp [hlt, ne_of_gt hlt]
  · by_cases hsame : key' = key
    · simp [hsame]
    · simp [hlt, hsame, Dict.insert, Ne.symm hsame]

/-- A composite key has an attribute for each of its parts if these have different names. -/
theorem Model.length_keyOf {m : Model} {part part' : KeyPart}
    (h : m.primaryKey = .composite part part') (argument : String → AttributeValue) :
    (m.keyOf argument).length = 2 ↔ part.attributeName ≠ part'.attributeName := by
  unfold keyOf
  rw [h]
  exact Dict.length_insert_insert

/-- In an accepted schema the key schemas of a table name two attributes each unless the parts
beside each other in a key or index are one field, and so do the keys of records. -/
theorem Template.keys_apart_iff {config : Config} {text : String} {b : Blueprint}
    (hb : Blueprint.ofSchema config text = .ok b) :
    (∀ t ∈ b.tables, KeysApart (tableResource b t).properties ↔
      ∀ m ∈ b.modelsOn t, ∀ pair ∈ m.keyPairs, ¬pair.1.SameField pair.2) ∧
    ∀ m ∈ b.models, ∀ part part', m.primaryKey = .composite part part' →
      ∀ argument, (m.keyOf argument).length = 2 ↔ ¬part.SameField part' := by
  obtain ⟨document, -, hdocument⟩ := Blueprint.ofSchema_eq_ok hb
  have hsame {m : Model} (hm : m ∈ b.models) {pair : KeyPart × KeyPart}
      (hpair : pair ∈ m.keyPairs) :
      pair.1.attributeName = pair.2.attributeName ↔ pair.1.SameField pair.2 := by
    obtain ⟨type, directives, horigin⟩ := Blueprint.exists_origin hdocument hm
    obtain ⟨name, name', hne, hfirst, hsecond⟩ := Model.names_of_keyPairs hpair
    exact horigin.columnsApart.attributeName_eq_iff hne (horigin.namedPart_isMarked hfirst)
      (horigin.namedPart_isMarked hsecond)
  constructor
  · intro t ht
    rw [keysApart_iff_attributes (Blueprint.ofSchema_isMergeOf hb ht)]
    refine forall₂_congr fun m hm => forall₂_congr fun pair hpair => not_congr ?_
    exact hsame (List.mem_filter.mp hm).1 hpair
  · intro m hm part part' hkey argument
    rw [Model.length_keyOf hkey]
    have hpair : (part, part') ∈ m.keyPairs := by
      unfold Model.keyPairs
      rw [hkey]
      exact List.mem_append_left _ (List.mem_singleton_self _)
    exact not_congr (hsame hm hpair)

open Template.BookExample in
theorem Template.book_keys_apart :
    Blueprint.ofSchema .default schema = .ok blueprint ∧ book ∈ blueprint.tables ∧
    KeysApart (tableResource blueprint book).properties ∧
    ∀ argument, (bill.keyOf argument).length = 2 := by
  obtain ⟨htables, hkeys⟩ := keys_apart_iff ofSchema_schema
  have hbook : book ∈ blueprint.tables := List.mem_singleton_self _
  have hpairs : ∀ m ∈ blueprint.modelsOn book, ∀ pair ∈ m.keyPairs, ¬pair.1.SameField pair.2 := by
    decide
  exact ⟨ofSchema_schema, hbook, (htables book hbook).mpr hpairs, fun argument =>
    (hkeys bill List.mem_cons_self _ _ rfl argument).mpr (by decide)⟩

namespace LoopExample

/-- The partition key and the sort key are one field. -/
def schema : String :=
  "type Loop @compositeKey(pkFields: [\"id\"], skFields: [\"id\"]) \x7b id: ID! \x7d"

def key : PrimaryKey := .composite ⟨"id", ["id"], none, true⟩ ⟨"id", ["id"], none, true⟩

def loop : Model :=
  ⟨"Loop", "Loop", [.scalar "id" "ID" true], key, [], none, false, false, false, []⟩

def table : Table := ⟨"Loop", key, [], false, false, none, none⟩

def blueprint : Blueprint := ⟨[loop], [table], []⟩

end LoopExample

open LoopExample in
/-- The schema is accepted. Its table has one attribute in both roles, and so have its keys. -/
theorem Template.one_field_in_both_roles :
    Blueprint.ofSchema .default schema = .ok blueprint ∧ table ∈ blueprint.tables ∧
    (tableResource blueprint table).properties.attributesInRole "HASH" = ["id"] ∧
    (tableResource blueprint table).properties.attributesInRole "RANGE" = ["id"] ∧
    ¬KeysApart (tableResource blueprint table).properties ∧
    loop ∈ blueprint.models ∧ loop.primaryKey.isComposite = true ∧
    ∀ argument, Dict.keys (loop.keyOf argument) = ["id"] := by
  obtain ⟨-, hschema, -, -⟩ := properties_tableResource blueprint table
  have hhash := attributesInRole_of_get? hschema
  have hrange := sortAttributes_of_get? hschema
  refine ⟨by decide +kernel, List.mem_singleton_self _, hhash, hrange, fun hapart => ?_,
    List.mem_singleton_self _, rfl, fun argument => rfl⟩
  refine hapart.table "id" ?_ "id" ?_ rfl
  · rw [hhash]
    exact List.mem_singleton_self _
  · rw [hrange]
    exact List.mem_singleton_self _

end Keyspace
