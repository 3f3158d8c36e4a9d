import Keyspace.Proofs.Blueprint.Origins

/-!
# The columns of an accepted model

No two fields of a model share a column, old names included, and no column is an attribute
that the store writes itself or that a key builds from several fields. Such an attribute is
named for its role in the primary key, or for its index and its role there, so no two key
parts share one either, unless they are the same part.
-/
namespace Keyspace

namespace Field

/-- Every column a field is persisted under, the current one first. -/
def columns (f : Field) : List String := f.column :: f.legacyColumns

theorem column_mem_columns (f : Field) : f.column ∈ f.columns := List.mem_cons_self ..

private theorem foldl_append_new {seen names : List String} (h : (seen ++ names).Nodup) :
    names.foldl (fun seen name => if seen.contains name then seen else seen ++ [name]) seen =
      seen ++ names := by
  induction names generalizing seen with
  | nil => simp
  | cons name names ih =>
    have hnew : name ∉ seen := fun hmem =>
      List.disjoint_of_nodup_append h hmem (List.mem_cons_self ..)
    rw [List.foldl_cons, if_neg (by simpa using hnew), ih (by simpa using h), List.append_assoc,
      List.singleton_append]

/-- Distinct columns are all read, in their order. -/
theorem readColumns_eq {f : Field} (h : f.columns.Nodup) : f.readColumns = f.columns :=
  foldl_append_new h

end Field

/-- A key part as the builder makes it: the column of one stored field, or an attribute of its
own named `synthetic`. -/
inductive KeyPart.IsBuilt (fields : List Field) (synthetic : String) : KeyPart → Prop
  | single {name : String} {f : Field} (found : fields.find? (·.name = name) = some f)
      (stored : f.isStored = true) (scalar : f.isList = false) :
      IsBuilt fields synthetic ⟨f.column, [name], none, true⟩
  | joined (names : List String) (lead : Option String) :
      IsBuilt fields synthetic ⟨synthetic, names, lead, false⟩

/-- How the key attributes and the columns of a model lie to each other. -/
structure Model.ColumnsApart (m : Model) : Prop where
  columnsDistinct : (m.fields.flatMap Field.columns).Nodup
  notReserved : ∀ f ∈ m.fields, ∀ column ∈ f.readColumns,
    column ∉ Blueprint.keyAttributes m.primaryKey m.indexes
  partitionBuilt : m.primaryKey.partitionKey.IsBuilt m.fields "pk"
  sortBuilt : ∀ part ∈ m.primaryKey.sortKey?, part.IsBuilt m.fields "sk"
  indexAttributesDistinct :
    (((m.indexes.flatMap (·.parts)).filter (!·.isSingleField)).map (·.attributeName)).Nodup

namespace Blueprint

open Schema Result

/-! ## Fields -/

theorem claimColumns_eq_ok {type field : String} {owners owners' : Dict String}
    {columns : List String} (h : claimColumns type field owners columns = .ok owners') :
    columns.Nodup ∧ (∀ column ∈ columns, column ∉ owners.keys) ∧
      ∀ column, column ∈ owners'.keys ↔ column ∈ columns ∨ column ∈ owners.keys := by
  unfold claimColumns at h
  induction columns generalizing owners with
  | nil =>
    rw [List.foldlM_nil, pure_eq_ok] at h
    simp [h]
  | cons column columns ih =>
    rw [List.foldlM_cons, bind_eq_ok] at h
    obtain ⟨claimed, hclaim, h⟩ := h
    split at hclaim
    · cases hclaim
    · next hfree =>
      cases hclaim
      obtain ⟨hdistinct, hnew, hkeys⟩ := ih h
      simp only [Dict.mem_keys_insert, not_or] at hnew hkeys
      refine ⟨List.nodup_cons.mpr ⟨fun hmem => (hnew column hmem).1 rfl, hdistinct⟩, ?_, ?_⟩
      · intro other hother
        rcases List.mem_cons.mp hother with rfl | hother
        · exact Dict.get?_eq_none_iff.mp hfree
        · exact (hnew other hother).2
      · intro other
        rw [hkeys, List.mem_cons]
        tauto

theorem buildField_eq_ok {ds : Declarations} {type : TypeDeclaration} {owners owners' : Dict String}
    {declared : FieldDeclaration} {f : Field}
    (h : buildField ds type owners declared = .ok (owners', f)) :
    claimColumns type.name declared.name owners f.columns = .ok owners' := by
  unfold buildField at h
  obtain ⟨directives, -, h⟩ := bind_eq_ok.mp h
  obtain ⟨kind, -, h⟩ := bind_eq_ok.mp h
  dsimp only at h
  split at h <;>
  · obtain ⟨column, -, h⟩ := bind_eq_ok.mp h
    obtain ⟨claimed, hclaimed, h⟩ := bind_eq_ok.mp h
    obtain ⟨computed, -, h⟩ := bind_eq_ok.mp h
    cases pure_eq_ok.mp h
    exact hclaimed

/-- The fields built so far have claimed their columns, and each column once. -/
theorem buildFields_columns {ds : Declarations} {type : TypeDeclaration} {fields : List Field}
    (h : buildFields ds type = .ok fields) : (fields.flatMap Field.columns).Nodup := by
  unfold buildFields at h
  obtain ⟨⟨owners, built⟩, hbuilt, h⟩ := bind_eq_ok.mp h
  cases pure_eq_ok.mp h
  refine (foldlM_keeps (P := fun (state : Dict String × List Field) =>
    (state.2.flatMap Field.columns).Nodup ∧
      ∀ column, column ∈ state.1.keys ↔ column ∈ state.2.flatMap Field.columns)
    ?_ ⟨by simp, fun column => by simp [Dict.keys]⟩ hbuilt).1
  rintro ⟨owners, fields⟩ declared state - ⟨hdistinct, howners⟩ hstep
  obtain ⟨⟨owners', f⟩, hf, hstep⟩ := bind_eq_ok.mp hstep
  cases pure_eq_ok.mp hstep
  obtain ⟨hown, hnew, hkeys⟩ := claimColumns_eq_ok (buildField_eq_ok hf)
  dsimp only at howners ⊢
  rw [List.flatMap_append, List.flatMap_singleton]
  refine ⟨List.nodup_append.mpr ⟨hdistinct, hown, ?_⟩, fun column => ?_⟩
  · rintro column hold _ hcolumn rfl
    exact hnew column hcolumn ((howners column).mpr hold)
  · rw [hkeys, howners, List.mem_append]
    exact or_comm

/-! ## Key parts -/

theorem keyPart_isBuilt {d : Directive} {fieldsArgument leadArgument synthetic : String}
    {fields : List Field} {part : KeyPart}
    (h : keyPart d fieldsArgument leadArgument synthetic fields = .ok part) :
    part.IsBuilt fields synthetic := by
  unfold keyPart at h
  obtain ⟨names, -, h⟩ := bind_eq_ok.mp h
  obtain ⟨-, h⟩ := check_eq_ok.mp h
  obtain ⟨⟨⟩, hchecked, h⟩ := bind_eq_ok.mp h
  dsimp only at h
  split at h
  · next name hlead _ _ =>
    obtain ⟨f, hfind, hf⟩ :=
      checkKeyField_eq_ok (forM_eq_ok.mp hchecked name (List.mem_singleton_self _))
    cases pure_eq_ok.mp h
    rw [hfind, hlead]
    exact .single hfind hf.stored hf.scalar
  · cases pure_eq_ok.mp h
    exact .joined _ _

theorem primaryKey_isBuilt {type : String} {d : Directive} {fields : List Field}
    {key : PrimaryKey} (h : primaryKey type d fields = .ok key) :
    key.partitionKey.IsBuilt fields "pk" ∧ ∀ part ∈ key.sortKey?, part.IsBuilt fields "sk" := by
  have hbuilt (entry : String × KeyPart) (hentry : entry ∈ key.namedParts) :
      entry.2.IsBuilt fields entry.1 := by
    obtain ⟨_, _, hpart⟩ := primaryKey_keyPart h hentry
    exact keyPart_isBuilt hpart
  refine ⟨hbuilt _ List.mem_cons_self, fun part hpart => hbuilt ("sk", part) ?_⟩
  exact List.mem_cons_of_mem _ (List.mem_map_of_mem (Option.mem_toList.mpr hpart))

/-! ## Indexes -/

/-- The attributes an index builds are named for it: one for its partition key, one for its
sort key. -/
def IndexNamed (index : SecondaryIndex) : Prop :=
  List.Sublist ((index.parts.filter (!·.isSingleField)).map (·.attributeName))
    [index.name ++ "pk", index.name ++ "sk"]

/-- Parts that are no single fields stand under the names they are built for. -/
theorem joined_sublist {fields : List Field} {entries : List (String × KeyPart)}
    (h : ∀ entry ∈ entries, entry.2.IsBuilt fields entry.1) :
    List.Sublist (((entries.map (·.2)).filter (!·.isSingleField)).map (·.attributeName))
      (entries.map (·.1)) := by
  induction entries with
  | nil => exact List.Sublist.slnil
  | cons entry entries ih =>
    obtain ⟨hentry, hentries⟩ := List.forall_mem_cons.mp h
    obtain ⟨synthetic, part⟩ := entry
    dsimp only at hentry
    cases hentry with
    | single found stored scalar => exact (ih hentries).cons _
    | joined names lead => exact (ih hentries).cons_cons _

/-- Each part of an index that is declared in full is built by itself, for an attribute named for
the index and the role. -/
theorem secondaryIndex_keyPart {d : Directive} {fields : List Field} {key : PrimaryKey}
    {index : SecondaryIndex} (h : secondaryIndex d fields key = .ok index)
    {entry : String × KeyPart} (hentry : entry ∈ index.namedParts) :
    ∃ fieldsArgument leadArgument,
      keyPart d fieldsArgument leadArgument entry.1 fields = .ok entry.2 := by
  unfold secondaryIndex at h
  obtain ⟨name, -, h⟩ := bind_eq_ok.mp h
  dsimp only at h
  split at h
  · unfold localIndex at h
    obtain ⟨-, h⟩ := check_eq_ok.mp h
    split at h
    · exact absurd h throw_ne_ok
    · obtain ⟨sort, hsort, h⟩ := bind_eq_ok.mp h
      obtain ⟨-, h⟩ := check_eq_ok.mp h
      cases pure_eq_ok.mp h
      rw [List.mem_singleton.mp hentry]
      exact ⟨_, _, hsort⟩
  · unfold globalIndex at h
    obtain ⟨-, h⟩ := check_eq_ok.mp h
    obtain ⟨partition_, hpartition, h⟩ := bind_eq_ok.mp h
    dsimp only at h
    split at h
    · obtain ⟨sort, hsort, h⟩ := bind_eq_ok.mp h
      obtain ⟨built, hbuilt, rfl⟩ := map_eq_ok.mp hsort
      cases pure_eq_ok.mp h
      rcases List.mem_cons.mp hentry with rfl | hentry
      · exact ⟨_, _, hpartition⟩
      · rw [List.mem_singleton.mp hentry]
        exact ⟨_, _, hbuilt⟩
    · obtain ⟨sort, hsort, h⟩ := bind_eq_ok.mp h
      cases pure_eq_ok.mp hsort
      cases pure_eq_ok.mp h
      rw [List.mem_singleton.mp hentry]
      exact ⟨_, _, hpartition⟩

theorem secondaryIndex_named {d : Directive} {fields : List Field} {key : PrimaryKey}
    {index : SecondaryIndex} (h : secondaryIndex d fields key = .ok index) : IndexNamed index := by
  have hnames : List.Sublist (index.namedParts.map (·.1)) [index.name ++ "pk", index.name ++ "sk"] := by
    cases index with
    | «local» name sortKey projection => exact List.sublist_append_right [_] _
    | «global» name partitionKey sortKey projection =>
      cases sortKey with
      | none => exact List.sublist_append_left _ [_]
      | some sortKey => exact List.Sublist.refl _
  have hparts := joined_sublist fun entry (hentry : entry ∈ index.namedParts) => by
    obtain ⟨_, _, hpart⟩ := secondaryIndex_keyPart h hentry
    exact keyPart_isBuilt hpart
  rw [index.map_snd_namedParts] at hparts
  exact hparts.trans hnames

/-- What the builder makes of the fields that a simple index names. -/
theorem simpleIndex_eq_ok {d : Directive} {fields : List Field} {index : SecondaryIndex}
    (h : simpleIndex d fields = .ok index) : ∃ name f, d.string? "field" = some name ∧
      fields.find? (·.name = name) = some f ∧
      index = .global ((d.string? "name").getD name) ⟨f.column, [name], none, true⟩ none .all := by
  unfold simpleIndex at h
  obtain ⟨name, hname, h⟩ := bind_eq_ok.mp h
  split at h
  · exact absurd h throw_ne_ok
  · next f hfound =>
    exact ⟨name, f, Directive.requiredString_eq_ok hname, hfound, (pure_eq_ok.mp h).symm⟩

theorem simpleIndex_named {d : Directive} {fields : List Field} {index : SecondaryIndex}
    (h : simpleIndex d fields = .ok index) : IndexNamed index := by
  obtain ⟨name, f, -, -, rfl⟩ := simpleIndex_eq_ok h
  exact List.nil_sublist _

/-- The indexes declared so far have names of their own, and their attributes are named for
them. -/
def IndexesNamed (indexes : List SecondaryIndex) : Prop :=
  (indexes.map (·.name)).Nodup ∧ ∀ index ∈ indexes, IndexNamed index

theorem IndexesNamed.append {indexes : List SecondaryIndex} {index : SecondaryIndex}
    (h : IndexesNamed indexes) (hindex : IndexNamed index)
    (hnew : indexes.any (·.name = index.name) = false) : IndexesNamed (indexes ++ [index]) := by
  obtain ⟨hnames, hnamed⟩ := h
  constructor
  · rw [List.map_append, List.map_singleton]
    refine List.nodup_append.mpr ⟨hnames, List.nodup_singleton _, ?_⟩
    rintro name hname _ hsingle rfl
    obtain ⟨other, hother, hsame⟩ := List.mem_map.mp hname
    rw [List.mem_singleton] at hsingle
    exact List.any_eq_false.mp hnew other hother (by simp [hsame, hsingle])
  · intro other hother
    rcases List.mem_append.mp hother with hother | hother
    · exact hnamed other hother
    · rw [List.mem_singleton.mp hother]
      exact hindex

/-- The index that a directive declares, which is of one of two kinds. -/
inductive DeclaresIndex (fields : List Field) (key : PrimaryKey) (d : Directive) :
    SecondaryIndex → Prop
  | simple {index : SecondaryIndex} (kind : d.kind = .simpleIndex)
      (built : simpleIndex d fields = .ok index) : DeclaresIndex fields key d index
  | secondary {index : SecondaryIndex} (kind : d.kind = .secondaryIndex)
      (built : secondaryIndex d fields key = .ok index) : DeclaresIndex fields key d index

theorem DeclaresIndex.named {fields : List Field} {key : PrimaryKey} {d : Directive}
    {index : SecondaryIndex} (h : DeclaresIndex fields key d index) : IndexNamed index := by
  cases h with
  | simple _ built => exact simpleIndex_named built
  | secondary _ built => exact secondaryIndex_named built

theorem DeclaresIndex.of_simple {fields : List Field} {key : PrimaryKey} {d : Directive}
    {index : SecondaryIndex} (h : DeclaresIndex fields key d index) (hkind : d.kind = .simpleIndex) :
    simpleIndex d fields = .ok index := by
  cases h with
  | simple _ built => exact built
  | secondary kind _ => cases hkind.symm.trans kind

/-- The fields of an index are among those of its model. -/
theorem DeclaresIndex.field_found {fields : List Field} {key : PrimaryKey} {d : Directive}
    {index : SecondaryIndex} (h : DeclaresIndex fields key d index) {part : KeyPart}
    (hpart : part ∈ index.parts) {name : String} (hname : name ∈ part.fields) :
    ∃ f, fields.find? (·.name = name) = some f := by
  cases h with
  | simple _ built =>
    obtain ⟨name', f, -, hfound, rfl⟩ := simpleIndex_eq_ok built
    obtain rfl := List.mem_singleton.mp hpart
    obtain rfl := List.mem_singleton.mp hname
    exact ⟨f, hfound⟩
  | secondary _ built =>
    rw [← index.map_snd_namedParts] at hpart
    obtain ⟨entry, hentry, rfl⟩ := List.mem_map.mp hpart
    obtain ⟨_, _, hbuilt⟩ := secondaryIndex_keyPart built hentry
    obtain ⟨f, hfound, -⟩ := keyPart_eq_ok hbuilt name hname
    exact ⟨f, hfound⟩

/-- A directive declares no index, or one whose name is new. -/
theorem addIndex_eq_ok {fields : List Field} {key : PrimaryKey}
    {indexes indexes' : List SecondaryIndex} {d : Directive}
    (h : addIndex fields key indexes d = .ok indexes') :
    (d.kind ≠ .simpleIndex ∧ d.kind ≠ .secondaryIndex ∧ indexes' = indexes) ∨
      ∃ index, DeclaresIndex fields key d index ∧
        indexes.any (·.name = index.name) = false ∧ indexes' = indexes ++ [index] := by
  have happend {index : SecondaryIndex} (hbuilt : DeclaresIndex fields key d index)
      (hnext : (if indexes.any (·.name = index.name) then
          throw (d.error "name" s!"index `{index.name}` is declared twice")
        else pure (indexes ++ [index]) : Result _) = .ok indexes') :
      ∃ index, DeclaresIndex fields key d index ∧
        indexes.any (·.name = index.name) = false ∧ indexes' = indexes ++ [index] := by
    split at hnext
    · exact absurd hnext throw_ne_ok
    · next hnew => exact ⟨index, hbuilt, by simpa using hnew, (pure_eq_ok.mp hnext).symm⟩
  unfold addIndex at h
  dsimp only at h
  split at h
  · next hkind =>
    obtain ⟨built, hbuilt, h⟩ := bind_eq_ok.mp h
    obtain ⟨index, hindex, rfl⟩ := map_eq_ok.mp hbuilt
    exact Or.inr (happend (.simple hkind hindex) h)
  · next hkind =>
    obtain ⟨built, hbuilt, h⟩ := bind_eq_ok.mp h
    obtain ⟨index, hindex, rfl⟩ := map_eq_ok.mp hbuilt
    exact Or.inr (happend (.secondary hkind hindex) h)
  · next hsimple hsecondary =>
    obtain ⟨built, hbuilt, h⟩ := bind_eq_ok.mp h
    cases pure_eq_ok.mp hbuilt
    exact Or.inl ⟨hsimple, hsecondary, (pure_eq_ok.mp h).symm⟩

theorem addIndex_named {fields : List Field} {key : PrimaryKey}
    {indexes indexes' : List SecondaryIndex} {d : Directive}
    (hindexes : IndexesNamed indexes) (h : addIndex fields key indexes d = .ok indexes') :
    IndexesNamed indexes' := by
  obtain ⟨-, -, rfl⟩ | ⟨index, hbuilt, hnew, rfl⟩ := addIndex_eq_ok h
  · exact hindexes
  · exact hindexes.append hbuilt.named hnew

/-- Every index is declared by a directive. -/
theorem exists_directive_of_mem {fields : List Field} {key : PrimaryKey}
    {directives : List Directive} {indexes : List SecondaryIndex}
    (h : directives.foldlM (addIndex fields key) [] = .ok indexes) {index : SecondaryIndex}
    (hindex : index ∈ indexes) : ∃ d ∈ directives, DeclaresIndex fields key d index := by
  refine foldlM_keeps (P := fun indexes => ∀ index ∈ indexes,
    ∃ d ∈ directives, DeclaresIndex fields key d index)
    ?_ (fun index hnone => by cases hnone) h index hindex
  intro indexes d indexes' hd hindexes hstep
  obtain ⟨-, -, rfl⟩ | ⟨built, hbuilt, -, rfl⟩ := addIndex_eq_ok hstep
  · exact hindexes
  · intro index hindex
    rcases List.mem_append.mp hindex with hold | hnew
    · exact hindexes index hold
    · rw [List.mem_singleton.mp hnew]
      exact ⟨d, hd, hbuilt⟩

/-- Every directive of the two kinds declares an index. -/
theorem exists_index_of_kind {fields : List Field} {key : PrimaryKey} {directives : List Directive}
    {indexes : List SecondaryIndex}
    (h : directives.foldlM (addIndex fields key) [] = .ok indexes) {d : Directive}
    (hd : d ∈ directives) (hkind : d.kind = .simpleIndex ∨ d.kind = .secondaryIndex) :
    ∃ index ∈ indexes, DeclaresIndex fields key d index := by
  refine foldlM_brings (P := fun indexes : List SecondaryIndex =>
    ∃ index ∈ indexes, DeclaresIndex fields key d index) hd ?_ ?_ h
  · intro indexes indexes' hstep
    obtain ⟨hsimple, hsecondary, -⟩ | ⟨index, hindex, -, rfl⟩ := addIndex_eq_ok hstep
    · exact (hkind.elim hsimple hsecondary).elim
    · exact ⟨index, List.mem_append_right _ (List.mem_singleton_self _), hindex⟩
  · rintro indexes d' indexes' - ⟨index, hmem, hindex⟩ hstep
    obtain ⟨-, -, rfl⟩ | ⟨_, -, -, rfl⟩ := addIndex_eq_ok hstep
    · exact ⟨index, hmem, hindex⟩
    · exact ⟨index, List.mem_append_left _ hmem, hindex⟩

/-- A role is read off the end of an index attribute, and the index off the rest. -/
theorem indexAttribute_inj {name name' role role' : String} (hrole : role ∈ ["pk", "sk"])
    (hrole' : role' ∈ ["pk", "sk"]) (h : name ++ role = name' ++ role') :
    name = name' ∧ role = role' := by
  have hlength : ∀ role ∈ ["pk", "sk"], role.toList.length = 2 := by decide
  have hlists : name.toList ++ role.toList = name'.toList ++ role'.toList := by
    rw [← String.toList_append, ← String.toList_append, h]
  have hsplit := List.append_inj' hlists ((hlength role hrole).trans (hlength role' hrole').symm)
  exact ⟨String.toList_injective hsplit.1, String.toList_injective hsplit.2⟩

theorem IndexesNamed.attributes_nodup {indexes : List SecondaryIndex} (h : IndexesNamed indexes) :
    (((indexes.flatMap (·.parts)).filter (!·.isSingleField)).map (·.attributeName)).Nodup := by
  obtain ⟨hnames, hnamed⟩ := h
  rw [List.filter_flatMap, List.map_flatMap, List.nodup_flatMap]
  constructor
  · intro index hindex
    have hroles : [index.name ++ "pk", index.name ++ "sk"].Nodup := by
      refine List.nodup_cons.mpr ⟨fun hsame => ?_, List.nodup_singleton _⟩
      obtain ⟨-, hrole⟩ :=
        indexAttribute_inj (by decide) (by decide) (List.mem_singleton.mp hsame)
      exact absurd hrole (by decide)
    exact List.Nodup.sublist (hnamed index hindex) hroles
  · rw [List.Nodup, List.pairwise_map] at hnames
    refine hnames.imp_of_mem fun {index other} hindex hother hne name hmem hmem' => hne ?_
    have hrole := (hnamed index hindex).subset hmem
    have hrole' := (hnamed other hother).subset hmem'
    simp only [List.mem_cons, List.not_mem_nil, or_false] at hrole hrole'
    rcases hrole with rfl | rfl <;> rcases hrole' with hsame | hsame <;>
      exact (indexAttribute_inj (by decide) (by decide) hsame).1

/-- An attribute that an index builds ends in its role. -/
theorem IndexesNamed.exists_role {indexes : List SecondaryIndex} (h : IndexesNamed indexes)
    {part : KeyPart} (hpart : part ∈ indexes.flatMap (·.parts))
    (hjoined : part.isSingleField = false) :
    ∃ name, ∃ role ∈ ["pk", "sk"], part.attributeName = name ++ role := by
  obtain ⟨index, hindex, hmem⟩ := List.mem_flatMap.mp hpart
  have hattribute := (h.2 index hindex).subset
    (List.mem_map_of_mem (List.mem_filter.mpr ⟨hmem, by rw [hjoined]; rfl⟩))
  rcases List.mem_pair.mp hattribute with hname | hname
  · exact ⟨index.name, "pk", by decide, hname⟩
  · exact ⟨index.name, "sk", by decide, hname⟩

/-! ## Models -/

theorem checkReservedColumns_eq_ok {type : String} {fields : List Field} {key : PrimaryKey}
    {indexes : List SecondaryIndex} (h : checkReservedColumns type fields key indexes = .ok ()) :
    ∀ f ∈ fields, ∀ column ∈ f.readColumns, column ∉ keyAttributes key indexes := by
  unfold checkReservedColumns at h
  dsimp only at h
  split at h
  · cases h
  · next hnone =>
    intro f hf column hcolumn htaken
    have hfree := List.findSome?_eq_none_iff.mp hnone f hf
    rw [Option.map_eq_none_iff, List.find?_eq_none] at hfree
    exact hfree column hcolumn (by simpa using htaken)

namespace IsOrigin

variable {document : Document} {type : TypeDeclaration} {directives : List Directive} {m : Model}
  (h : IsOrigin document type directives m)
include h

theorem indexesNamed : IndexesNamed m.indexes :=
  foldlM_keeps (P := IndexesNamed) (fun _ _ _ _ hacc hstep => addIndex_named hacc hstep)
    ⟨by simp, fun index hindex => by cases hindex⟩ h.indexesBuilt

theorem columnsApart : m.ColumnsApart := by
  obtain ⟨d, hkey⟩ := h.keyBuilt
  exact ⟨buildFields_columns h.fieldsBuilt, checkReservedColumns_eq_ok h.columnsFree,
    (primaryKey_isBuilt hkey).1, (primaryKey_isBuilt hkey).2, h.indexesNamed.attributes_nodup⟩

/-- An index is built from fields of its model. -/
theorem exists_indexField {part : KeyPart} (hpart : part ∈ m.indexes.flatMap (·.parts))
    {name : String} (hname : name ∈ part.fields) : ∃ f, m.field? name = some f := by
  obtain ⟨index, hindex, hpart⟩ := List.mem_flatMap.mp hpart
  obtain ⟨d, -, hdeclares⟩ := exists_directive_of_mem h.indexesBuilt hindex
  exact hdeclares.field_found hpart hname

end IsOrigin

section Accepted

variable {config : Config} {text : String} {b : Blueprint} (h : ofSchema config text = .ok b)
  {m : Model} (hm : m ∈ b.models)
include h hm

theorem ofSchema_columnsApart : m.ColumnsApart := by
  obtain ⟨document, -, h⟩ := ofSchema_eq_ok h
  obtain ⟨_, _, horigin⟩ := exists_origin h hm
  exact horigin.columnsApart

/-- The fields of a key are fields of the model that may be in keys. -/
theorem ofSchema_keyFields {part : KeyPart} (hpart : part ∈ m.primaryKey.parts) {name : String}
    (hname : name ∈ part.fields) :
    ∃ f, m.fields.find? (·.name = name) = some f ∧ IsKeyField f := by
  obtain ⟨document, -, h⟩ := ofSchema_eq_ok h
  obtain ⟨_, _, horigin⟩ := exists_origin h hm
  obtain ⟨d, hkey⟩ := horigin.keyBuilt
  exact primaryKey_eq_ok hkey part hpart name hname

theorem ofSchema_indexesNamed : IndexesNamed m.indexes := by
  obtain ⟨document, -, h⟩ := ofSchema_eq_ok h
  obtain ⟨_, _, horigin⟩ := exists_origin h hm
  exact horigin.indexesNamed

theorem ofSchema_indexFieldsFound {part : KeyPart} (hpart : part ∈ m.indexes.flatMap (·.parts))
    {name : String} (hname : name ∈ part.fields) : ∃ f ∈ m.fields, f.name = name := by
  obtain ⟨document, -, h⟩ := ofSchema_eq_ok h
  obtain ⟨_, _, horigin⟩ := exists_origin h hm
  obtain ⟨f, hfound⟩ := horigin.exists_indexField hpart hname
  exact ⟨f, Field.of_find? hfound⟩

end Accepted

end Blueprint

end Keyspace
