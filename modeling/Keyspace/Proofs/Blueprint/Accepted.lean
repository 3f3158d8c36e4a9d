import Keyspace.Blueprint.Access
import Keyspace.Blueprint.Build
import Keyspace.Proofs.Action
import Keyspace.Proofs.Dict
import Mathlib.Data.List.Nodup

/-!
# What an accepted schema guarantees

A schema becomes a blueprint only after every check of the builder has passed. The lemmas
here turn those passes into facts about the blueprint: the fields of keys are there and are
never unset, every model has its table, and the models of a table keep their keys under the
same attributes.
-/
namespace Keyspace

/-! ## Named parts -/

/-- The parts of a key, each behind the name of the attribute that is made for it unless it is a
single field. -/
def PrimaryKey.namedParts (key : PrimaryKey) : List (String × KeyPart) :=
  ("pk", key.partitionKey) :: key.sortKey?.toList.map ("sk", ·)

@[simp] theorem PrimaryKey.map_snd_namedParts (key : PrimaryKey) :
    key.namedParts.map (·.2) = key.parts := by
  cases key <;> rfl

/-- Likewise for an index, which gives the attributes its own name. -/
def SecondaryIndex.namedParts : SecondaryIndex → List (String × KeyPart)
  | .global name partitionKey sortKey _ =>
    (name ++ "pk", partitionKey) :: sortKey.toList.map (name ++ "sk", ·)
  | .local name sortKey _ => [(name ++ "sk", sortKey)]

@[simp] theorem SecondaryIndex.map_snd_namedParts (index : SecondaryIndex) :
    index.namedParts.map (·.2) = index.parts := by
  cases index with
  | «global» name partitionKey sortKey projection => cases sortKey <;> rfl
  | «local» name sortKey projection => rfl

/-- The parts of a model's primary key and of its indexes. -/
def Model.keyParts (m : Model) : List KeyPart :=
  m.primaryKey.parts ++ m.indexes.flatMap (·.parts)

def Model.namedParts (m : Model) : List (String × KeyPart) :=
  m.primaryKey.namedParts ++ m.indexes.flatMap (·.namedParts)

@[simp] theorem Model.map_snd_namedParts (m : Model) : m.namedParts.map (·.2) = m.keyParts := by
  simp [namedParts, keyParts, List.map_flatMap]

/-- What is found by a name is one of the fields, and it has the name. -/
theorem Field.of_find? {fields : List Field} {name : String} {f : Field}
    (h : fields.find? (·.name = name) = some f) : f ∈ fields ∧ f.name = name :=
  ⟨List.mem_of_find?_eq_some h, by simpa using List.find?_some h⟩

namespace Blueprint

open Schema Result

/-- Every key field of a model is one of its fields, and it is required. -/
def KeyFieldsRequired (m : Model) : Prop :=
  ∀ part ∈ m.primaryKey.parts, ∀ name ∈ part.fields,
    ∃ f, m.field? name = some f ∧ f.isRequired = true

/-- A field that may be part of a key: it is stored, it is no list, and it is never unset. -/
structure IsKeyField (f : Field) : Prop where
  required : f.isRequired = true
  stored : f.isStored = true
  scalar : f.isList = false

theorem checkKeyField_eq_ok {d : Directive} {argument name : String} {fields : List Field}
    (h : checkKeyField d argument fields name = .ok ()) :
    ∃ f, fields.find? (·.name = name) = some f ∧ IsKeyField f := by
  unfold checkKeyField at h
  split at h
  · cases h
  · next f hfind =>
    refine ⟨f, hfind, ?_⟩
    split at h
    · cases h
    · next hplain =>
      simp only [Bool.or_eq_true, not_or, Bool.not_eq_true, Bool.not_eq_false'] at hplain
      split at h
      · cases h
      · next hrequired => exact ⟨by simpa using hrequired, hplain.2, hplain.1.1⟩

/-- A directive has an argument that names the fields of a part, and each of them may be part of
a key. -/
theorem keyPart_checked {d : Directive} {fieldsArgument leadArgument synthetic : String}
    {fields : List Field} {part : KeyPart}
    (h : keyPart d fieldsArgument leadArgument synthetic fields = .ok part) {name : String}
    (hname : name ∈ part.fields) : checkKeyField d fieldsArgument fields name = .ok () := by
  unfold keyPart at h
  obtain ⟨names, -, h⟩ := bind_eq_ok.mp h
  obtain ⟨-, h⟩ := check_eq_ok.mp h
  obtain ⟨⟨⟩, hchecked, h⟩ := bind_eq_ok.mp h
  have hfields : part.fields = names := by
    dsimp only at h
    split at h <;> exact (pure_eq_ok.mp h) ▸ rfl
  exact forM_eq_ok.mp hchecked name (hfields ▸ hname)

theorem keyPart_eq_ok {d : Directive} {fieldsArgument leadArgument synthetic : String}
    {fields : List Field} {part : KeyPart}
    (h : keyPart d fieldsArgument leadArgument synthetic fields = .ok part) :
    ∀ name ∈ part.fields, ∃ f, fields.find? (·.name = name) = some f ∧ IsKeyField f :=
  fun _ hname => checkKeyField_eq_ok (keyPart_checked h hname)

/-- Each part of a primary key is built by itself, for an attribute named for its role. -/
theorem primaryKey_keyPart {type : String} {d : Directive} {fields : List Field} {key : PrimaryKey}
    (h : primaryKey type d fields = .ok key) {entry : String × KeyPart}
    (hentry : entry ∈ key.namedParts) :
    ∃ fieldsArgument leadArgument,
      keyPart d fieldsArgument leadArgument entry.1 fields = .ok entry.2 := by
  unfold primaryKey at h
  obtain ⟨partition_, hpartition, h⟩ := bind_eq_ok.mp h
  split at h
  · cases pure_eq_ok.mp h
    rw [List.mem_singleton.mp hentry]
    exact ⟨_, _, hpartition⟩
  · obtain ⟨sort, hsort, h⟩ := bind_eq_ok.mp h
    cases pure_eq_ok.mp h
    rcases List.mem_cons.mp hentry with rfl | hentry
    · exact ⟨_, _, hpartition⟩
    · rw [List.mem_singleton.mp hentry]
      exact ⟨_, _, hsort⟩
  · exact absurd h throw_ne_ok

theorem primaryKey_eq_ok {type : String} {d : Directive} {fields : List Field} {key : PrimaryKey}
    (h : primaryKey type d fields = .ok key) :
    ∀ part ∈ key.parts, ∀ name ∈ part.fields,
      ∃ f, fields.find? (·.name = name) = some f ∧ IsKeyField f := by
  intro part hpart
  rw [← key.map_snd_namedParts] at hpart
  obtain ⟨entry, hentry, rfl⟩ := List.mem_map.mp hpart
  obtain ⟨_, _, hbuilt⟩ := primaryKey_keyPart h hentry
  exact keyPart_eq_ok hbuilt

/-- What the builder has computed and checked for a model. -/
structure IsModelOf (config : Config) (ds : Declarations) (type : TypeDeclaration) (m : Model) :
    Prop where
  name_eq : m.name = type.name
  fieldsBuilt : buildFields ds type = .ok m.fields
  keyBuilt : ∃ d, primaryKey type.name d m.fields = .ok m.primaryKey
  indexesBuilt : ∃ directives : List Directive,
    directives.foldlM (addIndex m.fields m.primaryKey) [] = .ok m.indexes
  handlersBuilt : ∃ declared : List (HandlerKind × Directive),
    declared.mapM (fun (kind, d) => buildHandler config ds type.name kind d) = .ok m.handlers
  columnsFree : checkReservedColumns type.name m.fields m.primaryKey m.indexes = .ok ()

/-- The steps from the directives of a type to its model and the options of its table. -/
structure IsBuiltFrom (config : Config) (ds : Declarations) (type : TypeDeclaration)
    (directives : List Directive) (built : Model × TableOptions) : Prop where
  directivesRead : Directive.readAll type.name .type type.directives = .ok directives
  name_eq : built.1.name = type.name
  fieldsBuilt : buildFields ds type = .ok built.1.fields
  keyBuilt : ∃ d, primaryKey type.name d built.1.fields = .ok built.1.primaryKey
  indexesBuilt : directives.foldlM (addIndex built.1.fields built.1.primaryKey) [] =
    .ok built.1.indexes
  expiryBuilt : type.fields.foldlM (addTtl ds type built.1.fields) none = .ok built.1.ttl
  handlersBuilt : (directives.filterMap fun d => (handlerKind? d.kind).map (·, d)).mapM
    (fun (kind, d) => buildHandler config ds type.name kind d) = .ok built.1.handlers
  columnsFree :
    checkReservedColumns type.name built.1.fields built.1.primaryKey built.1.indexes = .ok ()
  recovery_eq : built.2.pointInTimeRecovery = ((directives.find? (·.kind = .table)).bind
    (·.boolean? "enablePointInTimeRecovery")).getD false

theorem exists_isBuiltFrom {config : Config} {ds : Declarations} {type : TypeDeclaration}
    {built : Model × TableOptions} (h : buildModel config ds type = .ok built) :
    ∃ directives, IsBuiltFrom config ds type directives built := by
  unfold buildModel at h
  obtain ⟨directives, hdirectives, h⟩ := bind_eq_ok.mp h
  obtain ⟨fields, hfields, h⟩ := bind_eq_ok.mp h
  dsimp only at h
  split at h
  · obtain ⟨d, -, h⟩ := bind_eq_ok.mp h
    obtain ⟨key, hkey, h⟩ := bind_eq_ok.mp h
    obtain ⟨indexes, hindexes, h⟩ := bind_eq_ok.mp h
    split at h <;>
    · obtain ⟨tableName, -, h⟩ := bind_eq_ok.mp h
      obtain ⟨ttl, httl, h⟩ := bind_eq_ok.mp h
      obtain ⟨handlers, hhandlers, h⟩ := bind_eq_ok.mp h
      obtain ⟨⟨⟩, hreserved, h⟩ := bind_eq_ok.mp h
      cases pure_eq_ok.mp h
      exact ⟨directives, hdirectives, rfl, hfields, ⟨d, hkey⟩, hindexes, httl, hhandlers, hreserved,
        rfl⟩
  · obtain ⟨d, hthrow, -⟩ := bind_eq_ok.mp h
    exact absurd hthrow throw_ne_ok

theorem buildModel_eq_ok {config : Config} {ds : Declarations} {type : TypeDeclaration}
    {built : Model × TableOptions} (h : buildModel config ds type = .ok built) :
    IsModelOf config ds type built.1 := by
  obtain ⟨directives, h⟩ := exists_isBuiltFrom h
  exact ⟨h.name_eq, h.fieldsBuilt, h.keyBuilt, ⟨directives, h.indexesBuilt⟩,
    ⟨_, h.handlersBuilt⟩, h.columnsFree⟩

theorem IsModelOf.keyFieldsRequired {config : Config} {ds : Declarations}
    {type : TypeDeclaration} {m : Model} (h : IsModelOf config ds type m) :
    KeyFieldsRequired m := by
  obtain ⟨d, hkey⟩ := h.keyBuilt
  intro part hpart name hname
  obtain ⟨f, hfind, hf⟩ := primaryKey_eq_ok hkey part hpart name hname
  exact ⟨f, hfind, hf.required⟩

/-- Every model is built from the declaration of an object type. -/
theorem exists_of_mem_buildModels {config : Config} {ds : Declarations}
    {built : List (Model × TableOptions)} (h : buildModels config ds = .ok built)
    {member : Model × TableOptions} (hmember : member ∈ built) :
    ∃ entry ∈ (ds.objects : List (String × TypeDeclaration)),
      buildModel config ds entry.2 = .ok member := by
  unfold buildModels at h
  obtain ⟨found, hfound, h⟩ := bind_eq_ok.mp h
  cases pure_eq_ok.mp h
  obtain ⟨entry, hmem, hentry⟩ := List.mem_filterMap.mp hmember
  obtain ⟨⟨name, type⟩, htype, hbuilt⟩ := exists_of_mem_mapM hfound hmem
  dsimp only [id_eq] at hentry hbuilt
  subst hentry
  split at hbuilt
  · obtain ⟨m, hm, hsome⟩ := map_eq_ok.mp hbuilt
    cases hsome
    exact ⟨(name, type), htype, hm⟩
  · obtain ⟨_, -, hnone⟩ := bind_eq_ok.mp hbuilt
    cases pure_eq_ok.mp hnone

theorem buildModels_eq_ok {config : Config} {ds : Declarations}
    {built : List (Model × TableOptions)} (h : buildModels config ds = .ok built)
    {member : Model × TableOptions} (hmember : member ∈ built) :
    ∃ entry ∈ (ds.objects : List (String × TypeDeclaration)),
      IsModelOf config ds entry.2 member.1 := by
  obtain ⟨entry, hentry, hbuilt⟩ := exists_of_mem_buildModels h hmember
  exact ⟨entry, hentry, buildModel_eq_ok hbuilt⟩

/-- Resolving the tables of handlers changes nothing else. -/
theorem resolveHandlers_eq_ok {models resolved : List Model}
    (h : resolveHandlers models = .ok resolved) :
    List.Forall₂ (fun m m' => ∃ handlers, m' = { m with handlers := handlers }) models resolved := by
  unfold resolveHandlers at h
  refine (mapM_eq_ok.mp h).imp fun m m' hm => ?_
  obtain ⟨handlers, -, hm⟩ := bind_eq_ok.mp hm
  exact ⟨handlers, (pure_eq_ok.mp hm).symm⟩

theorem mergeModel_eq_ok {table : String} {first m : Model}
    {merged merged' : List SecondaryIndex × Option String}
    (h : mergeModel table first merged m = .ok merged') :
    keyShape m.primaryKey = keyShape first.primaryKey := by
  unfold mergeModel at h
  by_cases hcomposite : m.primaryKey.isComposite ≠ first.primaryKey.isComposite
  · rw [if_pos hcomposite] at h
    obtain ⟨_, hthrow, -⟩ := bind_eq_ok.mp h
    exact absurd hthrow throw_ne_ok
  · rw [if_neg hcomposite] at h
    by_cases hshape : keyShape m.primaryKey = keyShape first.primaryKey
    · exact hshape
    · rw [if_pos hshape] at h
      obtain ⟨_, hthrow, -⟩ := bind_eq_ok.mp h
      exact absurd hthrow throw_ne_ok

/-- What the builder makes of the members of a table. -/
structure IsBuiltTable (table : String) (first : Model × TableOptions)
    (members : List (Model × TableOptions)) (t : Table) : Prop where
  name_eq : t.name = table
  primaryKey_eq : t.primaryKey = first.1.primaryKey
  merged : (members.map (·.1)).foldlM (mergeModel table first.1) ([], none) =
    .ok (t.indexes, t.ttlAttribute)
  dispatches_eq : t.dispatcher.isSome = members.any fun member => !member.1.handlers.isEmpty
  streams : t.dispatcher.isSome = true → t.isStreaming = true
  recovery_eq : t.pointInTimeRecovery = members.any (·.2.pointInTimeRecovery)

theorem buildTable_eq_ok {config : Config} {table : String} {first : Model × TableOptions}
    {members : List (Model × TableOptions)} {built : Table}
    (h : buildTable config table first members = .ok built) :
    IsBuiltTable table first members built := by
  unfold buildTable at h
  obtain ⟨⟨indexes, ttl⟩, hmerged, h⟩ := bind_eq_ok.mp h
  cases pure_eq_ok.mp h
  refine ⟨rfl, rfl, hmerged, ?_, ?_, rfl⟩ <;>
    cases members.any fun member => !member.1.handlers.isEmpty <;> simp

namespace IsBuiltTable

variable {table : String} {first : Model × TableOptions} {members : List (Model × TableOptions)}
  {t : Table} (h : IsBuiltTable table first members t) {member : Model × TableOptions}
  (hmember : member ∈ members)
include h hmember

theorem keyShape_eq : keyShape member.1.primaryKey = keyShape t.primaryKey := by
  obtain ⟨before, after, hstep⟩ := foldlM_visits h.merged (List.mem_map_of_mem hmember)
  rw [h.primaryKey_eq]
  exact mergeModel_eq_ok hstep

theorem dispatches (hhandlers : member.1.handlers ≠ []) : t.dispatcher.isSome = true := by
  rw [h.dispatches_eq]
  exact List.any_eq_true.mpr ⟨member, hmember, by simpa using hhandlers⟩

end IsBuiltTable

/-- Every model's table is built, and keeps its keys where the model does. -/
theorem buildTables_eq_ok {config : Config} {models : List (Model × TableOptions)}
    {tables : List Table} (h : buildTables config models = .ok tables)
    {member : Model × TableOptions} (hmember : member ∈ models) :
    ∃ t ∈ tables, t.name = member.1.table ∧
      keyShape member.1.primaryKey = keyShape t.primaryKey ∧
      (member.1.handlers ≠ [] → t.dispatcher.isSome = true) := by
  unfold buildTables at h
  obtain ⟨built, hbuilt, h⟩ := bind_eq_ok.mp h
  cases pure_eq_ok.mp h
  have hname : member.1.table ∈ sortedDistinct (models.map (·.1.table)) :=
    mem_sortedDistinct.mpr (List.mem_map_of_mem hmember)
  obtain ⟨entry, hmem, hentry⟩ := mapM_reads_mem hbuilt hname
  have hfiltered : member ∈ models.filter (·.1.table = member.1.table) :=
    List.mem_filter.mpr ⟨hmember, by simp⟩
  split at hentry
  · next hnone =>
    rw [hnone] at hfiltered
    cases hfiltered
  · next first rest hsome =>
    obtain ⟨t, ht, rfl⟩ := map_eq_ok.mp hentry
    have hbuilt := buildTable_eq_ok ht
    rw [hsome] at hfiltered
    exact ⟨t, List.mem_filterMap.mpr ⟨some t, hmem, rfl⟩, hbuilt.name_eq,
      hbuilt.keyShape_eq hfiltered, hbuilt.dispatches hfiltered⟩

theorem partitionKey_of_keyShape {key key' : PrimaryKey} (h : keyShape key = keyShape key') :
    key.partitionKey.attributeName = key'.partitionKey.attributeName := by
  unfold keyShape PrimaryKey.parts at h
  exact (List.cons.inj h).1

/-- What the store relies on in a blueprint. -/
structure IsSound (b : Blueprint) : Prop where
  keyFieldsRequired : ∀ m ∈ b.models, KeyFieldsRequired m
  tableOf : ∀ m ∈ b.models, ∃ t ∈ b.tables, t.name = m.table ∧
    keyShape m.primaryKey = keyShape t.primaryKey
  namesDistinct : (b.tables.map (·.name)).Nodup

theorem buildTables_sorted {config : Config} {models : List (Model × TableOptions)}
    {tables : List Table} (h : buildTables config models = .ok tables) :
    (tables.map (·.name)).Pairwise (· < ·) := by
  unfold buildTables at h
  obtain ⟨built, hbuilt, h⟩ := bind_eq_ok.mp h
  cases pure_eq_ok.mp h
  have hnames := (mapM_eq_ok.mp hbuilt).imp
    (S := fun name entry => ∀ t, entry = some t → t.name = name) fun name entry hentry t ht => by
      subst ht
      split at hentry
      · cases hentry
      · obtain ⟨t', ht', hsome⟩ := map_eq_ok.mp hentry
        cases hsome
        exact (buildTable_eq_ok ht').name_eq
  have hsublist := map_filterMap_sublist (f := id) hnames
  rw [List.map_id] at hsublist
  exact (sortedDistinct_sorted _).sublist hsublist

theorem buildTables_names {config : Config} {models : List (Model × TableOptions)}
    {tables : List Table} (h : buildTables config models = .ok tables) :
    (tables.map (·.name)).Nodup :=
  (buildTables_sorted h).imp fun hlt => ne_of_lt hlt

theorem checkFunctionNames_eq_ok {seen : Dict String} {owners : List (String × String)}
    (h : checkFunctionNames seen owners = .ok ()) :
    (owners.map (·.1)).Nodup ∧ ∀ owner ∈ owners, owner.1 ∉ seen.keys := by
  induction owners generalizing seen with
  | nil => simp
  | cons owner rest ih =>
    obtain ⟨name, text⟩ := owner
    unfold checkFunctionNames at h
    split at h
    · cases h
    · next hnew =>
      obtain ⟨hdistinct, hfresh⟩ := ih h
      have hname : ∀ owner ∈ rest, owner.1 ≠ name ∧ owner.1 ∉ seen.keys := fun owner howner =>
        not_or.mp fun hin => hfresh owner howner (Dict.mem_keys_insert.mpr hin)
      refine ⟨List.nodup_cons.mpr ⟨fun hin => ?_, hdistinct⟩, fun owner howner => ?_⟩
      · obtain ⟨owner, howner, hsame⟩ := List.mem_map.mp hin
        exact (hname owner howner).1 hsame
      · rcases List.mem_cons.mp howner with rfl | howner
        · exact Dict.get?_eq_none_iff.mp hnew
        · exact (hname owner howner).2

/-- What the templates rely on in a blueprint. -/
structure IsWired (b : Blueprint) : Prop where
  functionsDistinct : ((functionOwners b.models b.tables).map (·.1)).Nodup
  dispatched : ∀ m ∈ b.models, m.handlers ≠ [] →
    ∃ t ∈ b.tables, t.name = m.table ∧ t.dispatcher.isSome = true

/-- The stages of the builder that an accepted document has passed. -/
theorem ofDocument_eq_ok {config : Config} {document : Document} {b : Blueprint}
    (h : ofDocument config document = .ok b) :
    ∃ ds built, Declarations.ofDocument document = .ok ds ∧ buildModels config ds = .ok built ∧
      resolveHandlers (built.map (·.1)) = .ok b.models ∧
      buildTables config (b.models.zip (built.map (·.2))) = .ok b.tables ∧
      checkFunctionNames [] (functionOwners b.models b.tables) = .ok () := by
  unfold ofDocument at h
  obtain ⟨ds, hds, h⟩ := bind_eq_ok.mp h
  obtain ⟨built, hbuilt, h⟩ := bind_eq_ok.mp h
  obtain ⟨models, hmodels, h⟩ := bind_eq_ok.mp h
  obtain ⟨tables, htables, h⟩ := bind_eq_ok.mp h
  obtain ⟨⟨⟩, hnames, h⟩ := bind_eq_ok.mp h
  cases pure_eq_ok.mp h
  exact ⟨ds, built, hds, hbuilt, hmodels, htables, hnames⟩

/-- Every resolved model stands beside the options of the model it was built as. -/
theorem exists_member_of_mem {built : List (Model × TableOptions)} {models : List Model}
    (hmodels : resolveHandlers (built.map (·.1)) = .ok models) {m : Model} (hm : m ∈ models) :
    ∃ member ∈ models.zip (built.map (·.2)), member.1 = m := by
  have hlength : models.length ≤ (built.map (·.2)).length := by
    have hsame := (resolveHandlers_eq_ok hmodels).length_eq
    simp only [List.length_map] at hsame ⊢
    omega
  have hm' : m ∈ (models.zip (built.map (·.2))).map (·.1) := by
    rw [List.map_fst_zip hlength]
    exact hm
  exact List.mem_map.mp hm'

theorem ofDocument_isSound {config : Config} {document : Document} {b : Blueprint}
    (h : ofDocument config document = .ok b) : IsSound b := by
  obtain ⟨ds, built, -, hbuilt, hmodels, htables, -⟩ := ofDocument_eq_ok h
  refine ⟨fun m hm => ?_, fun m hm => ?_, buildTables_names htables⟩
  · obtain ⟨m', hm', -, rfl⟩ := exists_of_mem_forall₂ (resolveHandlers_eq_ok hmodels) hm
    obtain ⟨member, hmember, rfl⟩ := List.mem_map.mp hm'
    obtain ⟨_, -, hmodel⟩ := buildModels_eq_ok hbuilt hmember
    exact hmodel.keyFieldsRequired
  · obtain ⟨member, hmember, rfl⟩ := exists_member_of_mem hmodels hm
    obtain ⟨t, ht, hname, hshape, -⟩ := buildTables_eq_ok htables hmember
    exact ⟨t, ht, hname, hshape⟩

theorem ofDocument_isWired {config : Config} {document : Document} {b : Blueprint}
    (h : ofDocument config document = .ok b) : IsWired b := by
  obtain ⟨ds, built, -, -, hmodels, htables, hnames⟩ := ofDocument_eq_ok h
  refine ⟨(checkFunctionNames_eq_ok hnames).1, fun m hm hhandlers => ?_⟩
  obtain ⟨member, hmember, rfl⟩ := exists_member_of_mem hmodels hm
  obtain ⟨t, ht, hname, -, hdispatcher⟩ := buildTables_eq_ok htables hmember
  exact ⟨t, ht, hname, hdispatcher hhandlers⟩

theorem ofSchema_eq_ok {config : Config} {text : String} {b : Blueprint}
    (h : ofSchema config text = .ok b) :
    ∃ document, Schema.parse text = .ok document ∧ ofDocument config document = .ok b := by
  unfold ofSchema at h
  exact bind_eq_ok.mp h

theorem ofSchema_isSound {config : Config} {text : String} {b : Blueprint}
    (h : ofSchema config text = .ok b) : IsSound b := by
  obtain ⟨document, -, h⟩ := ofSchema_eq_ok h
  exact ofDocument_isSound h

theorem ofSchema_isWired {config : Config} {text : String} {b : Blueprint}
    (h : ofSchema config text = .ok b) : IsWired b := by
  obtain ⟨document, -, h⟩ := ofSchema_eq_ok h
  exact ofDocument_isWired h

/-- Models on one table keep their partition key under one attribute. -/
theorem IsSound.partitionKey_eq {b : Blueprint} (hb : IsSound b) {m m' : Model}
    (hm : m ∈ b.models) (hm' : m' ∈ b.models) (h : m.table = m'.table) :
    m.primaryKey.partitionKey.attributeName = m'.primaryKey.partitionKey.attributeName := by
  obtain ⟨t, ht, hname, hshape⟩ := hb.tableOf m hm
  obtain ⟨t', ht', hname', hshape'⟩ := hb.tableOf m' hm'
  have hsame : t = t' :=
    List.inj_on_of_nodup_map hb.namesDistinct ht ht' (by rw [hname, hname', h])
  rw [partitionKey_of_keyShape hshape, partitionKey_of_keyShape hshape', hsame]

end Blueprint

/-- A stored scalar field under its own name. -/
def Field.scalar (name typeName : String) (isRequired : Bool) : Field :=
  ⟨name, name, [], typeName, .scalar, false, isRequired, false, none, "#" ++ name, ":" ++ name⟩

namespace Model

theorem mem_foldl_append_new {seen names : List String} {name : String} :
    name ∈ names.foldl (fun seen name => if seen.contains name then seen else seen ++ [name]) seen ↔
      name ∈ seen ∨ name ∈ names := by
  induction names generalizing seen with
  | nil => simp
  | cons first rest ih =>
    rw [List.foldl_cons, ih, List.mem_cons]
    by_cases hseen : seen.contains first = true
    · have hmem : first ∈ seen := List.contains_iff_mem.mp hseen
      rw [if_pos hseen]
      constructor
      · tauto
      · rintro (hold | rfl | hrest)
        · exact Or.inl hold
        · exact Or.inl hmem
        · exact Or.inr hrest
    · rw [if_neg hseen, List.mem_append, List.mem_singleton]
      tauto

/-- The key fields are the fields of the key's parts. -/
theorem mem_keyFields_iff {m : Model} {field : String} :
    field ∈ m.keyFields ↔ ∃ part ∈ m.primaryKey.parts, field ∈ part.fields := by
  unfold keyFields
  rw [mem_foldl_append_new, List.mem_flatMap]
  exact or_iff_right List.not_mem_nil

/-- The default that creation gives is a duration of the expiry that fits a signed number, for a
field that is optional. -/
theorem expiryDefault?_eq_some {m : Model} {field : String} {seconds : Nat} :
    m.expiryDefault? = some (field, seconds) ↔ ∃ ttl f, m.ttl = some ttl ∧ ttl.field = field ∧
      ttl.seconds = some seconds ∧ m.field? field = some f ∧ f.isRequired = false ∧
        seconds ≤ int64Max.toNat := by
  unfold expiryDefault?
  simp only [Option.bind_eq_bind, Option.bind_eq_some_iff]
  constructor
  · rintro ⟨ttl, httl, duration, hduration, f, hfound, hsome⟩
    split at hsome
    · next hgiven =>
      cases hsome
      exact ⟨ttl, f, httl, rfl, hduration, hfound, by simpa using hgiven.2, hgiven.1⟩
    · cases hsome
  · rintro ⟨ttl, f, httl, rfl, hduration, hfound, hoptional, hfits⟩
    exact ⟨ttl, httl, seconds, hduration, f, hfound, if_pos ⟨hfits, by simpa using hoptional⟩⟩

theorem expiryDefault?_optional {m : Model} {field : String} {seconds : Nat}
    {f : Field} (h : m.expiryDefault? = some (field, seconds)) (hf : m.field? field = some f) :
    f.isRequired = false := by
  obtain ⟨ttl, found, -, -, -, hfound, hoptional, -⟩ := expiryDefault?_eq_some.mp h
  cases hf.symm.trans hfound
  exact hoptional

end Model

end Keyspace
