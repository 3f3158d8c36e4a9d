import Keyspace.Proofs.Blueprint.Columns
import Keyspace.Proofs.Blueprint.Declarations
import Keyspace.Proofs.Blueprint.Merging
import Keyspace.Proofs.Schema.Directives

/-!
# The tables of a blueprint

Models and tables are listed by name, and a table is there for the models on it: its key and
its indexes are theirs, it expires items by their attribute, and its stream is dispatched for
their handlers.
-/
namespace Keyspace

/-- Two declarations of one index: they have its name, its kind and its projection, and their
parts lie under the same attributes. -/
structure SecondaryIndex.Agrees (index other : SecondaryIndex) : Prop where
  name_eq : index.name = other.name
  isLocal_eq : index.isLocal = other.isLocal
  projection_eq : index.projection = other.projection
  attributes_eq : index.parts.map (·.attributeName) = other.parts.map (·.attributeName)

namespace Blueprint

open Schema Result

/-- The type of a model asks for point-in-time recovery. -/
def AsksForRecovery (document : Document) (m : Model) : Prop :=
  ∃ type, Definition.object type ∈ document ∧ type.name = m.name ∧
    ∃ use ∈ type.directives, use.name = "table" ∧
      ("enablePointInTimeRecovery", Value.boolean true) ∈ use.arguments

/-- A table is what its models make it. -/
structure IsTableOf (document : Document) (models : List Model) (t : Table) : Prop where
  isComposite : ∀ m ∈ models, m.primaryKey.isComposite = t.primaryKey.isComposite
  keyAttributes : ∀ m ∈ models,
    m.primaryKey.parts.map (·.attributeName) = t.primaryKey.parts.map (·.attributeName)
  indexNames : (t.indexes.map (·.name)).Nodup
  hasIndex : ∀ m ∈ models, ∀ index ∈ m.indexes, ∃ other ∈ t.indexes, other.Agrees index
  indexDeclared : ∀ index ∈ t.indexes, ∃ m ∈ models, index ∈ m.indexes
  expires_iff : t.ttlAttribute.isSome = true ↔ ∃ m ∈ models, m.ttl.isSome = true
  ttlColumn : ∀ m ∈ models, ∀ ttl ∈ m.ttl, t.ttlAttribute = some ttl.column
  dispatches_iff : t.dispatcher.isSome = true ↔ ∃ m ∈ models, m.handlers ≠ []
  streams : t.dispatcher.isSome = true → t.isStreaming = true
  recovers_iff : t.pointInTimeRecovery = true ↔ ∃ m ∈ models, AsksForRecovery document m

/-- The models and tables of a blueprint belong together. -/
structure IsCoherent (document : Document) (b : Blueprint) : Prop where
  modelsSorted : (b.models.map (·.name)).Pairwise (· < ·)
  tablesSorted : (b.tables.map (·.name)).Pairwise (· < ·)
  tableNames : ∀ name, name ∈ b.tables.map (·.name) ↔ name ∈ b.models.map (·.table)
  modelIndexNames : ∀ m ∈ b.models, (m.indexes.map (·.name)).Nodup
  tableOf : ∀ t ∈ b.tables, IsTableOf document (b.modelsOn t) t

/-! ## What a type asks for -/

/-- A flag of a directive that may stand once is on if it is written so. -/
theorem flag_iff {directives : List Directive} {uses : List DirectiveUse}
    (h : Directive.AreReadFrom directives uses) {kind : Directive.Kind}
    (hsingle : kind.isRepeatable = false) {name : String} {required : Bool}
    (hspec : kind.arguments.find? (·.name = name) = some ⟨name, .boolean, required⟩) :
    ((directives.find? (·.kind = kind)).bind (·.boolean? name)).getD false = true ↔
      ∃ use ∈ uses, use.name = kind.name ∧ (name, Value.boolean true) ∈ use.arguments := by
  constructor
  · intro hflag
    cases hfound : directives.find? (·.kind = kind) with
    | none =>
      rw [hfound] at hflag
      cases hflag
    | some d =>
      obtain ⟨hd, rfl⟩ := (h.find?_kind hsingle).mp hfound
      obtain ⟨use, huse, hread⟩ := h.exists_use hd
      refine ⟨use, huse, hread.name_eq, (hread.boolean?_iff hspec true).mp ?_⟩
      rw [hfound, Option.bind_some] at hflag
      cases hvalue : d.boolean? name with
      | none =>
        rw [hvalue] at hflag
        cases hflag
      | some flag =>
        rw [hvalue] at hflag
        exact congrArg some hflag
  · rintro ⟨use, huse, hname, hargument⟩
    have hknown : use.isKnown = true := by
      rw [DirectiveUse.isKnown, hname, Directive.Kind.ofName?_name, Option.isSome_some]
    obtain ⟨d, hd, hread⟩ := h.exists_read huse hknown
    have hkind : d.kind = kind := by
      have hsame := hread.ofName?_eq
      rw [hname, Directive.Kind.ofName?_name] at hsame
      exact (Option.some.inj hsame).symm
    subst hkind
    rw [(h.find?_kind hsingle).mpr ⟨hd, rfl⟩, Option.bind_some,
      (hread.boolean?_iff hspec true).mpr hargument, Option.getD_some]

/-! ## From built models to resolved ones -/

/-- Every model of the blueprint stands beside its options, and differs from the model it was
built as in its handlers only. -/
theorem resolveHandlers_members {built : List (Model × TableOptions)} {models : List Model}
    (h : resolveHandlers (built.map (·.1)) = .ok models) :
    List.Forall₂ (fun member member' =>
      (∃ handlers, member'.1 = { member.1 with handlers := handlers }) ∧ member.2 = member'.2)
      built (models.zip (built.map (·.2))) := by
  have hresolved := resolveHandlers_eq_ok h
  rw [List.forall₂_map_left_iff] at hresolved
  exact forall₂_zip_map hresolved

theorem buildModels_sorted {config : Config} {document : Document} {ds : Declarations}
    (hds : Declarations.ofDocument document = .ok ds) {built : List (Model × TableOptions)}
    (h : buildModels config ds = .ok built) : (built.map (·.1.name)).Pairwise (· < ·) := by
  obtain ⟨hapart, rfl⟩ := ofDocument_eq_ok_iff.mp hds
  unfold buildModels at h
  obtain ⟨found, hfound, h⟩ := bind_eq_ok.mp h
  cases pure_eq_ok.mp h
  have hnames := (mapM_eq_ok.mp hfound).imp
    (S := fun entry y => ∀ member, y = some member → member.1.name = entry.2.name)
    fun entry y hy member hmember => by
      subst hmember
      dsimp only at hy
      split at hy
      · obtain ⟨built, hbuilt, hsome⟩ := map_eq_ok.mp hy
        cases hsome
        exact (buildModel_eq_ok hbuilt).name_eq
      · obtain ⟨_, -, hnone⟩ := bind_eq_ok.mp hy
        cases pure_eq_ok.mp hnone
  -- Object types are listed by name, and the models are some of them in the same order.
  have hsublist := map_filterMap_sublist hnames
  have hkeys : (objectsOf document).map (·.2.name) = Dict.keys (objectsOf document) :=
    List.map_congr_left fun entry hentry => ((mem_objectsOf hapart.distinct).mp hentry).2.symm
  have hsorted := Dict.ordered_iff_keys.mp (ordered_objectsOf document)
  rw [← hkeys] at hsorted
  exact hsorted.sublist hsublist

theorem resolveHandlers_names {models resolved : List Model}
    (h : resolveHandlers models = .ok resolved) :
    resolved.map (·.name) = models.map (·.name) := by
  have hnames : List.Forall₂ (· = ·) (models.map (·.name)) (resolved.map (·.name)) := by
    rw [List.forall₂_map_left_iff, List.forall₂_map_right_iff]
    refine (resolveHandlers_eq_ok h).imp fun m m' hm => ?_
    obtain ⟨handlers, rfl⟩ := hm
    rfl
  rw [List.forall₂_eq_eq_eq] at hnames
  exact hnames.symm

/-! ## A whole blueprint -/

theorem recovers_iff_asks {config : Config} {document : Document} {ds : Declarations}
    (hdistinct : (typeNames document).Nodup) {type : TypeDeclaration}
    (htype : Definition.object type ∈ document) {built : Model × TableOptions}
    (hbuilt : buildModel config ds type = .ok built) {m : Model} (hname : m.name = type.name) :
    built.2.pointInTimeRecovery = true ↔ AsksForRecovery document m := by
  obtain ⟨directives, hbuilt⟩ := exists_isBuiltFrom hbuilt
  rw [hbuilt.recovery_eq, flag_iff (Directive.readAll_eq_ok hbuilt.directivesRead) rfl rfl]
  constructor
  · rintro ⟨use, huse, hasks⟩
    exact ⟨type, htype, hname.symm, use, huse, hasks⟩
  · rintro ⟨type', htype', hname', use, huse, hasks⟩
    cases object_inj hdistinct htype htype' (hname.symm.trans hname'.symm)
    exact ⟨use, huse, hasks⟩

theorem IsMergeOf.agrees {b : Blueprint} {t : Table} (h : IsMergeOf b t) {m : Model}
    (hm : m ∈ b.modelsOn t) {index : SecondaryIndex} (hindex : index ∈ m.indexes) :
    ∃ other ∈ t.indexes, other.Agrees index := by
  obtain ⟨other, hother, hname, hshape⟩ := h.covers hm hindex
  unfold indexShape at hshape
  obtain ⟨hlocal, hattributes, hprojection⟩ : _ ∧ _ ∧ _ := by simpa using hshape
  exact ⟨other, hother, hname, hlocal, hprojection, hattributes⟩

/-- What some member of a table has, some model on it has. -/
theorem any_member_iff {built : List (Model × TableOptions)} {models : List Model}
    (h : resolveHandlers (built.map (·.1)) = .ok models) {table : String}
    {p : Model × TableOptions → Bool} {P : Model → Prop}
    (hp : ∀ member ∈ models.zip (built.map (·.2)), p member = true ↔ P member.1) :
    ((models.zip (built.map (·.2))).filter (·.1.table = table)).any p = true ↔
      ∃ m ∈ models.filter (·.table = table), P m := by
  rw [List.any_eq_true]
  constructor
  · rintro ⟨member, hmember, hpm⟩
    obtain ⟨hmem, htable⟩ := List.mem_filter.mp hmember
    have hm : member.1 ∈ models.filter (·.table = table) :=
      List.mem_filter.mpr ⟨(List.of_mem_zip hmem).1, htable⟩
    exact ⟨member.1, hm, (hp member hmem).mp hpm⟩
  · rintro ⟨m, hm, hPm⟩
    obtain ⟨hmem, htable⟩ := List.mem_filter.mp hm
    obtain ⟨member, hmember, rfl⟩ := exists_member_of_mem h hmem
    exact ⟨member, List.mem_filter.mpr ⟨hmember, htable⟩, (hp member hmember).mpr hPm⟩

/-- The options that stand beside a model are those that its type asks for. -/
theorem member_recovers_iff {config : Config} {document : Document} {ds : Declarations}
    (hds : Declarations.ofDocument document = .ok ds) {built : List (Model × TableOptions)}
    (hbuilt : buildModels config ds = .ok built) {models : List Model}
    (hmodels : resolveHandlers (built.map (·.1)) = .ok models) {member : Model × TableOptions}
    (hmember : member ∈ models.zip (built.map (·.2))) :
    member.2.pointInTimeRecovery = true ↔ AsksForRecovery document member.1 := by
  obtain ⟨hapart, rfl⟩ := ofDocument_eq_ok_iff.mp hds
  obtain ⟨first, hfirst, ⟨handlers, hsame⟩, hoptions⟩ :=
    exists_of_mem_forall₂ (resolveHandlers_members hmodels) hmember
  obtain ⟨entry, hentry, htype⟩ := exists_of_mem_buildModels hbuilt hfirst
  have hobject := ((mem_objectsOf hapart.distinct).mp hentry).1
  rw [← hoptions]
  refine recovers_iff_asks hapart.distinct hobject htype ?_
  rw [hsame]
  exact (buildModel_eq_ok htype).name_eq

section Accepted

variable {config : Config} {document : Document} {b : Blueprint}
  (h : ofDocument config document = .ok b)
include h

theorem ofDocument_isTableOf {t : Table} (ht : t ∈ b.tables) :
    IsTableOf document (b.modelsOn t) t := by
  have hmerge : IsMergeOf b t := ofDocument_isMergeOf h ht
  obtain ⟨ds, built, hds, hbuilt, hmodels, htables, -⟩ := ofDocument_eq_ok h
  obtain ⟨first, -, hbuild⟩ := exists_of_mem_buildTables htables ht
  have hmade := buildTable_eq_ok hbuild
  refine ⟨fun m hm => hmerge.isComposite_eq hm, fun m hm => hmerge.keyShape_eq hm,
    hmerge.indexNames_nodup, fun m hm index hindex => hmerge.agrees hm hindex,
    fun index hindex => hmerge.exists_model hindex, ⟨fun hsome => ?_, ?_⟩,
    fun m hm ttl httl => hmerge.ttlAttribute_eq hm httl, ?_, hmade.streams, ?_⟩
  · obtain ⟨column, hcolumn⟩ := Option.isSome_iff_exists.mp hsome
    obtain ⟨m, hm, ttl, httl⟩ := hmerge.exists_ttl hcolumn
    exact ⟨m, hm, by rw [httl, Option.isSome_some]⟩
  · rintro ⟨m, hm, hsome⟩
    obtain ⟨ttl, httl⟩ := Option.isSome_iff_exists.mp hsome
    rw [hmerge.ttlAttribute_eq hm httl, Option.isSome_some]
  · rw [hmade.dispatches_eq]
    exact any_member_iff hmodels fun member _ => by simp
  · rw [hmade.recovery_eq]
    exact any_member_iff hmodels fun member => member_recovers_iff hds hbuilt hmodels

/-- The tables are those that the models name. -/
theorem mem_tableNames_iff (name : String) :
    name ∈ b.tables.map (·.name) ↔ name ∈ b.models.map (·.table) := by
  rw [List.mem_map, List.mem_map]
  constructor
  · rintro ⟨t, ht, rfl⟩
    obtain ⟨first, hfirst, -⟩ := ofDocument_isMergeOf h ht
    obtain ⟨hmem, htable⟩ := List.mem_filter.mp hfirst
    exact ⟨first, hmem, of_decide_eq_true htable⟩
  · rintro ⟨m, hm, rfl⟩
    obtain ⟨t, ht, hname, -⟩ := (ofDocument_isSound h).tableOf m hm
    exact ⟨t, ht, hname⟩

/-- The models and tables of an accepted document belong together. -/
theorem ofDocument_isCoherent : IsCoherent document b := by
  obtain ⟨ds, built, hds, hbuilt, hmodels, htables, -⟩ := ofDocument_eq_ok h
  refine ⟨?_, buildTables_sorted htables, mem_tableNames_iff h, fun m hm => ?_,
    fun t ht => ofDocument_isTableOf h ht⟩
  · rw [resolveHandlers_names hmodels, List.map_map]
    exact buildModels_sorted hds hbuilt
  · obtain ⟨_, _, horigin⟩ := exists_origin h hm
    exact horigin.indexesNamed.1

end Accepted

namespace OrdersDocument

theorem orders_and_summaries_share_a_table : ∃ b, ofDocument .default document = .ok b ∧
    IsCoherent document b ∧ b.tables.map (·.name) = ["Customer", "Orders"] := by
  obtain ⟨b, hb, -, htables⟩ := exists_blueprint
  exact ⟨b, hb, ofDocument_isCoherent hb, htables⟩

end OrdersDocument

end Blueprint

end Keyspace
