import Keyspace.Proofs.Blueprint.Accepted

/-!
# How the models of a table are merged

A table has the primary key of one of its models, and every model on it keeps its key under
the same attributes. Its indexes are those that its models declare, each once: models that
declare an index of one name agree on its shape.
-/
namespace Keyspace.Blueprint

open Result

/-- The builder has merged the models on the table, beginning with nothing. -/
def IsMergeOf (b : Blueprint) (t : Table) : Prop :=
  ∃ first ∈ b.modelsOn t, t.primaryKey = first.primaryKey ∧
    (b.modelsOn t).foldlM (mergeModel t.name first) ([], none) = .ok (t.indexes, t.ttlAttribute)

/-! ## One step -/

/-- A merged index was there before or is the one added. -/
theorem mem_mergeIndex {table : String} {indexes indexes' : List SecondaryIndex}
    {index other : SecondaryIndex} (h : mergeIndex table indexes index = .ok indexes')
    (hother : other ∈ indexes') : other ∈ indexes ∨ other = index := by
  unfold mergeIndex at h
  split at h
  · split at h
    · cases h
      exact Or.inl hother
    · cases h
  · cases h
    exact (List.mem_append.mp hother).imp_right List.mem_singleton.mp

theorem mergeIndex_subset {table : String} {indexes indexes' : List SecondaryIndex}
    {index : SecondaryIndex} (h : mergeIndex table indexes index = .ok indexes') :
    indexes ⊆ indexes' := by
  unfold mergeIndex at h
  split at h
  · split at h
    · cases h
      exact List.Subset.refl _
    · cases h
  · cases h
    exact List.subset_append_left _ _

/-- After merging, an index of the same name and shape is there. -/
def Covers (indexes : List SecondaryIndex) (index : SecondaryIndex) : Prop :=
  ∃ known ∈ indexes, known.name = index.name ∧ indexShape known = indexShape index

theorem Covers.mono {indexes indexes' : List SecondaryIndex} {index : SecondaryIndex}
    (h : Covers indexes index) (hsubset : indexes ⊆ indexes') : Covers indexes' index := by
  obtain ⟨known, hknown, hsame⟩ := h
  exact ⟨known, hsubset hknown, hsame⟩

theorem mergeIndex_covers {table : String} {indexes indexes' : List SecondaryIndex}
    {index : SecondaryIndex} (h : mergeIndex table indexes index = .ok indexes') :
    Covers indexes' index := by
  unfold mergeIndex at h
  split at h
  · next known hfind =>
    split at h
    · next hshape =>
      cases h
      exact ⟨known, List.mem_of_find?_eq_some hfind, by simpa using List.find?_some hfind, hshape⟩
    · cases h
  · cases h
    exact ⟨index, List.mem_append_right _ (List.mem_singleton_self _), rfl, rfl⟩

theorem mergeIndex_names_nodup {table : String} {indexes indexes' : List SecondaryIndex}
    {index : SecondaryIndex} (h : mergeIndex table indexes index = .ok indexes')
    (hdistinct : (indexes.map (·.name)).Nodup) : (indexes'.map (·.name)).Nodup := by
  unfold mergeIndex at h
  split at h
  · split at h
    · cases h
      exact hdistinct
    · cases h
  · next hnone =>
    cases h
    rw [List.map_append, List.map_singleton]
    refine List.nodup_append.mpr ⟨hdistinct, List.nodup_singleton _, ?_⟩
    rintro name hname _ hsingle rfl
    obtain ⟨known, hknown, hsame⟩ := List.mem_map.mp hname
    rw [List.mem_singleton] at hsingle
    exact List.find?_eq_none.mp hnone known hknown (by simp [hsame, hsingle])

/-- The step of a model merges its indexes one after the other. -/
theorem mergeModel_indexes {table : String} {first m : Model}
    {merged merged' : List SecondaryIndex × Option String}
    (h : mergeModel table first merged m = .ok merged') :
    m.indexes.foldlM (mergeIndex table) merged.1 = .ok merged'.1 := by
  unfold mergeModel at h
  obtain ⟨-, h⟩ := check_eq_ok.mp h
  obtain ⟨-, h⟩ := check_eq_ok.mp h
  obtain ⟨indexes, hindexes, h⟩ := bind_eq_ok.mp h
  obtain ⟨ttl, -, h⟩ := bind_eq_ok.mp h
  cases pure_eq_ok.mp h
  exact hindexes

theorem mergeModel_subset {table : String} {first m : Model}
    {merged merged' : List SecondaryIndex × Option String}
    (h : mergeModel table first merged m = .ok merged') : merged.1 ⊆ merged'.1 :=
  foldlM_keeps (P := fun indexes => merged.1 ⊆ indexes)
    (fun _ _ _ _ hsubset hstep => List.Subset.trans hsubset (mergeIndex_subset hstep))
    (List.Subset.refl _) (mergeModel_indexes h)

theorem mergeModel_covers {table : String} {first m : Model}
    {merged merged' : List SecondaryIndex × Option String}
    (h : mergeModel table first merged m = .ok merged') {index : SecondaryIndex}
    (hindex : index ∈ m.indexes) : Covers merged'.1 index :=
  foldlM_brings (P := fun indexes => Covers indexes index) hindex
    (fun _ _ hstep => mergeIndex_covers hstep)
    (fun _ _ _ _ hcovers hstep => hcovers.mono (mergeIndex_subset hstep)) (mergeModel_indexes h)

theorem mergeModel_isComposite {table : String} {first m : Model}
    {merged merged' : List SecondaryIndex × Option String}
    (h : mergeModel table first merged m = .ok merged') :
    m.primaryKey.isComposite = first.primaryKey.isComposite := by
  unfold mergeModel at h
  exact not_not.mp (check_eq_ok.mp h).1

theorem mergeModel_ttl {table : String} {first m : Model}
    {merged merged' : List SecondaryIndex × Option String}
    (h : mergeModel table first merged m = .ok merged') :
    mergeTtl table merged.2 m.ttl = .ok merged'.2 := by
  unfold mergeModel at h
  obtain ⟨-, h⟩ := check_eq_ok.mp h
  obtain ⟨-, h⟩ := check_eq_ok.mp h
  obtain ⟨indexes, -, h⟩ := bind_eq_ok.mp h
  obtain ⟨ttl, httl, h⟩ := bind_eq_ok.mp h
  cases pure_eq_ok.mp h
  exact httl

/-- A merged TTL attribute is the one that was known, or else the model's, and a model that has
one agrees with it. -/
theorem mergeTtl_eq_ok {table : String} {known known' : Option String} {ttl : Option TimeToLive}
    (h : mergeTtl table known ttl = .ok known') :
    known' = known.or (ttl.map (·.column)) ∧ ∀ t, ttl = some t → known' = some t.column := by
  cases ttl with
  | none =>
    cases h
    exact ⟨(Option.or_none ..).symm, fun t ht => by cases ht⟩
  | some t =>
    cases known with
    | none =>
      cases h
      exact ⟨rfl, fun t' ht' => by cases ht'; rfl⟩
    | some column =>
      unfold mergeTtl at h
      dsimp only at h
      split at h
      · next hsame =>
        cases h
        exact ⟨rfl, fun t' ht' => by cases ht'; rw [hsame]⟩
      · cases h

/-! ## A whole table -/

namespace IsMergeOf

variable {b : Blueprint} {t : Table}

/-- Every model on the table keeps its key under the attributes of the table's. -/
theorem keyShape_eq (h : IsMergeOf b t) {m : Model} (hm : m ∈ b.modelsOn t) :
    keyShape m.primaryKey = keyShape t.primaryKey := by
  obtain ⟨first, -, hkey, hmerged⟩ := h
  obtain ⟨before, after, hstep⟩ := foldlM_visits hmerged hm
  rw [mergeModel_eq_ok hstep, hkey]

theorem isComposite_eq (h : IsMergeOf b t) {m : Model} (hm : m ∈ b.modelsOn t) :
    m.primaryKey.isComposite = t.primaryKey.isComposite := by
  obtain ⟨first, -, hkey, hmerged⟩ := h
  obtain ⟨before, after, hstep⟩ := foldlM_visits hmerged hm
  rw [mergeModel_isComposite hstep, hkey]

/-- Every index of a model is one of its table's, as far as name and shape go. -/
theorem covers (h : IsMergeOf b t) {m : Model} (hm : m ∈ b.modelsOn t) {index : SecondaryIndex}
    (hindex : index ∈ m.indexes) : Covers t.indexes index := by
  obtain ⟨first, -, -, hmerged⟩ := h
  exact foldlM_brings (P := fun merged => Covers merged.1 index) hm
    (fun _ _ hstep => mergeModel_covers hstep hindex)
    (fun _ _ _ _ hcovers hstep => hcovers.mono (mergeModel_subset hstep)) hmerged

/-- Every index of a table is declared by a model on it. -/
theorem exists_model (h : IsMergeOf b t) {index : SecondaryIndex} (hindex : index ∈ t.indexes) :
    ∃ m ∈ b.modelsOn t, index ∈ m.indexes := by
  obtain ⟨first, -, -, hmerged⟩ := h
  refine foldlM_keeps (P := fun merged => ∀ index ∈ merged.1, ∃ m ∈ b.modelsOn t, index ∈ m.indexes)
    ?_ (fun index hnone => by cases hnone) hmerged index hindex
  intro merged m merged' hm hdeclared hstep
  refine foldlM_keeps (P := fun indexes => ∀ index ∈ indexes, ∃ m ∈ b.modelsOn t, index ∈ m.indexes)
    ?_ hdeclared (mergeModel_indexes hstep)
  intro indexes added indexes' hadded hindexes hmerge index hindex
  rcases mem_mergeIndex hmerge hindex with hold | rfl
  · exact hindexes index hold
  · exact ⟨m, hm, hadded⟩

theorem indexNames_nodup (h : IsMergeOf b t) : (t.indexes.map (·.name)).Nodup := by
  obtain ⟨first, -, -, hmerged⟩ := h
  refine foldlM_keeps (P := fun merged => (merged.1.map (·.name)).Nodup) ?_ List.nodup_nil hmerged
  intro merged m merged' _ hdistinct hstep
  exact foldlM_keeps (P := fun indexes => (indexes.map (·.name)).Nodup)
    (fun _ _ _ _ hacc hmerge => mergeIndex_names_nodup hmerge hacc) hdistinct
    (mergeModel_indexes hstep)

/-- The items of a table expire by the attribute that any of its models names. -/
theorem ttlAttribute_eq (h : IsMergeOf b t) {m : Model} (hm : m ∈ b.modelsOn t) {ttl : TimeToLive}
    (httl : m.ttl = some ttl) : t.ttlAttribute = some ttl.column := by
  obtain ⟨first, -, -, hmerged⟩ := h
  refine foldlM_brings (P := fun merged => merged.2 = some ttl.column) hm
    (fun _ _ hstep => (mergeTtl_eq_ok (mergeModel_ttl hstep)).2 ttl httl) ?_ hmerged
  intro merged other merged' _ hknown hstep
  rw [(mergeTtl_eq_ok (mergeModel_ttl hstep)).1, hknown, Option.some_or]

/-- The attribute that a table expires items by is named by a model on it. -/
theorem exists_ttl (h : IsMergeOf b t) {column : String} (hcolumn : t.ttlAttribute = some column) :
    ∃ m ∈ b.modelsOn t, ∃ ttl, m.ttl = some ttl := by
  obtain ⟨first, -, -, hmerged⟩ := h
  refine foldlM_keeps (P := fun merged => ∀ column, merged.2 = some column →
    ∃ m ∈ b.modelsOn t, ∃ ttl, m.ttl = some ttl)
    ?_ (fun column hnone => by cases hnone) hmerged column hcolumn
  intro merged m merged' hm hnamed hstep column hcolumn
  cases httl : m.ttl with
  | some ttl => exact ⟨m, hm, ttl, httl⟩
  | none =>
    have hkept := (mergeTtl_eq_ok (mergeModel_ttl hstep)).1
    rw [httl, Option.map_none, Option.or_none] at hkept
    exact hnamed column (hkept ▸ hcolumn)

end IsMergeOf

/-! ## Accepted schemas -/

/-- Every table is built from the models that name it. -/
theorem exists_of_mem_buildTables {config : Config} {models : List (Model × TableOptions)}
    {tables : List Table} (h : buildTables config models = .ok tables) {t : Table}
    (ht : t ∈ tables) :
    ∃ first ∈ models.filter (·.1.table = t.name),
      buildTable config t.name first (models.filter (·.1.table = t.name)) = .ok t := by
  unfold buildTables at h
  obtain ⟨built, hbuilt, h⟩ := bind_eq_ok.mp h
  cases pure_eq_ok.mp h
  obtain ⟨entry, hmem, hentry⟩ := List.mem_filterMap.mp ht
  obtain ⟨table, -, hbuild⟩ := exists_of_mem_mapM hbuilt hmem
  dsimp only [id_eq] at hentry
  subst hentry
  split at hbuild
  · cases hbuild
  · next first rest hmembers =>
    obtain ⟨t', ht', hsame⟩ := map_eq_ok.mp hbuild
    cases hsame
    rw [(buildTable_eq_ok ht').name_eq, hmembers]
    exact ⟨first, List.mem_cons_self, ht'⟩

/-- Every table is merged from the models that name it. -/
theorem buildTables_merged {config : Config} {models : List (Model × TableOptions)}
    {tables : List Table} (h : buildTables config models = .ok tables) {t : Table}
    (ht : t ∈ tables) :
    ∃ first ∈ (models.map (·.1)).filter (·.table = t.name), t.primaryKey = first.primaryKey ∧
      ((models.map (·.1)).filter (·.table = t.name)).foldlM (mergeModel t.name first) ([], none) =
        .ok (t.indexes, t.ttlAttribute) := by
  obtain ⟨first, hfirst, hbuild⟩ := exists_of_mem_buildTables h ht
  have hbuilt := buildTable_eq_ok hbuild
  have hmodels : (models.map (·.1)).filter (·.table = t.name) =
      (models.filter (·.1.table = t.name)).map (·.1) := by
    rw [List.filter_map]
    rfl
  rw [hmodels]
  exact ⟨first.1, List.mem_map_of_mem hfirst, hbuilt.primaryKey_eq, hbuilt.merged⟩

theorem ofDocument_isMergeOf {config : Config} {document : Schema.Document} {b : Blueprint}
    (h : ofDocument config document = .ok b) {t : Table} (ht : t ∈ b.tables) : IsMergeOf b t := by
  obtain ⟨ds, built, -, -, hmodels, htables, -⟩ := ofDocument_eq_ok h
  have hlength : b.models.length ≤ (built.map (·.2)).length := by
    have hsame := (resolveHandlers_eq_ok hmodels).length_eq
    simp only [List.length_map] at hsame ⊢
    omega
  have hmerged := buildTables_merged htables ht
  rw [List.map_fst_zip hlength] at hmerged
  exact hmerged

theorem ofSchema_isMergeOf {config : Config} {text : String} {b : Blueprint}
    (h : ofSchema config text = .ok b) {t : Table} (ht : t ∈ b.tables) : IsMergeOf b t := by
  obtain ⟨document, -, h⟩ := ofSchema_eq_ok h
  exact ofDocument_isMergeOf h ht

end Keyspace.Blueprint
