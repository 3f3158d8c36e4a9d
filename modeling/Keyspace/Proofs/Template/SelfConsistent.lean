import Keyspace.Config.Reader
import Keyspace.Proofs.Template.Resolution
import Keyspace.Proofs.Text.VariableNames

/-!
# The generator's own wiring is consistent

Without globals every reference in a stack set was written by the generator. Whatever the
tables, models and handlers of an accepted schema are, each of them resolves and every nested
stack gets what it declares, so the checks find nothing: only a logical id that two tables
share can keep a blueprint from its stack set.
-/
namespace Keyspace

open Json Stacks Template

namespace Template

section Application

/-- The resource that deploys a nested stack, with what it forwards. -/
theorem forwardAll_application (location : String) {bindings : List (String × Json)}
    (h : bindings ≠ []) :
    forwardAll bindings ⟨applicationType, .obj [("Location", .str location)]⟩ =
      ⟨applicationType,
        .obj [("Location", .str location), ("Parameters", .obj (Dict.ofList bindings))]⟩ := by
  induction bindings using List.reverseRecOn with
  | nil => exact absurd rfl h
  | append_singleton bindings last ih =>
    have hlast : Dict.ofList (bindings ++ [last]) =
        Dict.insert (Dict.ofList bindings) last.1 last.2 := List.foldl_append
    rw [forwardAll_append, hlast]
    cases bindings with
    | nil => rfl
    | cons first rest =>
      rw [ih (List.cons_ne_nil first rest)]
      rfl

variable {scope : Reference → Prop}

/-- Forwarded values keep their meaning, as long as there are two of them. -/
theorem refersWithin_application {location : String} {bindings : List (String × Json)}
    (first second : String) (hfirst : first ∈ bindings.map (·.1))
    (hsecond : second ∈ bindings.map (·.1)) (hne : first ≠ second)
    (h : ∀ binding ∈ bindings, RefersWithin scope binding.2) :
    RefersWithin scope
      (forwardAll bindings ⟨applicationType, .obj [("Location", .str location)]⟩).properties := by
  have hsome : bindings ≠ [] := fun hempty => by
    rw [hempty] at hfirst
    cases hfirst
  have hforwarded : RefersWithin scope (.obj (Dict.ofList bindings)) := by
    refine refersWithin_obj (fun member hmember => absurd ?_ hne) fun member hmember =>
      h member (Dict.mem_of_mem_ofList hmember)
    rw [← Dict.mem_keys_ofList, hmember] at hfirst hsecond
    rw [List.mem_singleton.mp hfirst, List.mem_singleton.mp hsecond]
  rw [forwardAll_application location hsome]
  refine refersWithin_obj (fun member hmember => by simp at hmember) ?_
  simp [hforwarded]

end Application

theorem knowsPseudo_resolves (t : Template) : KnowsPseudo (t.resolves · = true) :=
  fun _ h => resolves_ref.mpr (Or.inl h)

/-- Without globals, references stand in resources and outputs only. -/
theorem resolved_of_refersWithin {t : Template}
    (hresources : ∀ entry ∈ (t.resources : List (String × Resource)),
      RefersWithin (t.resolves · = true) entry.2.properties)
    (houtputs : ∀ entry ∈ (t.outputs : List (String × Json)),
      RefersWithin (t.resolves · = true) entry.2)
    (hglobals : t.globals = none) :
    ∀ value ∈ t.referringValues, ∀ r ∈ value.references, t.resolves r = true := by
  intro value hvalue r hr
  rw [referringValues, hglobals, Option.toList_none, List.append_nil] at hvalue
  rw [mem_references] at hr
  rcases List.mem_append.mp hvalue with hvalue | hvalue
  · obtain ⟨resource, hresource, rfl⟩ := List.mem_map.mp hvalue
    obtain ⟨entry, hentry, rfl⟩ := List.mem_map.mp hresource
    exact hresources entry hentry r hr
  · obtain ⟨entry, hentry, rfl⟩ := List.mem_map.mp hvalue
    exact houtputs entry hentry r hr

section Nested

variable {config : Config} {b : Blueprint} {f : FunctionStack}

/-- What a function's nested stack is bound to in the end. -/
theorem mem_parameters_nested (hf : f ∈ FunctionStack.ofBlueprint b config) {name : String} :
    name ∈ (wiredStack config none f.nested).template.parameters.keys ↔
      name ∈ (f.bindings ++ wiredBindings config none f.nested).map (·.1) := by
  have hparameters := (FunctionStack.isFresh hf).parameters
  have hnested : name ∈ f.nested.template.parameters.keys ↔ name ∈ f.bindings.map (·.1) := by
    rw [FunctionStack.nested, bound, declareAll, mem_parameters_foldl, hparameters]
    exact or_iff_left List.not_mem_nil
  rw [mem_parameters_wiredStack, hnested, List.map_append, List.mem_append, or_comm]

theorem mem_wiredBindings {name : String} (n : NestedStack) :
    name ∈ (wiredBindings config none n).map (·.1) ↔
      name ∈ n.tables.map tableParameter ∨ name ∈ config.environment.map environmentParameter := by
  have hcarried : carriedBindings none = [] := rfl
  have htables : (tableBindings n.tables).map (·.1) = n.tables.map tableParameter :=
    List.map_map
  have hvalues : (environmentBindings config).map (·.1) =
      config.environment.map environmentParameter :=
    List.map_map.trans (List.map_id _)
  rw [wiredBindings, hcarried, List.nil_append, List.map_append, List.mem_append, htables, hvalues]

/-- The bindings that every function has: the event bus and its own table. -/
theorem bindings_of_function (hf : f ∈ FunctionStack.ofBlueprint b config) :
    eventBusParameter ∈ f.bindings.map (·.1) ∧ ∃ table, table ∈ f.stack.tables := by
  obtain ⟨t, ht, d, hd, rfl | ⟨m, hm, htable, h, hh, rfl⟩⟩ :=
    FunctionStack.mem_ofBlueprint.mp hf
  · exact ⟨by simp [FunctionStack.ofDispatcher], t.name, List.mem_singleton_self _⟩
  · exact ⟨by simp [FunctionStack.ofHandler], t.name, by simp [FunctionStack.ofHandler, handlerTables]⟩

theorem isParameterName_binding (hf : f ∈ FunctionStack.ofBlueprint b config) :
    ∀ binding ∈ f.bindings, IsParameterName binding.1 := by
  have hstream : IsParameterName streamParameter := ⟨by decide, by decide⟩
  have hbus : IsParameterName eventBusParameter := ⟨by decide, by decide⟩
  obtain ⟨t, ht, d, hd, rfl | ⟨m, hm, htable, h, hh, rfl⟩⟩ :=
    FunctionStack.mem_ofBlueprint.mp hf
  · simp [FunctionStack.ofDispatcher, hstream, hbus]
  · simp [FunctionStack.ofHandler, hbus]

theorem isClosed_nested (hwired : b.IsWired) (hsettled : b.HandlersSettled)
    (hnames : HasPlainNames config b) (hf : f ∈ FunctionStack.ofBlueprint b config) :
    (wiredStack config none f.nested).template.IsClosed := by
  have hfresh := FunctionStack.isFresh hf
  have hascii : ∀ table ∈ f.stack.tables, Text.IsAscii table.toList := fun table htable => by
    obtain ⟨t, ht, rfl⟩ := FunctionStack.exists_table hwired hsettled hf htable
    exact hnames.tableName t ht
  constructor
  case parametersNamed =>
    intro name hname
    rw [mem_parameters_nested hf, List.map_append, List.mem_append, mem_wiredBindings] at hname
    rcases hname with hname | hname | hname
    · obtain ⟨binding, hbinding, rfl⟩ := List.mem_map.mp hname
      exact isParameterName_binding hf binding hbinding
    · obtain ⟨table, htable, rfl⟩ := List.mem_map.mp hname
      exact isParameterName_tableParameter (hascii table htable)
    · obtain ⟨v, hv, rfl⟩ := List.mem_map.mp hname
      exact isParameterName_environmentParameter hnames hv
  case resolved =>
    have hdeclared {name : String}
        (hname : name ∈ (f.bindings ++ wiredBindings config none f.nested).map (·.1)) :
        (wiredStack config none f.nested).template.resolves (.ref name) = true :=
      resolves_ref.mpr (Or.inr (Or.inl ((mem_parameters_nested hf).mpr hname)))
    obtain ⟨hkeys, houtputs, hglobals⟩ := rest_wiredStack config f.nested
    obtain ⟨parameters, hbound⟩ := addStringParameters_eq (f.bindings.map (·.1)) f.stack.template
    have hnested : f.nested.template = { f.stack.template with parameters := parameters } := hbound
    rw [hnested] at hkeys houtputs hglobals
    have hqueue : KnowsQueue
        ((wiredStack config none f.nested).template.resolves · = true) := by
      have hresource : deadLetterQueueId ∈
          (wiredStack config none f.nested).template.resources.keys := by
        rw [hkeys]
        exact hfresh.queue
      exact ⟨resolves_ref.mpr (Or.inr (Or.inr hresource)), resolves_getAtt hresource⟩
    have htables : ∀ table ∈ f.stack.tables,
        (wiredStack config none f.nested).template.resolves (.ref (tableParameter table)) = true := by
      intro table htable
      refine hdeclared ?_
      rw [List.map_append, List.mem_append, mem_wiredBindings]
      exact Or.inr (Or.inl (List.mem_map_of_mem htable))
    have hstack : ResourcesWithin
        ((wiredStack config none f.nested).template.resolves · = true) f.stack.template := by
      refine FunctionStack.resourcesWithin hsettled hnames hf hqueue (fun binding hbinding => ?_)
        htables
      refine hdeclared ?_
      rw [List.map_append]
      exact List.mem_append_left _ (List.mem_map_of_mem hbinding)
    have hwithin : ResourcesWithin
        ((wiredStack config none f.nested).template.resolves · = true)
        (wiredStack config none f.nested).template := by
      refine resourcesWithin_wiredStack (hnested ▸ hstack) (refersWithin_tableNames hascii htables)
        (refersWithin_environmentValues hnames fun name hname => hdeclared ?_)
      rw [List.map_append, List.mem_append, mem_wiredBindings]
      exact Or.inr (Or.inr (List.mem_map_of_mem hname))
    refine resolved_of_refersWithin (fun entry hentry => (hwithin entry hentry).1)
      (fun entry hentry => ?_) (hglobals.trans hfresh.globals)
    rw [houtputs] at hentry
    change entry ∈ f.stack.template.outputs at hentry
    rw [hfresh.outputs] at hentry
    cases hentry

end Nested

section Root

variable {config : Config} {b : Blueprint} {root : Template}

/-- The error of a table whose logical id is taken. -/
theorem addTablesFrom_eq_some {tables : List Table} {root' : Template} {e : Error}
    (h : addTablesFrom b root tables = (root', some e)) :
    ∃ t ∈ tables, ∃ id ∈ [tableLogicalId t.name, keyLogicalId t.name],
      e = .schema s!"Table `{t.name}` maps to logical id `{id}`, which is already in use" := by
  induction tables generalizing root with
  | nil => cases h
  | cons t rest ih =>
    unfold addTablesFrom at h
    split at h
    · next id htaken =>
      cases h
      exact ⟨t, List.mem_cons_self, id, List.mem_of_find?_eq_some htaken, rfl⟩
    · obtain ⟨t', ht', hid⟩ := ih h
      exact ⟨t', List.mem_cons_of_mem _ ht', hid⟩

theorem addTables_eq_some {root' : Template} {e : Error}
    (h : addTables b root = (root', some e)) :
    ∃ t ∈ b.tables, ∃ id ∈ [tableLogicalId t.name, keyLogicalId t.name],
      e = .schema s!"Table `{t.name}` maps to logical id `{id}`, which is already in use" := by
  unfold addTables at h
  split at h
  · next htables =>
    cases h
    exact addTablesFrom_eq_some htables
  · cases h

/-- An output that names a resource. -/
def NamesResource (ids : List String) (output : Json) : Prop :=
  ∃ id ∈ ids, output = outputValue (.ref id) ∨
    ∃ attributeName, output = outputValue (.getAtt id attributeName)

theorem outputs_addTablesFrom {ids : List String} {tables : List Table}
    (hroot : ∀ entry ∈ (root.outputs : List (String × Json)), NamesResource ids entry.2)
    (htables : ∀ t ∈ tables, tableLogicalId t.name ∈ ids) :
    ∀ entry ∈ ((addTablesFrom b root tables).1.outputs : List (String × Json)),
      NamesResource ids entry.2 := by
  induction tables generalizing root with
  | nil => exact hroot
  | cons t rest ih =>
    have hid := htables t List.mem_cons_self
    unfold addTablesFrom
    split
    · exact hroot
    · refine ih (fun entry hentry => ?_) fun t ht => htables t (List.mem_cons_of_mem _ ht)
      have hname : NamesResource ids (outputValue (.ref (tableLogicalId t.name))) :=
        ⟨_, hid, Or.inl rfl⟩
      have hstream : NamesResource ids (outputValue (.getAtt (tableLogicalId t.name) "StreamArn")) :=
        ⟨_, hid, Or.inr ⟨_, rfl⟩⟩
      unfold addFreeTable at hentry
      dsimp only at hentry
      split at hentry
      · rcases Dict.mem_of_mem_insert hentry with rfl | hentry
        · exact hstream
        · rcases Dict.mem_of_mem_insert hentry with rfl | hentry
          · exact hname
          · exact hroot entry hentry
      · rcases Dict.mem_of_mem_insert hentry with rfl | hentry
        · exact hname
        · exact hroot entry hentry

/-- Every output of the root names a resource of it. -/
theorem outputs_addTables {root' : Template} (h : addTables b root = (root', none))
    (hempty : root.outputs = []) : ∀ entry ∈ (root'.outputs : List (String × Json)),
      NamesResource ((rootEntries b).map (·.1)) entry.2 := by
  have htables : ∀ entry ∈ ((addTablesFrom b root b.tables).1.outputs : List (String × Json)),
      NamesResource ((rootEntries b).map (·.1)) entry.2 :=
    outputs_addTablesFrom (by simp [hempty])
      fun t ht => List.mem_map_of_mem (table_mem_rootEntries ht)
  unfold addTables at h
  split at h
  · cases h
  · next root₁ hadded =>
    rw [hadded] at htables
    cases h
    split
    · next hhandlers =>
      intro entry hentry
      rcases Dict.mem_of_mem_insert hentry with rfl | hentry
      · refine ⟨eventBusId, List.mem_map_of_mem (mem_rootEntries.mpr (Or.inr ⟨?_, rfl⟩)), Or.inl rfl⟩
        exact List.any_eq_true.mp hhandlers
      · exact htables entry hentry
    · exact htables

theorem ordered_resources_foldl_addTo (fs : List FunctionStack) {s : Stacks}
    (h : s.root.resources.Ordered) : (fs.foldl FunctionStack.addTo s).root.resources.Ordered := by
  induction fs generalizing s with
  | nil => exact h
  | cons f rest ih =>
    refine ih (Dict.ordered_iff_keys.mpr ?_)
    rw [FunctionStack.addTo, (actsOn_bindParameters _ _).root, Dict.keys_modify]
    exact Dict.ordered_iff_keys.mp (h.insert _ _)

/-- What the root of a blueprint is before the nested stacks are added. -/
structure IsRootOf (config : Config) (b : Blueprint) (root : Template) : Prop where
  resources : root.resources = Dict.ofList (rootEntries b)
  parameters : root.parameters = config.parameters
  globals : root.globals = none
  outputs : ∀ entry ∈ (root.outputs : List (String × Json)),
    NamesResource ((rootEntries b).map (·.1)) entry.2

theorem isRootOf_addTables (hglobals : config.globals = none)
    (h : addTables b (startingRoot config) = (root, none)) : IsRootOf config b root := by
  obtain ⟨hresources, hparameters, -⟩ := addTables_eq_none h rfl
  refine ⟨hresources, hparameters, ?_, outputs_addTables h rfl⟩
  have hkept : (addTables b (startingRoot config)).1.globals = config.globals := globals_addTables
  rw [h] at hkept
  exact hkept.trans hglobals

theorem mem_resources_of_rootEntries (hroot : IsRootOf config b root) {id : String}
    (h : id ∈ (rootEntries b).map (·.1)) :
    id ∈ (assembled config b root).root.resources.keys := by
  rw [mem_resources_assembled, hroot.resources, Dict.mem_keys_ofList]
  exact Or.inl h

/-- A resource of the assembled root deploys a function or belongs to a table or the bus. -/
theorem resource_cases (hsound : b.IsSound) (hwired : b.IsWired) (hroot : IsRootOf config b root)
    {entry : String × Resource}
    (h : entry ∈ ((assembled config b root).root.resources : List (String × Resource))) :
    (∃ f ∈ FunctionStack.ofBlueprint b config, entry.1 = stackName f.function ∧
      entry.2 = forwardAll (f.bindings ++ wiredBindings config none f.nested)
        ⟨applicationType, .obj [("Location", .str (nestedLocation (stackName f.function)))]⟩) ∨
      entry ∈ rootEntries b := by
  have hdistinct : (assembled config b root).root.resources.keys.Nodup := by
    have hordered : root.resources.Ordered := by
      rw [hroot.resources]
      exact Dict.ordered_ofList _
    rw [(each_assembled config b root).resourceKeys]
    exact (ordered_resources_foldl_addTo _ (s := .new root) hordered).keys_nodup
  have hfound := Dict.get?_of_mem hdistinct h
  by_cases hnested : entry.1 ∈ (assembled config b root).nested.keys
  · obtain ⟨f, hf, hname⟩ := (mem_keys_assembled config b root).mp hnested
    rw [hname, resource_assembled hsound hwired root hf, hroot.globals] at hfound
    exact Or.inl ⟨f, hf, hname, (Option.some.inj hfound).symm⟩
  · rw [get?_assembled_of_not_mem config b root hnested, hroot.resources] at hfound
    exact Or.inr (Dict.mem_of_mem_ofList (Dict.mem_of_get? hfound))

theorem not_application_of_rootEntries {entry : String × Resource} (h : entry ∈ rootEntries b) :
    entry.2.type ≠ applicationType := by
  rcases mem_rootEntries.mp h with ⟨t, -, h⟩ | ⟨-, rfl⟩
  · rcases List.mem_cons.mp h with rfl | h
    · exact (by decide : "AWS::KMS::Key" ≠ applicationType)
    · rw [List.mem_singleton.mp h]
      exact (by decide : "AWS::DynamoDB::Table" ≠ applicationType)
  · exact (by decide : "AWS::Events::EventBus" ≠ applicationType)

/-- What the root forwards to a function is there in the root. -/
theorem refersWithin_binding (hwired : b.IsWired) (hsettled : b.HandlersSettled)
    (hroot : IsRootOf config b root) {f : FunctionStack}
    (hf : f ∈ FunctionStack.ofBlueprint b config) :
    ∀ binding ∈ f.bindings ++ wiredBindings config none f.nested,
      RefersWithin ((assembled config b root).root.resolves · = true) binding.2 := by
  have hresource {id : String} (h : id ∈ (rootEntries b).map (·.1)) :
      (assembled config b root).root.resolves (.ref id) = true :=
    resolves_ref.mpr (Or.inr (Or.inr (mem_resources_of_rootEntries hroot h)))
  have htable {t : Table} (ht : t ∈ b.tables) :
      tableLogicalId t.name ∈ (rootEntries b).map (·.1) :=
    List.mem_map_of_mem (table_mem_rootEntries ht)
  have hbus : eventBusId ∈ (rootEntries b).map (·.1) :=
    List.mem_map_of_mem (mem_rootEntries.mpr (Or.inr ⟨exists_hasHandlers hf, rfl⟩))
  have hown : ∀ binding ∈ f.bindings,
      RefersWithin ((assembled config b root).root.resolves · = true) binding.2 := by
    obtain ⟨t, ht, d, hd, rfl | ⟨m, hm, hname, h, hh, rfl⟩⟩ :=
      FunctionStack.mem_ofBlueprint.mp hf
    · have hstream := resolves_getAtt (mem_resources_of_rootEntries hroot (htable ht)) "StreamArn"
      simp [FunctionStack.ofDispatcher, hstream, hresource hbus]
    · simp [FunctionStack.ofHandler, hresource hbus]
  have hpasses : wiredBindings config none f.nested =
      tableBindings f.stack.tables ++ environmentBindings config := rfl
  rw [hpasses]
  refine List.forall_mem_append.mpr ⟨hown, List.forall_mem_append.mpr ⟨?_, ?_⟩⟩
  · refine List.forall_mem_map.mpr fun table hmem => (refersWithin_ref _).mpr ?_
    obtain ⟨t, ht, rfl⟩ := FunctionStack.exists_table hwired hsettled hf hmem
    exact hresource (htable ht)
  · refine List.forall_mem_map.mpr fun parameter hmem => (refersWithin_ref _).mpr ?_
    refine resolves_ref.mpr (Or.inr (Or.inl ?_))
    exact (mem_parameters_assembled config b root).mpr (Or.inl hmem)

theorem isClosed_root (hsound : b.IsSound) (hwired : b.IsWired) (hsettled : b.HandlersSettled)
    (hnames : HasPlainNames config b) (hroot : IsRootOf config b root) :
    (assembled config b root).root.IsClosed := by
  have heach := each_assembled config b root
  obtain ⟨resources, hadded⟩ := FunctionStack.root_foldl_addTo
    (FunctionStack.ofBlueprint b config) (.new root)
  constructor
  case parametersNamed =>
    intro name hname
    rw [mem_parameters_assembled, hroot.parameters] at hname
    rcases hname with hname | hname
    · obtain ⟨v, hv, rfl⟩ := List.mem_map.mp hname
      exact isParameterName_environmentParameter hnames hv
    · exact hnames.parameterName name hname
  case resolved =>
    have hresource {id : String} (h : id ∈ (rootEntries b).map (·.1)) :
        (assembled config b root).root.resolves (.ref id) = true :=
      resolves_ref.mpr (Or.inr (Or.inr (mem_resources_of_rootEntries hroot h)))
    refine resolved_of_refersWithin (fun entry hentry => ?_) (fun entry hentry => ?_) ?_
    · rcases resource_cases hsound hwired hroot hentry with ⟨f, hf, -, hdeployed⟩ | hentry
      · obtain ⟨hbus, table, htable⟩ := bindings_of_function hf
        have hbound : tableParameter table ∈ (wiredBindings config none f.nested).map (·.1) :=
          (mem_wiredBindings f.nested).mpr (Or.inl (List.mem_map_of_mem htable))
        rw [hdeployed]
        refine refersWithin_application eventBusParameter (tableParameter table) ?_ ?_
          (tableParameter_ne_eventBusParameter table).symm
          (refersWithin_binding hwired hsettled hroot hf)
        · rw [List.map_append]
          exact List.mem_append_left _ hbus
        · rw [List.map_append]
          exact List.mem_append_right _ hbound
      · rcases mem_rootEntries.mp hentry with ⟨t, ht, hown⟩ | ⟨-, rfl⟩
        · rcases List.mem_cons.mp hown with rfl | hown
          · exact refersWithin_keyResource (knowsPseudo_resolves _) t
          · rw [List.mem_singleton.mp hown]
            exact refersWithin_tableResource
              (hresource (List.mem_map_of_mem (key_mem_rootEntries ht)))
        · exact refersWithin_eventBus (knowsPseudo_resolves _)
    · rw [heach.outputs, hadded] at hentry
      obtain ⟨id, hid, hvalue⟩ := hroot.outputs entry hentry
      have hplain (value : Json)
          (h : RefersWithin ((assembled config b root).root.resolves · = true) value) :
          RefersWithin ((assembled config b root).root.resolves · = true) (outputValue value) := by
        refine refersWithin_obj (fun member hmember => ?_) fun member hmember => ?_
        · cases hmember
          exact (by decide : "Value" ∉ intrinsicKeys)
        · rw [List.mem_singleton.mp hmember]
          exact h
      rcases hvalue with hvalue | ⟨attributeName, hvalue⟩
      · rw [hvalue]
        exact hplain _ ((refersWithin_ref _).mpr (hresource hid))
      · rw [hvalue]
        exact hplain _ ((refersWithin_getAtt _ _).mpr
          (resolves_getAtt (mem_resources_of_rootEntries hroot hid) attributeName))
    · rw [heach.globals, hadded]
      exact hroot.globals

end Root

section Whole

variable {config : Config} {b : Blueprint} {root : Template}

theorem isDeployedBy_function (hf : f ∈ FunctionStack.ofBlueprint b config) :
    (wiredStack config none f.nested).IsDeployedBy (stackName f.function)
      (forwardAll (f.bindings ++ wiredBindings config none f.nested)
        ⟨applicationType, .obj [("Location", .str (nestedLocation (stackName f.function)))]⟩) := by
  have hsome : f.bindings ++ wiredBindings config none f.nested ≠ [] := fun hempty => by
    obtain ⟨hbus, -⟩ := bindings_of_function hf
    rw [(List.append_eq_nil_iff.mp hempty).1] at hbus
    cases hbus
  rw [forwardAll_application _ hsome]
  refine ⟨rfl, rfl, fun parameter => ?_⟩
  rw [mem_parameters_nested hf, ← Dict.mem_keys_ofList]
  rfl

/-- A stack set without globals is consistent as it is put together. -/
theorem isConsistent_assembled (hsound : b.IsSound) (hwired : b.IsWired)
    (hsettled : b.HandlersSettled) (hnames : HasPlainNames config b)
    (hroot : IsRootOf config b root) : (assembled config b root).IsConsistent := by
  constructor
  case root => exact isClosed_root hsound hwired hsettled hnames hroot
  case nested =>
    intro entry hentry
    have hdistinct : (assembled config b root).nested.keys.Nodup := by
      rw [(each_assembled config b root).nestedKeys]
      exact keys_nodup_added config b root
    obtain ⟨f, hf, hname⟩ :=
      (mem_keys_assembled config b root).mp (List.mem_map_of_mem hentry)
    have hstack := Dict.get?_of_mem hdistinct hentry
    have hresource := resource_assembled hsound hwired root hf
    rw [hname, nested_assembled hsound hwired root hf, hroot.globals] at hstack
    rw [hroot.globals] at hresource
    rw [← Option.some.inj hstack, hname]
    exact ⟨isClosed_nested hwired hsettled hnames hf, _, hresource, isDeployedBy_function hf⟩
  case applications =>
    intro entry hentry
    obtain ⟨⟨id, r⟩, hresource, htype⟩ := List.mem_filterMap.mp hentry
    dsimp only at htype
    split at htype
    · next happlication =>
      cases htype
      rcases resource_cases hsound hwired hroot hresource with ⟨f, hf, hname, -⟩ | hown
      · exact Dict.mem_keys_iff.mp ((mem_keys_assembled config b root).mpr ⟨f, hf, hname⟩)
      · exact absurd happlication (not_application_of_rootEntries hown)
    · cases htype

end Whole

end Template

section Accepted

open Keyspace.Result

/-- The variables of an accepted configuration are written in capitals. -/
theorem isVariableName_of_parse {yaml : String} {config : Config}
    (h : Config.parse yaml = .ok config) :
    ∀ name ∈ config.environment, Config.isVariableName name = true := by
  unfold Config.parse at h
  split at h
  · cases h
    intro name hname
    cases hname
  · split at h
    · next read hread =>
      unfold Config.validate at h
      obtain ⟨-, h⟩ := check_eq_ok.mp h
      cases hbad : read.environment.find? fun name => !Config.isVariableName name with
      | some name =>
        dsimp only at h
        rw [hbad] at h
        cases h
      | none =>
        dsimp only at h
        rw [hbad] at h
        have hsame : read = config := by
          cases hread : read.globals with
          | none =>
            rw [hread] at h
            exact pure_eq_ok.mp h
          | some value =>
            rw [hread] at h
            cases value with
            | obj members => exact pure_eq_ok.mp h
            | _ => cases h
        intro name hname
        rw [← hsame] at hname
        simpa using List.find?_eq_none.mp hbad name hname
    · cases h

theorem chars_of_isVariableName {name : String} (h : Config.isVariableName name = true) :
    ∀ c ∈ name.toList, c.isAlphanum = true ∨ c = '_' :=
  fun c hc => (Text.capitals_of_isVariableName h c hc).imp_left fun hcapital => hcapital.isAlphanum

variable {config : Config} {b : Blueprint}

/-- For an accepted schema whose tables have ASCII names and an accepted configuration without
globals, whose parameters are named by letters and digits and whose variables have a letter or
digit in their names, the generator finds no fault with its own stack set: it gives one that is
consistent, unless two tables share a logical id. -/
theorem consistent_or_taken {yaml text : String} (hconfig : Config.parse yaml = .ok config)
    (hb : Blueprint.ofSchema config text = .ok b) (hglobals : config.globals = none)
    (htables : ∀ t ∈ b.tables, ∀ c ∈ t.name.toList, c.toNat < 128)
    (hparameters : ∀ name ∈ config.parameters.keys,
      name.isEmpty = false ∧ name.toList.all Char.isAlphanum = true)
    (hvariables : ∀ name ∈ config.environment, ∃ c ∈ name.toList, c.isAlphanum = true) :
    (∃ s, Stacks.ofBlueprint config b = .ok s ∧ s.IsConsistent) ∨
      ∃ t ∈ b.tables, ∃ id ∈ [tableLogicalId t.name, keyLogicalId t.name],
        Stacks.ofBlueprint config b = .error (.schema
          s!"Table `{t.name}` maps to logical id `{id}`, which is already in use") := by
  have hnames : HasPlainNames config b := ⟨htables, hparameters, fun name hname =>
    ⟨chars_of_isVariableName (isVariableName_of_parse hconfig name hname), hvariables name hname⟩⟩
  cases hroot : addTables b (startingRoot config) with
  | mk root error =>
    cases error with
    | some e =>
      obtain ⟨t, ht, id, hid, rfl⟩ := addTables_eq_some hroot
      refine Or.inr ⟨t, ht, id, hid, ?_⟩
      unfold Stacks.ofBlueprint
      rw [hroot]
      rfl
    | none =>
      have hconsistent := isConsistent_assembled (Blueprint.ofSchema_isSound hb)
        (Blueprint.ofSchema_isWired hb) (Blueprint.ofSchema_handlersSettled hb) hnames
        (isRootOf_addTables hglobals hroot)
      have hcheck := check_eq_ok_iff.mpr hconsistent
      refine Or.inl ⟨assembled config b root, ?_, hconsistent⟩
      unfold Stacks.ofBlueprint
      rw [hroot]
      unfold assembled at hcheck ⊢
      rw [← FunctionStack.addFunctions_eq] at hcheck ⊢
      show (Stacks.check _ >>= fun _ => pure _) = _
      rw [hcheck]
      rfl

end Accepted

open ReactorExample in
/-- A variable may even take the name of the stream's parameter. -/
theorem stream_variable_is_consistent :
    Config.parse "environment: [STREAM_ARN]" = .ok (withVariable "STREAM_ARN") ∧
    Blueprint.ofSchema (withVariable "STREAM_ARN") schema = .ok blueprint ∧
    (withVariable "STREAM_ARN").globals = none ∧
    (∀ t ∈ blueprint.tables, ∀ c ∈ t.name.toList, c.toNat < 128) ∧
    (∀ name ∈ (withVariable "STREAM_ARN").parameters.keys,
      name.isEmpty = false ∧ name.toList.all Char.isAlphanum = true) ∧
    (∀ name ∈ (withVariable "STREAM_ARN").environment, ∃ c ∈ name.toList, c.isAlphanum = true) ∧
    ∃ s, Stacks.ofBlueprint (withVariable "STREAM_ARN") blueprint = .ok s ∧ s.IsConsistent := by
  have hschema := ofSchema_schema "STREAM_ARN"
  have htables : ∀ t ∈ blueprint.tables, ∀ c ∈ t.name.toList, c.toNat < 128 := by
    intro t ht c hc
    rw [List.mem_singleton.mp ht] at hc
    rw [List.mem_singleton.mp hc]
    decide
  have hparameters : ∀ name ∈ (withVariable "STREAM_ARN").parameters.keys,
      name.isEmpty = false ∧ name.toList.all Char.isAlphanum = true := fun name hname => by
    cases hname
  have hvariables : ∀ name ∈ (withVariable "STREAM_ARN").environment,
      ∃ c ∈ name.toList, c.isAlphanum = true := fun name hname => by
    rw [List.mem_singleton.mp hname]
    exact ⟨'S', by decide, by decide⟩
  refine ⟨parse_variable, hschema, rfl, htables, hparameters, hvariables, ?_⟩
  obtain ⟨s, hs⟩ := exists_stacks.1
  rcases consistent_or_taken parse_variable hschema rfl htables hparameters hvariables with
    h | ⟨t, -, id, -, herror⟩
  · exact h
  · rw [hs] at herror
    cases herror

end Keyspace
