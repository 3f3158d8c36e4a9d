import Keyspace.Proofs.Blueprint.Handlers
import Keyspace.Proofs.Template.ResourceReferences

/-!
# References of wired stacks resolve

A nested template is given every parameter that its functions name, and the root has every
resource that it forwards. What follows is one fact for each kind of value the passes write.
-/
namespace Keyspace.Template

open Json Stacks

section Names

theorem isParameterName_of_pascalCase (lead : String) {name : String} (hascii : Text.IsAscii name.toList)
    (hlead : lead.toList.all Char.isAlphanum = true)
    (hne : lead.isEmpty = false ∨ ∃ c ∈ name.toList, c.isAlphanum = true) :
    IsParameterName (lead ++ Text.pascalCase name) := by
  constructor
  · rw [Bool.eq_false_iff]
    intro hempty
    rw [String.isEmpty_iff] at hempty
    obtain ⟨hlead, hname⟩ := String.append_eq_empty_iff.mp hempty
    rcases hne with hne | hne
    · rw [hlead] at hne
      cases hne
    · have hfull := Text.pascalCase_isEmpty hascii hne
      rw [hname] at hfull
      cases hfull
  · rw [String.toList_append, List.all_append, hlead, Text.all_isAlphanum_pascalCase hascii]
    rfl

theorem isParameterName_tableParameter {table : String} (hascii : Text.IsAscii table.toList) :
    IsParameterName (tableParameter table) :=
  isParameterName_of_pascalCase "Table" hascii (by decide) (Or.inl (by decide))

end Names

section Variables

variable {scope : Reference → Prop}

/-- Every resource refers within the scope, and the variables of functions may be set. -/
def ResourcesWithin (scope : Reference → Prop) (t : Template) : Prop :=
  ∀ entry ∈ (t.resources : List (String × Resource)), RefersWithin scope entry.2.properties ∧
    (entry.2.type = functionType → PlainAlong scope variablesPath entry.2.properties)

theorem ResourcesWithin.addResource {t : Template} {id : String} {r : Resource}
    (h : ResourcesWithin scope t) (hr : RefersWithin scope r.properties)
    (hfunction : r.type = functionType → PlainAlong scope variablesPath r.properties) :
    ResourcesWithin scope (t.addResource id r) := by
  intro entry hentry
  rcases Dict.mem_of_mem_insert hentry with rfl | hentry
  · exact ⟨hr, hfunction⟩
  · exact h entry hentry

theorem ResourcesWithin.setFunctionVariable {t : Template} {name : String} {value : Json}
    (h : ResourcesWithin scope t) (hname : name ∉ intrinsicKeys)
    (hvalue : RefersWithin scope value) :
    ResourcesWithin scope (t.setFunctionVariable name value) := by
  intro entry hentry
  obtain ⟨old, hold, rfl⟩ := List.mem_map.mp hentry
  obtain ⟨hrefers, hplain⟩ := h old hold
  dsimp only
  split
  · next hfunction =>
    have hset := (hplain hfunction).updateMember
      (f := fun environment => environment.updateMember "Variables" fun vars =>
        vars.setMember name value)
      (by decide) fun environment henvironment =>
        henvironment.updateMember (by decide) fun vars hvars => hvars.setMember hname hvalue
    exact ⟨hset.isPlain.refersWithin, fun _ => hset⟩
  · next hother => exact ⟨hrefers, hplain⟩

theorem keys_setFunctionVariable (t : Template) (name : String) (value : Json) :
    (t.setFunctionVariable name value).resources.keys = t.resources.keys := by
  unfold setFunctionVariable Dict.keys Dict.mapValues
  rw [List.map_map]
  rfl

end Variables

section Wired

variable {config : Config} {n : NestedStack}

/-- What the passes make of a nested template when there are no globals. -/
theorem template_wiredStack : (wiredStack config none n).template =
    publishing config (((environmentBindings config).map (·.1)).foldl addStringParameter
      ((((tableBindings n.tables).map (·.1)).foldl addStringParameter
        n.template).setFunctionVariable "TABLE_NAMES" (tableNames n.tables))) := rfl

theorem mem_parameters_wiredStack {name : String} :
    name ∈ (wiredStack config none n).template.parameters.keys ↔
      name ∈ (wiredBindings config none n).map (·.1) ∨ name ∈ n.template.parameters.keys := by
  have hpublishing (t : Template) : (publishing config t).parameters = t.parameters := by
    unfold publishing
    split <;> rfl
  have htables (t : Template) (value : Json) :
      (t.setFunctionVariable "TABLE_NAMES" value).parameters = t.parameters := rfl
  have hcarried : carriedBindings none = [] := rfl
  rw [template_wiredStack, hpublishing, mem_parameters_foldl, htables, mem_parameters_foldl,
    wiredBindings, hcarried, List.nil_append, List.map_append, List.mem_append]
  tauto

/-- Up to its parameters, a template is changed by the variables that are set only. -/
theorem template_wiredStack_eq (config : Config) (n : NestedStack) :
    ∃ named published, (wiredStack config none n).template = publishing config
      { setFunctionVariable { n.template with parameters := named } "TABLE_NAMES"
          (tableNames n.tables) with parameters := published } := by
  obtain ⟨named, hnamed⟩ :=
    addStringParameters_eq ((tableBindings n.tables).map (·.1)) n.template
  rw [template_wiredStack, hnamed]
  obtain ⟨published, hpublished⟩ := addStringParameters_eq ((environmentBindings config).map (·.1))
    (setFunctionVariable { n.template with parameters := named } "TABLE_NAMES" (tableNames n.tables))
  exact ⟨named, published, congrArg (publishing config) hpublished⟩

theorem rest_wiredStack (config : Config) (n : NestedStack) :
    (wiredStack config none n).template.resources.keys = n.template.resources.keys ∧
      (wiredStack config none n).template.outputs = n.template.outputs ∧
      (wiredStack config none n).template.globals = n.template.globals := by
  obtain ⟨named, published, htemplate⟩ := template_wiredStack_eq config n
  have hkeys := keys_setFunctionVariable n.template "TABLE_NAMES" (tableNames n.tables)
  rw [htemplate]
  unfold publishing
  split
  · exact ⟨hkeys, rfl, rfl⟩
  · exact ⟨(keys_setFunctionVariable _ _ _).trans hkeys, rfl, rfl⟩

theorem resourcesWithin_wiredStack {scope : Reference → Prop}
    (h : ResourcesWithin scope n.template) (htables : RefersWithin scope (tableNames n.tables))
    (hvalues : RefersWithin scope (environmentValues config)) :
    ResourcesWithin scope (wiredStack config none n).template := by
  obtain ⟨named, published, htemplate⟩ := template_wiredStack_eq config n
  have hset : ResourcesWithin scope (setFunctionVariable { n.template with parameters := named }
      "TABLE_NAMES" (tableNames n.tables)) :=
    ResourcesWithin.setFunctionVariable (t := { n.template with parameters := named }) h
      (by decide) htables
  rw [htemplate]
  unfold publishing
  split
  · exact hset
  · exact ResourcesWithin.setFunctionVariable hset (by decide) hvalues

end Wired

/-- The names of tables, parameters and variables from which parameter names are derived. -/
structure HasPlainNames (config : Config) (b : Blueprint) : Prop where
  tableName : ∀ t ∈ b.tables, Text.IsAscii t.name.toList
  parameterName : ∀ name ∈ config.parameters.keys, IsParameterName name
  variableName : ∀ name ∈ config.environment, (∀ c ∈ name.toList, c.isAlphanum = true ∨ c = '_') ∧
    ∃ c ∈ name.toList, c.isAlphanum = true

section Function

variable {config : Config} {b : Blueprint} {scope : Reference → Prop}

theorem isParameterName_of_chars {name : String}
    (hchars : ∀ c ∈ name.toList, c.isAlphanum = true ∨ c = '_')
    (hsome : ∃ c ∈ name.toList, c.isAlphanum = true) :
    IsParameterName (environmentParameter name) := by
  have hascii : Text.IsAscii name.toList := fun c hc => by
    rcases hchars c hc with halnum | rfl
    · exact Text.toNat_lt_of_isAlphanum halnum
    · decide
  have hparameter := isParameterName_of_pascalCase "" hascii (by decide) (Or.inr hsome)
  rwa [String.empty_append] at hparameter

theorem isParameterName_environmentParameter (hnames : HasPlainNames config b) {name : String}
    (hname : name ∈ config.environment) : IsParameterName (environmentParameter name) := by
  obtain ⟨hchars, hsome⟩ := hnames.variableName name hname
  exact isParameterName_of_chars hchars hsome

/-- The variable of a table has letters, digits and underscores only. -/
theorem mem_tableVariable {table : String} (hascii : Text.IsAscii table.toList) {c : Char}
    (hc : c ∈ (tableVariable table).toList) : c.isAlphanum = true ∨ c = '_' := by
  rw [tableVariable, String.toList_append] at hc
  rcases List.mem_append.mp hc with hc | hc
  · have hlead : "TABLE_".toList.all (fun c => c.isAlphanum || c == '_') = true := by decide
    simpa using List.all_eq_true.mp hlead c hc
  · exact Text.mem_screamingSnakeCase hascii hc

theorem refersWithin_tableNames {tables : List String}
    (hascii : ∀ table ∈ tables, Text.IsAscii table.toList)
    (h : ∀ table ∈ tables, scope (.ref (tableParameter table))) :
    RefersWithin scope (tableNames tables) := by
  unfold tableNames
  exact refersWithin_mapVariable
    (List.forall_mem_map.mpr fun table htable _ hc => mem_tableVariable (hascii table htable) hc)
    (List.forall_mem_map.mpr fun table htable => isParameterName_tableParameter (hascii table htable))
    (List.forall_mem_map.mpr h)

theorem refersWithin_environmentValues (hnames : HasPlainNames config b)
    (h : ∀ name ∈ config.environment, scope (.ref (environmentParameter name))) :
    RefersWithin scope (environmentValues config) := by
  unfold environmentValues
  rw [← List.map_prod_left_eq_zip]
  exact refersWithin_mapVariable
    (List.forall_mem_map.mpr fun name hname => (hnames.variableName name hname).1)
    (List.forall_mem_map.mpr fun name hname => isParameterName_environmentParameter hnames hname)
    (List.forall_mem_map.mpr h)

theorem resourcesWithin_serverless (description : String) :
    ResourcesWithin scope (serverless description) := fun entry hentry => by cases hentry

/-- The template of a dispatcher, before anything is bound. -/
theorem resourcesWithin_dispatcherTemplate (config : Config) (t : Table) (d : Dispatcher)
    (hqueue : KnowsQueue scope) (hstream : scope (.ref streamParameter))
    (hbus : scope (.ref eventBusParameter)) :
    ResourcesWithin scope (dispatcherTemplate config t d) := by
  have hfunction := plainAlong_dispatcherFunction config d hqueue hstream hbus
  refine ((resourcesWithin_serverless _).addResource refersWithin_deadLetterQueue
    fun htype => ?_).addResource hfunction.isPlain.refersWithin fun _ => hfunction
  exact absurd htype (by decide)

/-- The template of a handler, before anything is bound. -/
theorem resourcesWithin_handlerTemplate (config : Config) {t : Table} {h : ChangeHandler}
    (hsource : Schema.IsReadableName h.source) (hname : IsParameterName (tableParameter t.name))
    (hqueue : KnowsQueue scope) (hbus : scope (.ref eventBusParameter))
    (htables : ∀ table ∈ handlerTables t h, scope (.ref (tableParameter table))) :
    ResourcesWithin scope (handlerTemplate config t h) := by
  have hfunction := plainAlong_handlerFunction config hsource hname hqueue hbus htables
  refine (((resourcesWithin_serverless _).addResource refersWithin_deadLetterQueue
    fun htype => ?_).addResource (refersWithin_deadLetterPolicy hqueue) fun htype => ?_).addResource
      hfunction.isPlain.refersWithin fun _ => hfunction
  · exact absurd htype (by decide)
  · exact absurd htype (by decide)

/-- The template of a function before anything is bound: it declares nothing, and refers to
what it will be bound to. -/
structure FunctionStack.IsFresh (f : FunctionStack) : Prop where
  parameters : f.stack.template.parameters = []
  outputs : f.stack.template.outputs = []
  globals : f.stack.template.globals = none
  queue : deadLetterQueueId ∈ f.stack.template.resources.keys

theorem FunctionStack.isFresh {f : FunctionStack} (hf : f ∈ ofBlueprint b config) :
    f.IsFresh := by
  obtain ⟨t, ht, d, hd, rfl | ⟨m, hm, htable, h, hh, rfl⟩⟩ := mem_ofBlueprint.mp hf
  · refine ⟨rfl, rfl, rfl, ?_⟩
    exact Dict.mem_keys_insert.mpr (Or.inr (Dict.mem_keys_insert.mpr (Or.inl rfl)))
  · refine ⟨rfl, rfl, rfl, ?_⟩
    exact Dict.mem_keys_insert.mpr (Or.inr (Dict.mem_keys_insert.mpr (Or.inr
      (Dict.mem_keys_insert.mpr (Or.inl rfl)))))

/-- Every function works on tables of the blueprint. -/
theorem FunctionStack.exists_table {f : FunctionStack} (hwired : b.IsWired)
    (hsettled : b.HandlersSettled) (hf : f ∈ ofBlueprint b config) {table : String}
    (htable : table ∈ f.stack.tables) : ∃ t ∈ b.tables, t.name = table := by
  rcases (touches_iff config hwired).mpr ⟨f, hf, htable⟩ with ⟨t, ht, -, rfl⟩ | ⟨h, hh, htable⟩
  · exact ⟨t, ht, rfl⟩
  · exact htable.elim (hsettled.readable h hh table) (hsettled.writable h hh table)

/-- A function refers to its queue and to what its stack is bound to. -/
theorem FunctionStack.resourcesWithin {f : FunctionStack}
    (hsettled : b.HandlersSettled) (hnames : HasPlainNames config b)
    (hf : f ∈ ofBlueprint b config) (hqueue : KnowsQueue scope)
    (hbindings : ∀ binding ∈ f.bindings, scope (.ref binding.1))
    (htables : ∀ table ∈ f.stack.tables, scope (.ref (tableParameter table))) :
    ResourcesWithin scope f.stack.template := by
  obtain ⟨t, ht, d, hd, rfl | ⟨m, hm, htable, h, hh, rfl⟩⟩ := mem_ofBlueprint.mp hf
  · exact resourcesWithin_dispatcherTemplate config t d hqueue
      (hbindings _ List.mem_cons_self) (hbindings _ (List.mem_cons_of_mem _ List.mem_cons_self))
  · have hhandler : h ∈ b.handlers := List.mem_flatMap.mpr ⟨m, hm, hh⟩
    exact resourcesWithin_handlerTemplate config (hsettled.source h hhandler)
      (isParameterName_tableParameter (hnames.tableName t ht)) hqueue
      (hbindings _ List.mem_cons_self) htables

end Function

end Keyspace.Template
