import Keyspace.Proofs.Template.PublishedTables
import Keyspace.Proofs.Template.SelfConsistent
import Keyspace.Proofs.Text.VariableNames

/-!
# Values told to functions

Every configured variable is carried by a parameter of the root that is forwarded to all nested
stacks, and the functions read the values from one text under the variables' own names. The
parameters are named in pascal case, which forgets some of the underscores. So all values arrive,
whatever they are, exactly if no two variables differ in such underscores only.
-/
namespace Keyspace

open Text CutText Stacks Template

/-- A text that stands in JSON as it is. -/
def IsPlainText (text : String) : Prop := ∀ c ∈ text.toList, Json.IsPlainChar c

theorem isPlainText_ite (p : Prop) [Decidable p] : IsPlainText (if p then "a" else "b") := by
  split
  · intro c hc
    rw [List.mem_singleton.mp hc]
    exact ⟨by decide, by decide, by decide⟩
  · intro c hc
    rw [List.mem_singleton.mp hc]
    exact ⟨by decide, by decide, by decide⟩

/-- A process whose variable has the text reads `value` under `name`, if it can read the names
of its tables. -/
def ReadsValue (text name value : String) : Prop :=
  ∀ (e : Environment) (lookup : String → Option String) (tables : Dict String),
    e.isUnpacked = false → lookup Environment.variablesVariable = some text →
    Environment.readTexts Environment.tableNamesVariable
      (lookup Environment.tableNamesVariable) = .ok tables →
    ∃ e', e.unpack lookup = .ok (true, e') ∧ e'.value name = .ok value

namespace Stacks

/-- A parameter of the root is handed on to a nested stack under its own name. -/
structure HandsOn (s : Stacks) (stack : String) (n : NestedStack) (parameter : String) : Prop where
  root : parameter ∈ s.root.parameters.keys
  nested : parameter ∈ n.template.parameters.keys
  forwarded : ∀ r, s.root.resources.get? stack = some r →
    r.forwarded.get? parameter = some (.ref parameter)

/-- The values can be given to the root's parameters, and the functions read them there. -/
structure CarriesValues (config : Config) (s : Stacks) (values : String → String) : Prop where
  assignable : ∃ value : String → String,
    ∀ v ∈ config.environment, value (environmentParameter v) = values v
  handedOn : ∀ stack n, s.nested.get? stack = some n → ∀ v ∈ config.environment,
    s.HandsOn stack n (environmentParameter v)
  read : ∀ value : String → String,
    (∀ v ∈ config.environment, value (environmentParameter v) = values v) →
    ∀ stack n, s.nested.get? stack = some n →
    ∀ id r, n.template.resources.get? id = some r → r.type = functionType →
    ∀ v ∈ config.environment, ∃ text,
      r.published? Environment.variablesVariable = some (.sub text) ∧
        ReadsValue (fillText value text) v (values v)

/-! ## The text of the values -/

/-- A text that is read as entries gives the value of each of them. -/
theorem readsValue_of_readTexts {text name value : String} {entries : Dict String}
    (hread : Environment.readTexts Environment.variablesVariable (some text) = .ok entries)
    (hkeys : entries.keys.Nodup) (hentry : entries.get? name = some value) :
    ReadsValue text name value := by
  intro e lookup tables hunread htext htables
  have hunpacked := Environment.unpack_eq hunread htables (by rw [htext]; exact hread)
  have hfound : Dict.get? (Dict.union e.values entries) name = some value := by
    refine Dict.get?_union_of_agree ⟨_, Dict.mem_of_get? hentry, rfl⟩ fun entry hmem hname => ?_
    have hsame := Dict.get?_of_mem hkeys hmem
    rw [hname, hentry] at hsame
    exact (Option.some.inj hsame).symm
  refine ⟨_, hunpacked, ?_⟩
  unfold Environment.value
  dsimp only
  rw [hfound]

/-- A list of variables that is published under their names, each with its parameter. -/
def variableEntries (config : Config) : List (String × String) :=
  config.environment.map fun v => (v, environmentParameter v)

theorem environmentValues_eq (config : Config) :
    environmentValues config = .sub (publishedText (variableEntries config)) := by
  unfold environmentValues
  rw [← List.map_prod_left_eq_zip]
  rfl

theorem get?_variableEntries {config : Config} {v : String} (hv : v ∈ config.environment) :
    Dict.get? (Dict.ofList (variableEntries config)) v = some (environmentParameter v) := by
  refine Dict.get?_union_of_agree (d := []) ⟨_, List.mem_map_of_mem hv, rfl⟩ ?_
  intro entry hentry hname
  obtain ⟨w, -, rfl⟩ := List.mem_map.mp hentry
  exact congrArg environmentParameter hname

section Values

variable {config : Config}
  (hvariables : ∀ v ∈ config.environment, Config.isVariableName v = true)
  (hnames : ∀ v ∈ config.environment, ∃ c ∈ v.toList, c.isAlphanum = true)
  {value values : String → String} (hplain : ∀ v ∈ config.environment, IsPlainText (values v))
  (hvalue : ∀ v ∈ config.environment, value (environmentParameter v) = values v)
include hvariables hnames hplain hvalue

/-- Once the parameters have the values of the variables, every variable is read with its own. -/
theorem readsValue_published {v : String} (hv : v ∈ config.environment) :
    ReadsValue (fillText value (publishedText (variableEntries config))) v (values v) := by
  have hchars {w : String} (hw : w ∈ config.environment) {c : Char} (hc : c ∈ w.toList) :
      c.isAlphanum = true ∨ c = '_' :=
    (capitals_of_isVariableName (hvariables w hw) c hc).imp_left IsCapital.isAlphanum
  have hparameters : ∀ entry ∈ variableEntries config,
      entry.2 ≠ "" ∧ ∀ c ∈ entry.2.toList, c.isAlphanum = true := by
    refine List.forall_mem_map.mpr fun w hw => ?_
    obtain ⟨hne, halnum⟩ := isParameterName_of_chars (fun c hc => hchars hw hc) (hnames w hw)
    exact ⟨by simpa using hne, List.all_eq_true.mp halnum⟩
  have hkeys : ∀ entry ∈ variableEntries config, ∀ c ∈ entry.1.toList,
      c.isAlphanum = true ∨ c = '_' :=
    List.forall_mem_map.mpr fun w hw c hc => hchars hw hc
  have hvalues : ∀ entry ∈ variableEntries config, IsPlainText (value entry.2) :=
    List.forall_mem_map.mpr fun w hw => hvalue w hw ▸ hplain w hw
  refine readsValue_of_readTexts (readTexts_publishedText hkeys hparameters hvalues _) ?_ ?_
  · rw [Dict.keys_mapValues]
    exact (Dict.ordered_ofList _).keys_nodup
  · rw [Dict.get?_mapValues, get?_variableEntries hv, Option.map_some, hvalue v hv]

end Values

/-! ## What the pass does -/

section Published

variable {config : Config} {s : Stacks} (hdistinct : s.nested.keys.Nodup)
include hdistinct

theorem handsOn_publishEnvironment {stack : String} {n : NestedStack}
    (hn : (publishEnvironment config s).nested.get? stack = some n) {v : String}
    (hv : v ∈ config.environment) :
    (publishEnvironment config s).HandsOn stack n (environmentParameter v) := by
  have hparameter : environmentParameter v ∈ config.environment.map environmentParameter :=
    List.mem_map_of_mem hv
  refine ⟨?_, ?_, fun r hr => ?_⟩
  · rw [parameters_publishEnvironment, mem_parameters_foldl]
    exact Or.inl hparameter
  · rw [(publishEnvironment_each config hdistinct).nested] at hn
    obtain ⟨n, -, rfl⟩ := Option.map_eq_some_iff.mp hn
    have hparameters (t : Template) : (publishing config t).parameters = t.parameters := by
      unfold publishing
      split <;> rfl
    show environmentParameter v ∈ (publishing config _).parameters.keys
    rw [hparameters]
    refine mem_parameters_foldl.mpr (Or.inl ?_)
    rw [environmentBindings, List.map_map]
    simpa using hparameter
  · have hdeployed := deployment?_publishEnvironment config hdistinct stack
    rw [deployment?_eq_some.mpr ⟨n, r, hn, hr, rfl⟩] at hdeployed
    obtain ⟨d, -, hsame⟩ := Option.map_eq_some_iff.mp hdeployed.symm
    have hforwarded : d.forwarded.union (environmentBindings config) = r.forwarded :=
      congrArg Deployment.forwarded hsame
    rw [← hforwarded]
    exact get?_union_environmentBindings hparameter

/-- Every function of a nested stack is given the text of the values. -/
theorem published?_publishEnvironment {stack : String} {n : NestedStack}
    (hn : (publishEnvironment config s).nested.get? stack = some n) {id : String} {r : Resource}
    (hr : n.template.resources.get? id = some r) (hfunction : r.type = functionType)
    (hsome : config.environment ≠ []) :
    r.published? Environment.variablesVariable =
      some (.sub (publishedText (variableEntries config))) := by
  rw [(publishEnvironment_each config hdistinct).nested] at hn
  obtain ⟨n, -, rfl⟩ := Option.map_eq_some_iff.mp hn
  change (publishing config _).resources.get? id = some r at hr
  rw [publishing, if_neg (by simpa using hsome), get?_setFunctionVariable] at hr
  obtain ⟨r', -, rfl⟩ := Option.map_eq_some_iff.mp hr
  rw [Resource.type_setVariable] at hfunction
  have hpublished :=
    Resource.published?_setVariable hfunction "ENV" "ENV" (environmentValues config)
  rw [if_pos rfl] at hpublished
  exact hpublished.trans (congrArg some (environmentValues_eq config))

end Published

/-- Where no two variables share a parameter, any values can be given to all of them. -/
theorem exists_assignment {config : Config} (hapart : ∀ v ∈ config.environment,
      ∀ w ∈ config.environment, environmentParameter v = environmentParameter w → v = w)
    (values : String → String) : ∃ value : String → String,
      ∀ v ∈ config.environment, value (environmentParameter v) = values v := by
  refine ⟨fun parameter => ((config.environment.find? fun v =>
    environmentParameter v = parameter).map values).getD "", fun v hv => ?_⟩
  cases hfound : config.environment.find? fun w =>
      environmentParameter w = environmentParameter v with
  | none => exact absurd (decide_eq_true rfl) (List.find?_eq_none.mp hfound v hv)
  | some w =>
    have hsame := List.find?_some hfound
    have hvw : w = v :=
      hapart w (List.mem_of_find?_eq_some hfound) v hv (of_decide_eq_true hsame)
    dsimp only
    rw [hfound, hvw, Option.map_some, Option.getD_some]

/-- The values of all variables arrive, whatever they are, exactly if no two variables agree up to
the underscores that stand at the front or are not directly followed by a letter. -/
theorem carriesValues_iff {yaml : String} {config : Config}
    (hconfig : Config.parse yaml = .ok config)
    (hnames : ∀ v ∈ config.environment, ∃ c ∈ v.toList, c.isAlphanum = true) {s : Stacks}
    (hdistinct : s.nested.keys.Nodup) :
    (∀ values : String → String, (∀ v ∈ config.environment, IsPlainText (values v)) →
      (publishEnvironment config s).CarriesValues config values) ↔
      ∀ v ∈ config.environment, ∀ w ∈ config.environment, wordMarks v = wordMarks w → v = w := by
  have hvariables := isVariableName_of_parse hconfig
  have hshared {v w : String} (hv : v ∈ config.environment) (hw : w ∈ config.environment) :
      environmentParameter v = environmentParameter w ↔ wordMarks v = wordMarks w :=
    pascalCase_eq_iff (capitals_of_isVariableName (hvariables v hv))
      (capitals_of_isVariableName (hvariables w hw))
  constructor
  · intro hcarries v hv w hw hsame
    by_contra hne
    -- One parameter cannot have the value of `v` and that of all other variables.
    obtain ⟨value, hvalue⟩ := (hcarries _ fun u _ => isPlainText_ite (u = v)).assignable
    have hv' := hvalue v hv
    rw [(hshared hv hw).mpr hsame, hvalue w hw, if_pos rfl, if_neg (Ne.symm hne)] at hv'
    exact absurd hv' (by decide)
  · intro hapart values hplain
    refine ⟨?_, fun stack n hn v hv => handsOn_publishEnvironment hdistinct hn hv, ?_⟩
    · exact exists_assignment (fun v hv w hw h => hapart v hv w hw ((hshared hv hw).mp h)) values
    · intro value hvalue stack n hn id r hr hfunction v hv
      exact ⟨_, published?_publishEnvironment hdistinct hn hr hfunction (List.ne_nil_of_mem hv),
        readsValue_published hvariables hnames hplain hvalue hv⟩

namespace ValuesExample

/-- The default configuration with variables. -/
def withVariables (names : List String) : Config := { Config.default with environment := names }

/-- A nested stack with one function. -/
def loneFunction : Stacks :=
  (Stacks.new (.serverless "root")).addNested "N"
    ⟨(Template.serverless "nested").addResource "Fn" ⟨functionType, .obj []⟩, []⟩

theorem hasLetter {names : List String} (h : (names.all (·.toList.any Char.isAlphanum)) = true) :
    ∀ v ∈ (withVariables names).environment, ∃ c ∈ v.toList, c.isAlphanum = true :=
  fun v hv => List.any_eq_true.mp (List.all_eq_true.mp h v hv)

end ValuesExample

open ValuesExample in
/-- Two variables are accepted that share a parameter, so they cannot have different values. -/
theorem variables_share_parameter :
    Config.parse "environment: [API_1, API1]" = .ok (withVariables ["API_1", "API1"]) ∧
    (∀ v ∈ (withVariables ["API_1", "API1"]).environment, ∃ c ∈ v.toList, c.isAlphanum = true) ∧
    loneFunction.nested.keys.Nodup ∧
    ∃ values : String → String, (∀ v, IsPlainText (values v)) ∧
      ¬ (publishEnvironment (withVariables ["API_1", "API1"]) loneFunction).CarriesValues
        (withVariables ["API_1", "API1"]) values := by
  have hshared : environmentParameter "API_1" = environmentParameter "API1" := by decide
  refine ⟨by decide +kernel, hasLetter (by decide), by decide,
    fun v => if v = "API1" then "a" else "b", fun v => isPlainText_ite _, fun hcarries => ?_⟩
  obtain ⟨value, hvalue⟩ := hcarries.assignable
  have hone := hvalue "API_1" List.mem_cons_self
  have hother := hvalue "API1" (List.mem_cons_of_mem _ List.mem_cons_self)
  rw [hshared, hother] at hone
  exact absurd hone (by decide)

open ValuesExample in
theorem numbered_variables_are_told :
    Config.parse "environment: [API_1, API_2]" = .ok (withVariables ["API_1", "API_2"]) ∧
    (∀ v ∈ (withVariables ["API_1", "API_2"]).environment, ∃ c ∈ v.toList, c.isAlphanum = true) ∧
    loneFunction.nested.keys.Nodup ∧
    ∀ values : String → String,
      (∀ v ∈ (withVariables ["API_1", "API_2"]).environment, IsPlainText (values v)) →
      (publishEnvironment (withVariables ["API_1", "API_2"]) loneFunction).CarriesValues
        (withVariables ["API_1", "API_2"]) values := by
  have hconfig : Config.parse "environment: [API_1, API_2]" =
      .ok (withVariables ["API_1", "API_2"]) := by decide +kernel
  have hnames : ∀ v ∈ (withVariables ["API_1", "API_2"]).environment,
      ∃ c ∈ v.toList, c.isAlphanum = true := hasLetter (by decide)
  refine ⟨hconfig, hnames, by decide, (carriesValues_iff hconfig hnames (by decide)).mpr ?_⟩
  decide

end Stacks

end Keyspace
