import Keyspace.Proofs.Template.Forwarding

/-!
# How a pass runs

A pass takes a step for every nested stack. Each step changes that stack and the root resource
that deploys it, and nothing else, so a pass changes every nested stack once, every resource
that deploys one, and no other resource of the root.
-/
namespace Keyspace.Stacks

/-- A step that changes one nested stack and the root resource of its name. -/
structure ActsOn (step : Stacks → Stacks) (stack : String)
    (onNested : NestedStack → NestedStack) (onResource : Resource → Resource) : Prop where
  nested : ∀ s, (step s).nested = s.nested.modify stack onNested
  root : ∀ s, (step s).root =
    { s.root with resources := s.root.resources.modify stack onResource }

/-- Declares several parameters on a nested stack. -/
def declareAll (names : List String) (n : NestedStack) : NestedStack :=
  { n with template := names.foldl Template.addStringParameter n.template }

/-- Changes the template of a nested stack. -/
def retemplate (f : Template → Template) (n : NestedStack) : NestedStack :=
  { n with template := f n.template }

/-- Forwards several values by one resource. -/
def forwardAll (bindings : List (String × Json)) (r : Resource) : Resource :=
  bindings.foldl (fun r binding => r.forward binding.1 binding.2) r

theorem ActsOn.trans {step step' : Stacks → Stacks} {stack : String}
    {onNested onNested' : NestedStack → NestedStack} {onResource onResource' : Resource → Resource}
    (h : ActsOn step stack onNested onResource) (h' : ActsOn step' stack onNested' onResource') :
    ActsOn (fun s => step' (step s)) stack (onNested' ∘ onNested) (onResource' ∘ onResource) where
  nested s := by rw [h'.nested, h.nested, Dict.modify_modify]
  root s := by rw [h'.root, h.root, Dict.modify_modify]

theorem ActsOn.congr {step step' : Stacks → Stacks} {stack : String}
    {onNested : NestedStack → NestedStack} {onResource : Resource → Resource}
    (h : ActsOn step stack onNested onResource) (hsame : ∀ s, step' s = step s) :
    ActsOn step' stack onNested onResource := by
  rw [funext hsame]
  exact h

theorem actsOn_updateNested (stack : String) (f : Template → Template) :
    ActsOn (·.updateNested stack f) stack (retemplate f) id where
  nested _ := rfl
  root s := by
    rw [Dict.modify_id]
    rfl

theorem actsOn_bindParameter (stack name : String) (value : Json) :
    ActsOn (·.bindParameter stack name value) stack (declareAll [name])
      (forwardAll [(name, value)]) where
  nested _ := rfl
  root _ := rfl

theorem actsOn_bindParameters (stack : String) (bindings : List (String × Json)) :
    ActsOn (·.bindParameters stack bindings) stack (declareAll (bindings.map (·.1)))
      (forwardAll bindings) := by
  induction bindings with
  | nil =>
    refine ⟨fun s => ?_, fun s => ?_⟩
    · exact (Dict.modify_id s.nested stack).symm
    · show s.root = { s.root with resources := s.root.resources.modify stack id }
      rw [Dict.modify_id]
  | cons binding rest ih => exact (actsOn_bindParameter stack binding.1 binding.2).trans ih

/-- A pass is one change of the nested stacks and one of the root's resources. -/
theorem foldl_actsOn {α : Type} {step : Stacks → α → Stacks} {name : α → String}
    {onNested : α → NestedStack → NestedStack} {onResource : α → Resource → Resource}
    (hstep : ∀ a, ActsOn (step · a) (name a) (onNested a) (onResource a)) (entries : List α)
    (s : Stacks) : entries.foldl step s =
      { root := { s.root with
          resources := entries.foldl (fun d a => d.modify (name a) (onResource a)) s.root.resources }
        nested := entries.foldl (fun d a => d.modify (name a) (onNested a)) s.nested } := by
  induction entries generalizing s with
  | nil => rfl
  | cons a rest ih =>
    rw [List.foldl_cons, ih, (hstep a).nested, (hstep a).root]
    rfl

section Steps

theorem actsOn_adoptGlobals (globals : Json) (references : List Reference) (name : String) :
    ActsOn (adoptGlobals globals references · name) name
      (declareAll ((references.map fun r => (r.parameterName, r.toJson)).map (·.1)) ∘
        retemplate fun t => { t with globals := some globals })
      (forwardAll (references.map fun r => (r.parameterName, r.toJson))) :=
  ((actsOn_updateNested name _).trans (actsOn_bindParameters name _)).congr
    fun s => adoptGlobals_eq globals references s name

theorem actsOn_nameTablesOf (name : String) (tables : List String) :
    ActsOn (nameTablesOf · name tables) name
      (retemplate (·.setFunctionVariable "TABLE_NAMES" (tableNames tables)) ∘
        declareAll ((tableBindings tables).map (·.1)))
      (forwardAll (tableBindings tables)) :=
  ((actsOn_bindParameters name _).trans (actsOn_updateNested name _)).congr
    fun s => nameTablesOf_eq s name tables

theorem actsOn_publishTo (parameters : List String) (published : Json) (name : String) :
    ActsOn (publishTo parameters published · name) name
      (retemplate (·.setFunctionVariable "ENV" published) ∘
        declareAll ((parameters.map fun parameter => (parameter, Json.ref parameter)).map (·.1)))
      (forwardAll (parameters.map fun parameter => (parameter, .ref parameter))) :=
  ((actsOn_bindParameters name _).trans (actsOn_updateNested name _)).congr
    fun s => publishTo_eq parameters published s name

end Steps

/-- Every nested stack is changed, and every root resource that deploys one. The parameters of
the root are left open. -/
structure ActsOnEach (s s' : Stacks) (onNested : NestedStack → NestedStack)
    (onResource : NestedStack → Resource → Resource) : Prop where
  nestedKeys : s'.nested.keys = s.nested.keys
  nested : ∀ name, s'.nested.get? name = (s.nested.get? name).map onNested
  resourceKeys : s'.root.resources.keys = s.root.resources.keys
  deployed : ∀ name n, s.nested.get? name = some n →
    s'.root.resources.get? name = (s.root.resources.get? name).map (onResource n)
  other : ∀ id, id ∉ s.nested.keys → s'.root.resources.get? id = s.root.resources.get? id
  globals : s'.root.globals = s.root.globals
  outputs : s'.root.outputs = s.root.outputs

namespace ActsOnEach

variable {s s' s'' : Stacks}

theorem refl (s : Stacks) : ActsOnEach s s id fun _ => id where
  nestedKeys := rfl
  nested name := by rw [Option.map_id, id_eq]
  resourceKeys := rfl
  deployed name n _ := by rw [Option.map_id, id_eq]
  other _ _ := rfl
  globals := rfl
  outputs := rfl

theorem trans {f f' : NestedStack → NestedStack} {g g' : NestedStack → Resource → Resource}
    (h : ActsOnEach s s' f g) (h' : ActsOnEach s' s'' f' g') :
    ActsOnEach s s'' (f' ∘ f) fun n => g' (f n) ∘ g n where
  nestedKeys := h'.nestedKeys.trans h.nestedKeys
  nested name := by rw [h'.nested, h.nested, Option.map_map]
  resourceKeys := h'.resourceKeys.trans h.resourceKeys
  deployed name n hn := by
    have hn' : s'.nested.get? name = some (f n) := by rw [h.nested, hn, Option.map_some]
    rw [h'.deployed name _ hn', h.deployed name n hn, Option.map_map]
  other id hid := by rw [h'.other id (by rwa [h.nestedKeys]), h.other id hid]
  globals := h'.globals.trans h.globals
  outputs := h'.outputs.trans h.outputs

/-- A pass that takes a step for every nested stack. -/
theorem of_foldl {α : Type} {step : Stacks → α → Stacks} (name : α → String)
    {onNested : α → NestedStack → NestedStack} {onResource : α → Resource → Resource}
    {f : NestedStack → NestedStack} {g : NestedStack → Resource → Resource}
    (hstep : ∀ a, ActsOn (step · a) (name a) (onNested a) (onResource a)) {entries : List α}
    (hentries : entries.map name = s.nested.keys) (hdistinct : s.nested.keys.Nodup)
    (hsame : ∀ a ∈ entries, ∀ n, s.nested.get? (name a) = some n →
      onNested a n = f n ∧ onResource a = g n) :
    ActsOnEach s (entries.foldl step s) f g := by
  rw [foldl_actsOn hstep]
  have hdistinct' : (entries.map name).Nodup := hentries ▸ hdistinct
  refine ⟨Dict.keys_foldl_modify _, fun other => ?_, Dict.keys_foldl_modify _,
    fun other n hn => ?_, fun id hid => ?_, rfl, rfl⟩
  · by_cases hmem : other ∈ entries.map name
    · obtain ⟨a, ha, rfl⟩ := List.mem_map.mp hmem
      rw [Dict.get?_foldl_modify hdistinct' _ ha]
      cases hn : s.nested.get? (name a) with
      | none => rfl
      | some n => rw [Option.map_some, Option.map_some, (hsame a ha n hn).1]
    · rw [Dict.get?_foldl_modify_of_not_mem hmem, Dict.get?_eq_none_iff.mpr (hentries ▸ hmem)]
      rfl
  · have hmem : other ∈ entries.map name :=
      hentries ▸ Dict.mem_keys_iff.mpr (Option.isSome_iff_exists.mpr ⟨n, hn⟩)
    obtain ⟨a, ha, rfl⟩ := List.mem_map.mp hmem
    rw [Dict.get?_foldl_modify hdistinct' _ ha, (hsame a ha n hn).2]
  · exact Dict.get?_foldl_modify_of_not_mem (hentries ▸ hid) _

end ActsOnEach

/-! ## The passes -/

/-- The globals a nested template gets from the root's. -/
def adopting (globals : Option Json) (t : Template) : Template :=
  globals.elim t fun value => { t with globals := some (localize value) }

/-- The variable that publishes configured values. -/
def environmentValues (config : Config) : Json :=
  mapVariable (config.environment.zip (config.environment.map environmentParameter))

/-- Publishes configured values to the functions of a template, if there are any. -/
def publishing (config : Config) (t : Template) : Template :=
  if config.environment.isEmpty then t else t.setFunctionVariable "ENV" (environmentValues config)

/-- Binds parameters of a nested stack before its template is changed. -/
def bound (bindings : List (String × Json)) (n : NestedStack) : NestedStack :=
  declareAll (bindings.map (·.1)) n

section Passes

variable {s : Stacks}

theorem spreadGlobals_each (hdistinct : s.nested.keys.Nodup) :
    ActsOnEach s (spreadGlobals s)
      (bound (carriedBindings s.root.globals) ∘ retemplate (adopting s.root.globals))
      fun _ => forwardAll (carriedBindings s.root.globals) := by
  unfold spreadGlobals
  cases s.root.globals with
  | none => exact ActsOnEach.refl s
  | some globals =>
    exact ActsOnEach.of_foldl id (fun a => actsOn_adoptGlobals _ _ a) (List.map_id _)
      hdistinct fun _ _ _ _ => ⟨rfl, rfl⟩

theorem nameTables_each (hdistinct : s.nested.keys.Nodup) :
    ActsOnEach s (nameTables s)
      (fun n => retemplate (·.setFunctionVariable "TABLE_NAMES" (tableNames n.tables))
        (bound (tableBindings n.tables) n))
      fun n => forwardAll (tableBindings n.tables) := by
  refine ActsOnEach.of_foldl (·.1)
    (fun entry : String × NestedStack => actsOn_nameTablesOf entry.1 entry.2.tables) rfl hdistinct
    fun entry hentry n hn => ?_
  rw [Dict.get?_of_mem hdistinct hentry] at hn
  cases hn
  exact ⟨rfl, rfl⟩

theorem addStringParameters_eq (names : List String) (t : Template) :
    ∃ parameters, names.foldl Template.addStringParameter t = { t with parameters := parameters } := by
  induction names generalizing t with
  | nil => exact ⟨t.parameters, rfl⟩
  | cons name rest ih =>
    obtain ⟨parameters, h⟩ := ih (t.addStringParameter name)
    refine ⟨parameters, h.trans ?_⟩
    unfold Template.addStringParameter
    split <;> rfl

theorem publishEnvironment_each (config : Config) (hdistinct : s.nested.keys.Nodup) :
    ActsOnEach s (publishEnvironment config s)
      (retemplate (publishing config) ∘ bound (environmentBindings config))
      fun _ => forwardAll (environmentBindings config) := by
  unfold publishEnvironment publishing environmentBindings
  split
  · next hempty =>
    rw [List.isEmpty_iff.mp hempty]
    exact ActsOnEach.refl s
  · obtain ⟨parameters, hroot⟩ := addStringParameters_eq
      (config.environment.map environmentParameter) s.root
    dsimp only
    rw [hroot]
    have heach := ActsOnEach.of_foldl (s := ⟨{ s.root with parameters := parameters }, s.nested⟩)
      id (fun a => actsOn_publishTo (config.environment.map environmentParameter)
        (environmentValues config) a)
      (List.map_id s.nested.keys) hdistinct fun _ _ _ _ => ⟨rfl, rfl⟩
    exact ⟨heach.nestedKeys, heach.nested, heach.resourceKeys, heach.deployed, heach.other,
      heach.globals, heach.outputs⟩

end Passes

end Keyspace.Stacks
