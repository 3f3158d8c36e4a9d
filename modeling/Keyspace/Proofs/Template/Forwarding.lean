import Keyspace.Proofs.Dict
import Keyspace.Template.Wiring

/-!
# What the root forwards to nested stacks

A nested stack is deployed by a resource of the root, and the root forwards parameters to it
by that resource. Every pass over a stack set binds a list of parameters to each nested stack
and leaves the rest of the forwarding alone; of two bindings of one parameter the later stays.
-/
namespace Keyspace

namespace Resource

@[simp] theorem forwarded_forward (r : Resource) (name : String) (value : Json) :
    (r.forward name value).forwarded = r.forwarded.insert name value := by
  unfold forward forwarded Json.updateMember Json.setMember
  have hmembers (properties : Json) :
      ((Dict.get? properties.membersOrNone "Parameters").getD (.obj [])).membersOrNone =
        ((properties.get? "Parameters").bind Json.asObject?).getD [] := by
    cases properties with
    | obj members =>
      simp only [Json.membersOrNone, Json.get?]
      cases Dict.get? members "Parameters" with
      | none => rfl
      | some value => cases value <;> rfl
    | _ => rfl
  dsimp only
  rw [hmembers]
  simp only [Json.get?, Dict.get?_insert_self, Option.bind_some, Json.asObject?, Option.getD_some]

end Resource

/-- A nested stack as the root sees it: the tables it touches, and what is forwarded to it. -/
structure Deployment where
  tables : List String
  forwarded : Dict Json

namespace Deployment

/-- Forwards values under names, later ones in the place of earlier ones. -/
def bind (d : Deployment) (bindings : List (String × Json)) : Deployment :=
  { d with forwarded := d.forwarded.union bindings }

@[simp] theorem bind_nil (d : Deployment) : d.bind [] = d := rfl

theorem bind_append (d : Deployment) (bindings later : List (String × Json)) :
    d.bind (bindings ++ later) = (d.bind bindings).bind later := by
  unfold bind
  rw [Dict.union_append]

end Deployment

namespace Stacks

/-- A nested stack that the root deploys. -/
def deployment? (s : Stacks) (name : String) : Option Deployment := do
  let stack ← s.nested.get? name
  let r ← s.root.resources.get? name
  pure ⟨stack.tables, r.forwarded⟩

/-- What the root forwards to a nested stack under a name. -/
def forwardedTo (s : Stacks) (stack name : String) : Option Json :=
  (s.root.resources.get? stack).bind fun r => r.forwarded.get? name

/-- Binds several parameters of a nested stack, one after another. -/
def bindParameters (s : Stacks) (stack : String) (bindings : List (String × Json)) : Stacks :=
  bindings.foldl (fun s binding => s.bindParameter stack binding.1 binding.2) s

theorem deployment?_eq_some {s : Stacks} {name : String} {d : Deployment} :
    s.deployment? name = some d ↔ ∃ stack r, s.nested.get? name = some stack ∧
      s.root.resources.get? name = some r ∧ d = ⟨stack.tables, r.forwarded⟩ := by
  unfold deployment?
  cases s.nested.get? name with
  | none => simp
  | some stack =>
    cases s.root.resources.get? name with
    | none => simp
    | some r => simp [eq_comm]

theorem forwardedTo_of_deployment? {s : Stacks} {stack : String} {d : Deployment}
    (h : s.deployment? stack = some d) (name : String) :
    s.forwardedTo stack name = d.forwarded.get? name := by
  obtain ⟨_, r, -, hr, rfl⟩ := deployment?_eq_some.mp h
  rw [forwardedTo, hr]
  rfl

theorem deployment?_congr {s s' : Stacks} {name : String}
    (hnested : (s'.nested.get? name).map (·.tables) = (s.nested.get? name).map (·.tables))
    (hroot : s'.root.resources.get? name = s.root.resources.get? name) :
    s'.deployment? name = s.deployment? name := by
  unfold deployment?
  rw [hroot]
  cases hs : s.nested.get? name <;> cases hs' : s'.nested.get? name <;>
    simp_all

theorem deployment?_addNested (s : Stacks) (name other : String) (stack : NestedStack) :
    (s.addNested name stack).deployment? other =
      if other = name then some ⟨stack.tables, []⟩ else s.deployment? other := by
  unfold deployment? addNested Template.addResource
  simp only [Dict.get?_insert]
  by_cases h : other = name
  · rw [if_pos h, if_pos h, if_pos h]
    rfl
  · rw [if_neg h, if_neg h, if_neg h]

@[simp] theorem deployment?_updateNested (s : Stacks) (stack other : String)
    (f : Template → Template) : (s.updateNested stack f).deployment? other = s.deployment? other := by
  refine deployment?_congr ?_ rfl
  simp only [updateNested, Dict.get?_modify]
  split
  · cases s.nested.get? other <;> rfl
  · rfl

theorem deployment?_bindParameter (s : Stacks) (stack name other : String) (value : Json) :
    (s.bindParameter stack name value).deployment? other =
      if other = stack then (s.deployment? other).map (·.bind [(name, value)])
      else s.deployment? other := by
  unfold deployment? bindParameter forward declare
  simp only [Dict.get?_modify]
  by_cases h : other = stack
  · simp only [if_pos h]
    cases s.nested.get? other with
    | none => rfl
    | some nested =>
      cases s.root.resources.get? other with
      | none => rfl
      | some r => simp [Deployment.bind, Dict.union]
  · simp only [if_neg h]

theorem deployment?_bindParameters (s : Stacks) (stack other : String)
    (bindings : List (String × Json)) :
    (s.bindParameters stack bindings).deployment? other =
      if other = stack then (s.deployment? other).map (·.bind bindings)
      else s.deployment? other := by
  unfold bindParameters
  induction bindings generalizing s with
  | nil => simp
  | cons binding rest ih =>
    rw [List.foldl_cons, ih, deployment?_bindParameter]
    by_cases h : other = stack
    · simp only [if_pos h, Option.map_map]
      rfl
    · simp only [if_neg h]

@[simp] theorem keys_updateNested (s : Stacks) (stack : String) (f : Template → Template) :
    (s.updateNested stack f).nested.keys = s.nested.keys := by
  simp only [updateNested, Dict.keys_modify]

@[simp] theorem keys_bindParameters (s : Stacks) (stack : String)
    (bindings : List (String × Json)) :
    (s.bindParameters stack bindings).nested.keys = s.nested.keys := by
  unfold bindParameters
  induction bindings generalizing s with
  | nil => rfl
  | cons binding rest ih =>
    rw [List.foldl_cons, ih]
    simp only [bindParameter, forward, declare, Dict.keys_modify]

/-- A step of a pass: parameters are bound to one nested stack and its template changes. -/
structure BindsOne (step : Stacks → Stacks) (stack : String) (bindings : List (String × Json)) :
    Prop where
  keys : ∀ s, (step s).nested.keys = s.nested.keys
  deployment : ∀ s other, (step s).deployment? other =
    if other = stack then (s.deployment? other).map (·.bind bindings) else s.deployment? other

theorem BindsOne.congr {step step' : Stacks → Stacks} {stack : String}
    {bindings : List (String × Json)} (h : BindsOne step stack bindings)
    (hsame : ∀ s, step' s = step s) : BindsOne step' stack bindings := by
  rw [funext hsame]
  exact h

/-- Steps for distinct nested stacks do not meet. -/
theorem deployment?_foldl {α : Type} {step : Stacks → α → Stacks} (name : α → String)
    {bindings : α → List (String × Json)}
    (hstep : ∀ a, BindsOne (step · a) (name a) (bindings a)) {entries : List α}
    (hdistinct : (entries.map name).Nodup) (s : Stacks) {a : α} (ha : a ∈ entries) :
    (entries.foldl step s).deployment? (name a) =
      (s.deployment? (name a)).map (·.bind (bindings a)) := by
  have hother (entries : List α) (s : Stacks) (hnot : name a ∉ entries.map name) :
      (entries.foldl step s).deployment? (name a) = s.deployment? (name a) := by
    induction entries generalizing s with
    | nil => rfl
    | cons b rest ih =>
      rw [List.map_cons, List.mem_cons, not_or] at hnot
      rw [List.foldl_cons, ih _ hnot.2, (hstep b).deployment, if_neg hnot.1]
  induction entries generalizing s with
  | nil => cases ha
  | cons b rest ih =>
    rw [List.map_cons, List.nodup_cons] at hdistinct
    rw [List.foldl_cons]
    rcases List.mem_cons.mp ha with rfl | ha
    · rw [hother rest _ hdistinct.1, (hstep a).deployment, if_pos rfl]
    · have hne : name a ≠ name b := fun heq => hdistinct.1 (heq ▸ List.mem_map_of_mem ha)
      rw [ih hdistinct.2 _ ha, (hstep b).deployment, if_neg hne]

theorem keys_foldl {α : Type} {step : Stacks → α → Stacks} (name : α → String)
    {bindings : α → List (String × Json)}
    (hstep : ∀ a, BindsOne (step · a) (name a) (bindings a)) (entries : List α) (s : Stacks) :
    (entries.foldl step s).nested.keys = s.nested.keys := by
  induction entries generalizing s with
  | nil => rfl
  | cons b rest ih => rw [List.foldl_cons, ih, (hstep b).keys]

theorem bindParameters_updateNested (stack : String) (bindings : List (String × Json))
    (f : Template → Template) :
    BindsOne (fun s => (s.bindParameters stack bindings).updateNested stack f) stack bindings where
  keys s := by rw [keys_updateNested, keys_bindParameters]
  deployment s other := by rw [deployment?_updateNested, deployment?_bindParameters]

theorem updateNested_bindParameters (stack : String) (bindings : List (String × Json))
    (f : Template → Template) :
    BindsOne (fun s => (s.updateNested stack f).bindParameters stack bindings) stack bindings where
  keys s := by rw [keys_bindParameters, keys_updateNested]
  deployment s other := by rw [deployment?_bindParameters, deployment?_updateNested]

/-- What the globals refer to that has to be carried into nested stacks. -/
def carried (globals : Option Json) : List Reference :=
  globals.elim [] fun value => value.references.filter fun r => !r.isPseudo

def carriedBindings (globals : Option Json) : List (String × Json) :=
  (carried globals).map fun r => (r.parameterName, r.toJson)

def tableBindings (tables : List String) : List (String × Json) :=
  tables.map fun table => (tableParameter table, .ref (tableLogicalId table))

def environmentBindings (config : Config) : List (String × Json) :=
  (config.environment.map environmentParameter).map fun parameter => (parameter, .ref parameter)

/-- A nested stack that is not deployed is in no pass, nor does a pass deploy it. -/
theorem deployment?_eq_none {s : Stacks} {name : String} (h : name ∉ s.nested.keys) :
    s.deployment? name = none := by
  unfold deployment?
  rw [Dict.get?_eq_none_iff.mpr h]
  rfl

/-- A pass that takes a step for every nested stack binds parameters to every deployment. -/
theorem deployment?_pass {α : Type} {step : Stacks → α → Stacks} (name : α → String)
    {bindings : α → List (String × Json)} {later : Deployment → List (String × Json)}
    (hstep : ∀ a, BindsOne (step · a) (name a) (bindings a)) {entries : List α} {s : Stacks}
    (hentries : entries.map name = s.nested.keys) (hdistinct : s.nested.keys.Nodup)
    (hlater : ∀ a ∈ entries, ∀ d, s.deployment? (name a) = some d → bindings a = later d)
    (other : String) :
    (entries.foldl step s).deployment? other =
      (s.deployment? other).map fun d => d.bind (later d) := by
  by_cases h : other ∈ s.nested.keys
  · rw [← hentries] at h hdistinct
    obtain ⟨a, ha, rfl⟩ := List.mem_map.mp h
    rw [deployment?_foldl name hstep hdistinct s ha]
    cases hd : s.deployment? (name a) with
    | none => rfl
    | some d => rw [Option.map_some, Option.map_some, hlater a ha d hd]
  · rw [deployment?_eq_none h, deployment?_eq_none]
    · rfl
    · rwa [keys_foldl name hstep]

section Passes

variable {s : Stacks}

theorem adoptGlobals_eq (globals : Json) (references : List Reference) (s : Stacks)
    (name : String) : adoptGlobals globals references s name =
      (s.updateNested name fun t => { t with globals := some globals }).bindParameters name
        (references.map fun r => (r.parameterName, r.toJson)) := by
  unfold adoptGlobals bindParameters
  rw [List.foldl_map]

theorem binds_adoptGlobals (globals : Json) (references : List Reference) (name : String) :
    BindsOne (adoptGlobals globals references · name) name
      (references.map fun r => (r.parameterName, r.toJson)) :=
  (updateNested_bindParameters name _ _).congr fun s => adoptGlobals_eq globals references s name

theorem keys_spreadGlobals (s : Stacks) : (spreadGlobals s).nested.keys = s.nested.keys := by
  unfold spreadGlobals
  cases s.root.globals with
  | none => rfl
  | some globals => exact keys_foldl id (fun a => binds_adoptGlobals _ _ a) _ s

theorem deployment?_spreadGlobals (hdistinct : s.nested.keys.Nodup) (name : String) :
    (spreadGlobals s).deployment? name =
      (s.deployment? name).map (·.bind (carriedBindings s.root.globals)) := by
  unfold spreadGlobals carriedBindings carried
  cases s.root.globals with
  | none => simp
  | some globals =>
    exact deployment?_pass id (fun a => binds_adoptGlobals _ _ a) (List.map_id _)
      hdistinct (fun _ _ _ _ => rfl) name

/-- The variable that publishes the physical names of tables. -/
def tableNames (tables : List String) : Json :=
  mapVariable (tables.map fun table => (tableVariable table, tableParameter table))

theorem nameTablesOf_eq (s : Stacks) (name : String) (tables : List String) :
    nameTablesOf s name tables = (s.bindParameters name (tableBindings tables)).updateNested name
      (·.setFunctionVariable "TABLE_NAMES" (tableNames tables)) := by
  unfold nameTablesOf bindParameters tableBindings tableNames
  rw [List.foldl_map]

theorem binds_nameTablesOf (name : String) (tables : List String) :
    BindsOne (nameTablesOf · name tables) name (tableBindings tables) :=
  (bindParameters_updateNested name _ _).congr fun s => nameTablesOf_eq s name tables

theorem keys_nameTables (s : Stacks) : (nameTables s).nested.keys = s.nested.keys :=
  keys_foldl (·.1) (fun entry : String × NestedStack => binds_nameTablesOf entry.1 entry.2.tables)
    s.nested s

theorem deployment?_nameTables (hdistinct : s.nested.keys.Nodup) (name : String) :
    (nameTables s).deployment? name =
      (s.deployment? name).map fun d => d.bind (tableBindings d.tables) := by
  refine deployment?_pass (·.1)
    (fun entry : String × NestedStack => binds_nameTablesOf entry.1 entry.2.tables) rfl
    hdistinct (fun entry hentry d hd => ?_) name
  obtain ⟨stack, r, hstack, -, rfl⟩ := deployment?_eq_some.mp hd
  rw [Dict.get?_of_mem hdistinct hentry] at hstack
  cases hstack
  rfl

theorem publishTo_eq (parameters : List String) (published : Json) (s : Stacks) (name : String) :
    publishTo parameters published s name =
      (s.bindParameters name (parameters.map fun parameter => (parameter, .ref parameter))).updateNested
        name (·.setFunctionVariable "ENV" published) := by
  unfold publishTo bindParameters
  rw [List.foldl_map]

theorem binds_publishTo (parameters : List String) (published : Json) (name : String) :
    BindsOne (publishTo parameters published · name) name
      (parameters.map fun parameter => (parameter, .ref parameter)) :=
  (bindParameters_updateNested name _ _).congr fun s => publishTo_eq parameters published s name

theorem resources_addStringParameters (parameters : List String) (t : Template) :
    (parameters.foldl Template.addStringParameter t).resources = t.resources := by
  induction parameters generalizing t with
  | nil => rfl
  | cons parameter rest ih =>
    rw [List.foldl_cons, ih]
    unfold Template.addStringParameter
    split <;> rfl

theorem keys_publishEnvironment (config : Config) (s : Stacks) :
    (publishEnvironment config s).nested.keys = s.nested.keys := by
  unfold publishEnvironment
  split
  · rfl
  · exact keys_foldl id (fun a => binds_publishTo _ _ a) _ _

theorem deployment?_publishEnvironment (config : Config) (hdistinct : s.nested.keys.Nodup)
    (name : String) : (publishEnvironment config s).deployment? name =
      (s.deployment? name).map (·.bind (environmentBindings config)) := by
  unfold publishEnvironment environmentBindings
  split
  · next hempty =>
    rw [List.isEmpty_iff.mp hempty]
    simp
  · have hresources := resources_addStringParameters
      (config.environment.map environmentParameter) s.root
    dsimp only
    generalize (config.environment.map environmentParameter).foldl
      Template.addStringParameter s.root = root at hresources ⊢
    have hroot : (Stacks.mk root s.nested).deployment? name = s.deployment? name :=
      deployment?_congr rfl (by rw [hresources])
    rw [← hroot]
    exact deployment?_pass (s := ⟨root, s.nested⟩) id (fun a => binds_publishTo _ _ a)
      (List.map_id s.nested.keys) hdistinct (fun _ _ _ _ => rfl) name

theorem keys_wire (config : Config) (s : Stacks) :
    (wire config s).nested.keys = s.nested.keys := by
  show (publishEnvironment config (nameTables (spreadGlobals s))).nested.keys = _
  rw [keys_publishEnvironment, keys_nameTables, keys_spreadGlobals]

/-- What the passes forward to a nested stack, in the order they bind it. -/
theorem deployment?_wire (config : Config) (hdistinct : s.nested.keys.Nodup) (name : String) :
    (wire config s).deployment? name = (s.deployment? name).map fun d =>
      d.bind (carriedBindings s.root.globals ++ tableBindings d.tables ++
        environmentBindings config) := by
  show (publishEnvironment config (nameTables (spreadGlobals s))).deployment? name = _
  rw [deployment?_publishEnvironment, deployment?_nameTables, deployment?_spreadGlobals hdistinct,
    Option.map_map, Option.map_map]
  · congr 1
    funext d
    rw [Deployment.bind_append, Deployment.bind_append]
    rfl
  · rwa [keys_spreadGlobals]
  · rwa [keys_nameTables, keys_spreadGlobals]

end Passes

end Stacks

end Keyspace
