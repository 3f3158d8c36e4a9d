import Keyspace.Proofs.Template.Resolution

/-!
# The variables of functions

The passes change the resources of a nested template in one place only: the variables of its
functions. Every function of the stack gets the same text of tables.
-/
namespace Keyspace

namespace Json

theorem get?_eq_membersOrNone (value : Json) (key : String) :
    value.get? key = Dict.get? value.membersOrNone key := by
  cases value <;> rfl

@[simp] theorem get?_setMember (value : Json) (key other : String) (member : Json) :
    (value.setMember key member).get? other =
      if other = key then some member else value.get? other := by
  rw [get?_eq_membersOrNone value]
  exact Dict.get?_insert _ _ _ _

@[simp] theorem get?_updateMember (value : Json) (key other : String) (f : Json → Json) :
    (value.updateMember key f).get? other =
      if other = key then some (f ((value.get? key).getD (obj []))) else value.get? other := by
  rw [updateMember, get?_setMember, get?_eq_membersOrNone value key]

end Json

namespace Resource

/-- Sets an environment variable of a function; any other resource stays as it is. -/
def setVariable (name : String) (value : Json) (r : Resource) : Resource :=
  if r.type = functionType then
    { r with properties := r.properties.updateMember "Environment" fun environment =>
        environment.updateMember "Variables" fun vars => vars.setMember name value }
  else r

/-- An environment variable of a function. -/
def published? (r : Resource) (name : String) : Option Json := do
  let environment ← r.properties.get? "Environment"
  let vars ← environment.get? "Variables"
  vars.get? name

theorem type_setVariable (name : String) (value : Json) (r : Resource) :
    (r.setVariable name value).type = r.type := by
  unfold setVariable
  split <;> rfl

theorem published?_setVariable {r : Resource} (h : r.type = functionType) (name other : String)
    (value : Json) : (r.setVariable name value).published? other =
      if other = name then some value else r.published? other := by
  rw [setVariable, if_pos h]
  unfold published?
  simp only [Json.get?_updateMember, Json.get?_setMember, if_true, Option.bind_eq_bind,
    Option.bind_some]
  split
  · rfl
  · cases r.properties.get? "Environment" with
    | none => rfl
    | some environment =>
      dsimp only [Option.getD_some, Option.bind_some]
      cases environment.get? "Variables" <;> rfl

/-- Setting a variable leaves the other properties of a function alone. -/
theorem get?_setVariable_of_ne {key : String} (h : key ≠ "Environment") (name : String)
    (value : Json) (r : Resource) :
    (r.setVariable name value).properties.get? key = r.properties.get? key := by
  unfold setVariable
  split
  · rw [Json.get?_updateMember, if_neg h]
  · rfl

end Resource

namespace Stacks

/-- A resource of a nested template after all passes. -/
def wiredResource (config : Config) (tables : List String) (r : Resource) : Resource :=
  let named := r.setVariable "TABLE_NAMES" (tableNames tables)
  if config.environment.isEmpty then named else named.setVariable "ENV" (environmentValues config)

theorem type_wiredResource (config : Config) (tables : List String) (r : Resource) :
    (wiredResource config tables r).type = r.type := by
  unfold wiredResource
  dsimp only
  split
  · exact r.type_setVariable _ _
  · rw [Resource.type_setVariable, Resource.type_setVariable]

/-- Every function has the text of its stack's tables. -/
theorem published?_wiredResource (config : Config) (tables : List String) {r : Resource}
    (h : r.type = functionType) :
    (wiredResource config tables r).published? "TABLE_NAMES" = some (tableNames tables) := by
  have hnamed := Resource.published?_setVariable h "TABLE_NAMES" "TABLE_NAMES" (tableNames tables)
  rw [if_pos rfl] at hnamed
  unfold wiredResource
  dsimp only
  split
  · exact hnamed
  · rw [Resource.published?_setVariable ((r.type_setVariable _ _).trans h), if_neg (by decide),
      hnamed]

theorem get?_wiredResource_of_ne {key : String} (h : key ≠ "Environment") (config : Config)
    (tables : List String) (r : Resource) :
    (wiredResource config tables r).properties.get? key = r.properties.get? key := by
  unfold wiredResource
  dsimp only
  split
  · exact Resource.get?_setVariable_of_ne h _ _ _
  · rw [Resource.get?_setVariable_of_ne h, Resource.get?_setVariable_of_ne h]

end Stacks

namespace Template

open Stacks

theorem get?_setFunctionVariable (t : Template) (name : String) (value : Json) (id : String) :
    (t.setFunctionVariable name value).resources.get? id =
      (t.resources.get? id).map (Resource.setVariable name value) := by
  unfold setFunctionVariable
  rw [Dict.get?_mapValues]
  rfl

/-- Globals and parameters aside, wiring changes a template function by function. -/
theorem get?_resources_wiredStack (config : Config) (globals : Option Json) (n : NestedStack)
    (id : String) : (wiredStack config globals n).template.resources.get? id =
      (n.template.resources.get? id).map (wiredResource config n.tables) := by
  have hadopting : (adopting globals n.template).resources = n.template.resources := by
    cases globals <;> rfl
  have hbound (bindings : List (String × Json)) (n : NestedStack) :
      (bound bindings n).template.resources = n.template.resources :=
    resources_addStringParameters _ _
  have hnamed : (bound (environmentBindings config)
      (retemplate (·.setFunctionVariable "TABLE_NAMES" (tableNames n.tables))
        (bound (tableBindings n.tables) (bound (carriedBindings globals)
          (retemplate (adopting globals) n))))).template.resources.get? id =
      (n.template.resources.get? id).map
        (Resource.setVariable "TABLE_NAMES" (tableNames n.tables)) := by
    rw [hbound, retemplate, get?_setFunctionVariable, hbound, hbound, retemplate, hadopting]
  unfold wiredStack wiredResource publishing
  dsimp only
  split
  · exact hnamed
  · rw [retemplate, get?_setFunctionVariable, hnamed, Option.map_map]
    rfl

variable {config : Config} {b : Blueprint} {s : Stacks}

/-- The nested stack of a function has the resources it was added with, each one wired. -/
theorem exists_nested (hsound : b.IsSound) (hwired : b.IsWired)
    (h : Stacks.ofBlueprint config b = .ok s) {f : FunctionStack}
    (hf : f ∈ FunctionStack.ofBlueprint b config) :
    ∃ n, s.nested.get? (stackName f.function) = some n ∧ n.tables = f.stack.tables ∧
      ∀ id, n.template.resources.get? id =
        (f.stack.template.resources.get? id).map (wiredResource config f.stack.tables) := by
  obtain ⟨root, -, rfl⟩ := ofBlueprint_eq_ok h
  refine ⟨_, nested_assembled hsound hwired root hf, rfl, fun id => ?_⟩
  have hbound : f.nested.template.resources = f.stack.template.resources :=
    resources_addStringParameters _ _
  rw [get?_resources_wiredStack, hbound]
  rfl

end Template

end Keyspace
