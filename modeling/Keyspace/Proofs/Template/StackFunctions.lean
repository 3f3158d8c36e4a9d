import Keyspace.Proofs.Template.Bindings
import Keyspace.Proofs.Template.Consistency
import Keyspace.Proofs.Template.FunctionVariables
import Keyspace.Proofs.Template.KeySchemas

/-!
# The functions of a stack set

Every function is a resource of the nested stack that is named after it, and of all its
properties the passes change the environment only.
-/
namespace Keyspace

open Template Stacks

/-- A function, and the template of the nested stack that is named after it. -/
def Stacks.functionOf? (s : Stacks) (function : String) : Option (Template × Resource) := do
  let stack ← s.nested.get? (stackName function)
  let r ← stack.template.resources.get? function
  pure (stack.template, r)

theorem Stacks.functionOf?_eq_some {s : Stacks} {function : String} {template : Template}
    {r : Resource} : s.functionOf? function = some (template, r) ↔
      ∃ n, s.nested.get? (stackName function) = some n ∧ n.template = template ∧
        template.resources.get? function = some r := by
  unfold functionOf?
  cases s.nested.get? (stackName function) with
  | none => simp
  | some n =>
    simp only [Option.bind_eq_bind, Option.bind_some, Option.some.injEq, exists_eq_left']
    cases hr : n.template.resources.get? function with
    | none =>
      refine ⟨(nomatch ·), ?_⟩
      rintro ⟨rfl, hnone⟩
      rw [hr] at hnone
      cases hnone
    | some r' =>
      constructor
      · rintro ⟨⟩
        exact ⟨rfl, hr⟩
      · rintro ⟨rfl, hsame⟩
        cases hr.symm.trans hsame
        rfl

namespace Template

theorem get?_handlerTemplate (config : Config) (t : Table) (h : ChangeHandler) :
    (handlerTemplate config t h).resources.get? h.functionName =
      some (handlerFunction config t h) := Dict.get?_insert_self _ _ _

theorem get?_dispatcherTemplate (config : Config) (t : Table) (d : Dispatcher) :
    (dispatcherTemplate config t d).resources.get? d.functionName =
      some (dispatcherFunction config d) := Dict.get?_insert_self _ _ _

variable {config : Config} {b : Blueprint} {s : Stacks}

/-- Before the passes a function is in the nested stack named after it, as it was built. -/
theorem exists_functionOf?_added (hsound : b.IsSound) (hwired : b.IsWired) (root : Template)
    {f : FunctionStack} (hf : f ∈ FunctionStack.ofBlueprint b config) {r : Resource}
    (hr : f.stack.template.resources.get? f.function = some r) :
    ∃ template, (addFunctions b config (.new root)).functionOf? f.function =
      some (template, r) := by
  have hresources : f.nested.template.resources = f.stack.template.resources :=
    resources_addStringParameters _ _
  refine ⟨f.nested.template, functionOf?_eq_some.mpr ⟨f.nested, ?_, rfl, hresources ▸ hr⟩⟩
  rw [FunctionStack.addFunctions_eq]
  exact nested_added hsound hwired root hf

/-- A function of an accepted blueprint is in the nested stack named after it, wired. -/
theorem exists_functionOf? (hsound : b.IsSound) (hwired : b.IsWired)
    (hs : Stacks.ofBlueprint config b = .ok s) {f : FunctionStack}
    (hf : f ∈ FunctionStack.ofBlueprint b config) {r : Resource}
    (hr : f.stack.template.resources.get? f.function = some r) :
    ∃ template, s.functionOf? f.function =
      some (template, wiredResource config f.stack.tables r) := by
  obtain ⟨n, hn, -, hresources⟩ := exists_nested hsound hwired hs hf
  refine ⟨n.template, functionOf?_eq_some.mpr ⟨n, hn, rfl, ?_⟩⟩
  rw [hresources, hr]
  rfl

/-- A table that a function touches is forwarded to it, or a variable in its place. -/
theorem get?_forwardedOver_isSome {tables : List String} {d : Dict Json} {table : String}
    (htable : table ∈ tables) :
    (Dict.get? (config.forwardedOver tables d) (tableParameter table)).isSome = true := by
  by_cases hvariable : tableParameter table ∈ config.environment.map environmentParameter
  · rw [get?_forwardedOver_variable hvariable]
    rfl
  · rw [get?_forwardedOver_table htable hvariable]
    rfl

/-- The parameters of the tables that a function touches are declared by its stack. -/
theorem mem_parameters_of_touched (hsound : b.IsSound) (hwired : b.IsWired)
    (hs : Stacks.ofBlueprint config b = .ok s) {f : FunctionStack}
    (hf : f ∈ FunctionStack.ofBlueprint b config) {template : Template} {r : Resource}
    (hfunction : s.functionOf? f.function = some (template, r)) {table : String}
    (htable : table ∈ f.stack.tables) : tableParameter table ∈ template.parameters.keys := by
  obtain ⟨n, hn, rfl, -⟩ := functionOf?_eq_some.mp hfunction
  obtain ⟨-, -, -, hcheck⟩ := ofBlueprint_stages hs
  obtain ⟨-, application, happlication, hdeployed⟩ :=
    (check_eq_ok_iff.mp hcheck).nested _ (Dict.mem_of_get? hn)
  have hforwarded := forwardedTo_function hsound hwired hs hf (tableParameter table)
  rw [Stacks.forwardedTo, happlication, Option.bind_some] at hforwarded
  refine (hdeployed.parameters _).mpr (Dict.mem_keys_iff.mpr ?_)
  rw [hforwarded]
  exact get?_forwardedOver_isSome htable

end Template

end Keyspace
