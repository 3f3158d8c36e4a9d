import Keyspace.Proofs.Template.FunctionStacks
import Keyspace.Proofs.Template.Passes

/-!
# The stack set of a blueprint, piece by piece

A stack set is put together from a root, the stacks of functions and the passes over them.
What stands under a name in the end is known for each name: a nested stack and its resource
come from one function, and every other resource is the root's own.
-/
namespace Keyspace.Template

open Stacks

namespace FunctionStack

/-- The root resource that deploys the stack, before any pass. -/
def resource (f : FunctionStack) : Resource :=
  forwardAll f.bindings
    ⟨applicationType, .obj [("Location", .str (nestedLocation (stackName f.function)))]⟩

/-- The nested stack, before any pass. -/
def nested (f : FunctionStack) : NestedStack := bound f.bindings f.stack

theorem get?_resources_addTo (s : Stacks) (f : FunctionStack) (id : String) :
    (addTo s f).root.resources.get? id =
      if id = stackName f.function then some f.resource else s.root.resources.get? id := by
  unfold addTo
  rw [(actsOn_bindParameters _ _).root]
  dsimp only [addNested, addResource]
  rw [Dict.get?_modify, Dict.get?_insert]
  split <;> rfl

theorem get?_nested_addTo (s : Stacks) (f : FunctionStack) (name : String) :
    (addTo s f).nested.get? name =
      if name = stackName f.function then some f.nested else s.nested.get? name := by
  unfold addTo
  rw [(actsOn_bindParameters _ _).nested]
  dsimp only [addNested]
  rw [Dict.get?_modify, Dict.get?_insert]
  split <;> rfl

/-- Adding stacks leaves the rest of the root alone. -/
theorem root_foldl_addTo (fs : List FunctionStack) (s : Stacks) :
    ∃ resources, (fs.foldl addTo s).root = { s.root with resources := resources } := by
  induction fs generalizing s with
  | nil => exact ⟨s.root.resources, rfl⟩
  | cons f rest ih =>
    obtain ⟨resources, h⟩ := ih (addTo s f)
    refine ⟨resources, h.trans ?_⟩
    rw [addTo, (actsOn_bindParameters _ _).root]
    rfl

theorem get?_resources_foldl_addTo (fs : List FunctionStack) (s : Stacks) (id : String) :
    (fs.foldl addTo s).root.resources.get? id =
      (s.root.resources.union (fs.map fun f => (stackName f.function, f.resource))).get? id := by
  induction fs using List.reverseRecOn with
  | nil => rfl
  | append_singleton fs f ih =>
    rw [List.foldl_append, List.foldl_cons, List.foldl_nil, get?_resources_addTo, List.map_append,
      Dict.union_append, ih]
    exact (Dict.get?_insert _ _ _ _).symm

theorem get?_nested_foldl_addTo (fs : List FunctionStack) (s : Stacks) (name : String) :
    (fs.foldl addTo s).nested.get? name =
      (s.nested.union (fs.map fun f => (stackName f.function, f.nested))).get? name := by
  induction fs using List.reverseRecOn with
  | nil => rfl
  | append_singleton fs f ih =>
    rw [List.foldl_append, List.foldl_cons, List.foldl_nil, get?_nested_addTo, List.map_append,
      Dict.union_append, ih]
    exact (Dict.get?_insert _ _ _ _).symm

end FunctionStack

/-- A nested stack after all passes. -/
def wiredStack (config : Config) (globals : Option Json) (n : NestedStack) : NestedStack :=
  retemplate (publishing config) (bound (environmentBindings config)
    (retemplate (·.setFunctionVariable "TABLE_NAMES" (tableNames n.tables))
      (bound (tableBindings n.tables) (bound (carriedBindings globals)
        (retemplate (adopting globals) n)))))

/-- What the passes forward to a nested stack. -/
def wiredBindings (config : Config) (globals : Option Json) (n : NestedStack) :
    List (String × Json) :=
  carriedBindings globals ++ tableBindings n.tables ++ environmentBindings config

theorem forwardAll_append (bindings later : List (String × Json)) (r : Resource) :
    forwardAll (bindings ++ later) r = forwardAll later (forwardAll bindings r) :=
  List.foldl_append

theorem wire_each (config : Config) {s : Stacks} (hdistinct : s.nested.keys.Nodup) :
    ActsOnEach s (wire config s) (wiredStack config s.root.globals)
      fun n => forwardAll (wiredBindings config s.root.globals n) := by
  have hspread := spreadGlobals_each hdistinct
  have hnamed := nameTables_each (hspread.nestedKeys.symm ▸ hdistinct)
  have hboth := hspread.trans hnamed
  have hpublished := publishEnvironment_each config (hboth.nestedKeys.symm ▸ hdistinct)
  have hall := hboth.trans hpublished
  refine ⟨hall.nestedKeys, hall.nested, hall.resourceKeys, fun name n hn => ?_, hall.other,
    hall.globals, hall.outputs⟩
  refine (hall.deployed name n hn).trans ?_
  congr 1
  funext r
  unfold wiredBindings
  rw [forwardAll_append, forwardAll_append]
  rfl

/-- The parameters of the root are those configured and those of variables. -/
theorem mem_parameters_foldl {names : List String} {t : Template} {name : String} :
    name ∈ (names.foldl addStringParameter t).parameters.keys ↔
      name ∈ names ∨ name ∈ t.parameters.keys := by
  induction names generalizing t with
  | nil => simp
  | cons first rest ih =>
    have hadded : name ∈ (t.addStringParameter first).parameters.keys ↔
        name = first ∨ name ∈ t.parameters.keys := by
      unfold addStringParameter
      split
      · next hthere =>
        have hfirst : first ∈ t.parameters.keys := Dict.mem_keys_iff.mpr hthere
        exact ⟨Or.inr, fun h => h.elim (fun heq => heq ▸ hfirst) id⟩
      · exact Dict.mem_keys_insert
    rw [List.foldl_cons, ih, hadded, List.mem_cons]
    tauto

theorem parameters_publishEnvironment (config : Config) (s : Stacks) :
    (publishEnvironment config s).root.parameters =
      ((config.environment.map environmentParameter).foldl addStringParameter s.root).parameters := by
  unfold publishEnvironment
  split
  · next hempty =>
    rw [List.isEmpty_iff.mp hempty]
    rfl
  · dsimp only
    rw [foldl_actsOn fun a => actsOn_publishTo _ _ a]

theorem parameters_nameTables (s : Stacks) :
    (nameTables s).root.parameters = s.root.parameters := by
  unfold nameTables
  rw [foldl_actsOn fun entry : String × NestedStack => actsOn_nameTablesOf entry.1 entry.2.tables]

theorem parameters_spreadGlobals (s : Stacks) :
    (spreadGlobals s).root.parameters = s.root.parameters := by
  unfold spreadGlobals
  split
  · rfl
  · dsimp only
    rw [foldl_actsOn fun a => actsOn_adoptGlobals _ _ a]

theorem mem_parameters_wire (config : Config) (s : Stacks) (name : String) :
    name ∈ (wire config s).root.parameters.keys ↔
      name ∈ config.environment.map environmentParameter ∨ name ∈ s.root.parameters.keys := by
  show name ∈ (publishEnvironment config (nameTables (spreadGlobals s))).root.parameters.keys ↔ _
  rw [parameters_publishEnvironment, mem_parameters_foldl, parameters_nameTables,
    parameters_spreadGlobals]

/-! ## The whole -/

/-- The stack set over a root, before the checks. -/
def assembled (config : Config) (b : Blueprint) (root : Template) : Stacks :=
  wire config ((FunctionStack.ofBlueprint b config).foldl FunctionStack.addTo (.new root))

section Assembled

variable (config : Config) (b : Blueprint) (root : Template)

theorem keys_nodup_added :
    ((FunctionStack.ofBlueprint b config).foldl FunctionStack.addTo (.new root)).nested.keys.Nodup :=
  (FunctionStack.ordered_foldl_addTo _ Dict.ordered_nil).keys_nodup

theorem each_assembled :
    ActsOnEach ((FunctionStack.ofBlueprint b config).foldl FunctionStack.addTo (.new root))
      (assembled config b root) (wiredStack config root.globals)
      fun n => forwardAll (wiredBindings config root.globals n) := by
  have h := wire_each config (keys_nodup_added config b root)
  rwa [FunctionStack.globals_foldl_addTo] at h

theorem mem_keys_assembled {name : String} : name ∈ (assembled config b root).nested.keys ↔
    ∃ f ∈ FunctionStack.ofBlueprint b config, name = stackName f.function := by
  rw [(each_assembled config b root).nestedKeys, FunctionStack.mem_keys_foldl_addTo]
  exact or_iff_left List.not_mem_nil

/-- A resource that deploys no nested stack is the root's own. -/
theorem get?_assembled_of_not_mem {id : String}
    (h : id ∉ (assembled config b root).nested.keys) :
    (assembled config b root).root.resources.get? id = root.resources.get? id := by
  have heach := each_assembled config b root
  rw [heach.other id (by rwa [heach.nestedKeys] at h), FunctionStack.get?_resources_foldl_addTo]
  refine Dict.get?_union_of_not_mem fun entry hentry hid => h ?_
  obtain ⟨f, hf, rfl⟩ := List.mem_map.mp hentry
  exact (mem_keys_assembled config b root).mpr ⟨f, hf, hid.symm⟩

theorem mem_resources_assembled {id : String} :
    id ∈ (assembled config b root).root.resources.keys ↔
      id ∈ root.resources.keys ∨ id ∈ (assembled config b root).nested.keys := by
  rw [(each_assembled config b root).resourceKeys, mem_keys_assembled, Dict.mem_keys_iff,
    FunctionStack.get?_resources_foldl_addTo, ← Dict.mem_keys_iff, Dict.union,
    Dict.mem_keys_foldl_insert, or_comm, List.map_map, List.mem_map]
  exact or_congr_right (exists_congr fun f => and_congr_right fun _ => eq_comm)

theorem mem_parameters_assembled {name : String} :
    name ∈ (assembled config b root).root.parameters.keys ↔
      name ∈ config.environment.map environmentParameter ∨ name ∈ root.parameters.keys := by
  obtain ⟨resources, hroot⟩ := FunctionStack.root_foldl_addTo
    (FunctionStack.ofBlueprint b config) (.new root)
  rw [assembled, mem_parameters_wire, hroot]
  rfl

end Assembled

section Function

variable {config : Config} {b : Blueprint} {f : FunctionStack}

/-- The nested stack of a function before the passes: no other function takes its name. -/
theorem nested_added (hsound : b.IsSound) (hwired : b.IsWired) (root : Template)
    (hf : f ∈ FunctionStack.ofBlueprint b config) :
    ((FunctionStack.ofBlueprint b config).foldl FunctionStack.addTo
      (.new root)).nested.get? (stackName f.function) = some f.nested := by
  rw [FunctionStack.get?_nested_foldl_addTo]
  refine Dict.get?_union_of_agree ⟨_, List.mem_map_of_mem hf, rfl⟩ fun entry hentry hname => ?_
  obtain ⟨g, hg, rfl⟩ := List.mem_map.mp hentry
  rw [FunctionStack.eq_of_function_eq hsound hwired hf hg (FunctionStack.stackName_inj hname)]

/-- The nested stack of a function in the end. -/
theorem nested_assembled (hsound : b.IsSound) (hwired : b.IsWired) (root : Template)
    (hf : f ∈ FunctionStack.ofBlueprint b config) :
    (assembled config b root).nested.get? (stackName f.function) =
      some (wiredStack config root.globals f.nested) := by
  rw [(each_assembled config b root).nested, nested_added hsound hwired root hf]
  rfl

/-- The resource that deploys the nested stack of a function in the end. -/
theorem resource_assembled (hsound : b.IsSound) (hwired : b.IsWired) (root : Template)
    (hf : f ∈ FunctionStack.ofBlueprint b config) :
    (assembled config b root).root.resources.get? (stackName f.function) =
      some (forwardAll (f.bindings ++ wiredBindings config root.globals f.nested)
        ⟨applicationType, .obj [("Location", .str (nestedLocation (stackName f.function)))]⟩) := by
  have hresource : ((FunctionStack.ofBlueprint b config).foldl FunctionStack.addTo
      (.new root)).root.resources.get? (stackName f.function) = some f.resource := by
    rw [FunctionStack.get?_resources_foldl_addTo]
    refine Dict.get?_union_of_agree ⟨_, List.mem_map_of_mem hf, rfl⟩ fun entry hentry hname => ?_
    obtain ⟨g, hg, rfl⟩ := List.mem_map.mp hentry
    rw [FunctionStack.eq_of_function_eq hsound hwired hf hg (FunctionStack.stackName_inj hname)]
  rw [(each_assembled config b root).deployed _ _ (nested_added hsound hwired root hf), hresource,
    Option.map_some, FunctionStack.resource, forwardAll_append]

end Function

end Keyspace.Template
