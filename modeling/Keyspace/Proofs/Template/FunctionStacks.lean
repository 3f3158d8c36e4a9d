import Keyspace.Proofs.Blueprint.Accepted
import Keyspace.Proofs.Template.Forwarding
import Keyspace.Template.Emit

/-!
# The nested stacks of functions

Every dispatcher and every handler of an accepted blueprint has a nested stack of its own,
because no two functions share a name. What the root forwards to it is what the stack was
added with, followed by what the passes bind.
-/
namespace Keyspace.Template

open Stacks

/-- The nested stack of a function, and the parameters it is bound to when it is added. -/
structure FunctionStack where
  function : String
  stack : NestedStack
  bindings : List (String × Json)

namespace FunctionStack

def ofDispatcher (config : Config) (t : Table) (d : Dispatcher) : FunctionStack :=
  ⟨d.functionName, ⟨dispatcherTemplate config t d, [t.name]⟩,
    [(streamParameter, .getAtt (tableLogicalId t.name) "StreamArn"),
      (eventBusParameter, .ref eventBusId)]⟩

def ofHandler (config : Config) (t : Table) (h : ChangeHandler) : FunctionStack :=
  ⟨h.functionName, ⟨handlerTemplate config t h, handlerTables t h⟩,
    [(eventBusParameter, .ref eventBusId)]⟩

/-- The function stacks of a table. -/
def ofTable (b : Blueprint) (config : Config) (t : Table) : List FunctionStack :=
  match t.dispatcher with
  | none => []
  | some d => ofDispatcher config t d ::
      ((b.modelsOn t).flatMap (·.handlers)).map (ofHandler config t)

def ofBlueprint (b : Blueprint) (config : Config) : List FunctionStack :=
  b.tables.flatMap (ofTable b config)

def addTo (s : Stacks) (f : FunctionStack) : Stacks :=
  (s.addNested (stackName f.function) f.stack).bindParameters (stackName f.function) f.bindings

theorem addFunctions_eq (b : Blueprint) (config : Config) (s : Stacks) :
    addFunctions b config s = (ofBlueprint b config).foldl addTo s := by
  have htable (s : Stacks) (t : Table) :
      addTableFunctions b config s t = (ofTable b config t).foldl addTo s := by
    unfold addTableFunctions ofTable
    cases t.dispatcher with
    | none => rfl
    | some d =>
      rw [List.foldl_cons, List.foldl_map]
      rfl
  unfold addFunctions ofBlueprint
  rw [List.foldl_flatMap, funext fun s => funext (htable s)]

theorem deployment?_addTo (s : Stacks) (f : FunctionStack) (other : String) :
    (addTo s f).deployment? other = if other = stackName f.function then
      some (Deployment.bind ⟨f.stack.tables, []⟩ f.bindings) else s.deployment? other := by
  unfold addTo
  rw [deployment?_bindParameters, deployment?_addNested]
  split <;> rfl

theorem stackName_inj {f g : String} (h : stackName f = stackName g) : f = g := by
  have htext := congrArg String.toList h
  simp only [stackName, String.toList_append] at htext
  exact String.toList_injective (List.append_cancel_right htext)

/-- A function stack with a name of its own is deployed as it was added. -/
theorem deployment?_foldl_addTo {fs : List FunctionStack} {f : FunctionStack} (hf : f ∈ fs)
    (hown : ∀ g ∈ fs, g.function = f.function → g = f) (s : Stacks) :
    (fs.foldl addTo s).deployment? (stackName f.function) =
      some (Deployment.bind ⟨f.stack.tables, []⟩ f.bindings) := by
  induction fs using List.reverseRecOn with
  | nil => cases hf
  | append_singleton fs g ih =>
    rw [List.foldl_append, List.foldl_cons, List.foldl_nil, deployment?_addTo]
    by_cases hname : stackName f.function = stackName g.function
    · have hsame := hown g (by simp) (stackName_inj hname).symm
      rw [if_pos hname, hsame]
    · rw [if_neg hname]
      have hne : f ≠ g := fun heq => hname (heq ▸ rfl)
      refine ih ?_ fun g' hg' => hown g' (List.mem_append_left _ hg')
      rcases List.mem_append.mp hf with hf | hf
      · exact hf
      · exact absurd (List.mem_singleton.mp hf) hne

theorem ordered_foldl_addTo (fs : List FunctionStack) {s : Stacks} (h : s.nested.Ordered) :
    (fs.foldl addTo s).nested.Ordered := by
  induction fs generalizing s with
  | nil => exact h
  | cons f rest ih =>
    have hadded := h.insert (stackName f.function) f.stack
    refine ih (Dict.ordered_iff_keys.mpr ?_)
    rw [addTo, keys_bindParameters]
    exact Dict.ordered_iff_keys.mp hadded

theorem mem_keys_foldl_addTo (fs : List FunctionStack) (s : Stacks) (name : String) :
    name ∈ (fs.foldl addTo s).nested.keys ↔
      (∃ f ∈ fs, name = stackName f.function) ∨ name ∈ s.nested.keys := by
  induction fs using List.reverseRecOn with
  | nil => simp
  | append_singleton fs g ih =>
    rw [List.foldl_append, List.foldl_cons, List.foldl_nil, addTo, keys_bindParameters, addNested,
      Dict.mem_keys_insert, ih]
    simp only [List.mem_append, List.mem_singleton, or_and_right, exists_or, exists_eq_left]
    exact or_left_comm.trans or_assoc.symm

section Accepted

variable {b : Blueprint} {config : Config}

theorem mem_ofBlueprint {f : FunctionStack} : f ∈ ofBlueprint b config ↔
    ∃ t ∈ b.tables, ∃ d, t.dispatcher = some d ∧ (f = ofDispatcher config t d ∨
      ∃ m ∈ b.models, m.table = t.name ∧ ∃ h ∈ m.handlers, f = ofHandler config t h) := by
  unfold ofBlueprint ofTable Blueprint.modelsOn
  rw [List.mem_flatMap]
  refine exists_congr fun t => and_congr_right fun _ => ?_
  cases t.dispatcher with
  | none => simp
  | some d =>
    simp only [List.mem_cons, List.mem_map, List.mem_flatMap, List.mem_filter, decide_eq_true_eq,
      Option.some.injEq, exists_eq_left']
    refine or_congr_right ⟨?_, ?_⟩
    · rintro ⟨h, ⟨m, ⟨hm, htable⟩, hh⟩, rfl⟩
      exact ⟨m, hm, htable, h, hh, rfl⟩
    · rintro ⟨m, hm, htable, h, hh, rfl⟩
      exact ⟨h, ⟨m, ⟨hm, htable⟩, hh⟩, rfl⟩

/-- Every dispatcher has a function stack. -/
theorem mem_of_dispatcher (config : Config) {t : Table} (ht : t ∈ b.tables) {d : Dispatcher}
    (hd : t.dispatcher = some d) : ofDispatcher config t d ∈ ofBlueprint b config :=
  mem_ofBlueprint.mpr ⟨t, ht, d, hd, Or.inl rfl⟩

/-- Every handler has a function stack, beside the dispatcher of its model's table. -/
theorem exists_mem_of_handler (config : Config) (hwired : b.IsWired) {m : Model}
    (hm : m ∈ b.models) {h : ChangeHandler} (hh : h ∈ m.handlers) :
    ∃ t ∈ b.tables, t.name = m.table ∧ (∃ d, t.dispatcher = some d) ∧
      ofHandler config t h ∈ ofBlueprint b config := by
  obtain ⟨t, ht, hname, hdispatcher⟩ := hwired.dispatched m hm (List.ne_nil_of_mem hh)
  obtain ⟨d, hd⟩ := Option.isSome_iff_exists.mp hdispatcher
  exact ⟨t, ht, hname, ⟨d, hd⟩, mem_ofBlueprint.mpr
    ⟨t, ht, d, hd, Or.inr ⟨m, hm, hname.symm, h, hh, rfl⟩⟩⟩

/-- The functions of a blueprint with what they belong to. -/
def owners (b : Blueprint) : List (Table × Dispatcher ⊕ Model × ChangeHandler) :=
  (b.tables.filterMap fun t => t.dispatcher.map fun d => .inl (t, d)) ++
    b.models.flatMap fun m => m.handlers.map fun h => .inr (m, h)

/-- No two functions of an accepted blueprint have one name. -/
theorem owners_distinct (hwired : b.IsWired) :
    ((owners b).map (Sum.elim (·.2.functionName) (·.2.functionName))).Nodup := by
  have hnames : (owners b).map (Sum.elim (·.2.functionName) (·.2.functionName)) =
      (Blueprint.functionOwners b.models b.tables).map (·.1) := by
    unfold owners Blueprint.functionOwners
    simp only [List.map_append, List.map_filterMap, List.map_flatMap, List.map_map, Option.map_map]
    rfl
  rw [hnames]
  exact hwired.functionsDistinct

theorem eq_of_function_eq (hsound : b.IsSound) (hwired : b.IsWired) {f g : FunctionStack}
    (hf : f ∈ ofBlueprint b config) (hg : g ∈ ofBlueprint b config)
    (hname : g.function = f.function) : g = f := by
  have hinj {o o' : Table × Dispatcher ⊕ Model × ChangeHandler} (ho : o ∈ owners b)
      (ho' : o' ∈ owners b) (hsame : o.elim (·.2.functionName) (·.2.functionName) =
        o'.elim (·.2.functionName) (·.2.functionName)) : o = o' :=
    List.inj_on_of_nodup_map (owners_distinct hwired) ho ho' hsame
  have hdispatcher {t : Table} {d : Dispatcher} (ht : t ∈ b.tables) (hd : t.dispatcher = some d) :
      .inl (t, d) ∈ owners b :=
    List.mem_append_left _ (List.mem_filterMap.mpr ⟨t, ht, by rw [hd]; rfl⟩)
  have hhandler {m : Model} {h : ChangeHandler} (hm : m ∈ b.models) (hh : h ∈ m.handlers) :
      .inr (m, h) ∈ owners b :=
    List.mem_append_right _ (List.mem_flatMap.mpr ⟨m, hm, List.mem_map_of_mem hh⟩)
  obtain ⟨t, ht, d, hd, rfl | ⟨m, hm, htable, h, hh, rfl⟩⟩ := mem_ofBlueprint.mp hf <;>
    obtain ⟨t', ht', d', hd', rfl | ⟨m', hm', htable', h', hh', rfl⟩⟩ := mem_ofBlueprint.mp hg
  · cases hinj (hdispatcher ht hd) (hdispatcher ht' hd') hname.symm
    rfl
  · cases hinj (hdispatcher ht hd) (hhandler hm' hh') hname.symm
  · cases hinj (hhandler hm hh) (hdispatcher ht' hd') hname.symm
  · cases hinj (hhandler hm hh) (hhandler hm' hh') hname.symm
    have hsame : t = t' :=
      List.inj_on_of_nodup_map hsound.namesDistinct ht ht' (htable.symm.trans htable')
    rw [hsame]

end Accepted

theorem globals_foldl_addTo (fs : List FunctionStack) (s : Stacks) :
    (fs.foldl addTo s).root.globals = s.root.globals := by
  have hbind (stack : String) (bindings : List (String × Json)) (s : Stacks) :
      (s.bindParameters stack bindings).root.globals = s.root.globals := by
    unfold bindParameters
    induction bindings generalizing s with
    | nil => rfl
    | cons binding rest ih => exact ih _
  induction fs generalizing s with
  | nil => rfl
  | cons f rest ih =>
    rw [List.foldl_cons, ih, addTo, hbind]
    rfl

end FunctionStack

theorem globals_addTablesFrom {b : Blueprint} {root : Template} (tables : List Table) :
    (addTablesFrom b root tables).1.globals = root.globals := by
  induction tables generalizing root with
  | nil => rfl
  | cons t rest ih =>
    unfold addTablesFrom
    split
    · rfl
    · rw [ih]
      unfold addFreeTable
      dsimp only
      split <;> rfl

theorem globals_addTables {b : Blueprint} {root : Template} :
    (addTables b root).1.globals = root.globals := by
  have htables : (addTablesFrom b root b.tables).1.globals = root.globals :=
    globals_addTablesFrom b.tables
  unfold addTables
  split
  · next h => rwa [h] at htables
  · next h =>
    rw [h] at htables
    dsimp only
    split <;> exact htables

section Result

open Keyspace.Result

variable {b : Blueprint} {config : Config} {s : Stacks}

/-- The stages that building the stack set of a blueprint has passed. -/
theorem ofBlueprint_stages (h : Stacks.ofBlueprint config b = .ok s) :
    ∃ root : Template, addTables b (startingRoot config) = (root, none) ∧
      s = wire config ((FunctionStack.ofBlueprint b config).foldl FunctionStack.addTo
        (.new root)) ∧ s.check = .ok () := by
  unfold Stacks.ofBlueprint at h
  split at h
  · obtain ⟨_, hthrow, -⟩ := bind_eq_ok.mp h
    exact absurd hthrow throw_ne_ok
  · next root htables =>
    obtain ⟨root', hroot, h⟩ := bind_eq_ok.mp h
    obtain ⟨⟨⟩, hcheck, h⟩ := bind_eq_ok.mp h
    cases pure_eq_ok.mp hroot
    rw [FunctionStack.addFunctions_eq] at hcheck h
    cases pure_eq_ok.mp h
    exact ⟨root, htables, rfl, hcheck⟩

/-- What the stack set of a blueprint is made of. -/
theorem ofBlueprint_eq_ok (h : Stacks.ofBlueprint config b = .ok s) :
    ∃ root : Template, root.globals = config.globals ∧
      s = wire config ((FunctionStack.ofBlueprint b config).foldl FunctionStack.addTo
        (.new root)) := by
  obtain ⟨root, htables, hs, -⟩ := ofBlueprint_stages h
  have hglobals : (addTables b (startingRoot config)).1.globals = config.globals :=
    globals_addTables
  rw [htables] at hglobals
  exact ⟨root, hglobals, hs⟩

theorem keys_ofBlueprint (h : Stacks.ofBlueprint config b = .ok s) (name : String) :
    name ∈ s.nested.keys ↔
      ∃ f ∈ FunctionStack.ofBlueprint b config, name = stackName f.function := by
  obtain ⟨root, -, rfl⟩ := ofBlueprint_eq_ok h
  rw [keys_wire, FunctionStack.mem_keys_foldl_addTo]
  exact or_iff_left List.not_mem_nil

/-- What the root forwards to the nested stack of a function, in the order it is bound. -/
theorem deployment?_ofBlueprint (hsound : b.IsSound) (hwired : b.IsWired)
    (h : Stacks.ofBlueprint config b = .ok s) {f : FunctionStack}
    (hf : f ∈ FunctionStack.ofBlueprint b config) :
    s.deployment? (stackName f.function) = some (Deployment.bind ⟨f.stack.tables, []⟩
      (f.bindings ++ (carriedBindings config.globals ++ tableBindings f.stack.tables ++
        environmentBindings config))) := by
  obtain ⟨root, hglobals, rfl⟩ := ofBlueprint_eq_ok h
  have hordered := FunctionStack.ordered_foldl_addTo (FunctionStack.ofBlueprint b config)
    (s := .new root) Dict.ordered_nil
  rw [deployment?_wire config hordered.keys_nodup,
    FunctionStack.deployment?_foldl_addTo hf fun g hg =>
      FunctionStack.eq_of_function_eq hsound hwired hf hg,
    FunctionStack.globals_foldl_addTo]
  show some _ = some _
  rw [Deployment.bind_append]
  show some (Deployment.bind _ (carriedBindings root.globals ++ _ ++ _)) = _
  rw [hglobals]
  rfl

end Result

end Keyspace.Template
