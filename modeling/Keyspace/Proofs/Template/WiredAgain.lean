import Keyspace.Proofs.Overwriting
import Keyspace.Proofs.Template.FunctionVariables

/-!
# Wiring a stack set again

The passes over a stack set write to places: parameters that are declared, values that the root
forwards, globals and variables of nested stacks. Which places are written, and what is written to
them, depends on the root's globals, the names of the nested stacks and the tables they touch, and
on nothing that is written. So a second round writes the same once more, and the last writer of
each place is the last writer of the first round.
-/
namespace Keyspace

namespace Resource

theorem overwrites_forward : Overwrites Resource.forward where
  again r name v w := by
    unfold forward
    rw [(Json.overwrites_setMember.updateMember "Parameters").again]
  apart r name name' v w hne := by
    unfold forward
    rw [(Json.overwrites_setMember.updateMember "Parameters").apart _ _ _ _ _ hne]

theorem overwrites_setVariable :
    Overwrites fun (r : Resource) (name : String) value => r.setVariable name value := by
  have hvars := (Json.overwrites_setMember.updateMember "Variables").updateMember "Environment"
  constructor
  case again =>
    intro r name v w
    unfold setVariable
    by_cases hfunction : r.type = functionType
    · simp only [if_pos hfunction]
      rw [hvars.again]
    · simp only [if_neg hfunction]
  case apart =>
    intro r name name' v w hne
    unfold setVariable
    by_cases hfunction : r.type = functionType
    · simp only [if_pos hfunction]
      rw [hvars.apart _ _ _ _ _ hne]
    · simp only [if_neg hfunction]

end Resource

namespace Template

/-- A place in a nested template. -/
inductive Slot where
  | globals
  | parameter (name : String)
  /-- A variable of all functions. -/
  | functionVariable (name : String)
deriving DecidableEq

/-- Writes to a place of a template. A parameter is only declared, whatever the value. -/
def put (t : Template) : Slot → Json → Template
  | .globals, value => { t with globals := some value }
  | .parameter name, _ => t.addStringParameter name
  | .functionVariable name, value => t.setFunctionVariable name value

/-- Adds the parameter to those declared, unless it is one of them. -/
def declared (parameters : Dict Json) (name : String) : Dict Json :=
  if parameters.contains name then parameters
  else parameters.insert name (.obj [("Type", .str "String")])

theorem addStringParameter_eq (t : Template) (name : String) :
    t.addStringParameter name = { t with parameters := declared t.parameters name } := by
  unfold addStringParameter declared
  split <;> rfl

theorem setFunctionVariable_eq (t : Template) (name : String) (value : Json) :
    t.setFunctionVariable name value =
      { t with resources := t.resources.mapValues (·.setVariable name value) } := rfl

theorem contains_declared (parameters : Dict Json) (name other : String) :
    (declared parameters name).contains other =
      (decide (other = name) || parameters.contains other) := by
  unfold declared
  split
  · next hthere => by_cases h : other = name <;> simp_all
  · unfold Dict.contains
    rw [Dict.get?_insert]
    by_cases h : other = name <;> simp [h]

theorem declared_of_contains {parameters : Dict Json} {name : String}
    (h : parameters.contains name = true) : declared parameters name = parameters := if_pos h

theorem declared_comm (parameters : Dict Json) (name name' : String) :
    declared (declared parameters name) name' = declared (declared parameters name') name := by
  by_cases h : parameters.contains name = true <;>
    by_cases h' : parameters.contains name' = true
  · rw [declared_of_contains h, declared_of_contains h', declared_of_contains h]
  · have hthere : (declared parameters name').contains name = true := by
      simp [contains_declared, h]
    rw [declared_of_contains h, declared_of_contains hthere]
  · have hthere : (declared parameters name).contains name' = true := by
      simp [contains_declared, h']
    rw [declared_of_contains h', declared_of_contains hthere]
  · by_cases heq : name = name'
    · rw [heq]
    · have hnew (d : Dict Json) (name : String) (h : ¬d.contains name = true) :
          declared d name = d.insert name (.obj [("Type", .str "String")]) := if_neg h
      rw [hnew _ name h, hnew _ name' h', hnew, hnew, Dict.overwrites_insert.apart _ _ _ _ _ heq]
      · simpa [Dict.contains, Dict.get?_insert, heq] using h
      · simpa [Dict.contains, Dict.get?_insert, Ne.symm heq] using h'

theorem overwrites_put : Overwrites put where
  again t slot v w := by
    cases slot with
    | globals => rfl
    | parameter name =>
      have hthere : (declared t.parameters name).contains name = true := by simp [contains_declared]
      simp only [put, addStringParameter_eq, declared_of_contains hthere]
    | functionVariable name =>
      simp only [put, setFunctionVariable_eq, Resource.overwrites_setVariable.mapValues.again]
  apart t slot slot' v w hne := by
    cases slot <;> cases slot' <;> simp only [put, addStringParameter_eq, setFunctionVariable_eq]
    case globals.globals => exact absurd rfl hne
    case parameter.parameter name name' =>
      rw [declared_comm]
    case functionVariable.functionVariable name name' =>
      rw [Resource.overwrites_setVariable.mapValues.apart _ _ _ _ _
        fun heq => hne (congrArg Slot.functionVariable heq)]

end Template

namespace Stacks

/-- A place in a stack set. -/
inductive Place where
  /-- A parameter of the root. -/
  | parameter (name : String)
  /-- What the root forwards to a nested stack under a name. -/
  | forwarded (stack name : String)
  | nested (stack : String) (slot : Template.Slot)
deriving DecidableEq

/-- Writes to a place of a stack set. -/
def put (s : Stacks) : Place → Json → Stacks
  | .parameter name, _ => { s with root := s.root.addStringParameter name }
  | .forwarded stack name, value => s.forward stack name value
  | .nested stack slot, value => s.updateNested stack (·.put slot value)

theorem overwrites_put : Overwrites put := by
  have hforward := Resource.overwrites_forward.modify
  have hnested : Overwrites fun (n : NestedStack) (slot : Template.Slot) value =>
      { n with template := n.template.put slot value } :=
    ⟨fun n slot v w => by rw [Template.overwrites_put.again],
      fun n slot slot' v w hne => by rw [Template.overwrites_put.apart _ _ _ _ _ hne]⟩
  constructor
  case again =>
    intro s place v w
    cases place with
    | parameter name =>
      have hagain := Template.overwrites_put.again s.root (.parameter name) v w
      exact congrArg (Stacks.mk · s.nested) hagain
    | forwarded stack name =>
      have hagain := hforward.again s.root.resources (stack, name) v w
      exact congrArg (fun found => Stacks.mk { s.root with resources := found } s.nested) hagain
    | nested stack slot =>
      exact congrArg (Stacks.mk s.root) (hnested.modify.again s.nested (stack, slot) v w)
  case apart =>
    intro s place place' v w hne
    cases place <;> cases place' <;> simp only [put, Template.addStringParameter_eq]
    case parameter.parameter name name' => rw [Template.declared_comm]
    case parameter.forwarded name stack' name' => rfl
    case parameter.nested => rfl
    case forwarded.parameter => rfl
    case forwarded.forwarded stack name stack' name' =>
      have hplace : (stack, name) ≠ (stack', name') := fun heq => hne (by cases heq; rfl)
      have hapart := hforward.apart s.root.resources _ _ v w hplace
      exact congrArg (fun found => Stacks.mk { s.root with resources := found } s.nested) hapart
    case forwarded.nested => rfl
    case nested.parameter => rfl
    case nested.forwarded => rfl
    case nested.nested stack slot stack' slot' =>
      have hplace : (stack, slot) ≠ (stack', slot') := fun heq => hne (by cases heq; rfl)
      exact congrArg (Stacks.mk s.root) (hnested.modify.apart s.nested _ _ v w hplace)

/-! ## The passes as writes -/

/-- Declares parameters on a nested stack and forwards values to them. -/
def bindWrites (stack : String) (bindings : List (String × Json)) : List (Place × Json) :=
  bindings.flatMap fun binding =>
    [(.nested stack (.parameter binding.1), binding.2), (.forwarded stack binding.1, binding.2)]

theorem bindParameters_eq_writeAll (s : Stacks) (stack : String) (bindings : List (String × Json)) :
    s.bindParameters stack bindings = writeAll put s (bindWrites stack bindings) := by
  unfold bindParameters bindWrites writeAll
  rw [List.foldl_flatMap]
  rfl

/-- What the passes read: the root's globals, and each nested stack's name and tables. -/
structure Layout where
  globals : Option Json
  nested : List (String × List String)

def layout (s : Stacks) : Layout where
  globals := s.root.globals
  nested := s.nested.map fun entry => (entry.1, entry.2.tables)

namespace Layout

def globalsWrites (l : Layout) : List (Place × Json) :=
  l.globals.elim [] fun globals => l.nested.flatMap fun stack =>
    (.nested stack.1 .globals, localize globals) ::
      bindWrites stack.1 (carriedBindings (some globals))

def tableWrites (l : Layout) : List (Place × Json) :=
  l.nested.flatMap fun stack => bindWrites stack.1 (tableBindings stack.2) ++
    [(.nested stack.1 (.functionVariable "TABLE_NAMES"), tableNames stack.2)]

def environmentWrites (config : Config) (l : Layout) : List (Place × Json) :=
  if config.environment.isEmpty then []
  else (config.environment.map fun name => (.parameter (environmentParameter name), .null)) ++
    l.nested.flatMap fun stack => bindWrites stack.1 (environmentBindings config) ++
      [(.nested stack.1 (.functionVariable "ENV"), environmentValues config)]

/-- All that the passes write, in order. -/
def writes (config : Config) (l : Layout) : List (Place × Json) :=
  l.globalsWrites ++ l.tableWrites ++ l.environmentWrites config

end Layout

/-- No write changes what the passes read. -/
theorem layout_put (s : Stacks) (place : Place) (value : Json) :
    (s.put place value).layout = s.layout := by
  cases place with
  | parameter name => simp only [put, Template.addStringParameter_eq, layout]
  | forwarded stack name => rfl
  | nested stack slot =>
    refine congrArg (Layout.mk s.root.globals) ?_
    simp only [put, updateNested, Dict.modify, List.map_map]
    refine List.map_congr_left fun entry _ => ?_
    simp only [Function.comp_apply]
    split <;> rfl

theorem layout_writeAll (s : Stacks) (writes : List (Place × Json)) :
    (writeAll put s writes).layout = s.layout := by
  induction writes generalizing s with
  | nil => rfl
  | cons entry rest ih => exact (ih _).trans (layout_put s entry.1 entry.2)

section Passes

variable (s : Stacks)

theorem spreadGlobals_eq_writeAll : spreadGlobals s = writeAll put s s.layout.globalsWrites := by
  unfold spreadGlobals Layout.globalsWrites layout
  cases s.root.globals with
  | none => rfl
  | some globals =>
    have hadopt (s : Stacks) (name : String) :
        adoptGlobals (localize globals) (globals.references.filter fun r => !r.isPseudo) s name =
          writeAll put s ((.nested name .globals, localize globals) ::
            bindWrites name (carriedBindings (some globals))) := by
      rw [adoptGlobals_eq, bindParameters_eq_writeAll]
      rfl
    show s.nested.keys.foldl _ s = writeAll put s (List.flatMap _ _)
    unfold writeAll at hadopt ⊢
    rw [List.foldl_flatMap, Dict.keys, List.foldl_map, List.foldl_map]
    simp only [hadopt]

theorem nameTables_eq_writeAll : nameTables s = writeAll put s s.layout.tableWrites := by
  have hname (s : Stacks) (name : String) (tables : List String) : nameTablesOf s name tables =
      writeAll put s (bindWrites name (tableBindings tables) ++
        [(.nested name (.functionVariable "TABLE_NAMES"), tableNames tables)]) := by
    rw [nameTablesOf_eq, bindParameters_eq_writeAll, writeAll_append]
    rfl
  unfold nameTables Layout.tableWrites layout
  unfold writeAll at hname ⊢
  rw [List.foldl_flatMap, List.foldl_map]
  simp only [hname]

theorem publishEnvironment_eq_writeAll (config : Config) :
    publishEnvironment config s = writeAll put s (s.layout.environmentWrites config) := by
  have hpublish (s : Stacks) (name : String) :
      publishTo (config.environment.map environmentParameter) (environmentValues config) s name =
        writeAll put s (bindWrites name (environmentBindings config) ++
          [(.nested name (.functionVariable "ENV"), environmentValues config)]) := by
    rw [publishTo_eq, ← environmentBindings, bindParameters_eq_writeAll, writeAll_append]
    rfl
  have hroot (names : List String) (s : Stacks) :
      writeAll put s (names.map fun name => (.parameter (environmentParameter name), .null)) =
        { s with
          root := (names.map environmentParameter).foldl Template.addStringParameter s.root } := by
    induction names generalizing s with
    | nil => rfl
    | cons name rest ih => exact ih _
  unfold publishEnvironment Layout.environmentWrites
  split
  · rfl
  · rw [writeAll_append, hroot]
    unfold writeAll at hpublish ⊢
    rw [List.foldl_flatMap, layout, List.foldl_map]
    show s.nested.keys.foldl (publishTo (config.environment.map environmentParameter)
      (environmentValues config)) _ = _
    rw [Dict.keys, List.foldl_map]
    simp only [hpublish]

/-- Wiring a stack set writes what its layout says. -/
theorem wire_eq_writeAll (config : Config) :
    wire config s = writeAll put s (s.layout.writes config) := by
  show publishEnvironment config (nameTables (spreadGlobals s)) = _
  simp only [publishEnvironment_eq_writeAll, nameTables_eq_writeAll, spreadGlobals_eq_writeAll,
    layout_writeAll, Layout.writes, writeAll_append]

end Passes

/-- Wiring a stack set that is wired changes nothing. -/
theorem wire_idempotent (config : Config) (s : Stacks) :
    wire config (wire config s) = wire config s := by
  have hlayout : (wire config s).layout = s.layout := by
    rw [wire_eq_writeAll, layout_writeAll]
  calc wire config (wire config s)
      = writeAll put (wire config s) ((wire config s).layout.writes config) := wire_eq_writeAll _ _
    _ = writeAll put (writeAll put s (s.layout.writes config)) (s.layout.writes config) := by
        rw [hlayout, ← wire_eq_writeAll]
    _ = writeAll put s (s.layout.writes config) := overwrites_put.writeAll_again s _
    _ = wire config s := (wire_eq_writeAll s config).symm

end Stacks

end Keyspace
