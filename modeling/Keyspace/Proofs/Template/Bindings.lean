import Keyspace.Config.Reader
import Keyspace.Proofs.Template.FunctionStacks
import Keyspace.Proofs.Template.Scope

/-!
# Bindings that last

A dispatcher is bound to the stream of its table, every function to the event bus, and every
function to the tables it touches. The passes forward more parameters to the same stacks,
under names taken from the globals and from variables; a later one hides an earlier one of
its name. Here is exactly when none of those bindings is hidden.
-/
namespace Keyspace
open Template Stacks

/-- The parameters that the passes forward to a nested stack on top of those it came with. -/
def Config.forwardedOver (config : Config) (tables : List String) (d : Dict Json) : Dict Json :=
  ((d.union (carriedBindings config.globals)).union (tableBindings tables)).union
    (environmentBindings config)

/-- The last reference of the globals that is carried under a name. -/
def Config.lastCarried? (config : Config) (name : String) : Option Reference :=
  ((carried config.globals).filter (·.parameterName = name)).getLast?

section Values

variable {config : Config} {tables : List String} {d : Dict Json} {name : String}

/-- Whatever was forwarded before, a variable's parameter is forwarded under its own name. -/
theorem get?_union_environmentBindings (h : name ∈ config.environment.map environmentParameter) :
    Dict.get? (d.union (environmentBindings config)) name = some (.ref name) := by
  refine Dict.get?_union_of_agree ⟨_, List.mem_map_of_mem h, rfl⟩ fun entry hentry hname => ?_
  obtain ⟨parameter, -, rfl⟩ := List.mem_map.mp hentry
  exact congrArg Json.ref hname

theorem get?_forwardedOver_variable (h : name ∈ config.environment.map environmentParameter) :
    Dict.get? (config.forwardedOver tables d) name = some (.ref name) :=
  get?_union_environmentBindings h

theorem get?_forwardedOver (h : name ∉ config.environment.map environmentParameter) :
    Dict.get? (config.forwardedOver tables d) name =
      Dict.get? ((d.union (carriedBindings config.globals)).union (tableBindings tables)) name := by
  refine Dict.get?_union_of_not_mem fun entry hentry hname => ?_
  obtain ⟨parameter, hparameter, rfl⟩ := List.mem_map.mp hentry
  exact h (hname ▸ hparameter)

theorem tableLogicalId_of_tableParameter {table other : String}
    (h : tableParameter table = tableParameter other) :
    tableLogicalId table = tableLogicalId other := by
  have htext := congrArg String.toList h
  simp only [tableParameter, String.toList_append] at htext
  exact String.toList_injective (List.append_cancel_left htext)

theorem get?_forwardedOver_table {table : String} (htable : table ∈ tables)
    (h : tableParameter table ∉ config.environment.map environmentParameter) :
    Dict.get? (config.forwardedOver tables d) (tableParameter table) =
      some (.ref (tableLogicalId table)) := by
  rw [get?_forwardedOver h]
  refine Dict.get?_union_of_agree ⟨_, List.mem_map_of_mem htable, rfl⟩ fun entry hentry hname => ?_
  obtain ⟨other, -, rfl⟩ := List.mem_map.mp hentry
  exact congrArg Json.ref (tableLogicalId_of_tableParameter hname)

theorem get?_forwardedOver_carried (htable : ∀ table, tableParameter table ≠ name)
    (h : name ∉ config.environment.map environmentParameter) :
    Dict.get? (config.forwardedOver tables d) name =
      ((config.lastCarried? name).map Reference.toJson).or (Dict.get? d name) := by
  rw [get?_forwardedOver h, Dict.get?_union_of_not_mem, Dict.get?_union]
  · unfold carriedBindings Config.lastCarried?
    rw [List.filter_map, List.getLast?_map, Option.map_map]
    rfl
  · intro entry hentry
    obtain ⟨table, -, rfl⟩ := List.mem_map.mp hentry
    exact htable table

theorem parameterName_of_lastCarried? {r : Reference} (h : config.lastCarried? name = some r) :
    r ∈ carried config.globals ∧ r.parameterName = name := by
  have hmem := List.mem_filter.mp (List.mem_of_getLast? h)
  exact ⟨hmem.1, by simpa using hmem.2⟩

theorem exists_lastCarried? {r : Reference} (hr : r ∈ carried config.globals) :
    ∃ last, config.lastCarried? r.parameterName = some last := by
  have hne : (carried config.globals).filter (·.parameterName = r.parameterName) ≠ [] :=
    List.ne_nil_of_mem (List.mem_filter.mpr ⟨hr, by simp⟩)
  exact Option.isSome_iff_exists.mp (List.getLast?_isSome.mpr hne)

end Values

theorem head_tableParameter (table : String) : (tableParameter table).toList.head? = some 'T' := by
  rw [tableParameter, String.toList_append]
  rfl

theorem tableParameter_ne_streamParameter (table : String) :
    tableParameter table ≠ streamParameter := by
  intro h
  have hhead := head_tableParameter table
  rw [h] at hhead
  exact absurd hhead (by decide)

theorem tableParameter_ne_eventBusParameter (table : String) :
    tableParameter table ≠ eventBusParameter := by
  intro h
  have hhead := head_tableParameter table
  rw [h] at hhead
  exact absurd hhead (by decide)

theorem tableParameter_ne_tableLogicalId (table : String) :
    tableParameter table ≠ tableLogicalId table := by
  intro h
  have hlength := congrArg String.length h
  rw [tableParameter, String.length_append] at hlength
  have hpositive : "Table".length = 5 := by decide
  unfold tableLogicalId at hlength
  omega

/-- The functions of the blueprint touch the table. -/
def Blueprint.Touches (b : Blueprint) (table : String) : Prop :=
  (∃ t ∈ b.tables, t.hasHandlers = true ∧ table = t.name) ∨
    ∃ h ∈ b.handlers, table ∈ h.readableTables ∨ table ∈ h.writableTables

/-- Every parameter that the function stacks are built around is forwarded for what it was
bound to: a dispatcher reads the stream of its own table, every function is given the event
bus, and every table a function touches is given to it. -/
structure Stacks.KeepsBindings (s : Stacks) (b : Blueprint) : Prop where
  stream : ∀ t ∈ b.tables, ∀ d, t.dispatcher = some d →
    s.forwardedTo (stackName d.functionName) streamParameter =
      some (.getAtt (tableLogicalId t.name) "StreamArn")
  dispatcherBus : ∀ t ∈ b.tables, ∀ d, t.dispatcher = some d →
    s.forwardedTo (stackName d.functionName) eventBusParameter = some (.ref eventBusId)
  handlerBus : ∀ h ∈ b.handlers,
    s.forwardedTo (stackName h.functionName) eventBusParameter = some (.ref eventBusId)
  tables : ∀ name stack, s.nested.get? name = some stack → ∀ table ∈ stack.tables,
    s.forwardedTo name (tableParameter table) = some (.ref (tableLogicalId table))

/-- Nothing that a configuration adds to the parameters of functions takes the place of what
they are bound to. A reference that is the stream itself may carry the stream's name. -/
structure Config.LeavesBindings (config : Config) (b : Blueprint) : Prop where
  environment : ∀ v ∈ config.environment, environmentParameter v ≠ streamParameter ∧
    environmentParameter v ≠ eventBusParameter
  tables : ∀ v ∈ config.environment, ∀ table, b.Touches table →
    environmentParameter v ≠ tableParameter table
  bus : ∀ r ∈ carried config.globals, r.parameterName ≠ eventBusParameter
  stream : ∀ t ∈ b.tables, t.hasHandlers = true → ∀ r,
    config.lastCarried? streamParameter = some r → r = .getAtt (tableLogicalId t.name) "StreamArn"

section Bindings

variable {b : Blueprint} {config : Config} {s : Stacks}

theorem forwardedTo_function (hsound : b.IsSound) (hwired : b.IsWired)
    (h : Stacks.ofBlueprint config b = .ok s) {f : FunctionStack}
    (hf : f ∈ FunctionStack.ofBlueprint b config) (name : String) :
    s.forwardedTo (stackName f.function) name =
      Dict.get? (config.forwardedOver f.stack.tables (Dict.ofList f.bindings)) name := by
  rw [forwardedTo_of_deployment? (deployment?_ofBlueprint hsound hwired h hf),
    Deployment.bind_append, Deployment.bind_append, Deployment.bind_append]
  rfl

/-- The tables of the nested stacks are those that functions touch. -/
theorem touches_iff (config : Config) (hwired : b.IsWired) {table : String} : b.Touches table ↔
    ∃ f ∈ FunctionStack.ofBlueprint b config, table ∈ f.stack.tables := by
  constructor
  · rintro (⟨t, ht, hhandlers, rfl⟩ | ⟨h, hh, htable⟩)
    · obtain ⟨d, hd⟩ := Option.isSome_iff_exists.mp hhandlers
      exact ⟨_, FunctionStack.mem_of_dispatcher config ht hd, List.mem_singleton_self _⟩
    · obtain ⟨m, hm, hh⟩ := List.mem_flatMap.mp hh
      obtain ⟨t, -, -, -, hf⟩ := FunctionStack.exists_mem_of_handler config hwired hm hh
      refine ⟨_, hf, ?_⟩
      exact mem_sortedDistinct.mpr (List.mem_append_left _ (List.mem_append.mpr htable))
  · rintro ⟨f, hf, htable⟩
    obtain ⟨t, ht, d, hd, rfl | ⟨m, hm, hname, h, hh, rfl⟩⟩ := FunctionStack.mem_ofBlueprint.mp hf
    · exact Or.inl ⟨t, ht, by rw [Table.hasHandlers, hd]; rfl, List.mem_singleton.mp htable⟩
    · rcases List.mem_append.mp (mem_sortedDistinct.mp htable) with htable | htable
      · exact Or.inr ⟨h, List.mem_flatMap.mpr ⟨m, hm, hh⟩, List.mem_append.mp htable⟩
      · exact Or.inl ⟨t, ht, by rw [Table.hasHandlers, hd]; rfl, List.mem_singleton.mp htable⟩

/-- The nested stack of a function is listed with the tables it touches. -/
theorem tables_function (hsound : b.IsSound) (hwired : b.IsWired)
    (h : Stacks.ofBlueprint config b = .ok s) {f : FunctionStack}
    (hf : f ∈ FunctionStack.ofBlueprint b config) :
    ∃ stack, s.nested.get? (stackName f.function) = some stack ∧
      stack.tables = f.stack.tables := by
  obtain ⟨stack, _, hstack, -, hd⟩ :=
    deployment?_eq_some.mp (deployment?_ofBlueprint hsound hwired h hf)
  exact ⟨stack, hstack, (congrArg Deployment.tables hd).symm⟩

theorem exists_hasHandlers {f : FunctionStack} (hf : f ∈ FunctionStack.ofBlueprint b config) :
    ∃ t ∈ b.tables, t.hasHandlers = true := by
  obtain ⟨t, ht, d, hd, -⟩ := FunctionStack.mem_ofBlueprint.mp hf
  exact ⟨t, ht, by rw [Table.hasHandlers, hd]; rfl⟩

theorem mem_ofBlueprint_of_handler (config : Config) (hwired : b.IsWired) {h : ChangeHandler}
    (hh : h ∈ b.handlers) : ∃ t, FunctionStack.ofHandler config t h ∈
      FunctionStack.ofBlueprint b config := by
  obtain ⟨m, hm, hh⟩ := List.mem_flatMap.mp hh
  obtain ⟨t, -, -, -, hf⟩ := FunctionStack.exists_mem_of_handler config hwired hm hh
  exact ⟨t, hf⟩

/-- A function keeps the event bus unless a variable or a reference has taken its name. -/
theorem get?_forwardedOver_eventBus (hleaves : config.LeavesBindings b) {tables : List String}
    {bindings : List (String × Json)} (hdistinct : (bindings.map (·.1)).Nodup)
    (hbus : (eventBusParameter, .ref eventBusId) ∈ bindings) :
    Dict.get? (config.forwardedOver tables (Dict.ofList bindings)) eventBusParameter =
      some (.ref eventBusId) := by
  have hvariable : eventBusParameter ∉ config.environment.map environmentParameter := by
    intro hin
    obtain ⟨v, hv, hname⟩ := List.mem_map.mp hin
    exact (hleaves.environment v hv).2 hname
  have hnone : config.lastCarried? eventBusParameter = none := by
    cases hlast : config.lastCarried? eventBusParameter with
    | none => rfl
    | some r =>
      obtain ⟨hr, hname⟩ := parameterName_of_lastCarried? hlast
      exact absurd hname (hleaves.bus r hr)
  rw [get?_forwardedOver_carried tableParameter_ne_eventBusParameter hvariable, hnone]
  exact Dict.get?_ofList_of_mem hdistinct hbus

/-- A reference of the globals hides what a function is bound to, if it is another value. -/
theorem toJson_lastCarried? {tables : List String} {d : Dict Json} {name : String} {value : Json}
    {r : Reference} (htable : ∀ table, tableParameter table ≠ name)
    (hvariable : name ∉ config.environment.map environmentParameter)
    (hkept : Dict.get? (config.forwardedOver tables d) name = some value)
    (hlast : config.lastCarried? name = some r) : r.toJson = value := by
  rw [get?_forwardedOver_carried htable hvariable, hlast] at hkept
  exact Option.some.inj hkept

theorem leavesBindings_of_keepsBindings (hsound : b.IsSound) (hwired : b.IsWired)
    (h : Stacks.ofBlueprint config b = .ok s) (hkeeps : s.KeepsBindings b)
    (hhandlers : ∃ t ∈ b.tables, t.hasHandlers = true) : config.LeavesBindings b := by
  have hvalue {f : FunctionStack} (hf : f ∈ FunctionStack.ofBlueprint b config) (name : String) :=
    forwardedTo_function hsound hwired h hf name
  obtain ⟨t, ht, hhandlers⟩ := hhandlers
  obtain ⟨d, hd⟩ := Option.isSome_iff_exists.mp hhandlers
  have hstream := hkeeps.stream t ht d hd
  have hbus := hkeeps.dispatcherBus t ht d hd
  rw [show d.functionName = (FunctionStack.ofDispatcher config t d).function from rfl,
    hvalue (FunctionStack.mem_of_dispatcher config ht hd)] at hstream hbus
  have hnostream : streamParameter ∉ config.environment.map environmentParameter := by
    intro hin
    rw [get?_forwardedOver_variable hin] at hstream
    exact Json.ref_ne_getAtt _ _ _ (Option.some.inj hstream)
  have hnobus : eventBusParameter ∉ config.environment.map environmentParameter := by
    intro hin
    rw [get?_forwardedOver_variable hin] at hbus
    exact absurd (Json.ref_inj (Option.some.inj hbus)) (by decide)
  refine ⟨fun v hv => ⟨fun hname => hnostream ?_, fun hname => hnobus ?_⟩,
    fun v hv table htouches hname => ?_, fun r hr hname => ?_, fun t' ht' hhandlers' r hlast => ?_⟩
  · exact List.mem_map.mpr ⟨v, hv, hname⟩
  · exact List.mem_map.mpr ⟨v, hv, hname⟩
  · obtain ⟨f, hf, htable⟩ := (touches_iff config hwired).mp htouches
    obtain ⟨stack, hstack, htables⟩ := tables_function hsound hwired h hf
    have hkept := hkeeps.tables _ stack hstack table (htables ▸ htable)
    rw [hvalue hf, get?_forwardedOver_variable (List.mem_map.mpr ⟨v, hv, hname⟩)] at hkept
    exact tableParameter_ne_tableLogicalId table (Json.ref_inj (Option.some.inj hkept))
  · obtain ⟨last, hlast⟩ := exists_lastCarried? hr
    rw [hname] at hlast
    have hsame := toJson_lastCarried? tableParameter_ne_eventBusParameter hnobus hbus hlast
    have hlastName := (parameterName_of_lastCarried? hlast).2
    rw [Reference.toJson_inj (s := .ref eventBusId) hsame] at hlastName
    exact absurd hlastName (by decide)
  · obtain ⟨d', hd'⟩ := Option.isSome_iff_exists.mp hhandlers'
    have hkept := hkeeps.stream t' ht' d' hd'
    rw [show d'.functionName = (FunctionStack.ofDispatcher config t' d').function from rfl,
      hvalue (FunctionStack.mem_of_dispatcher config ht' hd')] at hkept
    exact Reference.toJson_inj (s := .getAtt _ _)
      (toJson_lastCarried? tableParameter_ne_streamParameter hnostream hkept hlast)

theorem keepsBindings_of_leavesBindings (hsound : b.IsSound) (hwired : b.IsWired)
    (h : Stacks.ofBlueprint config b = .ok s)
    (hleaves : (∃ t ∈ b.tables, t.hasHandlers = true) → config.LeavesBindings b) :
    s.KeepsBindings b := by
  have hvalue {f : FunctionStack} (hf : f ∈ FunctionStack.ofBlueprint b config) (name : String) :=
    forwardedTo_function hsound hwired h hf name
  have hdistinct : [streamParameter, eventBusParameter].Nodup := by decide
  refine ⟨fun t ht d hd => ?_, fun t ht d hd => ?_, fun handler hh => ?_,
    fun name stack hstack table htable => ?_⟩
  · have hleaves := hleaves (exists_hasHandlers (FunctionStack.mem_of_dispatcher config ht hd))
    have hvariable : streamParameter ∉ config.environment.map environmentParameter := by
      intro hin
      obtain ⟨v, hv, hname⟩ := List.mem_map.mp hin
      exact (hleaves.environment v hv).1 hname
    rw [show d.functionName = (FunctionStack.ofDispatcher config t d).function from rfl,
      hvalue (FunctionStack.mem_of_dispatcher config ht hd),
      get?_forwardedOver_carried tableParameter_ne_streamParameter hvariable]
    cases hlast : config.lastCarried? streamParameter with
    | none => exact Dict.get?_ofList_of_mem hdistinct List.mem_cons_self
    | some r =>
      rw [hleaves.stream t ht (by rw [Table.hasHandlers, hd]; rfl) r hlast]
      rfl
  · exact (hvalue (FunctionStack.mem_of_dispatcher config ht hd) _).trans (get?_forwardedOver_eventBus
      (hleaves (exists_hasHandlers (FunctionStack.mem_of_dispatcher config ht hd))) hdistinct
      (List.mem_cons_of_mem _ List.mem_cons_self))
  · obtain ⟨t, hf⟩ := mem_ofBlueprint_of_handler config hwired hh
    exact (hvalue hf _).trans (get?_forwardedOver_eventBus (hleaves (exists_hasHandlers hf))
      (List.nodup_singleton _) List.mem_cons_self)
  · have hname : name ∈ s.nested.keys := Dict.mem_keys_iff.mpr (by rw [hstack]; rfl)
    obtain ⟨f, hf, rfl⟩ := (keys_ofBlueprint h name).mp hname
    obtain ⟨stack', hstack', htables⟩ := tables_function hsound hwired h hf
    rw [hstack] at hstack'
    cases hstack'
    rw [htables] at htable
    rw [hvalue hf, get?_forwardedOver_table htable]
    intro hin
    obtain ⟨v, hv, hv'⟩ := List.mem_map.mp hin
    exact (hleaves (exists_hasHandlers hf)).tables v hv table
      ((touches_iff config hwired).mpr ⟨f, hf, htable⟩) hv'

/-- In the stack set of an accepted schema, the bindings of the function stacks all last if and
only if there are none, or the configuration adds nothing that takes their place. -/
theorem keepsBindings_iff {text : String} (hb : Blueprint.ofSchema config text = .ok b)
    (h : Stacks.ofBlueprint config b = .ok s) : s.KeepsBindings b ↔
      ((∃ t ∈ b.tables, t.hasHandlers = true) → config.LeavesBindings b) := by
  have hsound := Blueprint.ofSchema_isSound hb
  have hwired := Blueprint.ofSchema_isWired hb
  constructor
  · intro hkeeps hhandlers
    exact leavesBindings_of_keepsBindings hsound hwired h hkeeps hhandlers
  · intro hleaves
    exact keepsBindings_of_leavesBindings hsound hwired h hleaves

end Bindings

namespace ReactorExample

def schema : String :=
  "type A @partitionKey(pkFields: [\"id\"]) @reacts(event: INSERT, handler: \"h\") \x7b id: ID! \x7d"

/-- The default configuration with a variable. -/
def withVariable (name : String) : Config := { Config.default with environment := [name] }

def partition : PrimaryKey := .simple ⟨"id", ["id"], none, true⟩

def handler : ChangeHandler :=
  ⟨.reactor, .insert, "A", none, "h", "FnH", ["A"], [], ⟨256, 30⟩⟩

def model : Model :=
  ⟨"A", "A", [.scalar "id" "ID" true], partition, [], none, false, false, false, [handler]⟩

def dispatcher : Dispatcher := ⟨10, 3, ⟨384, 60⟩, "DispatcherA"⟩

def table : Table := ⟨"A", partition, [], true, false, none, some dispatcher⟩

def blueprint : Blueprint := ⟨[model], [table], []⟩

/-- The variables of a configuration do not reach the blueprint. -/
theorem ofSchema_schema (name : String) :
    Blueprint.ofSchema (withVariable name) schema = .ok blueprint := by
  have hdefault : Blueprint.ofSchema .default schema = .ok blueprint := by decide +kernel
  exact Eq.trans rfl hdefault

theorem parse_variable :
    Config.parse "environment: [STREAM_ARN]" = .ok (withVariable "STREAM_ARN") := by
  decide +kernel

theorem exists_stacks : (∃ s, Stacks.ofBlueprint (withVariable "STREAM_ARN") blueprint = .ok s) ∧
    ∃ s, Stacks.ofBlueprint (withVariable "STAGE") blueprint = .ok s := by
  have hok : (Stacks.ofBlueprint (withVariable "STREAM_ARN") blueprint).isOk = true ∧
      (Stacks.ofBlueprint (withVariable "STAGE") blueprint).isOk = true := by decide +kernel
  exact ⟨Result.exists_of_isOk hok.1, Result.exists_of_isOk hok.2⟩

theorem touches_blueprint {name : String} (h : blueprint.Touches name) : name = "A" := by
  rcases h with ⟨t, ht, -, rfl⟩ | ⟨h, hh, htable⟩
  · rw [List.mem_singleton.mp ht]
    rfl
  · have hhandlers : blueprint.handlers = [handler] := rfl
    rw [hhandlers] at hh
    rw [List.mem_singleton.mp hh] at htable
    exact List.mem_singleton.mp (htable.resolve_right List.not_mem_nil)

end ReactorExample

open ReactorExample in
/-- A variable is accepted that takes the place of the stream. -/
theorem variable_hides_stream :
    Config.parse "environment: [STREAM_ARN]" = .ok (withVariable "STREAM_ARN") ∧
    Blueprint.ofSchema (withVariable "STREAM_ARN") schema = .ok blueprint ∧
    ∃ s, Stacks.ofBlueprint (withVariable "STREAM_ARN") blueprint = .ok s ∧
      s.forwardedTo "DispatcherAStack" "StreamArn" = some (.ref "StreamArn") ∧
      ¬ s.KeepsBindings blueprint := by
  obtain ⟨s, hs⟩ := exists_stacks.1
  have hschema := ofSchema_schema "STREAM_ARN"
  have hf : FunctionStack.ofDispatcher (withVariable "STREAM_ARN") table dispatcher ∈
      FunctionStack.ofBlueprint blueprint (withVariable "STREAM_ARN") :=
    FunctionStack.mem_ofBlueprint.mpr ⟨table, List.mem_singleton_self _, dispatcher, rfl, Or.inl rfl⟩
  have hparameter : "StreamArn" ∈ [environmentParameter "STREAM_ARN"] := by decide
  have hforwarded := forwardedTo_function (Blueprint.ofSchema_isSound hschema)
    (Blueprint.ofSchema_isWired hschema) hs hf "StreamArn"
  rw [get?_forwardedOver_variable hparameter] at hforwarded
  have hstack : stackName dispatcher.functionName = "DispatcherAStack" := by decide
  refine ⟨parse_variable, hschema, s, hs, hstack ▸ hforwarded, fun hkeeps => ?_⟩
  have hstream := hkeeps.stream table (List.mem_singleton_self _) dispatcher rfl
  exact Json.ref_ne_getAtt _ _ _ (Option.some.inj (hforwarded.symm.trans hstream))

open ReactorExample in
theorem stage_keeps_bindings :
    Blueprint.ofSchema (withVariable "STAGE") schema = .ok blueprint ∧
    ∃ s, Stacks.ofBlueprint (withVariable "STAGE") blueprint = .ok s ∧
      s.KeepsBindings blueprint := by
  obtain ⟨s, hs⟩ := exists_stacks.2
  have hparameter : environmentParameter "STAGE" = "Stage" := by decide
  have hown : ∀ v ∈ (withVariable "STAGE").environment, environmentParameter v = "Stage" := by
    intro v hv
    rw [List.mem_singleton.mp hv, hparameter]
  refine ⟨ofSchema_schema "STAGE", s, hs,
    (keepsBindings_iff (ofSchema_schema "STAGE") hs).mpr fun _ => ?_⟩
  refine ⟨fun v hv => ?_, fun v hv name hname => ?_, fun r hr => ?_, fun t _ _ r hr => ?_⟩
  · rw [hown v hv]
    decide
  · rw [hown v hv, touches_blueprint hname]
    decide
  · cases hr
  · cases hr

end Keyspace
