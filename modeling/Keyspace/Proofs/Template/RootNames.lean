import Keyspace.Proofs.Template.Bindings
import Keyspace.Proofs.Template.Consistency
import Keyspace.Proofs.Template.StackSet

/-!
# Names in the root template

Tables, their keys, the event bus and the nested stacks are all resources of the root, under
names derived from tables and functions. Only tables and keys are refused a name that is
taken; the bus and the nested stacks replace what they find, and parameters are not looked at.
Here is exactly when nothing of the root is lost and no name means two things.
-/
namespace Keyspace
open Template Stacks

namespace Template

/-- The resources of a table by their logical ids. -/
def tableEntries (b : Blueprint) (t : Table) : List (String × Resource) :=
  [(keyLogicalId t.name, keyResource t), (tableLogicalId t.name, tableResource b t)]

def eventBus : Resource :=
  ⟨"AWS::Events::EventBus", .obj [("Name", .sub "$\x7bAWS::StackName\x7d-changes")]⟩

/-- The resources of the root before the nested stacks are added. -/
def rootEntries (b : Blueprint) : List (String × Resource) :=
  b.tables.flatMap (tableEntries b) ++
    if b.tables.any (·.hasHandlers) then [(eventBusId, eventBus)] else []

theorem keyLogicalId_ne_tableLogicalId (table : String) :
    keyLogicalId table ≠ tableLogicalId table := by
  intro h
  have hlength := congrArg String.length h
  rw [keyLogicalId, String.length_append] at hlength
  have hkey : "Key".length = 3 := by decide
  omega

theorem resources_addFreeTable (b : Blueprint) (root : Template) (t : Table) :
    (addFreeTable b root t).resources = root.resources.union (tableEntries b t) ∧
      (addFreeTable b root t).parameters = root.parameters := by
  unfold addFreeTable
  dsimp only
  split <;> exact ⟨rfl, rfl⟩

theorem takenId?_eq_none {root : Template} {t : Table} (h : takenId? root t = none) :
    ∀ id ∈ (tableEntries b t).map (·.1), id ∉ root.resources.keys := by
  unfold takenId? at h
  simp only [List.find?_eq_none] at h
  intro id hid hmem
  refine h id ?_ (Dict.mem_keys_iff.mp hmem)
  simpa [tableEntries, or_comm] using hid

/-- Tables are added under names of their own. -/
theorem addTablesFrom_eq_none {b : Blueprint} {root root' : Template} {tables : List Table}
    (h : addTablesFrom b root tables = (root', none)) :
    root'.resources = root.resources.union (tables.flatMap (tableEntries b)) ∧
      root'.parameters = root.parameters ∧
      ((tables.flatMap (tableEntries b)).map (·.1)).Nodup ∧
      ∀ id ∈ (tables.flatMap (tableEntries b)).map (·.1), id ∉ root.resources.keys := by
  induction tables generalizing root with
  | nil =>
    cases h
    exact ⟨rfl, rfl, List.nodup_nil, fun id hid => by cases hid⟩
  | cons t rest ih =>
    unfold addTablesFrom at h
    split at h
    · cases h
    · next hfree =>
      obtain ⟨hresources, hparameters, hdistinct, hnew⟩ := ih h
      obtain ⟨hadded, hkept⟩ := resources_addFreeTable b root t
      rw [List.flatMap_cons, List.map_append]
      have hown := takenId?_eq_none (b := b) hfree
      refine ⟨?_, hparameters.trans hkept, List.nodup_append.mpr ⟨?_, hdistinct, ?_⟩, ?_⟩
      · rw [hresources, hadded, Dict.union_append]
      · exact List.nodup_cons.mpr ⟨fun hmem => keyLogicalId_ne_tableLogicalId t.name
          (List.mem_singleton.mp hmem), List.nodup_singleton _⟩
      · rintro id hid _ hrest rfl
        refine hnew id hrest ?_
        rw [hadded]
        exact Dict.mem_keys_foldl_insert.mpr (Or.inl hid)
      · intro id hid
        rcases List.mem_append.mp hid with hid | hid
        · exact hown id hid
        · intro hmem
          refine hnew id hid ?_
          rw [hadded]
          exact Dict.mem_keys_foldl_insert.mpr (Or.inr hmem)

theorem addTables_eq_none {b : Blueprint} {root root' : Template}
    (h : addTables b root = (root', none)) (hempty : root.resources = []) :
    root'.resources = Dict.ofList (rootEntries b) ∧ root'.parameters = root.parameters ∧
      ((b.tables.flatMap (tableEntries b)).map (·.1)).Nodup := by
  unfold addTables at h
  split at h
  · cases h
  · next root₁ htables =>
    obtain ⟨hresources, hparameters, hdistinct, -⟩ := addTablesFrom_eq_none htables
    rw [hempty] at hresources
    cases h
    unfold rootEntries
    split
    · refine ⟨?_, hparameters, hdistinct⟩
      rw [Dict.ofList, List.foldl_append]
      exact congrArg (Dict.insert · eventBusId eventBus) hresources
    · rw [List.append_nil]
      exact ⟨hresources, hparameters, hdistinct⟩

end Template

namespace Blueprint

/-- The nested stacks of all functions, by name. -/
def stackNames (b : Blueprint) : List String :=
  (functionOwners b.models b.tables).map fun owner => stackName owner.1

/-- The logical ids of all resources of the root. -/
def logicalIds (b : Blueprint) : List String := (rootEntries b).map (·.1) ++ b.stackNames

end Blueprint

/-- No resource of the root is lost, no two share a name, and none shares it with a parameter. -/
structure Stacks.RootIsComplete (s : Stacks) (b : Blueprint) : Prop where
  table : ∀ t ∈ b.tables, s.root.resources.get? (tableLogicalId t.name) = some (tableResource b t)
  key : ∀ t ∈ b.tables, s.root.resources.get? (keyLogicalId t.name) = some (keyResource t)
  bus : (∃ t ∈ b.tables, t.hasHandlers = true) → s.root.resources.get? eventBusId = some eventBus
  stack : ∀ name ∈ s.nested.keys,
    ∃ r, s.root.resources.get? name = some r ∧ r.type = applicationType
  distinct : ((rootEntries b).map (·.1) ++ s.nested.keys).Nodup
  nothingElse : ∀ id ∈ s.root.resources.keys, id ∈ (rootEntries b).map (·.1) ++ s.nested.keys
  unambiguous : ∀ id ∈ s.root.resources.keys, id ∉ s.root.parameters.keys

/-- No table is named like the event bus or a nested stack, and no parameter like a resource. -/
structure Config.LeavesLogicalIds (config : Config) (b : Blueprint) : Prop where
  bus : (∃ t ∈ b.tables, t.hasHandlers = true) → ∀ t ∈ b.tables, tableLogicalId t.name ≠ eventBusId
  stack : ∀ t ∈ b.tables, tableLogicalId t.name ∉ b.stackNames
  parameter : ∀ id ∈ b.logicalIds,
    id ∉ config.parameters.keys ∧ id ∉ config.environment.map environmentParameter

section Names

theorem append_ne_append (name ending other ending' : String) (h : ending.toList ≠ [])
    (h' : ending'.toList ≠ []) (hlast : ending.toList.getLast? ≠ ending'.toList.getLast?) :
    name ++ ending ≠ other ++ ending' := by
  intro hsame
  have hlists := congrArg (fun text : String => text.toList.getLast?) hsame
  simp only [String.toList_append] at hlists
  rw [List.getLast?_append_of_ne_nil _ h, List.getLast?_append_of_ne_nil _ h'] at hlists
  exact hlast hlists

theorem keyLogicalId_ne_eventBusId (table : String) : keyLogicalId table ≠ eventBusId :=
  append_ne_append (tableLogicalId table) "Key" "" "EventBus" (by decide) (by decide) (by decide)

theorem keyLogicalId_ne_stackName (table function : String) :
    keyLogicalId table ≠ stackName function :=
  append_ne_append (tableLogicalId table) "Key" function "Stack" (by decide) (by decide) (by decide)

theorem eventBusId_ne_stackName (function : String) : eventBusId ≠ stackName function :=
  append_ne_append "" "EventBus" function "Stack" (by decide) (by decide) (by decide)

end Names

section Accepted

variable {config : Config} {b : Blueprint} {s : Stacks}

/-- Every function of a wired blueprint has a nested stack. -/
theorem mem_stackNames (hwired : b.IsWired) {name : String} : name ∈ b.stackNames ↔
    ∃ f ∈ FunctionStack.ofBlueprint b config, name = stackName f.function := by
  unfold Blueprint.stackNames Blueprint.functionOwners
  rw [List.map_append, List.mem_append, List.map_filterMap, List.mem_filterMap, List.map_flatMap,
    List.mem_flatMap]
  simp only [List.map_map, List.mem_map, Option.map_map]
  constructor
  · rintro (⟨t, ht, hmap⟩ | ⟨m, hm, h, hh, rfl⟩)
    · obtain ⟨d, hd, rfl⟩ := Option.map_eq_some_iff.mp hmap
      exact ⟨_, FunctionStack.mem_of_dispatcher config ht hd, rfl⟩
    · obtain ⟨t, -, -, -, hf⟩ := FunctionStack.exists_mem_of_handler config hwired hm hh
      exact ⟨_, hf, rfl⟩
  · rintro ⟨f, hf, rfl⟩
    obtain ⟨t, ht, d, hd, rfl | ⟨m, hm, -, h, hh, rfl⟩⟩ := FunctionStack.mem_ofBlueprint.mp hf
    · exact Or.inl ⟨t, ht, by rw [hd]; rfl⟩
    · exact Or.inr ⟨m, hm, h, hh, rfl⟩

theorem mem_rootEntries {entry : String × Resource} : entry ∈ rootEntries b ↔
    (∃ t ∈ b.tables, entry ∈ tableEntries b t) ∨
      (∃ t ∈ b.tables, t.hasHandlers = true) ∧ entry = (eventBusId, eventBus) := by
  unfold rootEntries
  rw [List.mem_append, List.mem_flatMap, ← List.any_eq_true]
  by_cases h : b.tables.any (·.hasHandlers) = true <;> simp [h]

theorem table_mem_rootEntries {t : Table} (ht : t ∈ b.tables) :
    (tableLogicalId t.name, tableResource b t) ∈ rootEntries b :=
  mem_rootEntries.mpr (Or.inl ⟨t, ht, List.mem_cons_of_mem _ (List.mem_singleton_self _)⟩)

theorem key_mem_rootEntries {t : Table} (ht : t ∈ b.tables) :
    (keyLogicalId t.name, keyResource t) ∈ rootEntries b :=
  mem_rootEntries.mpr (Or.inl ⟨t, ht, List.mem_cons_self ..⟩)

theorem logicalIds_eq_stacks {root : Template} (hwired : b.IsWired) (id : String) :
    id ∈ (assembled config b root).nested.keys ↔ id ∈ b.stackNames :=
  (mem_keys_assembled config b root).trans (mem_stackNames hwired).symm

/-- A root resource that is no nested stack's is one of the tables' or the event bus. -/
theorem get?_rootEntries {root : Template} (hroot : root.resources = Dict.ofList (rootEntries b))
    (hdistinct : ((rootEntries b).map (·.1)).Nodup) {id : String} {r : Resource}
    (hmem : (id, r) ∈ rootEntries b) (hid : id ∉ (assembled config b root).nested.keys) :
    (assembled config b root).root.resources.get? id = some r := by
  rw [get?_assembled_of_not_mem config b root hid, hroot]
  exact Dict.get?_ofList_of_mem hdistinct hmem

/-- The ids of tables, keys and the event bus are distinct, unless a table takes the bus's. -/
theorem rootEntries_nodup (htables : ((b.tables.flatMap (tableEntries b)).map (·.1)).Nodup)
    (hbus : (∃ t ∈ b.tables, t.hasHandlers = true) →
      ∀ t ∈ b.tables, tableLogicalId t.name ≠ eventBusId) :
    ((rootEntries b).map (·.1)).Nodup := by
  unfold rootEntries
  split
  · next hhandlers =>
    rw [List.map_append, List.map_singleton]
    refine List.nodup_append.mpr ⟨htables, List.nodup_singleton _, ?_⟩
    rintro id hid _ hsame rfl
    rw [List.mem_singleton] at hsame
    obtain ⟨entry, hentry, hname⟩ := List.mem_map.mp hid
    obtain ⟨t, ht, hentry⟩ := List.mem_flatMap.mp hentry
    rw [← hname] at hsame
    rcases List.mem_cons.mp hentry with rfl | hentry
    · exact keyLogicalId_ne_eventBusId t.name hsame
    · rw [List.mem_singleton.mp hentry] at hsame
      exact hbus (List.any_eq_true.mp hhandlers) t ht hsame
  · rwa [List.append_nil]

/-- An id of the tables, the keys or the bus that is a nested stack's is a table's. -/
theorem not_mem_nested (hwired : b.IsWired) {root : Template}
    (hstack : ∀ t ∈ b.tables, tableLogicalId t.name ∉ b.stackNames) {entry : String × Resource}
    (hentry : entry ∈ rootEntries b) : entry.1 ∉ (assembled config b root).nested.keys := by
  intro hmem
  obtain ⟨f, -, hname⟩ := (mem_keys_assembled config b root).mp hmem
  rcases mem_rootEntries.mp hentry with ⟨t, ht, hentry⟩ | ⟨-, rfl⟩
  · rcases List.mem_cons.mp hentry with rfl | hentry
    · exact keyLogicalId_ne_stackName _ _ hname
    · rw [List.mem_singleton.mp hentry] at hmem
      exact hstack t ht ((logicalIds_eq_stacks hwired _).mp hmem)
  · exact eventBusId_ne_stackName _ hname

theorem rootIsComplete_of_leaves (hwired : b.IsWired) (h : Stacks.ofBlueprint config b = .ok s)
    (hleaves : config.LeavesLogicalIds b) : s.RootIsComplete b := by
  obtain ⟨root, htables, rfl, hcheck⟩ := ofBlueprint_stages h
  obtain ⟨hresources, hparameters, hdistinct⟩ := addTables_eq_none htables rfl
  have hentries := rootEntries_nodup hdistinct hleaves.bus
  have hconsistent := check_eq_ok_iff.mp hcheck
  change (assembled config b root).IsConsistent at hconsistent
  show (assembled config b root).RootIsComplete b
  have hfound {entry : String × Resource} (hentry : entry ∈ rootEntries b) :
      (assembled config b root).root.resources.get? entry.1 = some entry.2 :=
    get?_rootEntries hresources hentries hentry (not_mem_nested hwired hleaves.stack hentry)
  have hids {id : String} (hid : id ∈ (assembled config b root).root.resources.keys) :
      id ∈ (rootEntries b).map (·.1) ++ (assembled config b root).nested.keys := by
    rw [mem_resources_assembled, hresources, Dict.mem_keys_ofList] at hid
    exact List.mem_append.mpr hid
  constructor
  case table => exact fun t ht => hfound (table_mem_rootEntries ht)
  case key => exact fun t ht => hfound (key_mem_rootEntries ht)
  case bus =>
    intro hhandlers
    exact hfound (mem_rootEntries.mpr (Or.inr ⟨hhandlers, rfl⟩))
  case stack =>
    intro name hname
    obtain ⟨n, hn⟩ := Option.isSome_iff_exists.mp (Dict.mem_keys_iff.mp hname)
    obtain ⟨-, r, hr, hdeployed⟩ := hconsistent.nested _ (Dict.mem_of_get? hn)
    exact ⟨r, hr, hdeployed.type_eq⟩
  case distinct =>
    have hnested : (assembled config b root).nested.keys.Nodup := by
      rw [(each_assembled config b root).nestedKeys]
      exact keys_nodup_added config b root
    refine List.nodup_append.mpr ⟨hentries, hnested, ?_⟩
    rintro id hid _ hname rfl
    obtain ⟨entry, hentry, rfl⟩ := List.mem_map.mp hid
    exact not_mem_nested hwired hleaves.stack hentry hname
  case nothingElse => exact fun id hid => hids hid
  case unambiguous =>
    intro id hid hparameter
    have hlogical : id ∈ b.logicalIds := by
      rcases List.mem_append.mp (hids hid) with hid | hid
      · exact List.mem_append_left _ hid
      · exact List.mem_append_right _ ((logicalIds_eq_stacks hwired _).mp hid)
    obtain ⟨hconfigured, hvariable⟩ := hleaves.parameter id hlogical
    rw [mem_parameters_assembled, hparameters] at hparameter
    exact hparameter.elim hvariable hconfigured

theorem leaves_of_rootIsComplete (hwired : b.IsWired) (h : Stacks.ofBlueprint config b = .ok s)
    (hcomplete : s.RootIsComplete b) : config.LeavesLogicalIds b := by
  obtain ⟨root, htables, rfl, -⟩ := ofBlueprint_stages h
  obtain ⟨hresources, hparameters, -⟩ := addTables_eq_none htables rfl
  change (assembled config b root).RootIsComplete b at hcomplete
  obtain ⟨hentries, -, hapart⟩ := List.nodup_append.mp hcomplete.distinct
  constructor
  case bus =>
    intro hhandlers t ht hname
    have hbus : (eventBusId, eventBus) ∈ rootEntries b :=
      mem_rootEntries.mpr (Or.inr ⟨hhandlers, rfl⟩)
    have hsame := List.inj_on_of_nodup_map hentries (table_mem_rootEntries ht) hbus hname
    have htype : "AWS::DynamoDB::Table" = "AWS::Events::EventBus" :=
      congrArg (fun entry : String × Resource => entry.2.type) hsame
    exact absurd htype (by decide)
  case stack =>
    intro t ht hname
    exact hapart _ (List.mem_map_of_mem (table_mem_rootEntries ht)) _ ((logicalIds_eq_stacks hwired _).mpr hname)
      rfl
  case parameter =>
    intro id hid
    have hmem : id ∈ (assembled config b root).root.resources.keys := by
      rw [mem_resources_assembled, hresources, Dict.mem_keys_ofList, logicalIds_eq_stacks hwired]
      exact List.mem_append.mp hid
    have hfree := hcomplete.unambiguous id hmem
    rw [mem_parameters_assembled, hparameters, not_or] at hfree
    exact ⟨hfree.2, hfree.1⟩

/-- The root of an accepted schema's stack set is complete if and only if no table is named like
the event bus or a nested stack, and no parameter like a resource. -/
theorem rootIsComplete_iff {text : String} (hb : Blueprint.ofSchema config text = .ok b)
    (h : Stacks.ofBlueprint config b = .ok s) :
    s.RootIsComplete b ↔ config.LeavesLogicalIds b := by
  have hwired := Blueprint.ofSchema_isWired hb
  exact ⟨leaves_of_rootIsComplete hwired h, rootIsComplete_of_leaves hwired h⟩

end Accepted

open ReactorExample in
theorem stage_root_is_complete :
    Blueprint.ofSchema (withVariable "STAGE") schema = .ok blueprint ∧
    ∃ s, Stacks.ofBlueprint (withVariable "STAGE") blueprint = .ok s ∧
      s.RootIsComplete blueprint := by
  obtain ⟨s, hs⟩ := exists_stacks.2
  refine ⟨ofSchema_schema "STAGE", s, hs,
    (rootIsComplete_iff (ofSchema_schema "STAGE") hs).mpr ⟨fun _ => ?_, ?_, ?_⟩⟩
  · decide
  · decide +kernel
  · decide +kernel

namespace BusExample

def schema : String := "type EventBus @partitionKey(pkFields: [\"id\"])
  @reacts(event: INSERT, handler: \"h\") \x7b id: ID! \x7d"

def handler : ChangeHandler :=
  ⟨.reactor, .insert, "EventBus", none, "h", "FnH", ["EventBus"], [], ⟨256, 30⟩⟩

def model : Model :=
  ⟨"EventBus", "EventBus", [.scalar "id" "ID" true], ReactorExample.partition, [], none, false,
    false, false, [handler]⟩

def table : Table :=
  ⟨"EventBus", ReactorExample.partition, [], true, false, none,
    some ⟨10, 3, ⟨384, 60⟩, "DispatcherEventBus"⟩⟩

def blueprint : Blueprint := ⟨[model], [table], []⟩

/-- The type of the root resource under an id, if there is a stack set. -/
def typeOf? (id : String) : Option String :=
  match Stacks.ofBlueprint .default blueprint with
  | .ok s => (s.root.resources.get? id).map (·.type)
  | .error _ => none

end BusExample

open BusExample in
/-- A table is accepted whose place the event bus takes. -/
theorem bus_hides_table : Config.parse "" = .ok .default ∧
    Blueprint.ofSchema .default schema = .ok blueprint ∧
    ∃ s, Stacks.ofBlueprint .default blueprint = .ok s ∧
      (s.root.resources.get? "EventBus").map (·.type) = some "AWS::Events::EventBus" ∧
      ¬ s.RootIsComplete blueprint := by
  have htype : typeOf? "EventBus" = some "AWS::Events::EventBus" := by decide +kernel
  unfold typeOf? at htype
  cases hs : Stacks.ofBlueprint .default blueprint with
  | error e =>
    rw [hs] at htype
    cases htype
  | ok s =>
    rw [hs] at htype
    dsimp only at htype
    refine ⟨by decide +kernel, by decide +kernel, s, rfl, htype, fun hcomplete => ?_⟩
    have hid : tableLogicalId table.name = "EventBus" := by decide
    have htable := hcomplete.table table (List.mem_singleton_self _)
    rw [hid] at htable
    rw [htable] at htype
    exact absurd (Option.some.inj htype) (by decide)

end Keyspace
