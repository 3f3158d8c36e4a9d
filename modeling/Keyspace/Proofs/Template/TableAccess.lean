import Keyspace.Proofs.Blueprint.HandlerTables
import Keyspace.Proofs.Template.PublishedTables
import Keyspace.Proofs.Template.StackFunctions

/-!
# The access of functions to tables

A function may use a table when one of its policies says so, and the policy names the table by
the parameter that carries its physical name. The function of a handler is granted exactly what
the handler works on: full access to what it writes, read access to what it only reads, and
nothing on any other table.
-/
namespace Keyspace

open Template

/-- What a policy lets a function do with a table. -/
inductive TableAccess where
  | read
  | full
deriving DecidableEq, Repr

/-- The access that a policy stands for. -/
def TableAccess.ofPolicy? (policy : String) : Option TableAccess :=
  if policy = "DynamoDBReadPolicy" then some .read
  else if policy = "DynamoDBCrudPolicy" then some .full
  else none

/-- The access that a policy grants, and the parameter that names the table. -/
def Json.tableGrant? : Json → Option (TableAccess × String)
  | .obj [(policy, .obj [("TableName", .obj [("Ref", .str parameter)])])] =>
    (TableAccess.ofPolicy? policy).map (·, parameter)
  | _ => none

/-- The access that a policy grants on the table that a parameter names. -/
def Json.accessThrough? (parameter : String) (policy : Json) : Option TableAccess :=
  policy.tableGrant?.bind fun grant => if grant.2 = parameter then some grant.1 else none

namespace Resource

/-- The policies that a function runs under. -/
def policies (r : Resource) : List Json := r.properties.elementsAt "Policies"

/-- What a function is granted on the table that a parameter names, policy by policy. -/
def accessThrough (r : Resource) (parameter : String) : List TableAccess :=
  r.policies.filterMap (Json.accessThrough? parameter)

end Resource

/-- The access that a handler needs to a table. -/
def ChangeHandler.accessTo? (h : ChangeHandler) (table : String) : Option TableAccess :=
  if table ∈ h.writableTables then some .full
  else if table ∈ h.readableTables then some .read
  else none

/-- A function is granted what its handler works on, and no more. -/
structure AccessIsGranted (b : Blueprint) (h : ChangeHandler) (template : Template)
    (function : Resource) : Prop where
  type_eq : function.type = functionType
  access : ∀ t ∈ b.tables,
    function.accessThrough (tableParameter t.name) = (h.accessTo? t.name).toList
  nothingElse : ∀ policy ∈ function.policies, ∃ access, ∃ t ∈ b.tables,
    policy.tableGrant? = some (access, tableParameter t.name)
  tables : ∀ table ∈ h.readableTables ++ h.writableTables,
    (∃ t ∈ b.tables, t.name = table) ∧ tableParameter table ∈ template.parameters.keys
  source : ∃ m, b.model? h.source = some m ∧ m.table ∈ h.readableTables
  target : h.kind = .enricher ∨ h.kind = .reducer →
    ∃ m, h.target = some m.name ∧ b.model? m.name = some m ∧ m.table ∈ h.writableTables

section Policies

variable {policy table : String} {access : TableAccess} {tables : List String}

theorem tableGrant?_tablePolicy (policy table : String) : (tablePolicy policy table).tableGrant? =
    (TableAccess.ofPolicy? policy).map (·, tableParameter table) := rfl

theorem accessThrough?_tablePolicy (haccess : TableAccess.ofPolicy? policy = some access)
    (parameter : String) : (tablePolicy policy table).accessThrough? parameter =
      if tableParameter table = parameter then some access else none := by
  unfold Json.accessThrough?
  rw [tableGrant?_tablePolicy, haccess]
  rfl

/-- One policy for each of some tables grants on a table what the policy stands for, once. -/
theorem filterMap_tablePolicy (haccess : TableAccess.ofPolicy? policy = some access)
    (hdistinct : tables.Nodup)
    (hapart : ∀ other ∈ tables, tableParameter other = tableParameter table → other = table) :
    (tables.map (tablePolicy policy)).filterMap (Json.accessThrough? (tableParameter table)) =
      if table ∈ tables then [access] else [] := by
  induction tables with
  | nil => rfl
  | cons other rest ih =>
    obtain ⟨hnew, hrest⟩ := List.nodup_cons.mp hdistinct
    have ih := ih hrest fun other' hother' => hapart other' (List.mem_cons_of_mem _ hother')
    rw [List.map_cons, List.filterMap_cons, accessThrough?_tablePolicy haccess, ih]
    by_cases hsame : other = table
    · subst hsame
      rw [if_pos rfl, if_neg hnew, if_pos List.mem_cons_self]
    · have hparameter : tableParameter other ≠ tableParameter table := fun heq =>
        hsame (hapart other List.mem_cons_self heq)
      rw [if_neg hparameter]
      simp only [List.mem_cons, Ne.symm hsame, false_or]

/-- The policies of a handler grant what it needs on a table that no other table of the handler
shares the parameter with. -/
theorem filterMap_tablePolicies {h : ChangeHandler} (hreadable : h.readableTables.Nodup)
    (hapart : ∀ other ∈ h.readableTables ++ h.writableTables,
      tableParameter other = tableParameter table → other = table) :
    (tablePolicies h).filterMap (Json.accessThrough? (tableParameter table)) =
      (h.accessTo? table).toList := by
  let reads := h.readableTables.filter fun t => !(sortedDistinct h.writableTables).contains t
  have hread : (reads.map (tablePolicy "DynamoDBReadPolicy")).filterMap
      (Json.accessThrough? (tableParameter table)) = if table ∈ reads then [.read] else [] :=
    filterMap_tablePolicy rfl (hreadable.filter _) fun other hother =>
      hapart other (List.mem_append_left _ (List.mem_filter.mp hother).1)
  have hfull : ((sortedDistinct h.writableTables).map (tablePolicy "DynamoDBCrudPolicy")).filterMap
      (Json.accessThrough? (tableParameter table)) =
        if table ∈ sortedDistinct h.writableTables then [.full] else [] :=
    filterMap_tablePolicy rfl (sortedDistinct_nodup _) fun other hother =>
      hapart other (List.mem_append_right _ (mem_sortedDistinct.mp hother))
  unfold tablePolicies ChangeHandler.accessTo?
  dsimp only
  rw [List.filterMap_append, hread, hfull]
  simp only [reads, List.mem_filter, Bool.not_eq_true', List.contains_eq_mem, decide_eq_false_iff_not,
    mem_sortedDistinct]
  split_ifs <;> simp_all

/-- A handler has policies for the tables it works on only. -/
theorem exists_of_mem_tablePolicies {h : ChangeHandler} {p : Json} (hp : p ∈ tablePolicies h) :
    ∃ access, ∃ table ∈ h.readableTables ++ h.writableTables,
      p.tableGrant? = some (access, tableParameter table) := by
  rcases List.mem_append.mp hp with hp | hp
  · obtain ⟨table, htable, rfl⟩ := List.mem_map.mp hp
    exact ⟨.read, table, List.mem_append_left _ (List.mem_filter.mp htable).1, rfl⟩
  · obtain ⟨table, htable, rfl⟩ := List.mem_map.mp hp
    exact ⟨.full, table, List.mem_append_right _ (mem_sortedDistinct.mp htable), rfl⟩

end Policies

/-- Wiring leaves the policies of a handler's function alone. -/
theorem policies_wired (config : Config) (tables : List String) (t : Table) (h : ChangeHandler) :
    (Stacks.wiredResource config tables (handlerFunction config t h)).policies =
      tablePolicies h := by
  have hpolicies : (handlerFunction config t h).properties.get? "Policies" =
      some (.arr (tablePolicies h)) := by
    simp [handlerFunction, functionMembers, Json.get?_object]
  unfold Resource.policies Json.elementsAt
  rw [Stacks.get?_wiredResource_of_ne (by decide), hpolicies]
  rfl

namespace Blueprint

open Schema Result

section Models

variable {config : Config} {document : Document} {b : Blueprint}
  (h : ofDocument config document = .ok b)
include h

theorem nodup_modelNames : (b.models.map (·.name)).Nodup := by
  obtain ⟨ds, built, hds, hbuilt, hmodels, -⟩ := ofDocument_eq_ok h
  rw [resolveHandlers_names hmodels, List.map_map]
  exact (buildModels_sorted hds hbuilt).imp fun hlt => ne_of_lt hlt

/-- A model of an accepted document is found by its name. -/
theorem model?_eq_some {m : Model} (hm : m ∈ b.models) : b.model? m.name = some m := by
  unfold model?
  cases hfind : b.models.find? (·.name = m.name) with
  | none => exact absurd (decide_eq_true rfl) (List.find?_eq_none.mp hfind m hm)
  | some m' =>
    have hname := List.find?_some hfind
    rw [List.inj_on_of_nodup_map (nodup_modelNames h) (List.mem_of_find?_eq_some hfind) hm
      (of_decide_eq_true hname)]

/-- A handler of an accepted document does what some directive of it says. -/
theorem exists_isHandlerOf {handler : ChangeHandler} (hh : handler ∈ b.handlers) :
    ∃ m ∈ b.models, ∃ use, IsHandlerOf b m use handler := by
  obtain ⟨m, hm, hh⟩ := List.mem_flatMap.mp hh
  obtain ⟨type, -, -, hhandlers⟩ := (ofDocument_handlersFaithful h).declared m hm
  obtain ⟨use, -, huse⟩ := exists_of_mem_forall₂ hhandlers hh
  exact ⟨m, hm, use, huse⟩

end Models

end Blueprint

section Granted

open Blueprint

variable {config : Config} {b : Blueprint} {s : Stacks}

/-- In a stack set that is built, tables of the blueprint have parameters of their own. -/
theorem eq_of_tableParameter_eq (hs : Stacks.ofBlueprint config b = .ok s) {t t' : Table}
    (ht : t ∈ b.tables) (ht' : t' ∈ b.tables)
    (h : tableParameter t.name = tableParameter t'.name) : t = t' :=
  List.inj_on_of_nodup_map (nodup_tableLogicalId hs) ht ht' (tableLogicalId_of_tableParameter h)

/-- In the stack set of an accepted schema, the function of every handler is granted full access
to the tables the handler writes to, read access to those it only reads, and nothing else. -/
theorem Stacks.accessIsGranted {text : String} (hb : Blueprint.ofSchema config text = .ok b)
    (hs : Stacks.ofBlueprint config b = .ok s) {h : ChangeHandler} (hh : h ∈ b.handlers) :
    ∃ template function, s.functionOf? h.functionName = some (template, function) ∧
      AccessIsGranted b h template function := by
  obtain ⟨document, -, hdocument⟩ := ofSchema_eq_ok hb
  have hsound := ofSchema_isSound hb
  have hwired := ofSchema_isWired hb
  obtain ⟨m, hm, use, hdeclared⟩ := exists_isHandlerOf hdocument hh
  have hknown : ∀ table ∈ h.readableTables ++ h.writableTables, ∃ t ∈ b.tables, t.name = table :=
    fun table htable => List.mem_map.mp (hdeclared.tablesKnown table htable)
  obtain ⟨t, hf⟩ := mem_ofBlueprint_of_handler config hwired hh
  obtain ⟨template, hfunction⟩ := exists_functionOf? hsound hwired hs hf
    (get?_handlerTemplate config t h)
  have hpolicies := policies_wired config (handlerTables t h) t h
  refine ⟨template, _, hfunction, ?_, fun t' ht' => ?_, fun policy hpolicy => ?_,
    fun table htable => ⟨hknown table htable, ?_⟩, ?_, fun htargeted => ?_⟩
  · rw [type_wiredResource]
    rfl
  · rw [Resource.accessThrough]
    refine (congrArg (List.filterMap _) hpolicies).trans
      (filterMap_tablePolicies hdeclared.readableSorted.nodup fun other hother hsame => ?_)
    obtain ⟨t'', ht'', rfl⟩ := hknown other hother
    rw [eq_of_tableParameter_eq hs ht'' ht' hsame]
  · obtain ⟨access, table, htable, hgrant⟩ := exists_of_mem_tablePolicies (hpolicies ▸ hpolicy)
    obtain ⟨t', ht', rfl⟩ := hknown table htable
    exact ⟨access, t', ht', hgrant⟩
  · exact mem_parameters_of_touched hsound hwired hs hf hfunction
      (mem_sortedDistinct.mpr (List.mem_append_left _ htable))
  · exact ⟨m, hdeclared.source_eq ▸ model?_eq_some hdocument hm,
      (hdeclared.readable_iff m.table).mpr (Or.inl rfl)⟩
  · obtain ⟨name, htarget⟩ := Option.isSome_iff_exists.mp (hdeclared.targeted_iff.mpr htargeted)
    obtain ⟨m', hm', rfl⟩ := hdeclared.target_mem name htarget
    exact ⟨m', htarget, model?_eq_some hdocument hm',
      (hdeclared.writable_iff m'.table).mpr ⟨m', hm', Or.inr htarget, rfl⟩⟩

end Granted

namespace EnricherExample

/-- A type with two handlers, one of which writes to the table of the other type. -/
def schema : String :=
  "type A @partitionKey(pkFields: [\"id\"]) " ++
    "@enriches(event: INSERT, targetModel: \"B\", readsFrom: [\"B\"]) " ++
    "@reacts(event: INSERT, handler: \"notifyOwner\") \x7b id: ID! \x7d " ++
    "type B @partitionKey(pkFields: [\"id\"]) \x7b id: ID! \x7d"

def enricher : ChangeHandler :=
  ⟨.enricher, .insert, "A", some "B", "enrichAInsert", "FnEnrichAInsert", ["A", "B"], ["B"],
    ⟨256, 30⟩⟩

def reactor : ChangeHandler :=
  ⟨.reactor, .insert, "A", none, "notifyOwner", "FnNotifyOwner", ["A"], [], ⟨256, 30⟩⟩

def modelOf (name : String) (handlers : List ChangeHandler) : Model :=
  ⟨name, name, [.scalar "id" "ID" true], ReactorExample.partition, [], none, false, false, false,
    handlers⟩

def dispatchedTable : Table := ReactorExample.table

def targetTable : Table := ⟨"B", ReactorExample.partition, [], false, false, none, none⟩

def blueprint : Blueprint :=
  ⟨[modelOf "A" [enricher, reactor], modelOf "B" []], [dispatchedTable, targetTable], []⟩

theorem ofSchema_schema : Blueprint.ofSchema .default schema = .ok blueprint := by
  decide +kernel

theorem exists_stacks : ∃ s, Stacks.ofBlueprint .default blueprint = .ok s := by
  exact Result.exists_of_isOk (by decide +kernel)

end EnricherExample

open EnricherExample in
/-- An enricher that reads two tables and writes to one of them. -/
theorem enricher_granted_access : ∃ s template function,
    Blueprint.ofSchema .default schema = .ok blueprint ∧
    Stacks.ofBlueprint .default blueprint = .ok s ∧
    s.functionOf? "FnEnrichAInsert" = some (template, function) ∧
    function.accessThrough "TableA" = [.read] ∧ function.accessThrough "TableB" = [.full] := by
  obtain ⟨s, hs⟩ := exists_stacks
  have hhandler : enricher ∈ blueprint.handlers := List.mem_cons_self
  obtain ⟨template, function, hfunction, hgranted⟩ :=
    Stacks.accessIsGranted ofSchema_schema hs hhandler
  have hparameters : tableParameter "A" = "TableA" ∧ tableParameter "B" = "TableB" := by
    decide +kernel
  have hread := hgranted.access dispatchedTable List.mem_cons_self
  have hfull := hgranted.access targetTable (List.mem_cons_of_mem _ List.mem_cons_self)
  exact ⟨s, template, function, ofSchema_schema, hs, hfunction, hparameters.1 ▸ hread,
    hparameters.2 ▸ hfull⟩

end Keyspace
