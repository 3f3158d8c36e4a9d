import Keyspace.Proofs.Code.Outcome

/-!
# The names that generated code declares

The names come from the functions that write the code, place by place. Once code is given, each of
them is a name of the blueprint in the case of its place.
-/
namespace Keyspace

namespace Code

open Result Text Blueprint

/-- The names that the code of a blueprint declares. -/
structure Names where
  /-- Of the enums, then of the structs. -/
  types : List String
  /-- Of each enum. -/
  variants : List (List String)
  /-- Of each struct; `meta` belongs to every one. -/
  fields : List (List String)
  /-- The names of the fields of each struct in JSON. -/
  serials : List (List String)
  /-- Of the store, for all models. -/
  methods : List String
  /-- The structs of handlers. -/
  handlers : List String
  /-- The modules of handlers. -/
  modules : List String

/-- All names that have to be identifiers. -/
def Names.all (names : Names) : List String :=
  names.types ++ names.variants.flatten ++ names.fields.flatten ++ names.methods ++
    names.handlers ++ names.modules

/-- The name of a field in JSON: that of its rename attribute or, if it has none, its identifier
without the mark of a raw one. -/
def serialName (f : Field) : Result String := do
  let name ← fieldIdentifier f.name
  pure (if plainName name = f.name then plainName name else f.name)

/-- The names in the code of a blueprint, as the generator makes them. -/
def namesOf (b : Blueprint) (code : RuntimeCode) : Result Names := do
  let types ← (b.enums.map (·.name) ++ b.models.map (·.name)).mapM typeIdentifier
  let variants ← b.enums.mapM fun e => do pure ((← enumVariants e).map (·.2))
  let fields ← b.models.mapM fun m => do
    pure ((← m.fields.mapM fun f => fieldIdentifier f.name) ++ ["meta"])
  let serials ← b.models.mapM fun m => do pure ((← m.fields.mapM serialName) ++ ["meta"])
  let methods ← b.models.mapM fun m => do pure ((← storeMethods m).map (·.name))
  let handlers ← b.handlers.mapM fun h => identifier (handlerStructName h.name)
  pure ⟨types, variants, fields, serials, methods.flatten, handlers, code.handlers.keys⟩

/-- The verbs of a model's methods; a ledger has none that updates. -/
def methodVerbs (m : Model) : List String :=
  ["create", "get", "find", "delete"] ++ if m.isLedger then [] else ["update"]

theorem mem_storeVerbs {m : Model} {verb : String} (h : verb ∈ methodVerbs m) :
    verb ∈ storeVerbs := by
  unfold methodVerbs at h
  unfold storeVerbs
  split_ifs at h <;> simp at h ⊢ <;> tauto

/-- The names of a blueprint in the case of their places. -/
def casedNames (b : Blueprint) (code : RuntimeCode) : Names where
  types := (b.enums.map (·.name) ++ b.models.map (·.name)).map pascalCase
  variants := b.enums.map fun e => e.values.map pascalCase
  fields := b.models.map fun m => m.fields.map (fun f => escaped (snakeCase f.name)) ++ ["meta"]
  serials := b.models.map fun m => m.fields.map (·.name) ++ ["meta"]
  methods := (b.models.map fun m => (methodVerbs m).map (methodName · m.name)).flatten
  handlers := b.handlers.map fun h => handlerStructName h.name
  modules := code.handlers.keys

theorem map_name_storeMethods {m : Model} {methods : List StoreMethod}
    (h : storeMethods m = .ok methods) :
    methods.map (·.name) = (methodVerbs m).map (methodName · m.name) := by
  have hmethod {verb text : String} (h : storeMethodName verb m = .ok text) :
      text = methodName verb m.name := (identifier_eq_ok.mp h).2
  unfold storeMethods at h
  obtain ⟨name, -, h⟩ := bind_eq_ok.mp h
  obtain ⟨create, hcreate, h⟩ := bind_eq_ok.mp h
  obtain ⟨get, hget, h⟩ := bind_eq_ok.mp h
  obtain ⟨find, hfind, h⟩ := bind_eq_ok.mp h
  obtain ⟨update, hupdate, h⟩ := bind_eq_ok.mp h
  obtain ⟨delete, hdelete, h⟩ := bind_eq_ok.mp h
  obtain ⟨parameters, -, h⟩ := bind_eq_ok.mp h
  obtain ⟨arguments, -, h⟩ := bind_eq_ok.mp h
  dsimp only at h
  rw [hmethod hcreate, hmethod hget, hmethod hfind, hmethod hupdate, hmethod hdelete] at h
  unfold methodVerbs
  split at h
  · next hledger =>
    rw [← pure_eq_ok.mp h, hledger]
    rfl
  · next hledger =>
    rw [← pure_eq_ok.mp h, Bool.eq_false_iff.mpr hledger]
    rfl

theorem fieldIdentifier_eq {name : String} (h : NamesField name) :
    fieldIdentifier name = .ok (escaped (snakeCase name)) := fieldIdentifier_eq_ok.mpr ⟨h, rfl⟩

/-- Whether a field has a rename attribute or not, its name in JSON is that of the schema. -/
theorem serialName_eq {f : Field} (h : NamesField f.name) : serialName f = .ok f.name := by
  unfold serialName
  rw [fieldIdentifier_eq h]
  show Except.ok _ = _
  split_ifs with hsame
  · rw [hsame]
  · rfl

/-- Once code is given, its names are those of the blueprint in the case of their places. -/
theorem namesOf_eq {config : Config} {text : String} {b : Blueprint} {paths : PathReader}
    {code : RuntimeCode} (hb : ofSchema config text = .ok b)
    (hcode : Code.ofBlueprint b paths = .ok code) :
    namesOf b code = .ok (casedNames b code) := by
  have hsettled := ofSchema_namesSettled hb
  obtain ⟨hnames, -, hhandlers, -⟩ := of_ofBlueprint_eq_ok hb hcode
  obtain ⟨henums, hmodels⟩ := (isNameable_iff hsettled).mp hnames
  have htypes : (b.enums.map (·.name) ++ b.models.map (·.name)).mapM typeIdentifier =
      .ok (casedNames b code).types := by
    refine mapM_eq_ok_map fun name hname => typeIdentifier_eq ?_
    rcases List.mem_append.mp hname with hname | hname
    · obtain ⟨e, he, rfl⟩ := List.mem_map.mp hname
      exact (henums e he).1
    · obtain ⟨m, hm, rfl⟩ := List.mem_map.mp hname
      exact (hmodels m hm).type
  have hvariants : (b.enums.mapM fun e => do pure ((← enumVariants e).map (·.2)) : Result _) =
      .ok (casedNames b code).variants := by
    refine mapM_eq_ok_map fun e he => ?_
    rw [enumVariants_eq (henums e he).2]
    show Except.ok _ = _
    rw [List.map_map]
    rfl
  have hfields : (b.models.mapM fun m => do
      pure ((← m.fields.mapM fun f => fieldIdentifier f.name) ++ ["meta"]) : Result _) =
        .ok (casedNames b code).fields := by
    refine mapM_eq_ok_map fun m hm => ?_
    rw [mapM_eq_ok_map fun f hf => fieldIdentifier_eq ((hmodels m hm).fields f hf)]
    rfl
  have hserials : (b.models.mapM fun m => do
      pure ((← m.fields.mapM serialName) ++ ["meta"]) : Result _) =
        .ok (casedNames b code).serials := by
    refine mapM_eq_ok_map fun m hm => ?_
    rw [mapM_eq_ok_map fun f hf => serialName_eq ((hmodels m hm).fields f hf)]
    rfl
  have hmethods : (b.models.mapM fun m => do pure ((← storeMethods m).map (·.name)) : Result _) =
      .ok (b.models.map fun m => (methodVerbs m).map (methodName · m.name)) := by
    refine mapM_eq_ok_map fun m hm => ?_
    obtain ⟨methods, hok⟩ := (faultsUnless_storeMethods (hsettled.models m hm)).ok
      ⟨(hmodels m hm).type, fun _ => (hmodels m hm).keyFields (hsettled.ownFields m hm)⟩
    rw [hok, ← map_name_storeMethods hok]
    rfl
  have hstructs : (b.handlers.mapM fun h => identifier (handlerStructName h.name)) =
      .ok (casedNames b code).handlers :=
    mapM_eq_ok_map fun h hh => typeIdentifier_eq (hhandlers h hh).1
  unfold namesOf
  rw [htypes, hvariants, hfields, hserials, hmethods, hstructs]
  rfl

end Code

namespace Blueprint

namespace TicketExample

/-- A type with a field called like a keyword and one more, and a handler. -/
def schema (field : String) : String :=
  "enum State \x7b OPEN IN_WORK \x7d type Ticket @partitionKey(pkFields: [\"id\"]) " ++
    "@reacts(event: INSERT, handler: \"notifyOwner\") \x7b id: ID! type: State " ++ field ++
    ": String \x7d"

def ticket (field : String) : Model where
  name := "Ticket"
  table := "Ticket"
  fields := [.scalar "id" "ID" true,
    ⟨"type", "type", [], "State", .enum, false, false, false, none, "#type", ":type"⟩,
    .scalar field "String" false]
  primaryKey := .simple ⟨"id", ["id"], none, true⟩
  indexes := []
  ttl := none
  isConsistent := false
  isLedger := false
  isPublic := false
  handlers := [⟨.reactor, .insert, "Ticket", none, "notifyOwner", "FnNotifyOwner", ["Ticket"], [],
    ⟨256, 30⟩⟩]

def blueprint (field : String) : Blueprint where
  models := [ticket field]
  tables := [⟨"Ticket", .simple ⟨"id", ["id"], none, true⟩, [], true, false, none,
    some ⟨10, 3, ⟨384, 60⟩, "DispatcherTicket"⟩⟩]
  enums := [⟨"State", ["OPEN", "IN_WORK"]⟩]

end TicketExample

end Blueprint

end Keyspace
