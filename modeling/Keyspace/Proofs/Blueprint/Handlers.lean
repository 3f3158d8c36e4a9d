import Keyspace.Proofs.Blueprint.Accepted
import Keyspace.Proofs.Blueprint.Declarations
import Keyspace.Proofs.Schema.Names

/-!
# The handlers of an accepted schema

A handler names a model and the tables it works on. In an accepted schema the model is named
as the schema declares it, and every table is one of the blueprint's.
-/
namespace Keyspace.Blueprint

open Schema Result

/-- What the templates rely on in the handlers of a blueprint. -/
structure HandlersSettled (b : Blueprint) : Prop where
  source : ∀ h ∈ b.handlers, IsReadableName h.source
  readable : ∀ h ∈ b.handlers, ∀ table ∈ h.readableTables, ∃ t ∈ b.tables, t.name = table
  writable : ∀ h ∈ b.handlers, ∀ table ∈ h.writableTables, ∃ t ∈ b.tables, t.name = table

/-- What a handler takes from its directive. Its tables are still names of models. -/
structure IsDeclaredBy (ds : Declarations) (type : String) (kind : HandlerKind) (d : Directive)
    (h : ChangeHandler) : Prop where
  kind_eq : h.kind = kind
  source_eq : h.source = type
  target : handlerTarget ds kind d = .ok h.target
  readable_eq : h.readableTables = type :: (d.stringList? "readsFrom").getD []
  writable_eq : h.writableTables = (d.stringList? "writesTo").getD [] ++ h.target.toList

/-- The name of a handler: the one its directive gives, or what it does to which type. -/
def handlerName (kind : HandlerKind) (type : String) (event : ChangeEvent)
    (argument : Option String) : String :=
  match argument with
  | some name => Text.camelCase name
  | none => kind.verb ++ type ++ Text.pascalCase event.name

/-- What the builder makes of a handler's directive. -/
theorem exists_of_buildHandler {config : Config} {ds : Declarations} {type : String}
    {kind : HandlerKind} {d : Directive} {h : ChangeHandler}
    (hbuilt : buildHandler config ds type kind d = .ok h) :
    ∃ event target sizing, handlerTarget ds kind d = .ok target ∧
      h = {
        kind := kind
        event := event
        source := type
        target := target
        name := handlerName kind type event (d.string? "handler")
        functionName := "Fn" ++ Text.pascalCase (handlerName kind type event (d.string? "handler"))
        readableTables := type :: (d.stringList? "readsFrom").getD []
        writableTables := (d.stringList? "writesTo").getD [] ++ target.toList
        sizing := sizing } := by
  unfold buildHandler at hbuilt
  cases hname : d.enum? "event" with
  | none =>
    rw [hname] at hbuilt
    cases hbuilt
  | some eventName =>
    rw [hname] at hbuilt
    obtain ⟨_, hsame, hbuilt⟩ := bind_eq_ok.mp hbuilt
    cases hsame
    dsimp only at hbuilt
    cases hevent : ChangeEvent.ofName? eventName with
    | none =>
      rw [hevent] at hbuilt
      cases hbuilt
    | some event =>
      rw [hevent] at hbuilt
      obtain ⟨event, -, hbuilt⟩ := bind_eq_ok.mp hbuilt
      obtain ⟨target, htarget, hbuilt⟩ := bind_eq_ok.mp hbuilt
      obtain ⟨⟨⟩, -, hbuilt⟩ := bind_eq_ok.mp hbuilt
      obtain ⟨⟨⟩, -, hbuilt⟩ := bind_eq_ok.mp hbuilt
      obtain ⟨memorySize, -, hbuilt⟩ := bind_eq_ok.mp hbuilt
      obtain ⟨timeout, -, hbuilt⟩ := bind_eq_ok.mp hbuilt
      cases pure_eq_ok.mp hbuilt
      exact ⟨_, _, _, htarget, rfl⟩

theorem buildHandler_eq_ok {config : Config} {ds : Declarations} {type : String}
    {kind : HandlerKind} {d : Directive} {h : ChangeHandler}
    (hbuilt : buildHandler config ds type kind d = .ok h) : IsDeclaredBy ds type kind d h := by
  obtain ⟨event, target, sizing, htarget, rfl⟩ := exists_of_buildHandler hbuilt
  exact ⟨rfl, rfl, htarget, rfl, rfl⟩

/-- The handlers that a model is built with are handlers of its changes. -/
theorem IsModelOf.source {config : Config} {ds : Declarations} {type : TypeDeclaration} {m : Model}
    (hmodel : IsModelOf config ds type m) {h : ChangeHandler} (hh : h ∈ m.handlers) :
    h.source = m.name := by
  obtain ⟨declared, hdeclared⟩ := hmodel.handlersBuilt
  obtain ⟨⟨kind, d⟩, -, hbuilt⟩ := exists_of_mem_mapM hdeclared hh
  rw [(buildHandler_eq_ok hbuilt).source_eq, hmodel.name_eq]

theorem tablesOf_eq_ok {models : List Model} {names tables : List String}
    (h : tablesOf models names = .ok tables) : ∀ table ∈ tables, ∃ m ∈ models, m.table = table := by
  unfold tablesOf at h
  obtain ⟨found, hfound, h⟩ := bind_eq_ok.mp h
  cases pure_eq_ok.mp h
  intro table htable
  obtain ⟨name, -, hname⟩ := exists_of_mem_mapM hfound (mem_sortedDistinct.mp htable)
  split at hname
  · next m hm =>
    cases hname
    exact ⟨m, List.mem_of_find?_eq_some hm, rfl⟩
  · cases hname

/-- Resolving a handler changes nothing but its tables. -/
theorem resolveHandler_eq_ok {models : List Model} {h h' : ChangeHandler}
    (hresolved : resolveHandler models h = .ok h') : ∃ readable writable,
      tablesOf models h.readableTables = .ok readable ∧
      tablesOf models h.writableTables = .ok writable ∧
      h' = { h with readableTables := readable, writableTables := writable } := by
  unfold resolveHandler at hresolved
  obtain ⟨readable, hreadable, hresolved⟩ := bind_eq_ok.mp hresolved
  obtain ⟨writable, hwritable, hresolved⟩ := bind_eq_ok.mp hresolved
  exact ⟨readable, writable, hreadable, hwritable, (pure_eq_ok.mp hresolved).symm⟩

/-- Every handler of a model is resolved, and nothing else changes. -/
theorem resolveHandlers_forall₂ {models resolved : List Model}
    (h : resolveHandlers models = .ok resolved) :
    List.Forall₂ (fun m m' => m' = { m with handlers := m'.handlers } ∧
      List.Forall₂ (fun h h' => resolveHandler models h = .ok h') m.handlers m'.handlers)
      models resolved := by
  unfold resolveHandlers at h
  refine (mapM_eq_ok.mp h).imp fun m m' hm => ?_
  obtain ⟨handlers, hhandlers, hm⟩ := bind_eq_ok.mp hm
  cases pure_eq_ok.mp hm
  exact ⟨rfl, mapM_eq_ok.mp hhandlers⟩

theorem mem_handlers_resolved {models resolved : List Model}
    (h : resolveHandlers models = .ok resolved) {m' : Model} (hm' : m' ∈ resolved)
    {h' : ChangeHandler} (hh' : h' ∈ m'.handlers) :
    ∃ m ∈ models, m.name = m'.name ∧ ∃ h ∈ m.handlers, resolveHandler models h = .ok h' := by
  obtain ⟨m, hm, hsame, hhandlers⟩ := exists_of_mem_forall₂ (resolveHandlers_forall₂ h) hm'
  obtain ⟨h, hh, hok⟩ := exists_of_mem_forall₂ hhandlers hh'
  exact ⟨m, hm, by rw [hsame], h, hh, hok⟩

theorem ofSchema_handlersSettled {config : Config} {text : String} {b : Blueprint}
    (h : ofSchema config text = .ok b) : HandlersSettled b := by
  obtain ⟨document, hparsed, hdocument⟩ := ofSchema_eq_ok h
  obtain ⟨ds, built, hds, hbuilt, hmodels, htables, -⟩ := ofDocument_eq_ok hdocument
  have htable {m : Model} (hm : m ∈ built.map (·.1)) : ∃ t ∈ b.tables, t.name = m.table := by
    obtain ⟨m', hm', handlers, rfl⟩ := exists_of_mem_forall₂ (resolveHandlers_eq_ok hmodels).flip hm
    obtain ⟨member, hmember, hsame⟩ := exists_member_of_mem hmodels hm'
    obtain ⟨t, ht, hname, -⟩ := buildTables_eq_ok htables hmember
    exact ⟨t, ht, hname.trans (by rw [hsame])⟩
  have hsettled {h' : ChangeHandler} (hh' : h' ∈ b.handlers) : IsReadableName h'.source ∧
      (∀ table ∈ h'.readableTables, ∃ t ∈ b.tables, t.name = table) ∧
      ∀ table ∈ h'.writableTables, ∃ t ∈ b.tables, t.name = table := by
    obtain ⟨m', hm', hh'⟩ := List.mem_flatMap.mp hh'
    obtain ⟨m, hm, -, h, hh, hresolved⟩ := mem_handlers_resolved hmodels hm' hh'
    obtain ⟨readable, writable, hreadable, hwritable, rfl⟩ := resolveHandler_eq_ok hresolved
    obtain ⟨member, hmember, rfl⟩ := List.mem_map.mp hm
    obtain ⟨entry, hentry, hmodel⟩ := buildModels_eq_ok hbuilt hmember
    refine ⟨?_, fun table htouched => ?_, fun table htouched => ?_⟩
    · dsimp only
      rw [hmodel.source hh, hmodel.name_eq]
      rw [objects_ofDocument hds] at hentry
      obtain ⟨definition, hdefinition, hobject⟩ :=
        List.mem_filterMap.mp (Dict.mem_of_mem_ofList hentry)
      split at hobject
      · cases hobject
        exact isReadableName_of_parse hparsed hdefinition
      · cases hobject
    · obtain ⟨m, hm, rfl⟩ := tablesOf_eq_ok hreadable table htouched
      exact htable hm
    · obtain ⟨m, hm, rfl⟩ := tablesOf_eq_ok hwritable table htouched
      exact htable hm
  exact ⟨fun h hh => (hsettled hh).1, fun h hh => (hsettled hh).2.1, fun h hh => (hsettled hh).2.2⟩

/-- The handlers of a model in an accepted schema are handlers of its changes. -/
theorem ofSchema_source {config : Config} {text : String} {b : Blueprint}
    (h : ofSchema config text = .ok b) {m : Model} (hm : m ∈ b.models) {handler : ChangeHandler}
    (hh : handler ∈ m.handlers) : handler.source = m.name := by
  obtain ⟨document, -, hdocument⟩ := ofSchema_eq_ok h
  obtain ⟨ds, built, -, hbuilt, hmodels, -⟩ := ofDocument_eq_ok hdocument
  obtain ⟨m', hm', hname, handler', hh', hresolved⟩ := mem_handlers_resolved hmodels hm hh
  obtain ⟨member, hmember, rfl⟩ := List.mem_map.mp hm'
  obtain ⟨entry, -, hmodel⟩ := buildModels_eq_ok hbuilt hmember
  obtain ⟨readable, writable, -, -, rfl⟩ := resolveHandler_eq_ok hresolved
  exact (hmodel.source hh').trans hname

end Keyspace.Blueprint
