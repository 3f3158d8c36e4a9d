import Keyspace.Proofs.Artifacts.Outputs
import Keyspace.Proofs.Code.DistinctNames
import Keyspace.Proofs.Code.Outcome
import Keyspace.Proofs.Template.RootNames
import Keyspace.Proofs.Template.TableAccess

/-!
# A unit of its own for every function and handler

Nested stacks are named after functions, and modules after handlers in snake case. The builder
keeps only the names of functions apart, and these have handlers in pascal case. In ASCII that is
enough: names that agree in snake case agree in pascal case, so no module takes the place of
another.
-/
namespace Keyspace

open Template Text

/-- The names that directives give to handlers. -/
def Schema.Document.handlerArguments (document : Schema.Document) : List String :=
  document.flatMap fun
    | .object type =>
      (type.directives.filter (·.handlerKind?.isSome)).flatMap fun use =>
        use.arguments.filterMap fun
          | ("handler", .string name) => some name
          | _ => none
    | _ => []

/-- Every function has a nested stack of its own, and there is no other. -/
structure Stacks.HasStackOfEach (s : Stacks) (config : Config) (b : Blueprint) : Prop where
  nested : s.nested.keys.Perm b.stackNames
  distinct : b.stackNames.Nodup
  count : s.nested.keys.length = (b.tables.filter (·.hasHandlers)).length + b.handlers.length
  dispatcher : ∀ t ∈ b.tables, ∀ d, t.dispatcher = some d →
    ∃ template, s.functionOf? d.functionName = some (template, dispatcherFunction config d)
  handler : ∀ m ∈ b.models, ∀ h ∈ m.handlers, ∃ t ∈ b.tables, t.name = m.table ∧
    ∃ template, s.functionOf? h.functionName = some (template, handlerFunction config t h)

/-- Every handler has a module of its own, and there is no other. -/
structure RuntimeCode.HasModuleOfEach (code : RuntimeCode) (b : Blueprint) : Prop where
  modules : code.handlers.keys.Perm (b.handlers.map (handlerModuleName ·.name))
  distinct : (b.handlers.map (handlerModuleName ·.name)).Nodup
  written : ∀ h ∈ b.handlers, ∃ text, Code.handlerCode h = .ok text ∧
    code.handlers.get? (handlerModuleName h.name) = some text

namespace Blueprint

open Schema Result

/-! ## Names of handlers -/

theorem isAscii_append {a b : String} (ha : IsAscii a.toList) (hb : IsAscii b.toList) :
    IsAscii (a ++ b).toList := by
  intro c hc
  rw [String.toList_append] at hc
  exact (List.mem_append.mp hc).elim (ha c) (hb c)

/-- A handler is named in ASCII if its type is, and the name its directive gives. -/
theorem isAscii_handlerName {kind : HandlerKind} {type : String} {event : ChangeEvent}
    {argument : Option String} (htype : IsAscii type.toList)
    (hargument : ∀ name, argument = some name → IsAscii name.toList) :
    IsAscii (handlerName kind type event argument).toList := by
  cases argument with
  | some name =>
    exact fun c hc => toNat_lt_of_isAlphanum (isAlphanum_of_mem_camelCase (hargument name rfl) hc)
  | none =>
    have hverb : IsAscii kind.verb.toList := by cases kind <;> decide +kernel
    have hevent : IsAscii event.name.toList := by cases event <;> decide +kernel
    refine isAscii_append (isAscii_append hverb htype) fun c hc => toNat_lt_of_isAlphanum ?_
    exact List.all_eq_true.mp (all_isAlphanum_pascalCase hevent) c hc

theorem mem_handlerArguments {document : Document} {type : TypeDeclaration}
    (htype : Definition.object type ∈ document) {use : DirectiveUse} (huse : use ∈ type.directives)
    (hkind : use.handlerKind?.isSome = true) {name : String}
    (hname : ("handler", Value.string name) ∈ use.arguments) :
    name ∈ document.handlerArguments := by
  refine List.mem_flatMap.mpr ⟨_, htype, List.mem_flatMap.mpr
    ⟨use, List.mem_filter.mpr ⟨huse, hkind⟩, List.mem_filterMap.mpr ⟨_, hname, rfl⟩⟩⟩

section Accepted

variable {config : Config} {document : Document} {b : Blueprint}
  (h : ofDocument config document = .ok b)
include h

/-- A handler is named as its directive says. -/
theorem exists_handlerName {handler : ChangeHandler} (hh : handler ∈ b.handlers) :
    ∃ type use d kind event, Definition.object type ∈ document ∧ use ∈ type.directives ∧
      DeclaresHandler use (kind, d) ∧
      handler.name = handlerName kind type.name event (d.string? "handler") := by
  obtain ⟨ds, built, hds, hbuilt, hmodels, -⟩ := ofDocument_eq_ok h
  obtain ⟨hapart, hdeclared⟩ := ofDocument_eq_ok_iff.mp hds
  obtain ⟨m', hm', hh⟩ := List.mem_flatMap.mp hh
  obtain ⟨m, hm, -, handler', hh', hresolved⟩ := mem_handlers_resolved hmodels hm' hh
  obtain ⟨readable, writable, -, -, rfl⟩ := resolveHandler_eq_ok hresolved
  obtain ⟨member, hmember, rfl⟩ := List.mem_map.mp hm
  obtain ⟨entry, hentry, hmodel⟩ := exists_of_mem_buildModels hbuilt hmember
  rw [hdeclared] at hentry
  obtain ⟨directives, hsteps⟩ := exists_isBuiltFrom hmodel
  obtain ⟨⟨kind, d⟩, hd, hmade⟩ := exists_of_mem_mapM hsteps.handlersBuilt hh'
  obtain ⟨event, target, sizing, -, rfl⟩ := exists_of_buildHandler hmade
  obtain ⟨use, huse, hdeclares⟩ := exists_of_mem_forall₂
    (handlers_inOrder (Directive.readAll_eq_ok hsteps.directivesRead)) hd
  exact ⟨entry.2, use, d, kind, event, ((mem_objectsOf hapart.distinct).mp hentry).1,
    (List.mem_filter.mp huse).1, hdeclares, rfl⟩

/-- Handlers are named in ASCII if their types are, and the names that directives give. -/
theorem isAscii_handler (htypes : ∀ type, Definition.object type ∈ document →
      IsAscii type.name.toList)
    (hascii : ∀ name ∈ document.handlerArguments, IsAscii name.toList)
    {handler : ChangeHandler} (hh : handler ∈ b.handlers) : IsAscii handler.name.toList := by
  obtain ⟨type, use, d, kind, event, htype, huse, ⟨hread, hkind⟩, hname⟩ := exists_handlerName h hh
  rw [hname]
  refine isAscii_handlerName (htypes type htype) fun name hargument => hascii name ?_
  have hspec : d.kind.arguments.find? (·.name = "handler") = some ⟨"handler", .string, false⟩ := by
    dsimp only at hkind
    revert hkind
    cases d.kind <;> first | exact fun _ => rfl | exact fun hkind => by cases hkind
  refine mem_handlerArguments htype huse ?_ ((hread.string?_iff hspec name).mp hargument)
  rw [handlerKind?_eq hread, hkind]
  rfl

end Accepted

/-! ## Names of units -/

/-- There is a function for every table with handlers and for every handler. -/
theorem length_stackNames (b : Blueprint) : b.stackNames.length =
    (b.tables.filter (·.hasHandlers)).length + b.handlers.length := by
  unfold stackNames functionOwners handlers Table.hasHandlers
  rw [List.length_map, List.length_append, List.length_filterMap_eq_countP,
    List.countP_eq_length_filter, List.length_flatMap, List.length_flatMap]
  simp only [Option.isSome_map, List.length_map]

section Names

variable {config : Config} {text : String} {b : Blueprint} (hb : ofSchema config text = .ok b)
include hb

theorem nodup_stackNames : b.stackNames.Nodup := by
  have hdistinct := (ofSchema_isWired hb).functionsDistinct
  refine List.pairwise_map.mpr ((List.pairwise_map.mp hdistinct).imp fun hne heq => hne ?_)
  exact FunctionStack.stackName_inj heq

theorem nodup_handlerFunctions : (b.handlers.map (·.functionName)).Nodup := by
  have hdistinct := (ofSchema_isWired hb).functionsDistinct
  unfold functionOwners at hdistinct
  rw [List.map_append, List.map_flatMap] at hdistinct
  have hnames : (b.handlers.map (·.functionName)) = b.models.flatMap fun m =>
      (m.handlers.map fun h => (h.functionName, s!"{h.kind.name} on `{m.name}`")).map (·.1) := by
    unfold Blueprint.handlers
    simp only [List.map_flatMap, List.map_map]
    rfl
  rw [hnames]
  exact (List.nodup_append.mp hdistinct).2.1

/-- Handlers named in ASCII have modules of different names. -/
theorem nodup_moduleNames (hascii : ∀ h ∈ b.handlers, IsAscii h.name.toList) :
    (b.handlers.map (handlerModuleName ·.name)).Nodup := by
  refine nodup_map_of_determines (fun h hh h' hh' heq => ?_) (nodup_handlerFunctions hb)
  rw [ofSchema_handlerFunction hb hh, ofSchema_handlerFunction hb hh',
    pascalCase_congr_snakeCase (hascii h hh) (hascii h' hh') heq]

end Names

end Blueprint

/-! ## Units of a whole blueprint -/

section Units

open Blueprint Result

variable {config : Config} {text : String} {b : Blueprint}

/-- The function stacks of an accepted schema are all there, each under a name of its own. -/
theorem hasStackOfEach (hb : Blueprint.ofSchema config text = .ok b) (root : Template) :
    (addFunctions b config (.new root)).HasStackOfEach config b := by
  have hsound := ofSchema_isSound hb
  have hwired := ofSchema_isWired hb
  have hkeys : (addFunctions b config (.new root)).nested.keys.Perm b.stackNames := by
    rw [FunctionStack.addFunctions_eq]
    refine (List.perm_ext_iff_of_nodup (keys_nodup_added config b root)
      (nodup_stackNames hb)).mpr fun name => ?_
    rw [FunctionStack.mem_keys_foldl_addTo, mem_stackNames hwired]
    exact or_iff_left List.not_mem_nil
  refine ⟨hkeys, nodup_stackNames hb, hkeys.length_eq.trans (length_stackNames b),
    fun t ht d hd => ?_, fun m hm h hh => ?_⟩
  · have hf := FunctionStack.mem_of_dispatcher config ht hd
    exact exists_functionOf?_added hsound hwired root hf (get?_dispatcherTemplate config t d)
  · obtain ⟨t, ht, hname, -, hf⟩ := FunctionStack.exists_mem_of_handler config hwired hm hh
    exact ⟨t, ht, hname,
      exists_functionOf?_added hsound hwired root hf (get?_handlerTemplate config t h)⟩

/-- Modules of different names are all there. -/
theorem hasModuleOfEach (hdistinct : (b.handlers.map (handlerModuleName ·.name)).Nodup)
    {paths : Code.PathReader} {code : RuntimeCode} (hcode : Code.ofBlueprint b paths = .ok code) :
    code.HasModuleOfEach b := by
  unfold Code.ofBlueprint at hcode
  obtain ⟨models, -, hcode⟩ := bind_eq_ok.mp hcode
  obtain ⟨handlers, hhandlers, hcode⟩ := bind_eq_ok.mp hcode
  cases pure_eq_ok.mp hcode
  have hnames := Code.map_fst_handlerModules hhandlers
  refine ⟨?_, hdistinct, fun h hh => ?_⟩
  · refine (List.perm_ext_iff_of_nodup (Dict.ordered_ofList _).keys_nodup hdistinct).mpr
      fun name => ?_
    rw [Dict.mem_keys_ofList, hnames]
  · obtain ⟨⟨name, text⟩, hentry, hwritten⟩ := mapM_reads_mem hhandlers hh
    obtain ⟨rfl, htext⟩ := Code.handlerModule_eq_ok hwritten
    exact ⟨text, htext, Dict.get?_ofList_of_mem (hnames ▸ hdistinct) hentry⟩

/-- In an accepted schema whose handlers are given ASCII names, no unit takes the place of another:
every function has its nested stack, and every handler its module. -/
theorem units_are_kept {document : Schema.Document} (hparsed : Schema.parse text = .ok document)
    (hb : Blueprint.ofSchema config text = .ok b)
    (hascii : ∀ name ∈ document.handlerArguments, IsAscii name.toList) (root : Template) :
    (addFunctions b config (.new root)).HasStackOfEach config b ∧
      ∀ paths code, Code.ofBlueprint b paths = .ok code → code.HasModuleOfEach b := by
  obtain ⟨document', hparsed', hdocument⟩ := ofSchema_eq_ok hb
  cases hparsed.symm.trans hparsed'
  have htypes : ∀ type, Schema.Definition.object type ∈ document → IsAscii type.name.toList :=
    fun type htype => isAscii_of_isReadableName (Schema.isReadableName_of_parse hparsed htype)
  refine ⟨hasStackOfEach hb root, fun _ _ hcode => hasModuleOfEach ?_ hcode⟩
  exact nodup_moduleNames hb fun h hh => isAscii_handler hdocument htypes hascii hh

open EnricherExample in
/-- Three functions and two handlers, one of which is given a name. -/
theorem enricher_units_are_kept : ∃ document code, Schema.parse schema = .ok document ∧
    document.handlerArguments = ["notifyOwner"] ∧ Code.ofBlueprint blueprint = .ok code ∧
    (addFunctions blueprint .default (.new (Stacks.startingRoot .default))).HasStackOfEach
      .default blueprint ∧ code.HasModuleOfEach blueprint := by
  obtain ⟨document, hparsed, -⟩ := ofSchema_eq_ok ofSchema_schema
  have harguments : (Schema.parse schema).map Schema.Document.handlerArguments =
      .ok ["notifyOwner"] := by decide +kernel
  obtain ⟨code, hcode⟩ : ∃ code, Code.ofBlueprint blueprint = .ok code :=
    exists_of_isOk (by decide +kernel)
  rw [hparsed] at harguments
  have hnames : document.handlerArguments = ["notifyOwner"] := Except.ok.inj harguments
  have hascii : ∀ name ∈ document.handlerArguments, IsAscii name.toList := by
    rw [hnames, List.forall_mem_singleton]
    decide +kernel
  obtain ⟨hstacks, hmodules⟩ := units_are_kept hparsed ofSchema_schema hascii
    (Stacks.startingRoot .default)
  exact ⟨document, code, hparsed, hnames, hcode, hstacks, hmodules _ code hcode⟩

end Units

end Keyspace
