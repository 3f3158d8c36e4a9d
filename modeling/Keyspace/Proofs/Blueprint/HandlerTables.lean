import Keyspace.Proofs.Blueprint.Handlers
import Keyspace.Proofs.Blueprint.Tables

/-!
# What handlers work on

A handler reads the table of its model and those of the models it is said to read from, and it
writes to the tables of the models it is said to write to and of its target. Its functions have
names of their own, and the stream it is fed from is there.
-/
namespace Keyspace.Schema

/-- The kind of handler a written directive declares. -/
def DirectiveUse.handlerKind? (use : DirectiveUse) : Option HandlerKind :=
  if use.name = "reacts" then some .reactor
  else if use.name = "enriches" then some .enricher
  else if use.name = "reduces" then some .reducer
  else none

end Keyspace.Schema

namespace Keyspace.Blueprint

open Schema Result

/-- A handler does what its directive says. -/
structure IsHandlerOf (b : Blueprint) (m : Model) (use : DirectiveUse) (h : ChangeHandler) :
    Prop where
  kind_eq : use.handlerKind? = some h.kind
  source_eq : h.source = m.name
  target_iff : ∀ name, h.target = some name ↔
    ("targetModel", Value.string name) ∈ use.arguments
  target_mem : ∀ name, h.target = some name → ∃ m' ∈ b.models, m'.name = name
  targeted_iff : h.target.isSome = true ↔ h.kind = .enricher ∨ h.kind = .reducer
  readableSorted : h.readableTables.Pairwise (· < ·)
  writableSorted : h.writableTables.Pairwise (· < ·)
  readable_iff : ∀ table, table ∈ h.readableTables ↔
    table = m.table ∨ ∃ m' ∈ b.models, use.Lists "readsFrom" m'.name ∧ m'.table = table
  writable_iff : ∀ table, table ∈ h.writableTables ↔
    ∃ m' ∈ b.models, (use.Lists "writesTo" m'.name ∨ h.target = some m'.name) ∧ m'.table = table
  tablesKnown : ∀ table ∈ h.readableTables ++ h.writableTables, table ∈ b.tables.map (·.name)
  dispatched : ∃ t ∈ b.tables, t.name = m.table ∧ t.dispatcher.isSome = true ∧ t.isStreaming = true

/-- The handlers of a model are those that its type declares, in order. -/
def HandlersDeclared (document : Document) (b : Blueprint) (m : Model) : Prop :=
  ∃ type, Definition.object type ∈ document ∧ type.name = m.name ∧
    List.Forall₂ (IsHandlerOf b m) (type.directives.filter (·.handlerKind?.isSome)) m.handlers

/-- The names of the functions that dispatchers and handlers run as. -/
def functionNames (b : Blueprint) : List String :=
  (b.tables.filterMap fun t => t.dispatcher.map (·.functionName)) ++
    b.handlers.map (·.functionName)

/-- What handlers are and work on is as declared. -/
structure HandlersFaithful (document : Document) (b : Blueprint) : Prop where
  declared : ∀ m ∈ b.models, HandlersDeclared document b m
  functionsDistinct : (functionNames b).Nodup

/-! ## From written directives to handlers -/

/-- A handler other than a reactor has the target that its directive requires. -/
theorem handlerTarget_eq_ok {ds : Declarations} {kind : HandlerKind} {d : Directive}
    {target : Option String} (h : handlerTarget ds kind d = .ok target) :
    (kind = .reactor ∧ target = none) ∨
      (kind ≠ .reactor ∧ ∃ name, d.string? "targetModel" = some name ∧ target = some name) := by
  cases kind with
  | reactor =>
    cases h
    exact Or.inl ⟨rfl, rfl⟩
  | enricher | reducer =>
    obtain ⟨name, hname, h⟩ := bind_eq_ok.mp h
    obtain ⟨⟨⟩, -, h⟩ := bind_eq_ok.mp h
    exact Or.inr ⟨by decide, name, Directive.requiredString_eq_ok hname, (pure_eq_ok.mp h).symm⟩

theorem target_isSome_iff {ds : Declarations} {kind : HandlerKind} {d : Directive}
    {target : Option String} (h : handlerTarget ds kind d = .ok target) :
    target.isSome = true ↔ kind = .enricher ∨ kind = .reducer := by
  rcases handlerTarget_eq_ok h with ⟨rfl, rfl⟩ | ⟨hreactor, name, -, rfl⟩
  · simp
  · cases kind <;> simp_all

/-- A directive that was read from a written one and declares a handler of a kind. -/
def DeclaresHandler (use : DirectiveUse) (declared : HandlerKind × Directive) : Prop :=
  declared.2.IsReadFrom use ∧ handlerKind? declared.2.kind = some declared.1

section Read

variable {d : Directive} {use : DirectiveUse} (h : d.IsReadFrom use)
include h

theorem handlerKind?_eq : use.handlerKind? = handlerKind? d.kind := by
  unfold DirectiveUse.handlerKind?
  rw [h.name_eq]
  cases d.kind <;> rfl

/-- The models a handler directive lists are found in it as they are written. -/
theorem mem_listed_iff {kind : HandlerKind} (hkind : handlerKind? d.kind = some kind)
    {argument : String} (hargument : argument ∈ ["readsFrom", "writesTo"]) (text : String) :
    text ∈ (d.stringList? argument).getD [] ↔ use.Lists argument text := by
  have hspec : ∀ argument ∈ ["readsFrom", "writesTo"], ∀ kind, handlerKind? kind ≠ none →
      kind.arguments.find? (·.name = argument) = some ⟨argument, .stringList, false⟩ := by
    intro argument hargument kind hhandler
    simp only [List.mem_cons, List.not_mem_nil, or_false] at hargument
    rcases hargument with rfl | rfl <;> cases kind <;>
      first | rfl | exact absurd rfl hhandler
  exact h.mem_stringList? (hspec argument hargument d.kind (by simp [hkind])) text

/-- A reactor has no target; any other handler has the one that is written. -/
theorem target_iff_written {ds : Declarations} {kind : HandlerKind}
    (hkind : handlerKind? d.kind = some kind) {target : Option String}
    (htarget : handlerTarget ds kind d = .ok target) (name : String) :
    target = some name ↔ ("targetModel", Value.string name) ∈ use.arguments := by
  have hcatalog : ∀ kind', handlerKind? kind' = some kind →
      kind'.arguments.find? (·.name = "targetModel") =
        if kind = .reactor then none else some ⟨"targetModel", .string, true⟩ := by
    intro kind' hsame
    cases kind' <;> cases hsame <;> rfl
  have hspec := hcatalog d.kind hkind
  rcases handlerTarget_eq_ok htarget with ⟨rfl, rfl⟩ | ⟨hreactor, text, htext, rfl⟩
  · refine ⟨(nomatch ·), fun hwritten => ?_⟩
    have hknown := h.find?_isSome hwritten
    rw [hspec, if_pos rfl] at hknown
    cases hknown
  · rw [if_neg hreactor] at hspec
    rw [← htext]
    exact h.string?_iff hspec name

end Read

theorem isKnown_of_handlerKind? {use : DirectiveUse} {kind : HandlerKind}
    (h : use.handlerKind? = some kind) : use.isKnown = true := by
  unfold DirectiveUse.handlerKind? at h
  unfold DirectiveUse.isKnown
  split_ifs at h with hname hname hname <;> rw [hname] <;> rfl

theorem forall₂_handlers {uses : List DirectiveUse} {ds : List Directive}
    (h : List.Forall₂ (fun use d => Directive.IsReadFrom d use) uses ds) :
    List.Forall₂ DeclaresHandler (uses.filter (·.handlerKind?.isSome))
      (ds.filterMap fun d => (handlerKind? d.kind).map (·, d)) := by
  induction h with
  | nil => exact .nil
  | @cons use d uses ds hread _ ih =>
    rw [List.filter_cons, List.filterMap_cons, handlerKind?_eq hread]
    cases hkind : handlerKind? d.kind with
    | none => exact ih
    | some kind => exact .cons ⟨hread, hkind⟩ ih

/-- The directives that declare handlers are read in the order they are written in. -/
theorem handlers_inOrder {uses : List DirectiveUse} {ds : List Directive}
    (h : Directive.AreReadFrom ds uses) :
    List.Forall₂ DeclaresHandler (uses.filter (·.handlerKind?.isSome))
      (ds.filterMap fun d => (handlerKind? d.kind).map (·, d)) := by
  have hhandlers := forall₂_handlers h.inOrder
  rw [List.filter_filter] at hhandlers
  have hknown (use : DirectiveUse) :
      (use.handlerKind?.isSome && use.isKnown) = use.handlerKind?.isSome := by
    cases hkind : use.handlerKind? with
    | none => rfl
    | some kind => rw [isKnown_of_handlerKind? hkind, Bool.and_true]
  simpa only [hknown] using hhandlers

/-! ## From models to tables -/

/-- The tables of named models are sorted, and every name is that of a model. -/
theorem tablesOf_named {models : List Model} (hdistinct : (models.map (·.name)).Nodup)
    {names tables : List String} (h : tablesOf models names = .ok tables) :
    tables.Pairwise (· < ·) ∧ (∀ name ∈ names, ∃ m ∈ models, m.name = name) ∧
      ∀ table, table ∈ tables ↔ ∃ m ∈ models, m.name ∈ names ∧ m.table = table := by
  unfold tablesOf at h
  obtain ⟨found, hfound, h⟩ := bind_eq_ok.mp h
  cases pure_eq_ok.mp h
  have hread : List.Forall₂ (fun name table => ∃ m ∈ models, m.name = name ∧ m.table = table)
      names found := (mapM_eq_ok.mp hfound).imp fun name table hname => by
    split at hname
    · next m hm =>
      cases hname
      have hsame := List.find?_some hm
      exact ⟨m, List.mem_of_find?_eq_some hm, of_decide_eq_true hsame, rfl⟩
    · cases hname
  refine ⟨sortedDistinct_sorted _, fun name hname => ?_, fun table => ?_⟩
  · obtain ⟨table, -, m, hm, hsame, -⟩ := exists_of_mem_forall₂ hread.flip hname
    exact ⟨m, hm, hsame⟩
  · rw [mem_sortedDistinct]
    constructor
    · intro htable
      obtain ⟨name, hname, m, hm, rfl, hsame⟩ := exists_of_mem_forall₂ hread htable
      exact ⟨m, hm, hname, hsame⟩
    · rintro ⟨m, hm, hname, rfl⟩
      obtain ⟨table, htable, m', hm', hsame, rfl⟩ := exists_of_mem_forall₂ hread.flip hname
      rwa [List.inj_on_of_nodup_map hdistinct hm' hm hsame] at htable

/-- Resolved models have the names and the tables of those they come from. -/
theorem exists_resolved_iff {models resolved : List Model}
    (h : resolveHandlers models = .ok resolved) (P : String → String → Prop) :
    (∃ m ∈ models, P m.name m.table) ↔ ∃ m ∈ resolved, P m.name m.table := by
  have hsame := resolveHandlers_eq_ok h
  constructor
  · rintro ⟨m, hm, hP⟩
    obtain ⟨m', hm', handlers, rfl⟩ := exists_of_mem_forall₂ hsame.flip hm
    exact ⟨_, hm', hP⟩
  · rintro ⟨m', hm', hP⟩
    obtain ⟨m, hm, handlers, rfl⟩ := exists_of_mem_forall₂ hsame hm'
    exact ⟨m, hm, hP⟩

section Resolved

variable {models resolved : List Model} (hmodels : resolveHandlers models = .ok resolved)
  (hdistinct : (models.map (·.name)).Nodup) {d : Directive} {use : DirectiveUse}
  (hread : d.IsReadFrom use) {kind : HandlerKind} (hkind : handlerKind? d.kind = some kind)
include hmodels hdistinct hread hkind

theorem mem_readable_iff {m : Model} (hm : m ∈ resolved) {readable : List String}
    (h : tablesOf models (m.name :: (d.stringList? "readsFrom").getD []) = .ok readable)
    (table : String) : table ∈ readable ↔
      table = m.table ∨ ∃ m' ∈ resolved, use.Lists "readsFrom" m'.name ∧ m'.table = table := by
  have hlisted := mem_listed_iff hread hkind List.mem_cons_self
  rw [(tablesOf_named hdistinct h).2.2, exists_resolved_iff hmodels fun name table' =>
    name ∈ m.name :: (d.stringList? "readsFrom").getD [] ∧ table' = table]
  constructor
  · rintro ⟨m', hm', hname, rfl⟩
    rcases List.mem_cons.mp hname with hname | hname
    · have hown : m' = m :=
        List.inj_on_of_nodup_map (resolveHandlers_names hmodels ▸ hdistinct) hm' hm hname
      exact Or.inl (by rw [hown])
    · exact Or.inr ⟨m', hm', (hlisted _).mp hname, rfl⟩
  · rintro (rfl | ⟨m', hm', hname, rfl⟩)
    · exact ⟨m, hm, List.mem_cons_self, rfl⟩
    · exact ⟨m', hm', List.mem_cons_of_mem _ ((hlisted _).mpr hname), rfl⟩

theorem mem_writable_iff {target : Option String} {writable : List String}
    (h : tablesOf models ((d.stringList? "writesTo").getD [] ++ target.toList) = .ok writable)
    (table : String) : table ∈ writable ↔ ∃ m' ∈ resolved,
      (use.Lists "writesTo" m'.name ∨ target = some m'.name) ∧ m'.table = table := by
  have hlisted := mem_listed_iff hread hkind (List.mem_cons_of_mem _ List.mem_cons_self)
  rw [(tablesOf_named hdistinct h).2.2, exists_resolved_iff hmodels fun name table' =>
    name ∈ (d.stringList? "writesTo").getD [] ++ target.toList ∧ table' = table]
  simp only [List.mem_append, hlisted, Option.mem_toList]

end Resolved

/-! ## A whole blueprint -/

section Accepted

variable {config : Config} {document : Document} {b : Blueprint}
  (h : ofDocument config document = .ok b)
include h

/-- The stream of a model with handlers is there, and it is dispatched. -/
theorem exists_stream {m : Model} (hm : m ∈ b.models) (hhandlers : m.handlers ≠ []) :
    ∃ t ∈ b.tables, t.name = m.table ∧ t.dispatcher.isSome = true ∧ t.isStreaming = true := by
  obtain ⟨t, ht, hname, -⟩ := (ofDocument_isSound h).tableOf m hm
  have htable := ofDocument_isTableOf h ht
  have hon : m ∈ b.modelsOn t := List.mem_filter.mpr ⟨hm, decide_eq_true hname.symm⟩
  have hdispatcher := htable.dispatches_iff.mpr ⟨m, hon, hhandlers⟩
  exact ⟨t, ht, hname, hdispatcher, htable.streams hdispatcher⟩

/-- A handler that is built from a directive and resolved does what the directive says. -/
theorem isHandlerOf_of_resolved {models : List Model}
    (hmodels : resolveHandlers models = .ok b.models) (hdistinct : (models.map (·.name)).Nodup)
    {m : Model} (hm : m ∈ b.models) {handler handler' : ChangeHandler}
    (hhandler' : handler' ∈ m.handlers) (hresolved : resolveHandler models handler = .ok handler')
    {ds : Declarations} {kind : HandlerKind} {d : Directive}
    (hdeclared : IsDeclaredBy ds m.name kind d handler) {use : DirectiveUse}
    (hread : d.IsReadFrom use) (hkind : handlerKind? d.kind = some kind) :
    IsHandlerOf b m use handler' := by
  obtain ⟨readable, writable, hreadable, hwritable, rfl⟩ := resolveHandler_eq_ok hresolved
  rw [hdeclared.readable_eq] at hreadable
  rw [hdeclared.writable_eq] at hwritable
  have hreads := mem_readable_iff hmodels hdistinct hread hkind hm hreadable
  have hwrites := mem_writable_iff hmodels hdistinct hread hkind hwritable
  have htable {m' : Model} (hm' : m' ∈ b.models) : m'.table ∈ b.tables.map (·.name) :=
    (mem_tableNames_iff h m'.table).mpr (List.mem_map_of_mem hm')
  refine ⟨?_, hdeclared.source_eq, target_iff_written hread hkind hdeclared.target,
    fun name hname => ?_, ?_, (tablesOf_named hdistinct hreadable).1,
    (tablesOf_named hdistinct hwritable).1, hreads, hwrites, fun table hmem => ?_,
    exists_stream h hm (List.ne_nil_of_mem hhandler')⟩
  · rw [handlerKind?_eq hread, hkind, hdeclared.kind_eq]
  · have hmem : name ∈ (d.stringList? "writesTo").getD [] ++ handler.target.toList :=
      List.mem_append_right _ (Option.mem_toList.mpr hname)
    have hnamed := (tablesOf_named hdistinct hwritable).2.1 name hmem
    exact (exists_resolved_iff hmodels fun name' _ => name' = name).mp hnamed
  · rw [hdeclared.kind_eq]
    exact target_isSome_iff hdeclared.target
  · rcases List.mem_append.mp hmem with hmem | hmem
    · rcases (hreads table).mp hmem with rfl | ⟨m', hm', -, rfl⟩
      · exact htable hm
      · exact htable hm'
    · obtain ⟨m', hm', -, rfl⟩ := (hwrites table).mp hmem
      exact htable hm'

theorem handlersDeclared {m : Model} (hm : m ∈ b.models) : HandlersDeclared document b m := by
  obtain ⟨ds, built, hds, hbuilt, hmodels, -, -⟩ := ofDocument_eq_ok h
  obtain ⟨hapart, hdeclared⟩ := ofDocument_eq_ok_iff.mp hds
  obtain ⟨m', hm', hsame, hresolved⟩ := exists_of_mem_forall₂ (resolveHandlers_forall₂ hmodels) hm
  obtain ⟨member, hmember, rfl⟩ := List.mem_map.mp hm'
  obtain ⟨entry, hentry, hmodel⟩ := exists_of_mem_buildModels hbuilt hmember
  rw [hdeclared] at hentry
  obtain ⟨directives, hsteps⟩ := exists_isBuiltFrom hmodel
  have hread := Directive.readAll_eq_ok hsteps.directivesRead
  have hname : m.name = entry.2.name := by
    rw [hsame]
    exact hsteps.name_eq
  have hdistinct : ((built.map (·.1)).map (·.name)).Nodup := by
    rw [List.map_map]
    exact (buildModels_sorted hds hbuilt).imp fun hlt => ne_of_lt hlt
  refine ⟨entry.2, ((mem_objectsOf hapart.distinct).mp hentry).1, hname.symm, ?_⟩
  -- Written directive, read directive, built handler, resolved handler: related place by place.
  have hbuilt := forall₂_comp (handlers_inOrder hread) (mapM_eq_ok.mp hsteps.handlersBuilt)
  have hstages := forall₂_comp hbuilt hresolved
  refine (forall₂_mem hstages).imp fun use handler' hstages => ?_
  obtain ⟨⟨handler, ⟨⟨kind, d⟩, ⟨hread, hkind⟩, hbuilt⟩, hresolved⟩, hmem⟩ := hstages
  rw [← hname] at hbuilt
  exact isHandlerOf_of_resolved h hmodels hdistinct hm hmem hresolved (buildHandler_eq_ok hbuilt)
    hread hkind

/-- The handlers of an accepted document do what it says. -/
theorem ofDocument_handlersFaithful : HandlersFaithful document b := by
  refine ⟨fun m hm => handlersDeclared h hm, ?_⟩
  have hnames : functionNames b = (functionOwners b.models b.tables).map (·.1) := by
    unfold functionNames functionOwners Blueprint.handlers
    simp only [List.map_append, List.map_filterMap, List.map_flatMap, Option.map_map, List.map_map]
    rfl
  rw [hnames]
  exact (ofDocument_isWired h).functionsDistinct

end Accepted

namespace OrdersDocument

theorem customers_enrich_summaries : ∃ b, ofDocument .default document = .ok b ∧
    (functionNames b).Nodup ∧ ∃ m ∈ b.models, ∃ h ∈ m.handlers, h.source = "Customer" ∧
      h.target = some "Summary" := by
  obtain ⟨b, hb, hnames, -⟩ := exists_blueprint
  have hmem : "Customer" ∈ b.models.map (·.name) := hnames ▸ List.mem_cons_self
  obtain ⟨m, hm, hname⟩ := List.mem_map.mp hmem
  obtain ⟨hdeclared, hfunctions⟩ := ofDocument_handlersFaithful hb
  obtain ⟨type, htype, hsame, hhandlers⟩ := hdeclared m hm
  have hcustomer : type = customer := by
    rw [hname] at hsame
    simp only [document, List.mem_cons, reduceCtorEq, Definition.object.injEq, List.not_mem_nil,
      or_false, false_or] at htype
    rcases htype with rfl | rfl | rfl
    · exact absurd hsame (by decide)
    · exact absurd hsame (by decide)
    · rfl
  subst hcustomer
  have huse : ⟨"enriches", [("event", .enum "UPSERT"), ("targetModel", .string "Summary"),
      ("readsFrom", strings ["Order"])]⟩ ∈ customer.directives.filter (·.handlerKind?.isSome) :=
    List.mem_singleton_self _
  obtain ⟨h, hh, hhandler⟩ := exists_of_mem_forall₂ hhandlers.flip huse
  refine ⟨b, hb, hfunctions, m, hm, h, hh, hhandler.source_eq.trans hname, ?_⟩
  exact (hhandler.target_iff "Summary").mpr (List.mem_cons_of_mem _ List.mem_cons_self)

end OrdersDocument

end Keyspace.Blueprint
