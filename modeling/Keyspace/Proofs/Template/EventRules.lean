import Keyspace.Change.Event
import Keyspace.Proofs.Blueprint.Handlers
import Keyspace.Proofs.Template.Bindings
import Keyspace.Proofs.Template.FilledText
import Keyspace.Proofs.Template.FunctionVariables
import Keyspace.Proofs.Template.KeySchemas
import Keyspace.Template.Functions
import Mathlib.Data.List.TakeDrop

/-!
# Event rules and published events

The template of a change handler has a rule that says which events trigger the function, by
their sources and their kinds. The dispatcher names an event's source after the physical table
and the model, with a dot in between. Physical names may have dots too, but no model's name has
one, so the two are told apart at the last dot: a rule matches exactly the events of its own
table and model.
-/
namespace Keyspace

open Text CutText Schema Stacks

/-! ## Tables in resource names -/

/-- A text begins with the name of a table between its marks. -/
structure BeginsWithTable (text table : List Char) : Prop where
  marked : ∃ after, text = ":table/".toList ++ table ++ "/stream/".toList ++ after
  nonempty : table ≠ []
  segment : '/' ∉ table

/-- A table stands at the first place of a text where one can stand. -/
def FirstTable (text table : List Char) : Prop :=
  ∃ before rest, text = before ++ rest ∧ BeginsWithTable rest table ∧
    ∀ before' rest' table', text = before' ++ rest' → BeginsWithTable rest' table' →
      before.length ≤ before'.length

/-- The resource name of a stream names the physical table of the stream. -/
def NamesTable (source table : String) : Prop := FirstTable source.toList table.toList

namespace PublishedEvent

/-- The table whose name a text begins with. -/
def tableHere? (text : List Char) : Option (List Char) := do
  let after ← dropBeginning? tableMarks.1 text
  let (table, after) := after.span (· != '/')
  if table = [] then none
  else (dropBeginning? tableMarks.2 after).map fun _ => table

theorem tableOf?_cons (c : Char) (rest : List Char) :
    tableOf? (c :: rest) = (tableHere? (c :: rest)).or (tableOf? rest) := by
  conv_lhs => unfold tableOf?
  dsimp only
  split
  · next table hhere =>
    have hhere : tableHere? (c :: rest) = some table := hhere
    rw [hhere, Option.some_or]
  · next hhere =>
    have hhere : tableHere? (c :: rest) = none := hhere
    rw [hhere, Option.none_or]

theorem tableHere?_eq_some {text table : List Char} :
    tableHere? text = some table ↔ BeginsWithTable text table := by
  unfold tableHere?
  constructor
  · intro h
    obtain ⟨after, hafter, h⟩ := Option.bind_eq_some_iff.mp h
    rw [List.span_eq_takeWhile_dropWhile] at h
    dsimp only at h
    split at h
    · cases h
    · next hne =>
      obtain ⟨rest, hrest, rfl⟩ := Option.map_eq_some_iff.mp h
      refine ⟨⟨rest, ?_⟩, hne, fun hmem => by simpa using List.mem_takeWhile_imp hmem⟩
      have hsplit : after = after.takeWhile (· != '/') ++ (tableMarks.2 ++ rest) := by
        rw [← dropBeginning?_eq_some.mp hrest, List.takeWhile_append_dropWhile]
      calc text = tableMarks.1 ++ after := dropBeginning?_eq_some.mp hafter
        _ = tableMarks.1 ++ (after.takeWhile (· != '/') ++ (tableMarks.2 ++ rest)) :=
          congrArg (tableMarks.1 ++ ·) hsplit
        _ = _ := by
          rw [← List.append_assoc, ← List.append_assoc]
          rfl
  · rintro ⟨⟨after, rfl⟩, hne, hslash⟩
    have hdrop : dropBeginning? tableMarks.1
        (":table/".toList ++ table ++ "/stream/".toList ++ after) =
          some (table ++ ("/stream/".toList ++ after)) := by
      rw [dropBeginning?_eq_some, List.append_assoc, List.append_assoc]
      rfl
    have hall : ∀ c ∈ table, (c != '/') = true := fun c hc => by
      simp only [bne_iff_ne, ne_eq]
      rintro rfl
      exact hslash hc
    have hspan : (table ++ ("/stream/".toList ++ after)).span (· != '/') =
        (table, "/stream/".toList ++ after) := by
      refine span_eq_iff.mpr ⟨rfl, hall, fun c hc => ?_⟩
      cases hc
      rfl
    have hmark : dropBeginning? tableMarks.2 ("/stream/".toList ++ after) = some after :=
      dropBeginning?_eq_some.mpr rfl
    simp only [hdrop, Option.bind_eq_bind, Option.bind_some, hspan, if_neg hne, hmark,
      Option.map_some]

theorem tableOf?_eq_some {text table : List Char} :
    tableOf? text = some table ↔ FirstTable text table := by
  induction text with
  | nil =>
    refine ⟨fun h => (by cases h), ?_⟩
    rintro ⟨before, rest, hsplit, ⟨⟨after, rfl⟩, -, -⟩, -⟩
    simp at hsplit
  | cons c text ih =>
    rw [tableOf?_cons, Option.or_eq_some_iff, tableHere?_eq_some, ih]
    constructor
    · rintro (hhere | ⟨hnone, before, rest, hsplit, htable, hfirst⟩)
      · exact ⟨[], c :: text, rfl, hhere, fun _ _ _ _ _ => Nat.zero_le _⟩
      · refine ⟨c :: before, rest, by rw [hsplit]; rfl, htable, fun before' rest' table' h h' => ?_⟩
        cases before' with
        | nil =>
          rw [List.nil_append] at h
          rw [← h] at h'
          rw [tableHere?_eq_some.mpr h'] at hnone
          cases hnone
        | cons c' before' =>
          obtain ⟨-, h⟩ := List.cons.inj h
          simpa using hfirst before' rest' table' h h'
    · rintro ⟨before, rest, hsplit, htable, hfirst⟩
      cases before with
      | nil =>
        rw [List.nil_append] at hsplit
        exact Or.inl (hsplit ▸ htable)
      | cons c' before =>
        obtain ⟨rfl, rfl⟩ := List.cons.inj hsplit
        refine Or.inr ⟨?_, before, rest, rfl, htable, fun before' rest' table' h h' => ?_⟩
        · rw [Option.eq_none_iff_forall_ne_some]
          intro table' hhere
          have hshorter := hfirst [] _ table' rfl (tableHere?_eq_some.mp hhere)
          simp at hshorter
        · have hshorter := hfirst (c :: before') rest' table' (by rw [h]; rfl) h'
          simpa using hshorter

/-- The dispatcher reads the table's name off the resource name of the stream. -/
theorem tableOf?_iff_namesTable {source table : String} :
    tableOf? source.toList = some table.toList ↔ NamesTable source table := tableOf?_eq_some

end PublishedEvent

/-! ## Patterns of rules -/

namespace Json

/-- The text that a value stands for once the parameters have values. -/
def textUnder? (value : String → String) (j : Json) : Option String :=
  j.asString?.or ((j.textAt? "Fn::Sub").map (fillText value))

end Json

/-- What an event has under a key of its envelope that a pattern may name. -/
def PublishedEvent.text? (e : PublishedEvent) : String → Option String
  | "source" => some e.source
  | "detail-type" => some e.detailType
  | _ => none

/-- A pattern matches an event if every member lists what the event has under its key. -/
def Json.Matches (value : String → String) (pattern : Json) (e : PublishedEvent) : Prop :=
  ∀ key allowed, pattern.get? key = some allowed →
    ∃ text, e.text? key = some text ∧
      ∃ element ∈ allowed.asArray?.getD [], element.textUnder? value = some text

namespace Template

/-- The pattern of the rule that triggers a function. -/
def triggerPattern? (template : Template) (function : String) : Option Json := do
  let resource ← template.resources.get? function
  let events ← resource.properties.get? "Events"
  let trigger ← events.get? "Trigger"
  let rule ← trigger.get? "Properties"
  rule.get? "Pattern"

def handlerPattern (t : Table) (h : ChangeHandler) : Json :=
  .object [("source", .arr [eventSource t h]), ("detail-type", .ofStrings h.event.mutationNames)]

theorem triggerPattern?_handlerTemplate (config : Config) (t : Table) (h : ChangeHandler) :
    (handlerTemplate config t h).triggerPattern? h.functionName = some (handlerPattern t h) := by
  have hresource : (handlerTemplate config t h).resources.get? h.functionName =
      some (handlerFunction config t h) := Dict.get?_insert_self _ _ _
  have hevents : (handlerFunction config t h).properties.get? "Events" =
      some (handlerEvents t h) := by
    simp [handlerFunction, functionMembers, Json.get?_object]
  unfold triggerPattern?
  simp [hresource, hevents, handlerEvents, handlerPattern, Json.get?_object]

variable {value : String → String}

theorem textUnder?_sub (text : String) :
    (Json.sub text).textUnder? value = some (fillText value text) := rfl

theorem textUnder?_eventSource {t : Table} {h : ChangeHandler}
    (hsource : IsReadableName h.source) : (eventSource t h).textUnder? value =
      some (value (tableParameter t.name) ++ "." ++ h.source) := by
  have hplain : '$' ∉ ('.' :: h.source.toList) := by
    rintro (_ | ⟨_, hmem⟩)
    exact absurd (hsource _ hmem) (by decide)
  have hsuffix : Fills value ('.' :: h.source.toList) ('.' :: h.source.toList) :=
    Fills.of_plain hplain
  have hfills : Fills value ("$\x7b" ++ tableParameter t.name ++ "\x7d." ++ h.source).toList
      ((value (tableParameter t.name)).toList ++ '.' :: h.source.toList) := by
    simpa [writtenVariable] using hsuffix.written (namesItself_tableParameter t.name)
  rw [eventSource, textUnder?_sub, Option.some_inj, ← String.toList_inj, toList_fillText hfills]
  simp

theorem matches_handlerPattern {t : Table} {h : ChangeHandler} {e : PublishedEvent}
    (hsource : IsReadableName h.source) : (handlerPattern t h).Matches value e ↔
      e.source = value (tableParameter t.name) ++ "." ++ h.source ∧
      e.detailType ∈ h.event.mutationNames := by
  have hlistedSource : (handlerPattern t h).get? "source" = some (.arr [eventSource t h]) := by
    simp [handlerPattern, Json.get?_object]
  have hlistedKinds : (handlerPattern t h).get? "detail-type" =
      some (.ofStrings h.event.mutationNames) := by
    simp [handlerPattern, Json.get?_object]
  have htext : (eventSource t h).textUnder? value =
      some (value (tableParameter t.name) ++ "." ++ h.source) := textUnder?_eventSource hsource
  constructor
  · intro hmatches
    constructor
    · obtain ⟨text, heq, element, helement, hfilled⟩ := hmatches _ _ hlistedSource
      cases heq
      rw [List.mem_singleton.mp helement, htext] at hfilled
      exact (Option.some.inj hfilled).symm
    · obtain ⟨text, heq, element, helement, hfilled⟩ := hmatches _ _ hlistedKinds
      cases heq
      obtain ⟨kind, hkind, rfl⟩ := List.mem_map.mp helement
      cases hfilled
      exact hkind
  · rintro ⟨hsame, hkind⟩ key allowed hallowed
    by_cases hkey : key = "source"
    · subst hkey
      cases hlistedSource.symm.trans hallowed
      exact ⟨_, rfl, eventSource t h, List.mem_singleton_self _, hsame ▸ htext⟩
    · by_cases hkey' : key = "detail-type"
      · subst hkey'
        cases hlistedKinds.symm.trans hallowed
        exact ⟨_, rfl, .str e.detailType, List.mem_map_of_mem hkind, rfl⟩
      · rw [handlerPattern, Json.get?_object] at hallowed
        simp [Ne.symm hkey, Ne.symm hkey'] at hallowed

/-- Wiring leaves the rules of functions alone. -/
theorem triggerPattern?_wired {config : Config} {tables : List String} {t t' : Template}
    (h : ∀ id, t'.resources.get? id = (t.resources.get? id).map (wiredResource config tables))
    (function : String) : t'.triggerPattern? function = t.triggerPattern? function := by
  unfold triggerPattern?
  rw [h]
  cases t.resources.get? function with
  | none => rfl
  | some r =>
    simp only [Option.map_some, Option.bind_eq_bind, Option.bind_some]
    rw [get?_wiredResource_of_ne (by decide)]

end Template

/-! ## Sources of events -/

/-- The last dot separates two texts if there is none in the second one. -/
theorem append_dot_inj {before before' after after' : List Char} (h : '.' ∉ after)
    (h' : '.' ∉ after') : before ++ '.' :: after = before' ++ '.' :: after' ↔
      before = before' ∧ after = after' := by
  constructor
  · intro heq
    have hreversed := congrArg List.reverse heq
    simp only [List.reverse_append, List.reverse_cons, List.append_assoc,
      List.singleton_append] at hreversed
    obtain ⟨hafter, hbefore⟩ := append_cons_inj (by rwa [List.mem_reverse])
      (by rwa [List.mem_reverse]) hreversed
    exact ⟨List.reverse_injective hbefore, List.reverse_injective hafter⟩
  · rintro ⟨rfl, rfl⟩
    rfl

theorem not_mem_dot {name : String} (h : IsReadableName name) : '.' ∉ name.toList :=
  fun hmem => absurd (h _ hmem) (by decide)

/-- An event's source tells the table and the model of its record. -/
theorem source_inj {table table' model model' : String} (h : IsReadableName model)
    (h' : IsReadableName model') : table ++ "." ++ model = table' ++ "." ++ model' ↔
      table = table' ∧ model = model' := by
  have hjoined (table model : String) :
      (table ++ "." ++ model).toList = table.toList ++ '.' :: model.toList := by simp
  rw [← String.toList_inj, hjoined, hjoined, append_dot_inj (not_mem_dot h) (not_mem_dot h'),
    String.toList_inj, String.toList_inj]

/-- A record whose table and model are known is dispatched as one event. -/
theorem PublishedEvents.dispatch_of_namesTable {r : StreamRecord} {table model : String}
    (htable : NamesTable r.source table) (hmodel : r.currentImage.bind entityType? = some model)
    (bus : Option String) (events : PublishedEvents) :
    ∃ e, dispatch bus r events = (.ok e, events ++ [e]) ∧ e.source = table ++ "." ++ model ∧
      e.detailType = r.mutation.name := by
  have hevent : PublishedEvent.ofRecord bus r =
      .ok ⟨table ++ "." ++ model, r.mutation.name, r.toJson, r.changedAt, bus⟩ := by
    unfold PublishedEvent.ofRecord
    rw [PublishedEvent.tableOf?_iff_namesTable.mpr htable, hmodel]
    simp [toString]
    rfl
  exact ⟨_, by rw [dispatch, hevent], rfl, rfl⟩

open Template in
/-- In an accepted schema, the rule of a handler matches the event of a stream record if and
only if the record is of the physical table and of the model of the handler and its mutation
triggers the handler. Wiring the stacks changes no rule. -/
theorem rule_matches_iff {config : Config} {text : String} {b : Blueprint}
    (hb : Blueprint.ofSchema config text = .ok b) {m : Model} (hm : m ∈ b.models) {t : Table}
    (ht : t ∈ b.tables) (hname : t.name = m.table) {h : ChangeHandler} (hh : h ∈ m.handlers)
    {r : StreamRecord} {table model : String} (htable : NamesTable r.source table)
    (hmodel : r.currentImage.bind entityType? = some model) (hreadable : IsReadableName model)
    (config' : Config) (value : String → String) (bus : Option String)
    (events : PublishedEvents) :
    ∃ pattern e, (handlerTemplate config' t h).triggerPattern? h.functionName = some pattern ∧
      (∀ s, Stacks.ofBlueprint config' b = .ok s →
        ∃ n, s.nested.get? (stackName h.functionName) = some n ∧
          n.template.triggerPattern? h.functionName = some pattern) ∧
      PublishedEvents.dispatch bus r events = (.ok e, events ++ [e]) ∧
      (pattern.Matches value e ↔ table = value (tableParameter m.table) ∧ model = m.name ∧
        r.mutation.triggers h.event = true) := by
  obtain ⟨e, hdispatch, hsource, hkind⟩ :=
    PublishedEvents.dispatch_of_namesTable htable hmodel bus events
  have hrule := triggerPattern?_handlerTemplate config' t h
  have hown : h.source = m.name := Blueprint.ofSchema_source hb hm hh
  have hreadable' : IsReadableName h.source :=
    (Blueprint.ofSchema_handlersSettled hb).source h (List.mem_flatMap.mpr ⟨m, hm, hh⟩)
  refine ⟨handlerPattern t h, e, hrule, fun s hs => ?_, hdispatch, ?_⟩
  · have hwired := Blueprint.ofSchema_isWired hb
    have hsound := Blueprint.ofSchema_isSound hb
    obtain ⟨t', ht', hname', hdispatcher⟩ := hwired.dispatched m hm (List.ne_nil_of_mem hh)
    obtain ⟨d, hd⟩ := Option.isSome_iff_exists.mp hdispatcher
    have hsame : t' = t :=
      List.inj_on_of_nodup_map hsound.namesDistinct ht' ht (by rw [hname', hname])
    have hf : FunctionStack.ofHandler config' t h ∈ FunctionStack.ofBlueprint b config' :=
      FunctionStack.mem_ofBlueprint.mpr
        ⟨t, ht, d, hsame ▸ hd, Or.inr ⟨m, hm, hname.symm, h, hh, rfl⟩⟩
    obtain ⟨n, hn, -, hresources⟩ := exists_nested hsound hwired hs hf
    exact ⟨n, hn, (triggerPattern?_wired hresources _).trans hrule⟩
  · rw [matches_handlerPattern hreadable', hsource, hkind, source_inj hreadable hreadable', hown,
      hname, and_assoc, Mutation.triggers, List.contains_iff_mem]

namespace ReactorExample

/-- The insertion of an item of a model into the table `prod.A`. -/
def insertion (model : String) : StreamRecord where
  id := none
  mutation := .insert
  source := "arn:aws:dynamodb:us-east-1:123456789012:table/prod.A/stream/2024-05-01T00:00:00.000"
  payload := ⟨none, [], some [(entityTypeAttribute, .text model)], none, none, none⟩

end ReactorExample

open ReactorExample Template in
/-- The rule of a reactor on the table `prod.A` matches an insertion of its own model. -/
theorem reactor_rule_matches :
    Blueprint.ofSchema (withVariable "STAGE") schema = .ok blueprint ∧
    ∃ pattern e, (handlerTemplate (withVariable "STAGE") table handler).triggerPattern? "FnH" =
        some pattern ∧
      PublishedEvents.dispatch none (insertion "A") [] = (.ok e, [e]) ∧
      pattern.Matches (fun _ => "prod.A") e := by
  have htable : NamesTable (insertion "A").source "prod.A" :=
    PublishedEvent.tableOf?_iff_namesTable.mp (by decide +kernel)
  have hreadable : IsReadableName "A" := by simp [IsReadableName, Schema.isNameChar]
  obtain ⟨pattern, e, hrule, -, hdispatch, hmatches⟩ :=
    rule_matches_iff (ofSchema_schema "STAGE") (m := model) (List.mem_singleton_self _)
      (t := table) (List.mem_singleton_self _) rfl (h := handler) (List.mem_singleton_self _)
      htable rfl hreadable (withVariable "STAGE") (fun _ => "prod.A") none []
  exact ⟨ofSchema_schema "STAGE", pattern, e, hrule, hdispatch, hmatches.mpr (by decide)⟩

end Keyspace
