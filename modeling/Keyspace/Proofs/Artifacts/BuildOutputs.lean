import Keyspace.Proofs.Artifacts.OwnUnits
import Keyspace.Proofs.Text.NameEnds

/-!
# The build outputs of functions

A function runs the code of a build output: the one directory of all dispatchers, or the directory
named after its handler in kebab case. The builder keeps the names of functions apart, which keeps
the directories of handlers named in ASCII apart too, but not those of other scripts, where the
case of two letters may be one letter. And nothing keeps a handler from the dispatchers' directory.
-/
namespace Keyspace

open Template Text

/-- The directory of a build output under the one a configuration gives. -/
def buildOutput (config : Config) (artifact : String) : String :=
  let uri := String.ofList ((config.code.uri.toList.reverse.dropWhile (· = '/')).reverse)
  s!"{uri}/{artifact}"

/-- The build output that a function of a stack set runs. -/
def Stacks.codeUri? (s : Stacks) (function : String) : Option String :=
  (s.functionOf? function).bind fun found => found.2.properties.textAt? "CodeUri"

/-- No handler's function runs the build output of another handler or of the dispatchers. -/
structure Stacks.BuildsApart (s : Stacks) (b : Blueprint) : Prop where
  handlers : (b.handlers.map fun h => s.codeUri? h.functionName).Nodup
  dispatchers : ∀ h ∈ b.handlers, ∀ t ∈ b.tables, ∀ d, t.dispatcher = some d →
    s.codeUri? h.functionName ≠ s.codeUri? d.functionName

/-- No handler is called like the dispatchers' build output, and no two handlers that are not both
named in ASCII differ in case only. -/
structure Blueprint.OutputsNamedApart (b : Blueprint) : Prop where
  dispatcher : ∀ h ∈ b.handlers, lowerWords h.name ≠ ["dispatcher".toList]
  scripts : ∀ h ∈ b.handlers, ∀ h' ∈ b.handlers,
    ¬(IsAscii h.name.toList ∧ IsAscii h'.name.toList) →
      lowerWords h.name = lowerWords h'.name → h = h'

theorem buildOutput_inj {config : Config} {artifact artifact' : String} :
    buildOutput config artifact = buildOutput config artifact' ↔ artifact = artifact' :=
  String.append_right_inj _

theorem artifactName_eq_dispatcher_iff {name : String} :
    artifactName name = "dispatcher" ↔ lowerWords name = ["dispatcher".toList] := by
  have hdispatcher : kebabCase "dispatcher" = "dispatcher" ∧
      lowerWords "dispatcher" = ["dispatcher".toList] := by decide +kernel
  rw [artifactName, ← hdispatcher.2, ← kebabCase_eq_iff, hdispatcher.1]

section Accepted

open Blueprint

variable {config : Config} {b : Blueprint} {s : Stacks}

/-- Wiring leaves the build output of a function alone. -/
theorem codeUri?_eq (hsound : b.IsSound) (hwired : b.IsWired)
    (hs : Stacks.ofBlueprint config b = .ok s) {f : FunctionStack}
    (hf : f ∈ FunctionStack.ofBlueprint b config) {r : Resource} {artifact : String}
    (hr : f.stack.template.resources.get? f.function = some r)
    (hcode : r.properties.get? "CodeUri" = some (.str (buildOutput config artifact))) :
    s.codeUri? f.function = some (buildOutput config artifact) := by
  obtain ⟨template, hfunction⟩ := exists_functionOf? hsound hwired hs hf hr
  unfold Stacks.codeUri? Json.textAt?
  rw [hfunction, Option.bind_some, Stacks.get?_wiredResource_of_ne (by decide), hcode]
  rfl

theorem codeUri?_handler (hsound : b.IsSound) (hwired : b.IsWired)
    (hs : Stacks.ofBlueprint config b = .ok s) {h : ChangeHandler} (hh : h ∈ b.handlers) :
    s.codeUri? h.functionName = some (buildOutput config (artifactName h.name)) := by
  obtain ⟨t, hf⟩ := mem_ofBlueprint_of_handler config hwired hh
  refine codeUri?_eq hsound hwired hs hf (get?_handlerTemplate config t h) ?_
  simp [handlerFunction, functionMembers, Json.get?_object, buildOutput]

theorem codeUri?_dispatcher (hsound : b.IsSound) (hwired : b.IsWired)
    (hs : Stacks.ofBlueprint config b = .ok s) {t : Table} (ht : t ∈ b.tables) {d : Dispatcher}
    (hd : t.dispatcher = some d) :
    s.codeUri? d.functionName = some (buildOutput config "dispatcher") := by
  have hf := FunctionStack.mem_of_dispatcher config ht hd
  refine codeUri?_eq hsound hwired hs hf (get?_dispatcherTemplate config t d) ?_
  simp [dispatcherFunction, functionMembers, Json.get?_object, buildOutput]

/-- Handlers named in ASCII share a build output only if they are one function. -/
theorem functionName_of_lowerWords {text : String} (hb : Blueprint.ofSchema config text = .ok b)
    {h h' : ChangeHandler} (hh : h ∈ b.handlers) (hh' : h' ∈ b.handlers)
    (hascii : IsAscii h.name.toList) (hascii' : IsAscii h'.name.toList)
    (hsame : lowerWords h.name = lowerWords h'.name) : h.functionName = h'.functionName := by
  rw [ofSchema_handlerFunction hb hh, ofSchema_handlerFunction hb hh',
    pascalCase_congr_snakeCase hascii hascii' (snakeCase_eq_iff.mpr hsame)]

/-- In the stack set of an accepted schema, build outputs are not shared if and only if no handler
is called `dispatcher` and handlers of other scripts differ in more than case. -/
theorem builds_apart_iff {text : String} (hb : Blueprint.ofSchema config text = .ok b)
    (hs : Stacks.ofBlueprint config b = .ok s) : s.BuildsApart b ↔ b.OutputsNamedApart := by
  have hsound := ofSchema_isSound hb
  have hwired := ofSchema_isWired hb
  have hhandler {h : ChangeHandler} (hh : h ∈ b.handlers) := codeUri?_handler hsound hwired hs hh
  have hshared {h h' : ChangeHandler} (hh : h ∈ b.handlers) (hh' : h' ∈ b.handlers) :
      s.codeUri? h.functionName = s.codeUri? h'.functionName ↔
        lowerWords h.name = lowerWords h'.name := by
    rw [hhandler hh, hhandler hh', Option.some_inj, buildOutput_inj]
    exact kebabCase_eq_iff
  have hfixed {h : ChangeHandler} (hh : h ∈ b.handlers) {t : Table} (ht : t ∈ b.tables)
      {d : Dispatcher} (hd : t.dispatcher = some d) :
      s.codeUri? h.functionName = s.codeUri? d.functionName ↔
        lowerWords h.name = ["dispatcher".toList] := by
    rw [hhandler hh, codeUri?_dispatcher hsound hwired hs ht hd, Option.some_inj, buildOutput_inj,
      artifactName_eq_dispatcher_iff]
  constructor
  · rintro ⟨hhandlers, hdispatchers⟩
    refine ⟨fun h hh hcalled => ?_, fun h hh h' hh' _ hsame =>
      List.inj_on_of_nodup_map hhandlers hh hh' ((hshared hh hh').mpr hsame)⟩
    -- A table whose model has a handler has a dispatcher.
    obtain ⟨m, hm, hmem⟩ := List.mem_flatMap.mp hh
    obtain ⟨t, ht, -, ⟨d, hd⟩, -⟩ := FunctionStack.exists_mem_of_handler config hwired hm hmem
    exact hdispatchers h hh t ht d hd ((hfixed hh ht hd).mpr hcalled)
  · rintro ⟨hdispatcher, hscripts⟩
    refine ⟨nodup_map_of_determines (fun h hh h' hh' heq => ?_) (nodup_handlerFunctions hb),
      fun h hh t ht d hd heq => hdispatcher h hh ((hfixed hh ht hd).mp heq)⟩
    have hsame := (hshared hh hh').mp heq
    by_cases hascii : IsAscii h.name.toList ∧ IsAscii h'.name.toList
    · exact functionName_of_lowerWords hb hh hh' hascii.1 hascii.2 hsame
    · exact congrArg ChangeHandler.functionName (hscripts h hh h' hh' hascii hsame)

end Accepted

open EnricherExample in
/-- An enricher, a reactor and a dispatcher with a build output each. -/
theorem enricher_builds_apart : ∃ s, Blueprint.ofSchema .default schema = .ok blueprint ∧
    Stacks.ofBlueprint .default blueprint = .ok s ∧ s.BuildsApart blueprint := by
  obtain ⟨s, hs⟩ := exists_stacks
  have hhandlers : blueprint.handlers = [enricher, reactor] := rfl
  have hascii : ∀ h ∈ blueprint.handlers, IsAscii h.name.toList := by
    rw [hhandlers]
    decide +kernel
  have hcalled : ∀ h ∈ blueprint.handlers, lowerWords h.name ≠ ["dispatcher".toList] := by
    rw [hhandlers]
    decide +kernel
  refine ⟨s, ofSchema_schema, hs, (builds_apart_iff ofSchema_schema hs).mpr ⟨hcalled, ?_⟩⟩
  exact fun h hh h' hh' hother => absurd ⟨hascii h hh, hascii h' hh'⟩ hother

namespace CalledDispatcher

def schema : String :=
  "type A @partitionKey(pkFields: [\"id\"]) " ++
    "@reacts(event: INSERT, handler: \"dispatcher\") \x7b id: ID! \x7d"

def handler : ChangeHandler :=
  { ReactorExample.handler with name := "dispatcher", functionName := "FnDispatcher" }

def blueprint : Blueprint :=
  ⟨[{ ReactorExample.model with handlers := [handler] }], [ReactorExample.table], []⟩

theorem ofSchema_schema : Blueprint.ofSchema .default schema = .ok blueprint := by
  decide +kernel

theorem exists_stacks : ∃ s, Stacks.ofBlueprint .default blueprint = .ok s := by
  exact Result.exists_of_isOk (by decide +kernel)

end CalledDispatcher

open CalledDispatcher in
/-- A handler called `dispatcher` runs the code of the dispatchers. -/
theorem handler_called_dispatcher_shares_build : ∃ s,
    Blueprint.ofSchema .default schema = .ok blueprint ∧
    Stacks.ofBlueprint .default blueprint = .ok s ∧
    s.codeUri? "FnDispatcher" = some "../../target/lambda/dispatcher" ∧
    s.codeUri? "DispatcherA" = some "../../target/lambda/dispatcher" ∧
    ¬s.BuildsApart blueprint := by
  obtain ⟨s, hs⟩ := exists_stacks
  have hsound := Blueprint.ofSchema_isSound ofSchema_schema
  have hwired := Blueprint.ofSchema_isWired ofSchema_schema
  have hhandler : handler ∈ blueprint.handlers := List.mem_cons_self
  have htable : ReactorExample.table ∈ blueprint.tables := List.mem_cons_self
  have houtputs : buildOutput .default (artifactName handler.name) =
      "../../target/lambda/dispatcher" ∧
      buildOutput .default "dispatcher" = "../../target/lambda/dispatcher" := by decide +kernel
  have hfunction := codeUri?_handler hsound hwired hs hhandler
  have hdispatcher := codeUri?_dispatcher hsound hwired hs htable rfl
  rw [houtputs.1] at hfunction
  rw [houtputs.2] at hdispatcher
  refine ⟨s, ofSchema_schema, hs, hfunction, hdispatcher, fun hapart => ?_⟩
  exact hapart.dispatchers handler hhandler _ htable _ rfl (hfunction.trans hdispatcher.symm)

end Keyspace
