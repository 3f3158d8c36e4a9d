import Keyspace.Proofs.Template.LocalizedValues
import Keyspace.Proofs.Template.Scope
import Keyspace.Proofs.Template.StackSet

/-!
# What the globals mean in nested stacks

The root's globals are copied into every nested template, and what they refer to is forwarded
under the names of parameters. So they mean in a nested stack what they mean in the root,
exactly if no two references are carried under one name and localizing misreads nothing in them.
-/
namespace Keyspace

open Text Stacks Json

namespace Reference

/-- The parameter of an attribute has no name of a pseudo parameter. -/
theorem isPseudo_parameterName (r : Reference) :
    (Reference.ref r.parameterName).isPseudo = r.isPseudo := by
  cases r with
  | ref name => rfl
  | getAtt resource attributeName =>
    have hcolon : ':' ∉ (Reference.getAtt resource attributeName).parameterName.toList := fun hmem =>
      absurd (isAlphanum_of_mem_parameterName hmem) (by decide)
    show (dropBeginning? "AWS::".toList _).isSome = false
    rw [Option.isSome_eq_false_iff, Option.isNone_iff_eq_none, Option.eq_none_iff_forall_ne_some]
    intro rest hrest
    rw [dropBeginning?_eq_some.mp hrest] at hcolon
    exact hcolon (by simp)

end Reference

namespace Stacks

/-- What a nested stack's references stand for in the root: pseudo parameters for themselves,
its own parameters for what is forwarded to them, and attributes for nothing. -/
def resolution (s : Stacks) (stack : String) : Resolution
  | .ref name =>
    if (Reference.ref name).isPseudo then some (.ref name)
    else (s.nested.get? stack).bind fun n =>
      if n.template.parameters.contains name then s.forwardedTo stack name else none
  | .getAtt _ _ => none

theorem resolvesNoAttribute (s : Stacks) (stack : String) :
    ResolvesNoAttribute (s.resolution stack) := fun _ _ => rfl

/-- The globals of a nested stack mean what the root's do. -/
def SharesGlobals (s : Stacks) (stack : String) : Prop :=
  ∃ n globals shared, s.nested.get? stack = some n ∧ s.root.globals = some globals ∧
    n.template.globals = some shared ∧
    shared.meaning (s.resolution stack) = globals.meaning declared

/-- No two references are carried under one name. -/
def CarriedApart (globals : Json) : Prop :=
  ∀ r ∈ carried (some globals), ∀ r' ∈ carried (some globals),
    r.parameterName = r'.parameterName → r = r'

instance (globals : Json) : Decidable (CarriedApart globals) :=
  inferInstanceAs (Decidable (∀ r ∈ carried (some globals), ∀ r' ∈ carried (some globals),
    r.parameterName = r'.parameterName → r = r'))

section Spread

variable {s : Stacks} {globals : Json} {stack : String} {n : NestedStack}

theorem nested_spreadGlobals (hdistinct : s.nested.keys.Nodup)
    (hglobals : s.root.globals = some globals) (hn : s.nested.get? stack = some n) :
    ∃ n', (spreadGlobals s).nested.get? stack = some n' ∧
      n'.template.globals = some (localize globals) ∧
      ∀ r ∈ carried (some globals), r.parameterName ∈ n'.template.parameters.keys := by
  have hnested := (spreadGlobals_each hdistinct).nested stack
  rw [hglobals, hn, Option.map_some] at hnested
  refine ⟨_, hnested, ?_, fun r hr => ?_⟩
  · obtain ⟨parameters, htemplate⟩ := addStringParameters_eq
      ((carriedBindings (some globals)).map (·.1)) (adopting (some globals) n.template)
    exact congrArg Template.globals htemplate
  · refine Template.mem_parameters_foldl.mpr (Or.inl ?_)
    rw [carriedBindings, List.map_map]
    exact List.mem_map_of_mem hr

/-- Spreading globals puts the localized ones into a nested stack. -/
theorem sharesGlobals_iff_meaning (hdistinct : s.nested.keys.Nodup)
    (hglobals : s.root.globals = some globals) (hn : s.nested.get? stack = some n) :
    (spreadGlobals s).SharesGlobals stack ↔
      (localize globals).meaning ((spreadGlobals s).resolution stack) = globals.meaning declared := by
  obtain ⟨n', hn', hshared, -⟩ := nested_spreadGlobals hdistinct hglobals hn
  have hroot : (spreadGlobals s).root.globals = some globals :=
    (spreadGlobals_each hdistinct).globals.trans hglobals
  unfold SharesGlobals
  rw [hn', hroot]
  constructor
  · rintro ⟨_, _, shared, ⟨⟩, ⟨⟩, hsome, hmeaning⟩
    rw [hshared] at hsome
    cases hsome
    exact hmeaning
  · exact fun hmeaning => ⟨n', globals, _, rfl, rfl, hshared, hmeaning⟩

/-- A nested stack resolves the parameter of a reference to what is bound to it last. -/
theorem resolution_parameterName (hdistinct : s.nested.keys.Nodup)
    (hglobals : s.root.globals = some globals) {d : Deployment}
    (hd : s.deployment? stack = some d) {r : Reference} (hr : r ∈ carried (some globals)) :
    (spreadGlobals s).resolution stack (.ref r.parameterName) =
      (d.forwarded.union (carriedBindings (some globals))).get? r.parameterName := by
  obtain ⟨n, _, hn, -, -⟩ := deployment?_eq_some.mp hd
  obtain ⟨n', hn', -, hdeclared⟩ := nested_spreadGlobals hdistinct hglobals hn
  have hdeployment := deployment?_spreadGlobals hdistinct stack
  rw [hglobals, hd, Option.map_some] at hdeployment
  have hpseudo : r.isPseudo = false := by simpa using (List.mem_filter.mp hr).2
  have hcontains : n'.template.parameters.contains r.parameterName = true :=
    Dict.mem_keys_iff.mp (hdeclared r hr)
  unfold resolution
  dsimp only
  rw [r.isPseudo_parameterName, hpseudo, if_neg (by decide), hn', Option.bind_some, hcontains,
    if_pos rfl]
  exact forwardedTo_of_deployment? hdeployment _

/-- Every reference is carried if and only if none takes the name of another. -/
theorem refersWithin_carries_iff (hdistinct : s.nested.keys.Nodup)
    (hglobals : s.root.globals = some globals) {d : Deployment}
    (hd : s.deployment? stack = some d) :
    RefersWithin (Carries ((spreadGlobals s).resolution stack)) globals ↔ CarriedApart globals := by
  have hmem {r : Reference} : r ∈ carried (some globals) ↔
      r ∈ globals.referencesIn ∧ r.isPseudo = false := by
    show r ∈ globals.references.filter (fun r => !r.isPseudo) ↔ _
    rw [List.mem_filter, mem_references]
    simp
  constructor
  · intro hcarries r hr r' hr' hname
    have hsome := hcarries r (hmem.mp hr).1
    have hsome' := hcarries r' (hmem.mp hr').1
    rw [Carries, hname] at hsome
    exact Reference.toJson_inj (Option.some.inj (hsome.symm.trans hsome'))
  · intro hapart r hr
    cases hpseudo : r.isPseudo with
    | true =>
      cases r with
      | ref name => exact if_pos hpseudo
      | getAtt => cases hpseudo
    | false =>
      have hcarried := hmem.mpr ⟨hr, hpseudo⟩
      rw [Carries, resolution_parameterName hdistinct hglobals hd hcarried]
      refine Dict.get?_union_of_agree ⟨_, List.mem_map_of_mem hcarried, rfl⟩ fun entry hentry hname => ?_
      obtain ⟨r', hr', rfl⟩ := List.mem_map.mp hentry
      rw [hapart r' hr' r hcarried hname]

/-- After the root's globals were spread, those of a deployed nested stack mean what the root's
do if and only if no two references are carried under one name and localizing misreads nothing. -/
theorem sharesGlobals_iff (hdistinct : s.nested.keys.Nodup)
    (hglobals : s.root.globals = some globals) (hplain : globals.HasPlainTexts) {d : Deployment}
    (hd : s.deployment? stack = some d) :
    (spreadGlobals s).SharesGlobals stack ↔ globals.Kept ∧ CarriedApart globals := by
  obtain ⟨n, _, hn, -, -⟩ := deployment?_eq_some.mp hd
  rw [sharesGlobals_iff_meaning hdistinct hglobals hn,
    meaning_localize_iff (resolvesNoAttribute _ _) hplain,
    refersWithin_carries_iff hdistinct hglobals hd]

end Spread

namespace GlobalsExample

/-- The nested stack before anything is forwarded to it. -/
def worker : NestedStack := ⟨Template.serverless "worker", []⟩

/-- A root with globals and the nested stack `Worker`. -/
def withWorker (globals : Json) : Stacks :=
  (Stacks.new { Template.serverless "root" with globals := some globals }).addNested "Worker" worker

def deployment : Deployment := ⟨[], []⟩

/-- Variables of functions: a text with an attribute and a parameter, an attribute, a region. -/
def functionVariables : Json := .object [
  ("BUCKET", .sub "s3://$\x7bAssets.Arn\x7d/$\x7b Stage \x7d"),
  ("TOPIC", .getAtt "Alerts" "TopicName"),
  ("REGION", .ref "AWS::Region")]

/-- A text with a name of its own that has a dot. -/
def dotted : Json := .object [
  ("LABEL", .obj [("Fn::Sub", .arr [.str "$\x7bA.B\x7d", .object [("A.B", .str "x")]])])]

theorem keys_nodup_withWorker (globals : Json) : (withWorker globals).nested.keys.Nodup :=
  List.nodup_singleton _

theorem nested_withWorker (globals : Json) :
    (withWorker globals).nested.get? "Worker" = some worker := rfl

theorem deployment?_withWorker (globals : Json) :
    (withWorker globals).deployment? "Worker" = some deployment := rfl

end GlobalsExample

open GlobalsExample in
/-- A local name with a dot is taken for an attribute, and its value is lost. -/
theorem local_name_is_lost : (withWorker dotted).root.globals = some dotted ∧
    (∃ n, (spreadGlobals (withWorker dotted)).nested.get? "Worker" = some n ∧
      n.template.globals = some (.object [("LABEL",
        .obj [("Fn::Sub", .arr [.str "$\x7bAB\x7d", .object [("A.B", .str "x")]])])])) ∧
    ¬ (spreadGlobals (withWorker dotted)).SharesGlobals "Worker" := by
  have hdistinct := keys_nodup_withWorker dotted
  have hworker := nested_withWorker dotted
  obtain ⟨n', hn', hshared, -⟩ := nested_spreadGlobals hdistinct rfl hworker
  have hlocal : localize dotted = .object [("LABEL",
      .obj [("Fn::Sub", .arr [.str "$\x7bAB\x7d", .object [("A.B", .str "x")]])])] := by
    decide +kernel
  refine ⟨rfl, ⟨n', hn', hlocal ▸ hshared⟩, fun hshares => ?_⟩
  rw [sharesGlobals_iff_meaning hdistinct rfl hworker,
    meaning_localize_iff (resolvesNoAttribute _ _) (by decide +kernel)] at hshares
  exact absurd hshares.1 (by decide +kernel)

open GlobalsExample in
/-- Attributes, parameters and pseudo parameters are shared. -/
theorem function_variables_are_shared :
    (spreadGlobals (withWorker functionVariables)).SharesGlobals "Worker" :=
  (sharesGlobals_iff (keys_nodup_withWorker functionVariables) rfl (by decide +kernel)
    (deployment?_withWorker functionVariables)).mpr (by decide +kernel)

end Stacks

end Keyspace
