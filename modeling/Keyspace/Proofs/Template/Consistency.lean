import Keyspace.Proofs.Action
import Keyspace.Proofs.Dict
import Keyspace.Template.Check

/-!
# What the checks establish

The checks on a stack set pass exactly when it is consistent: parameters are named by letters
and digits, what a template refers to is there, and every nested stack is deployed once and
given the parameters it declares, no more and no fewer.
-/
namespace Keyspace

open Result

/-- A template that needs nothing from outside but its parameters. -/
structure Template.IsClosed (t : Template) : Prop where
  parametersNamed : ∀ name ∈ t.parameters.keys,
    name.isEmpty = false ∧ name.toList.all Char.isAlphanum = true
  resolved : ∀ value ∈ t.referringValues, ∀ r ∈ value.references, t.resolves r = true

/-- The resource deploys the nested stack and forwards what its template declares. -/
structure NestedStack.IsDeployedBy (name : String) (stack : NestedStack) (r : Resource) :
    Prop where
  type_eq : r.type = applicationType
  location : (r.properties.get? "Location").bind Json.asString? = some (nestedLocation name)
  parameters : ∀ parameter,
    parameter ∈ stack.template.parameters.keys ↔ parameter ∈ r.forwarded.keys

structure Stacks.IsConsistent (s : Stacks) : Prop where
  root : s.root.IsClosed
  nested : ∀ entry ∈ (s.nested : List (String × NestedStack)), entry.2.template.IsClosed ∧
    ∃ r, s.root.resources.get? entry.1 = some r ∧ entry.2.IsDeployedBy entry.1 r
  applications : ∀ entry ∈ s.root.resourcesOfType applicationType, s.nested.contains entry.1 = true

namespace Template

theorem resolves_ref {t : Template} {name : String} : t.resolves (.ref name) = true ↔
    (Reference.ref name).isPseudo = true ∨ name ∈ t.parameters.keys ∨ name ∈ t.resources.keys := by
  simp [resolves, Dict.contains, Dict.mem_keys_iff, or_assoc]

theorem resolves_getAtt {t : Template} {resource : String} (h : resource ∈ t.resources.keys)
    (attributeName : String) : t.resolves (.getAtt resource attributeName) = true :=
  Dict.mem_keys_iff.mp h

end Template

theorem Template.check_eq_ok {context : String} {t : Template} :
    t.check context = .ok () ↔ t.IsClosed := by
  have hparameters : t.badParameter? = none ↔ ∀ name ∈ t.parameters.keys,
      name.isEmpty = false ∧ name.toList.all Char.isAlphanum = true := by
    simp [badParameter?, List.find?_eq_none]
  have hresolved : t.danglingReference? = none ↔
      ∀ value ∈ t.referringValues, ∀ r ∈ value.references, t.resolves r = true := by
    simp [danglingReference?, List.findSome?_eq_none_iff, List.find?_eq_none]
  unfold check
  constructor
  · intro h
    cases hnamed : t.badParameter? with
    | some name =>
      rw [hnamed] at h
      cases h
    | none =>
      rw [hnamed] at h
      cases hnone : t.danglingReference? with
      | some r =>
        rw [hnone] at h
        cases h
      | none => exact ⟨hparameters.mp hnamed, hresolved.mp hnone⟩
  · rintro ⟨hnamed, hnone⟩
    rw [hparameters.mpr hnamed, hresolved.mpr hnone]
    rfl

namespace Stacks

theorem firstMissing?_eq_none {names others : List String} :
    firstMissing? names others = none ↔ ∀ name ∈ names, name ∈ others := by
  simp [firstMissing?, List.find?_eq_none]

theorem checkDeployment_eq_ok {name : String} {stack : NestedStack} {r : Resource} :
    checkDeployment name stack r = .ok () ↔ stack.IsDeployedBy name r := by
  unfold checkDeployment
  constructor
  · intro h
    obtain ⟨htype, h⟩ := Result.check_eq_ok.mp h
    obtain ⟨hlocation, h⟩ := Result.check_eq_ok.mp h
    cases hdeclared : firstMissing? stack.template.parameters.keys r.forwarded.keys with
    | some missing =>
      dsimp only at h
      rw [hdeclared] at h
      cases h
    | none =>
      dsimp only at h
      rw [hdeclared] at h
      cases hforwarded : firstMissing? r.forwarded.keys stack.template.parameters.keys with
      | some extra =>
        rw [hforwarded] at h
        cases h
      | none =>
        exact ⟨not_not.mp htype, not_not.mp hlocation, fun parameter =>
          ⟨firstMissing?_eq_none.mp hdeclared parameter,
            firstMissing?_eq_none.mp hforwarded parameter⟩⟩
  · rintro ⟨htype, hlocation, hparameters⟩
    have hdeclared := firstMissing?_eq_none.mpr fun parameter => (hparameters parameter).mp
    have hforwarded := firstMissing?_eq_none.mpr fun parameter => (hparameters parameter).mpr
    refine Result.check_eq_ok.mpr ⟨not_not.mpr htype, Result.check_eq_ok.mpr
      ⟨not_not.mpr hlocation, ?_⟩⟩
    dsimp only
    rw [hdeclared, hforwarded]
    rfl

theorem checkNested_eq_ok {s : Stacks} {name : String} {stack : NestedStack} :
    s.checkNested name stack = .ok () ↔ stack.template.IsClosed ∧
      ∃ r, s.root.resources.get? name = some r ∧ stack.IsDeployedBy name r := by
  unfold checkNested
  rw [bind_eq_ok]
  constructor
  · rintro ⟨⟨⟩, hclosed, h⟩
    refine ⟨Template.check_eq_ok.mp hclosed, ?_⟩
    split at h
    · exact absurd h throw_ne_ok
    · next r hr => exact ⟨r, hr, checkDeployment_eq_ok.mp h⟩
  · rintro ⟨hclosed, r, hr, hdeployed⟩
    refine ⟨⟨⟩, Template.check_eq_ok.mpr hclosed, ?_⟩
    rw [hr]
    exact checkDeployment_eq_ok.mpr hdeployed

/-- The checks pass exactly on the consistent stack sets. -/
theorem check_eq_ok_iff {s : Stacks} : s.check = .ok () ↔ s.IsConsistent := by
  have happlications : ((s.root.resourcesOfType applicationType).find?
        fun entry => !s.nested.contains entry.1) = none ↔
      ∀ entry ∈ s.root.resourcesOfType applicationType, s.nested.contains entry.1 = true := by
    simp [List.find?_eq_none]
  have hnested : (s.nested : List (String × NestedStack)).forM
        (fun entry => s.checkNested entry.1 entry.2) = .ok () ↔
      ∀ entry ∈ (s.nested : List (String × NestedStack)), entry.2.template.IsClosed ∧
        ∃ r, s.root.resources.get? entry.1 = some r ∧ entry.2.IsDeployedBy entry.1 r := by
    rw [forM_eq_ok]
    exact forall₂_congr fun entry _ => checkNested_eq_ok
  unfold check
  constructor
  · intro h
    obtain ⟨⟨⟩, hroot, h⟩ := bind_eq_ok.mp h
    obtain ⟨⟨⟩, hstacks, h⟩ := bind_eq_ok.mp h
    refine ⟨Template.check_eq_ok.mp hroot, hnested.mp hstacks, happlications.mp ?_⟩
    split at h
    · exact absurd h throw_ne_ok
    · assumption
  · rintro ⟨hroot, hstacks, hdeployed⟩
    refine bind_eq_ok.mpr ⟨⟨⟩, Template.check_eq_ok.mpr hroot, bind_eq_ok.mpr
      ⟨⟨⟩, hnested.mpr hstacks, ?_⟩⟩
    rw [happlications.mpr hdeployed]
    rfl

end Stacks

end Keyspace
