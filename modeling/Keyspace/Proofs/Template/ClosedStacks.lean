import Keyspace.Proofs.Template.Consistency
import Keyspace.Proofs.Template.Meaning

/-!
# Closed stack sets

A template defines its resources and parameters, and every template knows the pseudo parameters.
A nested template learns of the root only what is forwarded to it. The checks pass exactly on the
stack sets that are closed in this sense, and there a reference that a nested template cannot
resolve by itself is a parameter: the root forwards a value to it and defines all that the value
refers to.
-/
namespace Keyspace

/-- What a reference may name: something every template knows, or something of this one. -/
inductive Template.Defines (t : Template) : Reference → Prop
  | pseudo {name : String} (h : "AWS::".toList <+: name.toList) : t.Defines (.ref name)
  | parameter {name : String} (h : name ∈ t.parameters.keys) : t.Defines (.ref name)
  | resource {name : String} (h : name ∈ t.resources.keys) : t.Defines (.ref name)
  | attributeOf {resource attributeName : String} (h : resource ∈ t.resources.keys) :
      t.Defines (.getAtt resource attributeName)

/-- The resource that a reference names, unless it is a parameter. -/
def Reference.resourceName : Reference → String
  | ref name => name
  | getAtt resource _ => resource

namespace Stacks

def templates (s : Stacks) : List Template := s.root :: s.nested.values.map (·.template)

/-- Every template defines what it refers to, and nested stacks and the resources that deploy
them correspond by name, each with the parameters that its stack declares. -/
structure IsClosed (s : Stacks) : Prop where
  parametersNamed : ∀ t ∈ s.templates, ∀ name ∈ t.parameters.keys,
    name ≠ "" ∧ ∀ c ∈ name.toList, c.isAlphanum = true
  defined : ∀ t ∈ s.templates, ∀ value ∈ t.referringValues, ∀ r ∈ value.references, t.Defines r
  deployed : ∀ entry ∈ (s.nested : List (String × NestedStack)),
    ∃ r, s.root.resources.get? entry.1 = some r ∧ entry.2.IsDeployedBy entry.1 r
  generated : ∀ entry ∈ (s.root.resources : List (String × Resource)),
    entry.2.type = applicationType → entry.1 ∈ s.nested.keys

/-- A reference of a nested stack is a parameter it declares, to which the root forwards a value
that refers to nothing but what the root defines. -/
def IsForwarded (s : Stacks) (name : String) (stack : NestedStack) (r : Reference) : Prop :=
  ∃ parameter deployment value, r = .ref parameter ∧
    parameter ∈ stack.template.parameters.keys ∧
    s.root.resources.get? name = some deployment ∧
    deployment.forwarded.get? parameter = some value ∧
    ∀ q ∈ value.references, s.root.Defines q

end Stacks

theorem Reference.isPseudo_ref {name : String} :
    (ref name).isPseudo = true ↔ "AWS::".toList <+: name.toList := by
  show (Text.dropBeginning? "AWS::".toList name.toList).isSome = true ↔ _
  rw [Option.isSome_iff_exists]
  exact exists_congr fun rest => Text.dropBeginning?_eq_some.trans eq_comm

namespace Template

variable {t : Template}

theorem resolves_iff_defines {r : Reference} : t.resolves r = true ↔ t.Defines r := by
  cases r with
  | ref name =>
    rw [resolves_ref, Reference.isPseudo_ref]
    constructor
    · rintro (h | h | h)
      · exact .pseudo h
      · exact .parameter h
      · exact .resource h
    · intro h
      cases h with
      | pseudo h => exact Or.inl h
      | parameter h => exact Or.inr (Or.inl h)
      | resource h => exact Or.inr (Or.inr h)
  | getAtt resource attributeName =>
    constructor
    · exact fun h => .attributeOf (Dict.mem_keys_iff.mpr h)
    · intro h
      cases h with
      | attributeOf h => exact resolves_getAtt h attributeName

/-- What is defined though it is neither pseudo nor a resource is a parameter. -/
theorem Defines.of_outside {r : Reference} (h : t.Defines r) (hpseudo : r.isPseudo = false)
    (houtside : r.resourceName ∉ t.resources.keys) :
    ∃ parameter ∈ t.parameters.keys, r = .ref parameter := by
  cases h with
  | pseudo h =>
    rw [Reference.isPseudo_ref.mpr h] at hpseudo
    cases hpseudo
  | parameter h => exact ⟨_, h, rfl⟩
  | resource h => exact absurd h houtside
  | attributeOf h => exact absurd h houtside

theorem isClosed_iff : t.IsClosed ↔
    (∀ name ∈ t.parameters.keys, name ≠ "" ∧ ∀ c ∈ name.toList, c.isAlphanum = true) ∧
      ∀ value ∈ t.referringValues, ∀ r ∈ value.references, t.Defines r := by
  have hname (name : String) : (name.isEmpty = false ∧ name.toList.all Char.isAlphanum = true) ↔
      (name ≠ "" ∧ ∀ c ∈ name.toList, c.isAlphanum = true) := by
    rw [Bool.eq_false_iff, Ne, String.isEmpty_iff, List.all_eq_true]
  constructor
  · rintro ⟨hnamed, hresolved⟩
    exact ⟨fun name hn => (hname name).mp (hnamed name hn),
      fun value hvalue r hr => resolves_iff_defines.mp (hresolved value hvalue r hr)⟩
  · rintro ⟨hnamed, hdefined⟩
    exact ⟨fun name hn => (hname name).mpr (hnamed name hn),
      fun value hvalue r hr => resolves_iff_defines.mpr (hdefined value hvalue r hr)⟩

end Template

namespace Json

/-- An object refers to what its members refer to. Only the argument of `Fn::GetAtt` is not
looked into, since it is a reference itself. -/
theorem mem_referencesIn_obj {members : List (String × Json)} {key : String} {value : Json}
    (hmember : (key, value) ∈ members) (hkey : key ≠ "Fn::GetAtt") {r : Reference}
    (hr : r ∈ value.referencesIn) : r ∈ (obj members).referencesIn := by
  match members with
  | [only] =>
    cases List.mem_singleton.mp hmember
    cases htarget : target? key value with
    | none =>
      rw [referencesIn_of_no_target htarget]
      exact List.mem_append_right _ hr
    | some target =>
      unfold target? at htarget
      rw [if_neg hkey] at htarget
      -- A value that is a reference by the key `Ref` is a text, which refers to nothing.
      split at htarget
      · cases value <;> cases htarget
        cases hr
      · cases htarget
  | first :: second :: rest => exact mem_referencesInMembers.mpr ⟨_, hmember, hr⟩

end Json

/-- A forwarded value refers to nothing that its resource does not refer to. -/
theorem Resource.references_forwarded {deployment : Resource} {parameter : String} {value : Json}
    (hvalue : deployment.forwarded.get? parameter = some value)
    (hname : ∀ c ∈ parameter.toList, c.isAlphanum = true) {q : Reference}
    (hq : q ∈ value.references) : q ∈ deployment.properties.references := by
  have hkey : parameter ≠ "Fn::GetAtt" := by
    rintro rfl
    exact absurd (hname ':' (by decide)) (by decide)
  unfold forwarded at hvalue
  cases hparameters : deployment.properties.get? "Parameters" with
  | none =>
    rw [hparameters] at hvalue
    cases hvalue
  | some parameters =>
    rw [hparameters] at hvalue
    cases parameters with
    | obj forwarded =>
      have hmember := Dict.mem_of_get? hvalue
      cases hproperties : deployment.properties with
      | obj members =>
        rw [hproperties] at hparameters
        rw [Json.mem_references] at hq ⊢
        exact Json.mem_referencesIn_obj (Dict.mem_of_get? hparameters) (by decide)
          (Json.mem_referencesIn_obj hmember hkey hq)
      | _ =>
        rw [hproperties] at hparameters
        cases hparameters
    | _ => cases hvalue

namespace Stacks

variable {s : Stacks}

theorem isConsistent_iff_isClosed : s.IsConsistent ↔ s.IsClosed := by
  have happlications : (∀ entry ∈ s.root.resourcesOfType applicationType,
        s.nested.contains entry.1 = true) ↔
      ∀ entry ∈ (s.root.resources : List (String × Resource)),
        entry.2.type = applicationType → entry.1 ∈ s.nested.keys := by
    unfold Template.resourcesOfType
    simp only [List.mem_filterMap, Dict.mem_keys_iff]
    constructor
    · intro h entry hentry htype
      exact h (entry.1, entry.2.properties) ⟨entry, hentry, if_pos htype⟩
    · rintro h _ ⟨entry, hentry, hfound⟩
      obtain ⟨htype, rfl⟩ := Option.ite_some_none_eq_some.mp hfound
      exact h entry hentry htype
  have htemplate {entry : String × NestedStack} (hentry : entry ∈ s.nested) :
      entry.2.template ∈ s.templates :=
    List.mem_cons_of_mem _ (List.mem_map_of_mem (List.mem_map_of_mem hentry))
  constructor
  · rintro ⟨hroot, hnested, happlication⟩
    have hclosed : ∀ t ∈ s.templates, t.IsClosed := by
      intro t ht
      rcases List.mem_cons.mp ht with rfl | ht
      · exact hroot
      · obtain ⟨stack, hstack, rfl⟩ := List.mem_map.mp ht
        obtain ⟨entry, hentry, rfl⟩ := List.mem_map.mp hstack
        exact (hnested entry hentry).1
    exact ⟨fun t ht => (Template.isClosed_iff.mp (hclosed t ht)).1,
      fun t ht => (Template.isClosed_iff.mp (hclosed t ht)).2,
      fun entry hentry => (hnested entry hentry).2, happlications.mp happlication⟩
  · rintro ⟨hnamed, hdefined, hdeployed, hgenerated⟩
    have hclosed (t : Template) (ht : t ∈ s.templates) : t.IsClosed :=
      Template.isClosed_iff.mpr ⟨hnamed t ht, hdefined t ht⟩
    exact ⟨hclosed _ List.mem_cons_self,
      fun entry hentry => ⟨hclosed _ (htemplate hentry), hdeployed entry hentry⟩,
      happlications.mpr hgenerated⟩

/-- In a closed stack set the root stands behind what a nested template does not define. -/
theorem IsClosed.isForwarded (h : s.IsClosed) {entry : String × NestedStack}
    (hentry : entry ∈ s.nested) {value : Json} (hvalue : value ∈ entry.2.template.referringValues)
    {r : Reference} (hr : r ∈ value.references) (hpseudo : r.isPseudo = false)
    (houtside : r.resourceName ∉ entry.2.template.resources.keys) :
    s.IsForwarded entry.1 entry.2 r := by
  have htemplate : entry.2.template ∈ s.templates :=
    List.mem_cons_of_mem _ (List.mem_map_of_mem (List.mem_map_of_mem hentry))
  obtain ⟨parameter, hparameter, rfl⟩ :=
    (h.defined _ htemplate value hvalue r hr).of_outside hpseudo houtside
  obtain ⟨deployment, hdeployment, hdeployed⟩ := h.deployed entry hentry
  obtain ⟨forwarded, hforwarded⟩ := Option.isSome_iff_exists.mp
    (Dict.mem_keys_iff.mp ((hdeployed.parameters parameter).mp hparameter))
  refine ⟨parameter, deployment, forwarded, rfl, hparameter, hdeployment, hforwarded, ?_⟩
  have hproperties : deployment.properties ∈ s.root.referringValues :=
    List.mem_append_left _ (List.mem_append_left _
      (List.mem_map_of_mem (List.mem_map_of_mem (Dict.mem_of_get? hdeployment))))
  intro q hq
  exact h.defined s.root List.mem_cons_self _ hproperties q
    (Resource.references_forwarded hforwarded (h.parametersNamed _ htemplate _ hparameter).2 hq)

/-- The checks pass exactly on the closed stack sets. Where they pass, every reference of a nested
template that is not pseudo and names no resource of it is forwarded by the root, and all that
the forwarded value refers to is defined there. -/
theorem check_iff_isClosed (s : Stacks) :
    (s.check = .ok () ↔ s.IsClosed) ∧
      (s.check = .ok () → ∀ entry ∈ (s.nested : List (String × NestedStack)),
        ∀ value ∈ entry.2.template.referringValues, ∀ r ∈ value.references,
          r.isPseudo = false → r.resourceName ∉ entry.2.template.resources.keys →
          s.IsForwarded entry.1 entry.2 r) := by
  have hclosed : s.check = .ok () ↔ s.IsClosed :=
    check_eq_ok_iff.trans isConsistent_iff_isClosed
  exact ⟨hclosed, fun hcheck entry hentry value hvalue r hr hpseudo houtside =>
    (hclosed.mp hcheck).isForwarded hentry hvalue hr hpseudo houtside⟩

/-- A function whose environment names a table of the root. -/
def notifyStacks : Stacks :=
  let function : Resource := ⟨functionType, .object [("Environment",
    .object [("Variables", .object [("T", .ref "TableOrders")])])]⟩
  let root := (Template.serverless "root").addResource "Orders" ⟨"AWS::DynamoDB::Table", .obj []⟩
  let nested := (Template.serverless "handler").addResource "FnNotify" function
  ((Stacks.new root).addNested "FnNotifyStack" ⟨nested, ["Orders"]⟩).bindParameter
    "FnNotifyStack" "TableOrders" (.ref "Orders")

/-- The table's parameter is declared by the nested stack, and the root forwards the name of the
table to it. -/
theorem notify_table_is_forwarded : notifyStacks.check = .ok () ∧
    ∀ entry ∈ (notifyStacks.nested : List (String × NestedStack)),
      notifyStacks.IsForwarded entry.1 entry.2 (.ref "TableOrders") := by
  have hcheck : notifyStacks.check = .ok () := by decide
  refine ⟨hcheck, fun entry hentry => ?_⟩
  have hvalue : (.object [("Environment", .object [("Variables",
      .object [("T", .ref "TableOrders")])])]) ∈ entry.2.template.referringValues := by
    cases List.mem_singleton.mp hentry
    decide
  refine (check_iff_isClosed notifyStacks).2 hcheck entry hentry _ hvalue _ (by decide)
    (by decide) ?_
  cases List.mem_singleton.mp hentry
  decide

end Stacks

end Keyspace
