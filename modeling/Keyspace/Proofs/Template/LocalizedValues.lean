import Keyspace.Proofs.Template.Meaning

/-!
# When localizing keeps the meaning

Globals are localized for nested templates: their references to attributes become references to
the parameters that carry them. Here is exactly when the localized value, resolved through the
parameters, means what the value did: the parameters must carry all of its references, and the
value must have no place that localizing misreads. Such places are holes that name an attribute
between blanks or one that a local binding has already given a value, and lists under
`Fn::GetAtt` that name no attribute but hold a reference.
-/
namespace Keyspace

open Text CutText Stacks

/-- A parameter that is resolved to what the reference stands for. -/
def Carries (σ : Resolution) (r : Reference) : Prop :=
  σ (.ref r.parameterName) = some r.toJson

/-- Nothing but parameters is resolved to what the root declares. -/
def ResolvesNoAttribute (σ : Resolution) : Prop :=
  ∀ resource attributeName, σ (.getAtt resource attributeName) = none

/-- A hole that names an attribute is written as its variable, and neither the variable nor its
parameter is bound beside the text. Where the variable is bound, it is written differently. -/
def HoleKept (bound : List String) (inside : List Char) : Prop :=
  ∀ name, holeName? inside = some name → IsDotted name →
    if name ∈ bound then inside ≠ name.toList
    else inside = name.toList ∧ variableParameter name ≠ "" ∧ variableParameter name ∉ bound

instance (bound : List String) (inside : List Char) : Decidable (HoleKept bound inside) :=
  inferInstanceAs (Decidable (∀ name ∈ holeName? inside, IsDotted name →
    if name ∈ bound then inside ≠ name.toList
    else inside = name.toList ∧ variableParameter name ≠ "" ∧ variableParameter name ∉ bound))

section Holes

variable {σ : Resolution} {bound : List String} {inside : List Char} {name : String}

theorem holeMeaning_of_none (h : holeName? inside = none) :
    holeMeaning σ bound inside = .literal inside := by
  rw [holeMeaning, h]

theorem holeMeaning_of_mem (h : holeName? inside = some name) (hbound : name ∈ bound) :
    holeMeaning σ bound inside = .bound name := by
  rw [holeMeaning, h]
  exact if_pos hbound

theorem holeMeaning_of_not_mem (h : holeName? inside = some name) (hbound : name ∉ bound) :
    holeMeaning σ bound inside = .reference (σ (.ofVariable name)) := by
  rw [holeMeaning, h]
  exact if_neg hbound

theorem localizeHole_of_none (h : holeName? inside = none) : localizeHole inside = inside := by
  unfold localizeHole
  rw [if_neg (by rw [h]; exact Option.some_ne_none _ |>.symm)]

theorem localizeHole_of_name (h : holeName? inside = some name) :
    localizeHole inside = if inside = name.toList then (variableParameter name).toList
      else inside := by
  unfold localizeHole
  by_cases hwritten : inside = name.toList
  · rw [if_pos hwritten, hwritten, String.ofList_toList, if_pos (hwritten ▸ h)]
  · rw [if_neg hwritten, if_neg]
    rw [h, Option.some_inj]
    rintro rfl
    exact hwritten (String.toList_ofList).symm

theorem localizeHole_of_not_isDotted (h : holeName? inside = some name) (hdotted : ¬IsDotted name) :
    localizeHole inside = inside := by
  rw [localizeHole_of_name h, variableParameter_of_not_isDotted hdotted]
  split
  · next hwritten => exact hwritten.symm
  · rfl

/-- A hole that names no attribute stays. -/
theorem holeMeaning_plain_iff (h : holeName? inside = some name) (hdotted : ¬IsDotted name) :
    holeMeaning σ bound (localizeHole inside) = holeMeaning declared bound inside ↔
      (name ∉ bound → Carries σ (.ofVariable name)) := by
  rw [localizeHole_of_not_isDotted h hdotted]
  by_cases hbound : name ∈ bound
  · rw [holeMeaning_of_mem h hbound, holeMeaning_of_mem h hbound]
    exact iff_of_true rfl fun hnot => absurd hbound hnot
  · rw [holeMeaning_of_not_mem h hbound, holeMeaning_of_not_mem h hbound, Carries,
      ofVariable_of_not_isDotted hdotted, HoleMeaning.reference.injEq]
    exact ⟨fun hsame _ => hsame, fun hcarries => hcarries hbound⟩

/-- A hole that names an attribute as it is written becomes the parameter. -/
theorem holeMeaning_written_iff (h : holeName? inside = some name) (hdotted : IsDotted name)
    (hwritten : inside = name.toList) :
    holeMeaning σ bound (localizeHole inside) = holeMeaning declared bound inside ↔
      name ∉ bound ∧ variableParameter name ≠ "" ∧ variableParameter name ∉ bound ∧
        Carries σ (.ofVariable name) := by
  rw [localizeHole_of_name h, if_pos hwritten]
  have hparameter := holeName?_variableParameter hdotted
  have hplain := ofVariable_of_not_isDotted (not_isDotted_variableParameter name)
  by_cases hempty : variableParameter name = ""
  · rw [if_pos hempty] at hparameter
    rw [holeMeaning_of_none hparameter]
    refine iff_of_false (fun hsame => ?_) fun hkept => hkept.2.1 hempty
    by_cases hbound : name ∈ bound
    · rw [holeMeaning_of_mem h hbound] at hsame
      cases hsame
    · rw [holeMeaning_of_not_mem h hbound] at hsame
      cases hsame
  · rw [if_neg hempty] at hparameter
    by_cases hbound : name ∈ bound
    · rw [holeMeaning_of_mem h hbound]
      refine iff_of_false (fun hsame => ?_) fun hkept => hkept.1 hbound
      by_cases hbound' : variableParameter name ∈ bound
      · rw [holeMeaning_of_mem hparameter hbound'] at hsame
        rw [HoleMeaning.bound.injEq] at hsame
        exact not_isDotted_variableParameter name (hsame.symm ▸ hdotted)
      · rw [holeMeaning_of_not_mem hparameter hbound'] at hsame
        cases hsame
    · rw [holeMeaning_of_not_mem h hbound]
      by_cases hbound' : variableParameter name ∈ bound
      · rw [holeMeaning_of_mem hparameter hbound']
        exact iff_of_false (fun hsame => by cases hsame) fun hkept => hkept.2.2.1 hbound'
      · rw [holeMeaning_of_not_mem hparameter hbound', hplain, HoleMeaning.reference.injEq]
        exact ⟨fun hsame => ⟨hbound, hempty, hbound', hsame⟩, fun hkept => hkept.2.2.2⟩

/-- A hole that names an attribute between blanks stays, and only a local binding is left of it. -/
theorem holeMeaning_blank_iff (hσ : ResolvesNoAttribute σ) (h : holeName? inside = some name)
    (hdotted : IsDotted name) (hwritten : inside ≠ name.toList) :
    holeMeaning σ bound (localizeHole inside) = holeMeaning declared bound inside ↔
      name ∈ bound := by
  rw [localizeHole_of_name h, if_neg hwritten]
  by_cases hbound : name ∈ bound
  · rw [holeMeaning_of_mem h hbound, holeMeaning_of_mem h hbound]
    exact iff_of_true rfl hbound
  · obtain ⟨resource, attributeName, hreference⟩ := exists_ofVariable_of_isDotted hdotted
    rw [holeMeaning_of_not_mem h hbound, holeMeaning_of_not_mem h hbound, hreference, hσ]
    exact iff_of_false (fun hsame => by cases hsame) hbound

/-- A localized hole means what it did if and only if it is kept and carried. -/
theorem holeMeaning_localizeHole_iff (hσ : ResolvesNoAttribute σ) :
    holeMeaning σ bound (localizeHole inside) = holeMeaning declared bound inside ↔
      HoleKept bound inside ∧ ∀ name, holeName? inside = some name → name ∉ bound →
        Carries σ (.ofVariable name) := by
  cases h : holeName? inside with
  | none =>
    rw [localizeHole_of_none h, holeMeaning_of_none h, holeMeaning_of_none h]
    refine iff_of_true rfl ⟨fun name hname => ?_, fun name hname => ?_⟩
    · rw [h] at hname
      cases hname
    · cases hname
  | some name =>
    simp only [HoleKept, h, Option.some_inj, forall_eq']
    by_cases hdotted : IsDotted name
    · by_cases hwritten : inside = name.toList
      · rw [holeMeaning_written_iff h hdotted hwritten]
        by_cases hbound : name ∈ bound <;> simp [hdotted, hwritten, hbound, and_assoc]
      · rw [holeMeaning_blank_iff hσ h hdotted hwritten]
        by_cases hbound : name ∈ bound <;> simp [hdotted, hwritten, hbound]
    · rw [holeMeaning_plain_iff h hdotted]
      simp [hdotted]

/-- A localized text means what it did beside the same bindings if and only if its holes do. -/
theorem textMeaning_localizeText_iff (hσ : ResolvesNoAttribute σ) {text : String}
    (hplain : (ofText text.toList).IsPlain) {bound' : List String} :
    textMeaning σ bound' (localizeText text) = textMeaning declared bound text ↔
      bound' = bound ∧ (∀ hole ∈ (ofText text.toList).holes, HoleKept bound hole.2) ∧
        ∀ name ∈ subVariables text, name ∉ bound → Carries σ (.ofVariable name) := by
  unfold textMeaning
  rw [ofText_localizeText hplain]
  simp only [mapHoles, List.map_map, Meaning.text.injEq, and_true]
  refine and_congr_right fun hbound => ?_
  subst hbound
  rw [List.map_inj_left]
  simp only [Function.comp, Prod.mk.injEq, true_and, holeMeaning_localizeHole_iff hσ,
    mem_subVariables_iff]
  constructor
  · intro hkept
    refine ⟨fun hole hhole => (hkept hole hhole).1, fun name hname => ?_⟩
    obtain ⟨hole, hhole, hname⟩ := hname
    exact (hkept hole hhole).2 name hname
  · intro hkept hole hhole
    exact ⟨hkept.1 hole hhole, fun name hname => hkept.2 name ⟨hole, hhole, hname⟩⟩

end Holes

/-! ## Localizing part by part -/

namespace Stacks

open Json

theorem localizeAll_eq (elements : List Json) : localizeAll elements = elements.map localize := by
  induction elements with
  | nil => rfl
  | cons x rest ih =>
    rw [List.map_cons, ← ih]
    rfl

theorem localizeMembers_eq (members : List (String × Json)) :
    localizeMembers members = members.map fun member => (member.1, localize member.2) := by
  induction members with
  | nil => rfl
  | cons member rest ih =>
    rw [List.map_cons, ← ih]
    rfl

theorem localize_arr (elements : List Json) : localize (arr elements) = arr (elements.map localize) := by
  rw [← localizeAll_eq]
  rfl

/-- The argument of `Fn::GetAtt` or `Fn::Sub` is looked into if it is a text or a list. -/
def IsTextOrList (argument : Json) : Prop :=
  (∃ text, argument = str text) ∨ ∃ elements, argument = arr elements

instance (argument : Json) : Decidable (IsTextOrList argument) :=
  match argument with
  | .str text => isTrue (Or.inl ⟨text, rfl⟩)
  | .arr elements => isTrue (Or.inr ⟨elements, rfl⟩)
  | .null | .bool _ | .int _ | .float _ | .obj _ =>
    isFalse fun h => by rcases h with ⟨_, h⟩ | ⟨_, h⟩ <;> cases h

theorem localize_obj {members : List (String × Json)} (h : members.length ≠ 1) :
    localize (obj members) = obj (members.map fun member => (member.1, localize member.2)) := by
  rw [← localizeMembers_eq]
  match members, h with
  | [], _ => rfl
  | _ :: _ :: _, _ => rfl

variable {key : String} {argument : Json}

theorem isTextOrList_of_getAttTarget? {r : Reference} (h : argument.getAttTarget? = some r) :
    IsTextOrList argument := by
  cases argument with
  | str text => exact Or.inl ⟨text, rfl⟩
  | arr elements => exact Or.inr ⟨elements, rfl⟩
  | _ => cases h

/-- A list or text under `Fn::GetAtt` becomes the first reference in it. -/
theorem localize_getAtt {r : Reference} (h : IsTextOrList argument)
    (hr : (obj [("Fn::GetAtt", argument)]).references.head? = some r) :
    localize (obj [("Fn::GetAtt", argument)]) = .ref r.parameterName := by
  rcases h with ⟨text, rfl⟩ | ⟨elements, rfl⟩ <;>
  · conv_lhs => unfold localize
    dsimp only
    rw [if_pos rfl, hr]

theorem localize_of_target {r : Reference} (h : target? key argument = some r) :
    localize (obj [(key, argument)]) = .ref r.parameterName := by
  have hreferences : (obj [(key, argument)]).references = [r] := by
    rw [references, referencesIn_of_target h]
    rfl
  unfold target? at h
  split at h
  · next hkey =>
    subst hkey
    obtain ⟨name, hname, rfl⟩ := Option.map_eq_some_iff.mp h
    cases argument <;> cases hname
    conv_lhs => unfold localize
    dsimp only
    rw [if_neg (by decide)]
    dsimp only
    rw [if_neg (by decide)]
    rfl
  · split at h
    · next hkey =>
      subst hkey
      exact localize_getAtt (isTextOrList_of_getAttTarget? h) (by rw [hreferences]; rfl)
    · cases h

theorem localize_sub_str (text : String) : localize (.sub text) = .sub (localizeText text) := by
  conv_lhs => unfold Json.sub localize
  dsimp only
  rw [if_neg (by decide)]
  dsimp only
  rw [if_pos rfl]

theorem localize_sub_arr (elements : List Json) :
    localize (obj [("Fn::Sub", arr elements)]) =
      obj [("Fn::Sub", arr (localizeFirst (elements.map localize)))] := by
  rw [← localizeAll_eq]
  conv_lhs => unfold localize
  dsimp only
  rw [if_neg (by decide)]
  dsimp only
  rw [if_pos rfl]

/-- Any other member alone in an object keeps its key. -/
theorem localize_other (hsub : key = "Fn::Sub" → ¬IsTextOrList argument)
    (hgetAtt : key = "Fn::GetAtt" → IsTextOrList argument →
      (obj [(key, argument)]).references.head? = none) :
    localize (obj [(key, argument)]) = obj [(key, localize argument)] := by
  have htext (text : String) : IsTextOrList (str text) := Or.inl ⟨text, rfl⟩
  have hlist (elements : List Json) : IsTextOrList (arr elements) := Or.inr ⟨elements, rfl⟩
  conv_lhs => unfold localize
  dsimp only
  by_cases hkey : key = "Fn::GetAtt"
  · subst hkey
    rw [if_pos rfl]
    cases argument with
    | str text => rw [hgetAtt rfl (htext text)]; rfl
    | arr elements => rw [hgetAtt rfl (hlist elements)]; rfl
    | _ => rfl
  · rw [if_neg hkey]
    dsimp only
    by_cases hkey' : key = "Fn::Sub"
    · subst hkey'
      cases argument with
      | str text => exact absurd (htext text) (hsub rfl)
      | arr elements => exact absurd (hlist elements) (hsub rfl)
      | _ => rfl
    · rw [if_neg hkey']

/-- Localizing keeps lists, objects and atoms what they are. -/
theorem exists_localize_obj (members : List (String × Json)) :
    ∃ members', localize (obj members) = obj members' := by
  by_cases hlone : ∃ key argument, members = [(key, argument)]
  · obtain ⟨key, argument, rfl⟩ := hlone
    by_cases hkey : IsTextOrList argument
    · by_cases hsub : key = "Fn::Sub"
      · subst hsub
        rcases hkey with ⟨text, rfl⟩ | ⟨elements, rfl⟩
        · exact ⟨_, localize_sub_str text⟩
        · exact ⟨_, localize_sub_arr elements⟩
      · cases hreferences : (obj [(key, argument)]).references.head? with
        | none => exact ⟨_, localize_other (fun h => absurd h hsub) fun _ _ => hreferences⟩
        | some r =>
          by_cases hgetAtt : key = "Fn::GetAtt"
          · subst hgetAtt
            exact ⟨_, localize_getAtt hkey hreferences⟩
          · exact ⟨_, localize_other (fun h => absurd h hsub) fun h => absurd h hgetAtt⟩
    · exact ⟨_, localize_other (fun _ => hkey) fun _ h => absurd h hkey⟩
  · refine ⟨_, localize_obj fun hlength => hlone ?_⟩
    obtain ⟨⟨key, argument⟩, hmembers⟩ := List.length_eq_one_iff.mp hlength
    exact ⟨key, argument, hmembers⟩

theorem asString?_localize (value : Json) : (localize value).asString? = value.asString? := by
  cases value with
  | obj members =>
    obtain ⟨members', hlocal⟩ := exists_localize_obj members
    rw [hlocal]
    rfl
  | _ => rfl

theorem getAttTarget?_cons_cons (x y : Json) (rest : List Json) :
    (arr (x :: y :: rest)).getAttTarget? =
      x.asString?.bind fun resource => y.asString?.map (.getAtt resource) := by
  cases x <;> cases y <;> rfl

theorem getAttTarget?_localize (value : Json) :
    (localize value).getAttTarget? = value.getAttTarget? := by
  cases value with
  | obj members =>
    obtain ⟨members', hlocal⟩ := exists_localize_obj members
    rw [hlocal]
    rfl
  | arr elements =>
    rw [localize_arr]
    match elements with
    | [] => rfl
    | [x] =>
      have hnone (x : Json) : (arr [x]).getAttTarget? = none := by cases x <;> rfl
      rw [hnone]
      exact hnone _
    | x :: y :: rest =>
      rw [List.map_cons, List.map_cons, getAttTarget?_cons_cons, getAttTarget?_cons_cons,
        asString?_localize, asString?_localize]
  | _ => rfl

/-- Localizing an argument makes no reference of it and undoes none. -/
theorem target?_localize : target? key (localize argument) = target? key argument := by
  unfold target?
  rw [asString?_localize, getAttTarget?_localize]

/-- The names that the bindings beside a text bind. -/
def boundNames : List Json → List String
  | [] => []
  | bindings :: _ => (bindings.asObject?.getD []).keys

theorem subParts?_cons (text : String) (rest : List Json) :
    (arr (str text :: rest)).subParts? = some (text, boundNames rest) := by
  cases rest <;> rfl

theorem subParts?_eq_none_of_cons {x : Json} (h : x.asString? = none) (rest : List Json) :
    (arr (x :: rest)).subParts? = none := by
  cases x <;> cases rest <;> first | rfl | cases h

theorem subParts?_eq_some {text : String} {bound : List String}
    (h : argument.subParts? = some (text, bound)) :
    argument = str text ∧ bound = [] ∨
      ∃ rest, argument = arr (str text :: rest) ∧ bound = boundNames rest := by
  cases argument with
  | str text' =>
    cases h
    exact Or.inl ⟨rfl, rfl⟩
  | arr elements =>
    cases elements with
    | nil => cases h
    | cons x rest =>
      cases hx : x.asString? with
      | none =>
        rw [subParts?_eq_none_of_cons hx] at h
        cases h
      | some text' =>
        cases x <;> cases hx
        rw [subParts?_cons] at h
        cases h
        exact Or.inr ⟨rest, rfl, rfl⟩
  | _ => cases h

/-- An argument of `Fn::Sub` without a text is localized as any other value, and stays one
without a text. -/
theorem localize_sub_of_none (h : argument.subParts? = none) :
    localize (obj [("Fn::Sub", argument)]) = obj [("Fn::Sub", localize argument)] ∧
      (localize argument).subParts? = none := by
  cases argument with
  | str text => cases h
  | arr elements =>
    cases elements with
    | nil => exact ⟨localize_sub_arr [], rfl⟩
    | cons x rest =>
      have hx : x.asString? = none := by
        cases x with
        | str text =>
          rw [subParts?_cons] at h
          cases h
        | _ => rfl
      have hx' : (localize x).asString? = none := by rw [asString?_localize, hx]
      have hfirst : localizeFirst (localize x :: rest.map localize) =
          localize x :: rest.map localize := by
        generalize localize x = y at hx'
        cases y <;> first | rfl | cases hx'
      rw [localize_sub_arr, localize_arr, List.map_cons, hfirst]
      exact ⟨rfl, subParts?_eq_none_of_cons hx' _⟩
  | obj members =>
    have hnot : ¬IsTextOrList (obj members) := by
      rintro (⟨_, h⟩ | ⟨_, h⟩) <;> cases h
    obtain ⟨members', hlocal⟩ := exists_localize_obj members
    refine ⟨localize_other (fun _ => hnot) fun _ h => absurd h hnot, ?_⟩
    rw [hlocal]
    rfl
  | _ =>
    refine ⟨localize_other (fun _ => ?_) fun h => absurd h (by decide), rfl⟩
    rintro (⟨_, h⟩ | ⟨_, h⟩) <;> cases h

end Stacks

/-! ## Values that keep their meaning -/

namespace Json

open Stacks

/-- What localizing must not misread in a member that is alone in an object. -/
structure MemberKept (member : String × Json) : Prop where
  /-- A text or a list that names no attribute has no reference in it. -/
  attributes : member.1 = "Fn::GetAtt" → IsTextOrList member.2 →
    member.2.getAttTarget? = none → member.2.referencesIn = []
  /-- The bindings beside a text bind the same names when they are localized. -/
  bindings : member.1 = "Fn::Sub" → ∀ text bound, member.2.subParts? = some (text, bound) →
    (localize member.2).subParts? = some (text, bound)
  holes : member.1 = "Fn::Sub" → ∀ text bound, member.2.subParts? = some (text, bound) →
    ∀ hole ∈ (ofText text.toList).holes, HoleKept bound hole.2

instance (member : String × Json) : Decidable (MemberKept member) :=
  decidable_of_iff
    ((member.1 = "Fn::GetAtt" → IsTextOrList member.2 → member.2.getAttTarget? = none →
        member.2.referencesIn = []) ∧
      (member.1 = "Fn::Sub" → ∀ parts ∈ member.2.subParts?,
        (localize member.2).subParts? = some parts ∧
          ∀ hole ∈ (ofText parts.1.toList).holes, HoleKept parts.2 hole.2))
    ⟨fun h => ⟨h.1, fun hkey text bound hparts => (h.2 hkey (text, bound) hparts).1,
      fun hkey text bound hparts => (h.2 hkey (text, bound) hparts).2⟩,
    fun h => ⟨h.attributes, fun hkey parts hparts =>
      ⟨h.bindings hkey parts.1 parts.2 hparts, h.holes hkey parts.1 parts.2 hparts⟩⟩⟩

/-- Localizing misreads nothing in the value. -/
def Kept (value : Json) : Prop := ∀ member ∈ value.loneMembers, MemberKept member

instance (value : Json) : Decidable value.Kept :=
  inferInstanceAs (Decidable (∀ member ∈ value.loneMembers, MemberKept member))

/-- No hole of a text of `Fn::Sub` holds the opening of another. -/
def HasPlainTexts (value : Json) : Prop :=
  ∀ argument, ("Fn::Sub", argument) ∈ value.loneMembers →
    ∀ text bound, argument.subParts? = some (text, bound) → (ofText text.toList).IsPlain

instance (value : Json) : Decidable value.HasPlainTexts :=
  decidable_of_iff
    (∀ member ∈ value.loneMembers, member.1 = "Fn::Sub" →
      ∀ parts ∈ member.2.subParts?, (ofText parts.1.toList).IsPlain)
    ⟨fun h argument hmember text bound hparts => h _ hmember rfl (text, bound) hparts,
    fun h member hmember hkey parts hparts => by
      obtain ⟨key, argument⟩ := member
      dsimp only at hkey
      subst hkey
      exact h argument hmember parts.1 parts.2 hparts⟩

/-- The value means localized what it meant, exactly if it is kept and carried. -/
def KeepsMeaning (σ : Resolution) (value : Json) : Prop :=
  value.HasPlainTexts →
    ((localize value).meaning σ = value.meaning declared ↔
      value.Kept ∧ RefersWithin (Carries σ) value)

section

variable {σ : Resolution} {key : String} {argument : Json}

theorem sub_ne_getAtt : "Fn::Sub" ≠ "Fn::GetAtt" := by decide

theorem keepsMeaning_of_atom {value : Json} (hlocal : localize value = value)
    (hmeaning : ∀ σ, value.meaning σ = .atom value) (hlone : value.loneMembers = [])
    (hreferences : value.referencesIn = []) : KeepsMeaning σ value := by
  intro _
  rw [hlocal, hmeaning, hmeaning]
  refine iff_of_true rfl ⟨fun member hmember => ?_, RefersWithin.of_none hreferences⟩
  rw [hlone] at hmember
  cases hmember

theorem keepsMeaning_arr {elements : List Json} (h : ∀ x ∈ elements, KeepsMeaning σ x) :
    KeepsMeaning σ (arr elements) := by
  intro hplain
  have hplain' : ∀ x ∈ elements, x.HasPlainTexts := fun x hx argument hargument =>
    hplain argument (mem_loneMembersAll.mpr ⟨x, hx, hargument⟩)
  have hkept : (arr elements).Kept ↔ ∀ x ∈ elements, x.Kept := by
    simp only [Kept, loneMembers_arr, mem_loneMembersAll]
    constructor
    · exact fun h x hx member hmember => h member ⟨x, hx, hmember⟩
    · rintro h member ⟨x, hx, hmember⟩
      exact h x hx member hmember
  rw [localize_arr, meaning_arr, meaning_arr, Meaning.list.injEq, List.map_map, List.map_inj_left,
    hkept, refersWithin_arr, ← forall₂_and]
  exact forall₂_congr fun x hx => h x hx (hplain' x hx)

theorem meaning_obj {members : List (String × Json)} (h : members.length ≠ 1) :
    (obj members).meaning σ =
      .object (members.map fun member => (member.1, meaning σ member.2)) := by
  rw [← meaningMembers_eq]
  match members, h with
  | [], _ => rfl
  | _ :: _ :: _, _ => rfl

theorem found_in_obj {members : List (String × Json)} (h : members.length ≠ 1) :
    (obj members).loneMembers = loneMembersIn members ∧
      (obj members).referencesIn = referencesInMembers members := by
  match members, h with
  | [], _ => exact ⟨rfl, rfl⟩
  | _ :: _ :: _, _ => exact ⟨rfl, rfl⟩

theorem keepsMeaning_members {members : List (String × Json)} (hlength : members.length ≠ 1)
    (h : ∀ member ∈ members, KeepsMeaning σ member.2) : KeepsMeaning σ (obj members) := by
  intro hplain
  obtain ⟨hlone, hreferences⟩ := found_in_obj hlength
  have hplain' : ∀ member ∈ members, member.2.HasPlainTexts := fun member hmember argument hargument =>
    hplain argument (hlone ▸ mem_loneMembersIn.mpr ⟨member, hmember, hargument⟩)
  have hkept : (obj members).Kept ↔ ∀ member ∈ members, member.2.Kept := by
    simp only [Kept, hlone, mem_loneMembersIn]
    constructor
    · exact fun h other hother member hmember => h member ⟨other, hother, hmember⟩
    · rintro h member ⟨other, hother, hmember⟩
      exact h other hother member hmember
  have hrefers : RefersWithin (Carries σ) (obj members) ↔
      ∀ member ∈ members, RefersWithin (Carries σ) member.2 := by
    simp only [RefersWithin, hreferences, mem_referencesInMembers]
    constructor
    · exact fun h member hmember r hr => h r ⟨member, hmember, hr⟩
    · rintro h r ⟨member, hmember, hr⟩
      exact h member hmember r hr
  rw [localize_obj hlength, meaning_obj (by rwa [List.length_map]), meaning_obj hlength,
    Meaning.object.injEq, List.map_map, List.map_inj_left, hkept, hrefers, ← forall₂_and]
  refine forall₂_congr fun member hmember => ?_
  rw [← h member hmember (hplain' member hmember)]
  simp

theorem kept_of_no_target (h : target? key argument = none) :
    (obj [(key, argument)]).Kept ↔ MemberKept (key, argument) ∧ argument.Kept := by
  rw [Kept, loneMembers_of_no_target h, List.forall_mem_cons]
  rfl

theorem kept_of_target {r : Reference} (h : target? key argument = some r) :
    (obj [(key, argument)]).Kept := by
  rw [Kept, loneMembers_of_target h, List.forall_mem_singleton]
  have hsub : key ≠ "Fn::Sub" := by
    rintro rfl
    cases h
  refine ⟨fun hkey _ hnone => ?_, fun hkey => absurd hkey hsub, fun hkey => absurd hkey hsub⟩
  dsimp only at hkey hnone
  subst hkey
  have hsome : argument.getAttTarget? = some r := h
  rw [hnone] at hsome
  cases hsome

theorem keepsMeaning_of_target {r : Reference} (h : target? key argument = some r) :
    KeepsMeaning σ (obj [(key, argument)]) := by
  intro _
  have hlocal : (Json.ref r.parameterName).meaning σ = .reference (σ (.ref r.parameterName)) :=
    meaning_of_target rfl
  rw [localize_of_target h, hlocal, meaning_of_target h, Meaning.reference.injEq, RefersWithin,
    referencesIn_of_target h, List.forall_mem_singleton]
  exact (and_iff_right (kept_of_target h)).symm

/-- Where a member is no reference and no text with variables, what is in it decides. -/
theorem keepsMeaning_of_inside (h : KeepsMeaning σ argument)
    (hmember : MemberKept (key, argument)) (htarget : target? key argument = none)
    (hsub : key = "Fn::Sub" → argument.subParts? = none ∧ (localize argument).subParts? = none)
    (hlocal : localize (obj [(key, argument)]) = obj [(key, localize argument)]) :
    KeepsMeaning σ (obj [(key, argument)]) := by
  intro hplain
  have hinside : argument.HasPlainTexts := fun other hother =>
    hplain other (by rw [loneMembers_of_no_target htarget]; exact List.mem_cons_of_mem _ hother)
  have hmeaning {τ : Resolution} {x : Json} (hx : target? key x = none)
      (hparts : key = "Fn::Sub" → x.subParts? = none) :
      (obj [(key, x)]).meaning τ = .object [(key, x.meaning τ)] := by
    by_cases hkey : key = "Fn::Sub"
    · subst hkey
      rw [meaning_sub, subMeaning, hparts rfl]
    · exact meaning_of_no_target hx hkey
  have hreferences : (obj [(key, argument)]).referencesIn = argument.referencesIn := by
    rw [referencesIn_of_no_target htarget]
    split
    · next hkey =>
      rw [subReferences, (hsub hkey).1]
      rfl
    · rfl
  rw [hlocal, hmeaning htarget fun hkey => (hsub hkey).1,
    hmeaning (target?_localize.trans htarget) fun hkey => (hsub hkey).2, Meaning.object.injEq,
    List.cons.injEq, Prod.mk.injEq, kept_of_no_target htarget, RefersWithin, hreferences]
  simp only [true_and, and_true, hmember]
  exact h hinside

/-- A text of `Fn::Sub` means localized what it meant if its own text and all beside it do. -/
theorem meaning_localize_sub (σ : Resolution) {text : String} {bound : List String}
    (h : argument.subParts? = some (text, bound)) :
    ∃ bound', (localize argument).subParts? = some (text, bound') ∧
      ((localize (obj [("Fn::Sub", argument)])).meaning σ =
          (obj [("Fn::Sub", argument)]).meaning declared ↔
        textMeaning σ bound' (localizeText text) = textMeaning declared bound text ∧
          (localize argument).meaning σ = argument.meaning declared) := by
  rcases subParts?_eq_some h with ⟨rfl, rfl⟩ | ⟨rest, rfl, rfl⟩
  · refine ⟨[], rfl, ?_⟩
    have hinside : (localize (str text)).meaning σ = (str text).meaning declared := rfl
    have htext (τ : Resolution) (text : String) : (Json.sub text).meaning τ =
        .object [("Fn::Sub", textMeaning τ [] text)] := rfl
    have hlocal : localize (obj [("Fn::Sub", str text)]) = .sub (localizeText text) :=
      localize_sub_str text
    rw [hlocal, htext, show obj [("Fn::Sub", str text)] = .sub text from rfl, htext]
    simp [hinside]
  · refine ⟨boundNames (rest.map localize), ?_, ?_⟩
    · rw [localize_arr]
      exact subParts?_cons _ _
    · have htext (τ : Resolution) (text : String) (rest : List Json) :
          (obj [("Fn::Sub", arr (str text :: rest))]).meaning τ =
            .object [("Fn::Sub", .list (textMeaning τ (boundNames rest) text ::
              rest.map (meaning τ)))] := by
        rw [meaning_sub, meaning_arr, subMeaning, subParts?_cons]
        rfl
      have hlocal : localizeFirst ((str text :: rest).map localize) =
          str (localizeText text) :: rest.map localize := rfl
      have hatom (τ : Resolution) : (str text).meaning τ = .atom (str text) := rfl
      have hstr : localize (str text) = str text := rfl
      rw [localize_sub_arr, hlocal, htext, htext, localize_arr, meaning_arr, meaning_arr]
      simp [hatom, hstr]

theorem refersWithin_sub_iff {scope : Reference → Prop} {text : String} {bound : List String}
    (h : argument.subParts? = some (text, bound)) :
    RefersWithin scope (obj [("Fn::Sub", argument)]) ↔
      (∀ name ∈ subVariables text, name ∉ bound → scope (.ofVariable name)) ∧
        RefersWithin scope argument := by
  rw [RefersWithin, referencesIn_of_no_target (target?_sub argument), if_pos rfl, subReferences, h]
  simp only [List.mem_append, List.mem_map, List.mem_filter, or_imp, forall_and, RefersWithin]
  refine and_congr_left fun _ => ⟨fun hall name hname hbound => hall _ ⟨name, ⟨hname, ?_⟩, rfl⟩, ?_⟩
  · simpa using hbound
  · rintro hall _ ⟨name, ⟨hname, hbound⟩, rfl⟩
    exact hall name hname (by simpa using hbound)

theorem keepsMeaning_sub (hσ : ResolvesNoAttribute σ) (h : KeepsMeaning σ argument) :
    KeepsMeaning σ (obj [("Fn::Sub", argument)]) := by
  cases hparts : argument.subParts? with
  | none =>
    obtain ⟨hlocal, hparts'⟩ := localize_sub_of_none hparts
    have hnone (text : String) (bound : List String) : argument.subParts? ≠ some (text, bound) := by
      rw [hparts]
      exact (Option.some_ne_none _).symm
    refine keepsMeaning_of_inside h ?_ (target?_sub argument) (fun _ => ⟨hparts, hparts'⟩) hlocal
    exact ⟨fun hkey => absurd hkey sub_ne_getAtt, fun _ text bound heq => absurd heq (hnone text bound),
      fun _ text bound heq => absurd heq (hnone text bound)⟩
  | some parts =>
    obtain ⟨text, bound⟩ := parts
    intro hplain
    have hlone := loneMembers_of_no_target (target?_sub argument)
    have hinside : argument.HasPlainTexts := fun other hother =>
      hplain other (by rw [hlone]; exact List.mem_cons_of_mem _ hother)
    have htext : (ofText text.toList).IsPlain :=
      hplain argument (by rw [hlone]; exact List.mem_cons_self) text bound hparts
    obtain ⟨bound', hparts', hsame⟩ := meaning_localize_sub σ hparts
    have hmember : MemberKept ("Fn::Sub", argument) ↔
        bound' = bound ∧ ∀ hole ∈ (ofText text.toList).holes, HoleKept bound hole.2 := by
      constructor
      · intro hkept
        have hbound := hkept.bindings rfl text bound hparts
        rw [hparts', Option.some_inj, Prod.mk.injEq] at hbound
        exact ⟨hbound.2, hkept.holes rfl text bound hparts⟩
      · rintro ⟨rfl, hholes⟩
        refine ⟨fun hkey => absurd hkey sub_ne_getAtt, fun _ text' bound'' heq => ?_,
          fun _ text' bound'' heq => ?_⟩
        · rw [← heq, hparts, hparts']
        · rw [hparts, Option.some_inj, Prod.mk.injEq] at heq
          obtain ⟨rfl, rfl⟩ := heq
          exact hholes
    rw [hsame, textMeaning_localizeText_iff hσ htext, h hinside, kept_of_no_target (target?_sub _),
      hmember, refersWithin_sub_iff hparts]
    tauto

/-- A list or a text that names no attribute is a reference once it is localized, unless there
is no reference in it. -/
theorem keepsMeaning_getAtt (h : KeepsMeaning σ argument)
    (htarget : target? "Fn::GetAtt" argument = none) :
    KeepsMeaning σ (obj [("Fn::GetAtt", argument)]) := by
  have hreferences : (obj [("Fn::GetAtt", argument)]).referencesIn = argument.referencesIn := by
    rw [referencesIn_of_no_target htarget, if_neg (by decide), List.nil_append]
  by_cases hinside : IsTextOrList argument → argument.referencesIn = []
  · refine keepsMeaning_of_inside h ?_ htarget (fun hkey => absurd hkey (by decide)) ?_
    · exact ⟨fun _ hlist _ => hinside hlist, fun hkey => absurd hkey.symm sub_ne_getAtt,
        fun hkey => absurd hkey.symm sub_ne_getAtt⟩
    · refine localize_other (fun hkey => absurd hkey (by decide)) fun _ hlist => ?_
      rw [references, hreferences, hinside hlist]
      rfl
  · intro _
    rw [Classical.not_imp] at hinside
    obtain ⟨hlist, hsome⟩ := hinside
    have hhead : (obj [("Fn::GetAtt", argument)]).references.head?.isSome = true := by
      obtain ⟨r, hr⟩ := List.exists_mem_of_ne_nil _ hsome
      rw [List.isSome_head?]
      exact List.ne_nil_of_mem (mem_references.mpr (hreferences ▸ hr))
    obtain ⟨r, hr⟩ := Option.isSome_iff_exists.mp hhead
    have hlocal : (Json.ref r.parameterName).meaning σ = .reference (σ (.ref r.parameterName)) :=
      meaning_of_target rfl
    rw [localize_getAtt hlist hr, hlocal, meaning_of_no_target htarget (by decide)]
    refine iff_of_false (fun hsame => by cases hsame) fun hkept => hsome ?_
    rw [kept_of_no_target htarget] at hkept
    exact hkept.1.1.attributes rfl hlist htarget

theorem keepsMeaning_lone (hσ : ResolvesNoAttribute σ) (h : KeepsMeaning σ argument) :
    KeepsMeaning σ (obj [(key, argument)]) := by
  cases htarget : target? key argument with
  | some r => exact keepsMeaning_of_target htarget
  | none =>
    by_cases hsub : key = "Fn::Sub"
    · subst hsub
      exact keepsMeaning_sub hσ h
    · by_cases hgetAtt : key = "Fn::GetAtt"
      · subst hgetAtt
        exact keepsMeaning_getAtt h htarget
      · refine keepsMeaning_of_inside h ?_ htarget (fun hkey => absurd hkey hsub)
          (localize_other (fun hkey => absurd hkey hsub) fun hkey => absurd hkey hgetAtt)
        exact ⟨fun hkey => absurd hkey hgetAtt, fun hkey => absurd hkey hsub,
          fun hkey => absurd hkey hsub⟩

/-- A value with plain texts means localized what it meant if and only if it is kept and its
references are carried. -/
theorem meaning_localize_iff (hσ : ResolvesNoAttribute σ) {value : Json}
    (hplain : value.HasPlainTexts) : (localize value).meaning σ = value.meaning declared ↔
      value.Kept ∧ RefersWithin (Carries σ) value := by
  have hereditary : Hereditary (KeepsMeaning σ) := by
    refine ⟨keepsMeaning_of_atom rfl (fun _ => rfl) rfl rfl,
      fun _ => keepsMeaning_of_atom rfl (fun _ => rfl) rfl rfl,
      fun _ => keepsMeaning_of_atom rfl (fun _ => rfl) rfl rfl,
      fun _ => keepsMeaning_of_atom rfl (fun _ => rfl) rfl rfl,
      fun _ => keepsMeaning_of_atom rfl (fun _ => rfl) rfl rfl,
      fun _ => keepsMeaning_arr, fun members hmembers => ?_⟩
    by_cases hlength : members.length = 1
    · obtain ⟨⟨key, argument⟩, rfl⟩ := List.length_eq_one_iff.mp hlength
      exact keepsMeaning_lone hσ (hmembers _ (List.mem_singleton_self _))
    · exact keepsMeaning_members hlength hmembers
  exact hereditary.holds value hplain

end

end Json

end Keyspace
