import Keyspace.Proofs.Template.LocalizedText
import Keyspace.Proofs.Template.Scope

/-!
# What values mean

Two values mean the same where their references are resolved to the same values, the texts of
`Fn::Sub` have the same holes, and all else is equal. How a reference is spelled is not part of
the meaning, nor are blanks around the name in a hole.
-/
namespace Keyspace

open Text CutText

/-- What a hole of a text stands for: its own text, a value bound beside the text, or what a
reference is resolved to. -/
inductive HoleMeaning where
  | literal (inside : List Char)
  | bound (name : String)
  | reference (value : Option Json)

/-- A value whose references are resolved, if they can be. -/
inductive Meaning where
  | atom (value : Json)
  | reference (value : Option Json)
  | text (bound : List String) (holes : List (List Char × HoleMeaning)) (rest : List Char)
  | list (elements : List Meaning)
  | object (members : List (String × Meaning))

/-- How the references of a template are resolved. -/
abbrev Resolution := Reference → Option Json

/-- In the template that declares them references stand for themselves. -/
def declared : Resolution := fun r => some r.toJson

/-- The meaning of a hole beside which names are bound. -/
def holeMeaning (σ : Resolution) (bound : List String) (inside : List Char) : HoleMeaning :=
  match holeName? inside with
  | none => .literal inside
  | some name => if name ∈ bound then .bound name else .reference (σ (.ofVariable name))

/-- The meaning of a text beside which names are bound. -/
def textMeaning (σ : Resolution) (bound : List String) (text : String) : Meaning :=
  let cut := ofText text.toList
  .text bound (cut.holes.map fun hole => (hole.1, holeMeaning σ bound hole.2)) cut.rest

namespace Json

/-- The reference that an object of one member is. -/
def target? (key : String) (argument : Json) : Option Reference :=
  if key = "Ref" then argument.asString?.map .ref
  else if key = "Fn::GetAtt" then argument.getAttTarget?
  else none

/-- The meaning of an argument of `Fn::Sub`, put together from the meaning of its text and
what it means as any other value. -/
def subMeaning (σ : Resolution) (argument : Json) (plain : Meaning) : Meaning :=
  match argument.subParts? with
  | none => plain
  | some (text, bound) =>
    match plain with
    | .list (_ :: others) => .list (textMeaning σ bound text :: others)
    | _ => textMeaning σ bound text

mutual

/-- The meaning of a value under a resolution of its references. -/
def meaning (σ : Resolution) : Json → Meaning
  | arr elements => .list (meaningAll σ elements)
  | obj members =>
    match members with
    | [(key, argument)] =>
      match target? key argument with
      | some r => .reference (σ r)
      | none =>
        .object [(key, if key = "Fn::Sub" then subMeaning σ argument (meaning σ argument)
          else meaning σ argument)]
    | members => .object (meaningMembers σ members)
  | value => .atom value

def meaningAll (σ : Resolution) : List Json → List Meaning
  | [] => []
  | x :: xs => meaning σ x :: meaningAll σ xs

def meaningMembers (σ : Resolution) : List (String × Json) → List (String × Meaning)
  | [] => []
  | (k, x) :: xs => (k, meaning σ x) :: meaningMembers σ xs

end

mutual

/-- The members that are alone in an object, outermost first. There is none inside a
reference. -/
def loneMembers : Json → List (String × Json)
  | arr elements => loneMembersAll elements
  | obj members =>
    match members with
    | [(key, argument)] =>
      (key, argument) :: if (target? key argument).isSome then [] else loneMembers argument
    | members => loneMembersIn members
  | _ => []

def loneMembersAll : List Json → List (String × Json)
  | [] => []
  | x :: xs => loneMembers x ++ loneMembersAll xs

def loneMembersIn : List (String × Json) → List (String × Json)
  | [] => []
  | (_, x) :: xs => loneMembers x ++ loneMembersIn xs

end

/-- Lists and objects have the property if what is in them has it. -/
structure Hereditary (P : Json → Prop) : Prop where
  null : P null
  bool : ∀ b, P (bool b)
  int : ∀ n, P (int n)
  float : ∀ x, P (float x)
  str : ∀ text, P (str text)
  arr : ∀ elements, (∀ x ∈ elements, P x) → P (arr elements)
  obj : ∀ members, (∀ member ∈ members, P member.2) → P (obj members)

mutual

/-- Every value has a hereditary property. -/
theorem Hereditary.holds {P : Json → Prop} (h : Hereditary P) : ∀ value : Json, P value
  | .null => h.null
  | .bool b => h.bool b
  | .int n => h.int n
  | .float x => h.float x
  | .str text => h.str text
  | .arr elements => h.arr elements (h.holds_elements elements)
  | .obj members => h.obj members (h.holds_members members)

theorem Hereditary.holds_elements {P : Json → Prop} (h : Hereditary P) :
    ∀ elements : List Json, ∀ x ∈ elements, P x
  | [] => fun _ hx => by cases hx
  | x :: xs => List.forall_mem_cons.mpr ⟨h.holds x, h.holds_elements xs⟩

theorem Hereditary.holds_members {P : Json → Prop} (h : Hereditary P) :
    ∀ members : List (String × Json), ∀ member ∈ members, P member.2
  | [] => fun _ hmember => by cases hmember
  | (_, x) :: xs => List.forall_mem_cons.mpr ⟨h.holds x, h.holds_members xs⟩

end

/-! ## Part by part -/

section Parts

variable {σ : Resolution} {key : String} {argument : Json}

theorem meaningAll_eq (elements : List Json) : meaningAll σ elements = elements.map (meaning σ) := by
  induction elements with
  | nil => rfl
  | cons x rest ih =>
    rw [List.map_cons, ← ih]
    rfl

theorem meaningMembers_eq (members : List (String × Json)) :
    meaningMembers σ members = members.map fun member => (member.1, meaning σ member.2) := by
  induction members with
  | nil => rfl
  | cons member rest ih =>
    rw [List.map_cons, ← ih]
    rfl

theorem loneMembersAll_cons (x : Json) (rest : List Json) :
    loneMembersAll (x :: rest) = x.loneMembers ++ loneMembersAll rest := rfl

theorem mem_loneMembersAll {elements : List Json} {member : String × Json} :
    member ∈ loneMembersAll elements ↔ ∃ x ∈ elements, member ∈ x.loneMembers := by
  induction elements with
  | nil => exact iff_of_false List.not_mem_nil (by simp)
  | cons x rest ih => rw [loneMembersAll_cons, List.mem_append, ih, List.exists_mem_cons_iff]

theorem loneMembersIn_cons (member : String × Json) (rest : List (String × Json)) :
    loneMembersIn (member :: rest) = member.2.loneMembers ++ loneMembersIn rest := rfl

theorem mem_loneMembersIn {members : List (String × Json)} {member : String × Json} :
    member ∈ loneMembersIn members ↔ ∃ other ∈ members, member ∈ other.2.loneMembers := by
  induction members with
  | nil => exact iff_of_false List.not_mem_nil (by simp)
  | cons other rest ih => rw [loneMembersIn_cons, List.mem_append, ih, List.exists_mem_cons_iff]

theorem meaning_arr (elements : List Json) :
    (arr elements).meaning σ = .list (elements.map (meaning σ)) := by
  rw [← meaningAll_eq]
  rfl

theorem loneMembers_arr (elements : List Json) :
    (arr elements).loneMembers = loneMembersAll elements := rfl

theorem meaning_of_target {r : Reference} (h : target? key argument = some r) :
    (obj [(key, argument)]).meaning σ = .reference (σ r) := by
  conv_lhs => unfold meaning
  dsimp only
  rw [h]

theorem meaning_of_no_target (h : target? key argument = none) (hsub : key ≠ "Fn::Sub") :
    (obj [(key, argument)]).meaning σ = .object [(key, argument.meaning σ)] := by
  conv_lhs => unfold meaning
  dsimp only
  rw [h, if_neg hsub]

theorem target?_sub (argument : Json) : target? "Fn::Sub" argument = none := rfl

theorem meaning_sub (argument : Json) : (obj [("Fn::Sub", argument)]).meaning σ =
    .object [("Fn::Sub", subMeaning σ argument (argument.meaning σ))] := rfl

theorem loneMembers_of_target {r : Reference} (h : target? key argument = some r) :
    (obj [(key, argument)]).loneMembers = [(key, argument)] := by
  conv_lhs => unfold loneMembers
  dsimp only
  rw [h]
  rfl

theorem loneMembers_of_no_target (h : target? key argument = none) :
    (obj [(key, argument)]).loneMembers = (key, argument) :: argument.loneMembers := by
  conv_lhs => unfold loneMembers
  dsimp only
  rw [h]
  rfl

theorem referencesIn_of_target {r : Reference} (h : target? key argument = some r) :
    (obj [(key, argument)]).referencesIn = [r] := by
  unfold target? at h
  split at h
  · next hkey =>
    subst hkey
    obtain ⟨name, hname, rfl⟩ := Option.map_eq_some_iff.mp h
    cases argument <;> cases hname
    rfl
  · split at h
    · next hkey =>
      subst hkey
      conv_lhs => unfold referencesIn
      dsimp only
      rw [if_neg (by decide), if_pos rfl, h]
    · cases h

theorem referencesIn_of_no_target (h : target? key argument = none) :
    (obj [(key, argument)]).referencesIn =
      (if key = "Fn::Sub" then argument.subReferences else []) ++ argument.referencesIn := by
  unfold target? at h
  conv_lhs => unfold referencesIn
  dsimp only
  split at h
  · next hkey =>
    subst hkey
    rw [if_pos rfl, if_neg (by decide), List.nil_append]
    cases argument <;> first | rfl | cases h
  · next href =>
    rw [if_neg href]
    split at h
    · next hkey =>
      subst hkey
      rw [if_pos rfl, if_neg (by decide), h, List.nil_append]
    · next hgetAtt =>
      rw [if_neg hgetAtt]
      split <;> rfl

end Parts

end Json

end Keyspace
