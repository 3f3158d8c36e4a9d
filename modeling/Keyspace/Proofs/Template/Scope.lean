import Keyspace.Proofs.Dict
import Keyspace.Template.Basic
import Keyspace.Template.Reference

/-!
# What values refer to, part by part

References and the values that resolve them correspond one to one. A value refers within a scope if
all its references are in it. An object whose keys name no intrinsic function does so if its members
do, and keeps doing so when a member is set.
-/
namespace Keyspace

namespace Json

theorem ref_inj {a b : String} (h : ref a = ref b) : a = b := by
  injection h with h
  injection h with h _
  injection h with _ h
  injection h

theorem ref_ne_getAtt (name resource attributeName : String) :
    ref name ≠ getAtt resource attributeName := by
  intro h
  injection h with h
  injection h with h _
  injection h with h _
  exact absurd h (by decide)

theorem getAtt_inj {r a s b : String} (h : getAtt r a = getAtt s b) : r = s ∧ a = b := by
  injection h with h
  injection h with h _
  injection h with _ h
  injection h with h
  injection h with hr h
  injection h with ha _
  injection hr with hr
  injection ha with ha
  exact ⟨hr, ha⟩

end Json

namespace Reference

theorem toJson_inj {r s : Reference} (h : r.toJson = s.toJson) : r = s := by
  cases r with
  | ref a =>
    cases s with
    | ref b => rw [Json.ref_inj h]
    | getAtt => exact absurd h (Json.ref_ne_getAtt _ _ _)
  | getAtt r a =>
    cases s with
    | ref b => exact absurd h.symm (Json.ref_ne_getAtt _ _ _)
    | getAtt s b => rw [(Json.getAtt_inj h).1, (Json.getAtt_inj h).2]

end Reference

namespace Json

/-- The keys that give an object with no other member a meaning of its own. -/
def intrinsicKeys : List String := ["Ref", "Fn::GetAtt", "Fn::Sub"]

def RefersWithin (scope : Reference → Prop) (value : Json) : Prop :=
  ∀ r ∈ value.referencesIn, scope r

theorem mem_insertInto {r s : Reference} {refs : List Reference} :
    r ∈ s.insertInto refs ↔ r = s ∨ r ∈ refs := by
  induction refs with
  | nil => simp [Reference.insertInto]
  | cons t rest ih =>
    unfold Reference.insertInto
    split
    · next h =>
      subst h
      simp
    · split
      · simp
      · rw [List.mem_cons, ih, List.mem_cons]
        tauto

/-- Sorting and dropping repeats leaves the references themselves alone. -/
theorem mem_references {value : Json} {r : Reference} :
    r ∈ value.references ↔ r ∈ value.referencesIn := by
  unfold references
  induction value.referencesIn with
  | nil => simp
  | cons s rest ih => rw [List.foldr_cons, mem_insertInto, ih, List.mem_cons]

theorem referencesInMembers_cons (member : String × Json) (rest : List (String × Json)) :
    referencesInMembers (member :: rest)
      = member.2.referencesIn ++ referencesInMembers rest := rfl

theorem mem_referencesInMembers {members : List (String × Json)} {r : Reference} :
    r ∈ referencesInMembers members ↔ ∃ member ∈ members, r ∈ member.2.referencesIn := by
  induction members with
  | nil => exact iff_of_false List.not_mem_nil (by simp)
  | cons member rest ih =>
    rw [referencesInMembers_cons, List.mem_append, ih, List.exists_mem_cons_iff]

theorem referencesInAll_cons (x : Json) (rest : List Json) :
    referencesInAll (x :: rest) = x.referencesIn ++ referencesInAll rest := rfl

theorem mem_referencesInAll {elements : List Json} {r : Reference} :
    r ∈ referencesInAll elements ↔ ∃ x ∈ elements, r ∈ x.referencesIn := by
  induction elements with
  | nil => exact iff_of_false List.not_mem_nil (by simp)
  | cons x rest ih => rw [referencesInAll_cons, List.mem_append, ih, List.exists_mem_cons_iff]

section

variable {scope : Reference → Prop}

theorem RefersWithin.of_none {value : Json} (h : value.referencesIn = []) :
    RefersWithin scope value := by
  intro r hr
  rw [h] at hr
  exact absurd hr List.not_mem_nil

@[simp] theorem refersWithin_str (text : String) : RefersWithin scope (str text) := .of_none rfl

@[simp] theorem refersWithin_int (n : Int) : RefersWithin scope (int n) := .of_none rfl

@[simp] theorem refersWithin_bool (b : Bool) : RefersWithin scope (bool b) := .of_none rfl

@[simp] theorem refersWithin_arr (elements : List Json) :
    RefersWithin scope (arr elements) ↔ ∀ x ∈ elements, RefersWithin scope x := by
  constructor
  · exact fun h x hx r hr => h r (mem_referencesInAll.2 ⟨x, hx, hr⟩)
  · intro h r hr
    obtain ⟨x, hx, hr⟩ := mem_referencesInAll.1 hr
    exact h x hx r hr

@[simp] theorem refersWithin_ofStrings (texts : List String) :
    RefersWithin scope (ofStrings texts) := by
  simp [ofStrings]

theorem referencesIn_ref (name : String) : (ref name).referencesIn = [.ref name] := rfl

@[simp] theorem refersWithin_ref (name : String) :
    RefersWithin scope (ref name) ↔ scope (.ref name) := by
  rw [RefersWithin, referencesIn_ref, List.forall_mem_singleton]

theorem referencesIn_getAtt (resource attributeName : String) :
    (getAtt resource attributeName).referencesIn = [.getAtt resource attributeName] := rfl

@[simp] theorem refersWithin_getAtt (resource attributeName : String) :
    RefersWithin scope (getAtt resource attributeName) ↔ scope (.getAtt resource attributeName) := by
  rw [RefersWithin, referencesIn_getAtt, List.forall_mem_singleton]

theorem referencesIn_sub (text : String) :
    (sub text).referencesIn = (subVariables text).map .ofVariable := by
  have hunbound : (subVariables text).filter (fun name => !([] : List String).contains name)
      = subVariables text := List.filter_eq_self.2 fun _ _ => rfl
  have hparts : subReferences (str text)
      = ((subVariables text).filter fun name => !([] : List String).contains name).map
          .ofVariable := rfl
  calc (sub text).referencesIn = subReferences (str text) ++ [] := rfl
    _ = (subVariables text).map .ofVariable := by rw [List.append_nil, hparts, hunbound]

@[simp] theorem refersWithin_sub (text : String) :
    RefersWithin scope (sub text) ↔ ∀ name ∈ subVariables text, scope (.ofVariable name) := by
  rw [RefersWithin, referencesIn_sub, List.forall_mem_map]

/-- Where no member means something else on its own, an object refers to what its members do. -/
theorem referencesIn_obj {members : List (String × Json)}
    (hplain : ∀ member, members = [member] → member.1 ∉ intrinsicKeys) :
    (obj members).referencesIn = referencesInMembers members := by
  match members with
  | [] => rfl
  | [(key, argument)] =>
    obtain ⟨href, hgetAtt, hsub⟩ : key ≠ "Ref" ∧ key ≠ "Fn::GetAtt" ∧ key ≠ "Fn::Sub" := by
      simpa [intrinsicKeys] using hplain _ rfl
    have hargument : (obj [(key, argument)]).referencesIn = argument.referencesIn := by
      conv_lhs => unfold referencesIn
      dsimp only
      rw [if_neg href, if_neg hgetAtt, if_neg hsub]
    rw [hargument, referencesInMembers_cons, referencesInMembers, List.append_nil]
  | first :: second :: rest => rfl

theorem refersWithin_obj {members : List (String × Json)}
    (hplain : ∀ member, members = [member] → member.1 ∉ intrinsicKeys)
    (h : ∀ member ∈ members, RefersWithin scope member.2) : RefersWithin scope (obj members) := by
  intro r hr
  rw [referencesIn_obj hplain, mem_referencesInMembers] at hr
  obtain ⟨member, hmember, hr⟩ := hr
  exact h member hmember r hr

/-- A member of an object refers within the scope, and its key names no intrinsic function. -/
def MemberWithin (scope : Reference → Prop) (member : String × Json) : Prop :=
  member.1 ∉ intrinsicKeys ∧ RefersWithin scope member.2

theorem refersWithin_object {members : List (String × Json)}
    (h : ∀ member ∈ members, MemberWithin scope member) : RefersWithin scope (object members) := by
  refine refersWithin_obj (fun member hmember => ?_) fun member hmember => ?_
  · exact (h member (Dict.mem_of_mem_ofList (hmember ▸ List.mem_singleton_self _))).1
  · exact (h member (Dict.mem_of_mem_ofList hmember)).2

theorem refersWithin_object_iff {members : List (String × Json)}
    (hdistinct : (members.map (·.1)).Nodup)
    (hplain : ∀ key ∈ members.map (·.1), key ∉ intrinsicKeys) :
    RefersWithin scope (object members) ↔ ∀ member ∈ members, RefersWithin scope member.2 := by
  have hkey {member : String × Json} (h : member ∈ members) : member.1 ∉ intrinsicKeys :=
    hplain member.1 (List.mem_map_of_mem h)
  constructor
  · intro h member hmember r hr
    refine h r ?_
    have hfound := Dict.mem_of_get? (Dict.get?_ofList_of_mem hdistinct hmember)
    rw [object, referencesIn_obj, mem_referencesInMembers]
    · exact ⟨_, hfound, hr⟩
    · intro only honly
      exact hkey (Dict.mem_of_mem_ofList (honly ▸ List.mem_singleton_self _))
  · exact fun h => refersWithin_object fun member hmember => ⟨hkey hmember, h member hmember⟩

/-- An object that keeps its meaning when a member is set. -/
def IsPlain (scope : Reference → Prop) (value : Json) : Prop :=
  ∃ members, value = obj members ∧ ∀ member ∈ members, MemberWithin scope member

/-- The value is plain, and so are the members that a path of keys leads to. -/
def PlainAlong (scope : Reference → Prop) : (path : List String) → Json → Prop
  | [], value => IsPlain scope value
  | key :: path, value =>
    IsPlain scope value ∧ ∀ member, value.get? key = some member → PlainAlong scope path member

theorem IsPlain.refersWithin {value : Json} (h : IsPlain scope value) :
    RefersWithin scope value := by
  obtain ⟨members, rfl, hmembers⟩ := h
  exact refersWithin_obj (fun member hmember => (hmembers member (by simp [hmember])).1)
    fun member hmember => (hmembers member hmember).2

theorem IsPlain.setMember {value member : Json} {key : String} (h : IsPlain scope value)
    (hkey : key ∉ intrinsicKeys) (hmember : RefersWithin scope member) :
    IsPlain scope (value.setMember key member) := by
  obtain ⟨members, rfl, hmembers⟩ := h
  refine ⟨_, rfl, fun other hother => ?_⟩
  rcases Dict.mem_of_mem_insert hother with rfl | hother
  · exact ⟨hkey, hmember⟩
  · exact hmembers other hother

theorem isPlain_object {members : List (String × Json)}
    (h : ∀ member ∈ members, MemberWithin scope member) : IsPlain scope (object members) :=
  ⟨_, rfl, fun member hmember => h member (Dict.mem_of_mem_ofList hmember)⟩

theorem plainAlong_object {members : List (String × Json)} {key : String} {path : List String}
    (h : ∀ member ∈ members, MemberWithin scope member)
    (hbelow : ∀ member ∈ members, member.1 = key → PlainAlong scope path member.2) :
    PlainAlong scope (key :: path) (object members) := by
  refine ⟨isPlain_object h, fun member hmember => ?_⟩
  exact hbelow _ (Dict.mem_of_mem_ofList (Dict.mem_of_get? hmember)) rfl

theorem PlainAlong.isPlain {path : List String} {value : Json} (h : PlainAlong scope path value) :
    IsPlain scope value := by
  cases path with
  | nil => exact h
  | cons key path => exact h.1

theorem plainAlong_empty (path : List String) : PlainAlong scope path (obj []) := by
  have hplain : IsPlain scope (obj []) := ⟨[], rfl, fun member hmember => by cases hmember⟩
  cases path with
  | nil => exact hplain
  | cons key path => exact ⟨hplain, fun member hmember => by cases hmember⟩

/-- Changing a member of a plain object leaves it plain if the member stays so. -/
theorem PlainAlong.updateMember {value : Json} {key : String} {path : List String}
    {f : Json → Json} (h : PlainAlong scope (key :: path) value) (hkey : key ∉ intrinsicKeys)
    (hf : ∀ member, PlainAlong scope path member → PlainAlong scope path (f member)) :
    PlainAlong scope (key :: path) (value.updateMember key f) := by
  obtain ⟨hplain, hbelow⟩ := h
  have hold : PlainAlong scope path ((Dict.get? value.membersOrNone key).getD (obj [])) := by
    cases hfound : Dict.get? value.membersOrNone key with
    | none => exact plainAlong_empty path
    | some member =>
      obtain ⟨members, rfl, -⟩ := hplain
      exact hbelow member hfound
  have hnew := hf _ hold
  refine ⟨hplain.setMember hkey hnew.isPlain.refersWithin, fun member hmember => ?_⟩
  have hself := Dict.get?_insert_self value.membersOrNone key
    (f ((Dict.get? value.membersOrNone key).getD (obj [])))
  cases hself.symm.trans hmember
  exact hnew

end

end Json

end Keyspace
