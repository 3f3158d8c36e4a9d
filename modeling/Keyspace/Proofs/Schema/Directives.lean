import Keyspace.Proofs.Action
import Keyspace.Proofs.Dict
import Keyspace.Schema.Directive
import Mathlib.Data.List.Pairwise

/-!
# What directives say

Reading a directive keeps what is written. An argument is found exactly if it was written with a
value of its kind, and the directives of a node are those written there that the catalog knows,
in their order.
-/
namespace Keyspace.Schema

/-- A text is an element of a list that is written as an argument. -/
def DirectiveUse.Lists (use : DirectiveUse) (argument text : String) : Prop :=
  ∃ elements, (argument, Value.list elements) ∈ use.arguments ∧ Value.string text ∈ elements

/-- The catalog has an entry for a directive. -/
def DirectiveUse.isKnown (use : DirectiveUse) : Bool := (Directive.Kind.ofName? use.name).isSome

theorem DirectiveUse.isKnown_of_name {use : DirectiveUse} {kind : Directive.Kind}
    (h : use.name = kind.name) : use.isKnown = true := by
  rw [isKnown, h, Directive.Kind.ofName?_name, Option.isSome_some]

namespace Directive

open Result

/-! ## Arguments -/

section Arguments

variable {location name : String} {kind : Kind} {spec : Argument.Spec}
  {read read' : Dict Argument.Value}

theorem coerce_null (kind : Argument.Kind) : coerce kind .null = .error "null" := by
  cases kind <;> rfl

/-- A written argument is new, it is known, and it is null or has a value of its kind. -/
theorem readArgument_eq_ok {written : String × Value}
    (h : readArgument location kind read written = .ok read') :
    ∃ spec, kind.arguments.find? (·.name = written.1) = some spec ∧
      read.get? written.1 = none ∧
      ((written.2 = .null ∧ read' = read) ∨
        ∃ argument, coerce spec.kind written.2 = .ok argument ∧
          read' = read.insert written.1 argument) := by
  unfold readArgument at h
  dsimp only at h
  split at h
  · cases h
  · next spec hspec =>
    have hname : spec.name = written.1 := by simpa using List.find?_some hspec
    split at h
    · cases h
    · next hnew =>
      rw [hname, Dict.contains, Bool.not_eq_true, Option.isSome_eq_false_iff,
        Option.isNone_iff_eq_none] at hnew
      refine ⟨spec, hspec, hnew, ?_⟩
      split at h
      · next hnull =>
        cases h
        exact Or.inl ⟨hnull, rfl⟩
      · split at h
        · next argument hargument =>
          cases h
          exact Or.inr ⟨argument, hargument, by rw [hname]⟩
        · cases h

theorem get?_readArgument (hspec : kind.arguments.find? (·.name = name) = some spec)
    {written : String × Value} (h : readArgument location kind read written = .ok read')
    (argument : Argument.Value) :
    read'.get? name = some argument ↔ read.get? name = some argument ∨
      written.1 = name ∧ coerce spec.kind written.2 = .ok argument := by
  obtain ⟨spec', hspec', hnew, hread⟩ := readArgument_eq_ok h
  by_cases hname : written.1 = name
  · rw [hname] at hspec' hnew
    cases hspec.symm.trans hspec'
    rcases hread with ⟨hnull, rfl⟩ | ⟨found, hfound, rfl⟩
    · rw [hnull, coerce_null]
      simp
    · rw [hname, Dict.get?_insert_self, hnew, hfound]
      simp
  · rcases hread with ⟨-, rfl⟩ | ⟨found, -, rfl⟩
    · simp [hname]
    · rw [Dict.get?_insert_ne _ _ (Ne.symm hname)]
      simp [hname]

theorem get?_readArguments (hspec : kind.arguments.find? (·.name = name) = some spec)
    {written : List (String × Value)}
    (h : written.foldlM (readArgument location kind) read = .ok read')
    (argument : Argument.Value) :
    read'.get? name = some argument ↔ read.get? name = some argument ∨
      ∃ value, (name, value) ∈ written ∧ coerce spec.kind value = .ok argument := by
  induction written generalizing read with
  | nil =>
    rw [List.foldlM_nil, pure_eq_ok] at h
    simp [h]
  | cons first rest ih =>
    rw [List.foldlM_cons, bind_eq_ok] at h
    obtain ⟨mid, hmid, hrest⟩ := h
    rw [ih hrest, get?_readArgument hspec hmid, or_assoc]
    refine or_congr_right ⟨?_, ?_⟩
    · rintro (⟨rfl, hfirst⟩ | ⟨value, hvalue, hcoerce⟩)
      · exact ⟨first.2, List.mem_cons_self, hfirst⟩
      · exact ⟨value, List.mem_cons_of_mem _ hvalue, hcoerce⟩
    · rintro ⟨value, hvalue, hcoerce⟩
      rcases List.mem_cons.mp hvalue with rfl | hvalue
      · exact Or.inl ⟨rfl, hcoerce⟩
      · exact Or.inr ⟨value, hvalue, hcoerce⟩

end Arguments

/-! ## One directive -/

theorem readAs_eq_ok {location : String} {expected : Location} {kind : Kind} {use : DirectiveUse}
    {d : Directive} (h : readAs location expected kind use = .ok d) :
    d.kind = kind ∧ use.arguments.foldlM (readArgument location kind) [] = .ok d.arguments := by
  unfold readAs at h
  obtain ⟨-, h⟩ := check_eq_ok.mp h
  obtain ⟨arguments, harguments, h⟩ := bind_eq_ok.mp h
  split at h
  · exact absurd h throw_ne_ok
  · cases pure_eq_ok.mp h
    exact ⟨rfl, harguments⟩

theorem read?_eq_some {location : String} {expected : Location} {use : DirectiveUse}
    {d : Directive} (h : read? location expected use = .ok (some d)) :
    Kind.ofName? use.name = some d.kind ∧ readAs location expected d.kind use = .ok d := by
  unfold read? at h
  split at h
  · cases h
  · next kind hkind =>
    have hread : readAs location expected kind use = .ok d := by
      cases hread : readAs location expected kind use with
      | error e =>
        rw [hread] at h
        cases h
      | ok d' =>
        rw [hread] at h
        cases h
        rfl
    rw [(readAs_eq_ok hread).1]
    exact ⟨hkind, hread⟩

section Accessors

variable {d : Directive} {name : String}

theorem string?_eq_some {text : String} :
    d.string? name = some text ↔ d.arguments.get? name = some (.string text) := by
  unfold string?
  cases d.arguments.get? name with
  | none => simp
  | some argument => cases argument <;> simp

theorem requiredString_eq_ok {text : String} (h : d.requiredString name = .ok text) :
    d.string? name = some text := by
  unfold requiredString at h
  split at h
  · next hfound =>
    cases h
    exact hfound
  · cases h

theorem boolean?_eq_some {flag : Bool} :
    d.boolean? name = some flag ↔ d.arguments.get? name = some (.boolean flag) := by
  unfold boolean?
  cases d.arguments.get? name with
  | none => simp
  | some argument => cases argument <;> simp

theorem stringList?_eq_some {texts : List String} :
    d.stringList? name = some texts ↔ d.arguments.get? name = some (.stringList texts) := by
  unfold stringList?
  cases d.arguments.get? name with
  | none => simp
  | some argument => cases argument <;> simp

theorem stringElements_eq_ok {elements : List Value} {texts : List String} :
    stringElements elements = .ok texts ↔ elements = texts.map .string := by
  induction elements generalizing texts with
  | nil => cases texts <;> simp [stringElements]
  | cons element rest ih =>
    cases element with
    | string text =>
      show (stringElements rest).map (text :: ·) = .ok texts ↔ _
      constructor
      · intro h
        cases hrest : stringElements rest with
        | error found =>
          rw [hrest] at h
          cases h
        | ok more =>
          rw [hrest] at h
          cases h
          rw [ih.mp hrest, List.map_cons]
      · intro h
        cases texts with
        | nil => cases h
        | cons first more =>
          rw [List.map_cons, List.cons.injEq] at h
          obtain ⟨hfirst, hrest⟩ := h
          cases hfirst
          rw [ih.mpr hrest]
          rfl
    | _ => cases texts <;> simp [stringElements]

theorem exists_texts_of_coerce {elements : List Value} {argument : Argument.Value}
    (h : coerce .stringList (.list elements) = .ok argument) :
    ∃ texts : List String, elements = texts.map .string := by
  change (stringElements elements).map Argument.Value.stringList = .ok argument at h
  cases helements : stringElements elements with
  | error found =>
    rw [helements] at h
    cases h
  | ok texts => exact ⟨texts, stringElements_eq_ok.mp helements⟩

theorem coerce_stringList {value : Value} {texts : List String} :
    coerce .stringList value = .ok (.stringList texts) ↔ value = .list (texts.map .string) := by
  cases value with
  | list elements =>
    rw [Value.list.injEq, ← stringElements_eq_ok]
    change (stringElements elements).map Argument.Value.stringList = _ ↔ _
    cases stringElements elements <;> simp [Except.map]
  | _ => simp [coerce]

end Accessors

/-- A directive that was read from a written one. -/
def IsReadFrom (d : Directive) (use : DirectiveUse) : Prop :=
  ∃ location expected, read? location expected use = .ok (some d)

namespace IsReadFrom

variable {d : Directive} {use : DirectiveUse} (h : d.IsReadFrom use) {name : String}
include h

theorem ofName?_eq : Kind.ofName? use.name = some d.kind := by
  obtain ⟨location, expected, hread⟩ := h
  exact (read?_eq_some hread).1

theorem name_eq : use.name = d.kind.name := by
  have hfound : Kind.all.find? (fun kind => kind.name = use.name) = some d.kind := h.ofName?_eq
  have hsame := List.find?_some hfound
  exact (of_decide_eq_true hsame).symm

theorem kind_eq {kind : Kind} (hname : use.name = kind.name) : d.kind = kind := by
  have hfound := h.ofName?_eq
  rw [hname, Kind.ofName?_name, Option.some.injEq] at hfound
  exact hfound.symm

/-- What is found under a name was written there. -/
theorem get?_eq_some {spec : Argument.Spec}
    (hspec : d.kind.arguments.find? (·.name = name) = some spec) (argument : Argument.Value) :
    d.arguments.get? name = some argument ↔
      ∃ value, (name, value) ∈ use.arguments ∧ coerce spec.kind value = .ok argument := by
  obtain ⟨location, expected, hread⟩ := h
  have harguments := (readAs_eq_ok (read?_eq_some hread).2).2
  rw [get?_readArguments hspec harguments]
  simp

/-- Nothing is written that the catalog does not know. -/
theorem find?_isSome {value : Value} (hvalue : (name, value) ∈ use.arguments) :
    (d.kind.arguments.find? (·.name = name)).isSome = true := by
  obtain ⟨location, expected, hread⟩ := h
  have harguments := (readAs_eq_ok (read?_eq_some hread).2).2
  obtain ⟨before, after, hstep⟩ := foldlM_visits harguments hvalue
  obtain ⟨spec, hspec, -⟩ := readArgument_eq_ok hstep
  rw [hspec, Option.isSome_some]

/-- Every written argument is null or has a value of its kind. -/
theorem coerce_eq_ok {spec : Argument.Spec}
    (hspec : d.kind.arguments.find? (·.name = name) = some spec) {value : Value}
    (hvalue : (name, value) ∈ use.arguments) :
    value = .null ∨ ∃ argument, coerce spec.kind value = .ok argument := by
  obtain ⟨location, expected, hread⟩ := h
  have harguments := (readAs_eq_ok (read?_eq_some hread).2).2
  obtain ⟨before, after, hstep⟩ := foldlM_visits harguments hvalue
  obtain ⟨spec', hspec', -, hread⟩ := readArgument_eq_ok hstep
  cases hspec.symm.trans hspec'
  exact hread.imp (·.1) fun ⟨argument, hargument, _⟩ => ⟨argument, hargument⟩

variable {required : Bool}

theorem string?_iff (hspec : d.kind.arguments.find? (·.name = name) =
    some ⟨name, .string, required⟩) (text : String) :
    d.string? name = some text ↔ (name, .string text) ∈ use.arguments := by
  have hcoerce (value : Value) : coerce .string value = .ok (.string text) ↔
      value = .string text := by
    cases value <;> simp [coerce]
  have hget := h.get?_eq_some hspec (.string text)
  simp only [hcoerce, exists_eq_right] at hget
  rw [string?_eq_some, hget]

theorem boolean?_iff (hspec : d.kind.arguments.find? (·.name = name) =
    some ⟨name, .boolean, required⟩) (flag : Bool) :
    d.boolean? name = some flag ↔ (name, .boolean flag) ∈ use.arguments := by
  have hcoerce (value : Value) : coerce .boolean value = .ok (.boolean flag) ↔
      value = .boolean flag := by
    cases value <;> simp [coerce]
  have hget := h.get?_eq_some hspec (.boolean flag)
  simp only [hcoerce, exists_eq_right] at hget
  rw [boolean?_eq_some, hget]

/-- The texts of a list are those among its elements. -/
theorem mem_stringList? (hspec : d.kind.arguments.find? (·.name = name) =
    some ⟨name, .stringList, required⟩) (text : String) :
    text ∈ (d.stringList? name).getD [] ↔ use.Lists name text := by
  have hlist (texts : List String) : d.stringList? name = some texts ↔
      (name, .list (texts.map .string)) ∈ use.arguments := by
    have hget := h.get?_eq_some hspec (.stringList texts)
    simp only [coerce_stringList, exists_eq_right] at hget
    rw [stringList?_eq_some, hget]
  constructor
  · intro htext
    cases hfound : d.stringList? name with
    | none =>
      rw [hfound] at htext
      cases htext
    | some texts =>
      rw [hfound] at htext
      exact ⟨_, (hlist texts).mp hfound, List.mem_map_of_mem htext⟩
  · rintro ⟨elements, helements, htext⟩
    rcases h.coerce_eq_ok hspec helements with hnull | ⟨argument, hargument⟩
    · cases hnull
    · obtain ⟨texts, rfl⟩ := exists_texts_of_coerce hargument
      rw [(hlist texts).mpr helements]
      simpa using htext

end IsReadFrom

/-! ## A node -/

/-- The directives read for a node and those that are written there. -/
structure AreReadFrom (ds : List Directive) (uses : List DirectiveUse) : Prop where
  inOrder : List.Forall₂ (fun use d => IsReadFrom d use) (uses.filter (·.isKnown)) ds
  distinct : ds.Pairwise fun d d' => d'.kind.isRepeatable = false → d.kind ≠ d'.kind

theorem readNext_eq_ok {location : String} {expected : Location} {read read' : List Directive}
    {use : DirectiveUse} (h : readNext location expected read use = .ok read') :
    (use.isKnown = false ∧ read' = read) ∨
      ∃ d : Directive, use.isKnown = true ∧ d.IsReadFrom use ∧ read' = read ++ [d] ∧
        (d.kind.isRepeatable = false → ∀ d' ∈ read, d'.kind ≠ d.kind) := by
  unfold readNext at h
  obtain ⟨found, hfound, h⟩ := bind_eq_ok.mp h
  cases found with
  | none =>
    refine Or.inl ⟨?_, (pure_eq_ok.mp h).symm⟩
    unfold read? at hfound
    split at hfound
    · next hunknown => rw [DirectiveUse.isKnown, hunknown, Option.isSome_none]
    · next kind _ => cases hread : readAs location expected kind use <;> rw [hread] at hfound <;>
        cases hfound
  | some d =>
    have hread : d.IsReadFrom use := ⟨location, expected, hfound⟩
    refine Or.inr ⟨d, ?_, hread, ?_⟩
    · rw [DirectiveUse.isKnown, hread.ofName?_eq, Option.isSome_some]
    · dsimp only at h
      split at h
      · exact absurd h throw_ne_ok
      · next hnew =>
        refine ⟨(pure_eq_ok.mp h).symm, fun hsingle d' hd' hsame => hnew ?_⟩
        rw [hsingle, Bool.not_false, Bool.true_and, List.any_eq_true]
        exact ⟨d', hd', decide_eq_true hsame⟩

theorem AreReadFrom.readNext {location : String} {expected : Location}
    {read read' : List Directive} {uses : List DirectiveUse} {use : DirectiveUse}
    (h : AreReadFrom read uses)
    (hnext : Directive.readNext location expected read use = .ok read') :
    AreReadFrom read' (uses ++ [use]) := by
  rcases readNext_eq_ok hnext with ⟨hunknown, rfl⟩ | ⟨d, hknown, hd, rfl, hnew⟩
  · refine ⟨?_, h.distinct⟩
    rw [List.filter_append, List.filter_singleton, hunknown]
    simpa using h.inOrder
  · refine ⟨?_, List.pairwise_append.mpr ⟨h.distinct, List.pairwise_singleton _ _, ?_⟩⟩
    · rw [List.filter_append, List.filter_singleton, hknown]
      exact List.rel_append h.inOrder (List.Forall₂.cons hd .nil)
    · intro d' hd' _ hlast hsingle
      rw [List.mem_singleton] at hlast
      subst hlast
      exact hnew hsingle d' hd'

theorem AreReadFrom.readMore {location : String} {expected : Location}
    {read read' : List Directive} {uses more : List DirectiveUse} (h : AreReadFrom read uses)
    (hmore : more.foldlM (Directive.readNext location expected) read = .ok read') :
    AreReadFrom read' (uses ++ more) := by
  induction more generalizing read uses with
  | nil =>
    cases pure_eq_ok.mp hmore
    rwa [List.append_nil]
  | cons use rest ih =>
    rw [List.foldlM_cons, bind_eq_ok] at hmore
    obtain ⟨mid, hmid, hrest⟩ := hmore
    rw [List.append_cons]
    exact ih (h.readNext hmid) hrest

theorem readAll_eq_ok {location : String} {expected : Location} {uses : List DirectiveUse}
    {ds : List Directive} (h : readAll location expected uses = .ok ds) :
    AreReadFrom ds uses := by
  have hnone : AreReadFrom [] [] := ⟨.nil, .nil⟩
  exact hnone.readMore h

namespace AreReadFrom

variable {ds : List Directive} {uses : List DirectiveUse} (h : AreReadFrom ds uses)
include h

theorem exists_use {d : Directive} (hd : d ∈ ds) : ∃ use ∈ uses, d.IsReadFrom use := by
  obtain ⟨use, huse, hread⟩ := exists_of_mem_forall₂ h.inOrder hd
  exact ⟨use, (List.mem_filter.mp huse).1, hread⟩

theorem exists_read {use : DirectiveUse} (huse : use ∈ uses) (hknown : use.isKnown = true) :
    ∃ d ∈ ds, d.IsReadFrom use :=
  exists_of_mem_forall₂ h.inOrder.flip (List.mem_filter.mpr ⟨huse, hknown⟩)

/-- A directive that may stand at a node only once is the one that is found there. -/
theorem find?_kind {kind : Kind} (hsingle : kind.isRepeatable = false) {d : Directive} :
    ds.find? (·.kind = kind) = some d ↔ d ∈ ds ∧ d.kind = kind := by
  constructor
  · intro hfound
    have hkind := List.find?_some hfound
    exact ⟨List.mem_of_find?_eq_some hfound, of_decide_eq_true hkind⟩
  · rintro ⟨hd, rfl⟩
    cases hfound : ds.find? (·.kind = d.kind) with
    | none => exact absurd (decide_eq_true rfl) (List.find?_eq_none.mp hfound d hd)
    | some d' =>
      have hsame := List.find?_some hfound
      have hkind : d'.kind = d.kind := of_decide_eq_true hsame
      have hsymm : Std.Symm fun d d' : Directive =>
          d'.kind.isRepeatable = false → d.kind ≠ d'.kind :=
        ⟨fun _ _ hne hsingle heq => hne (heq ▸ hsingle) heq.symm⟩
      refine congrArg some (by_contra fun hne => ?_)
      exact h.distinct.forall (List.mem_of_find?_eq_some hfound) hd hne hsingle hkind

end AreReadFrom

end Directive

end Keyspace.Schema
