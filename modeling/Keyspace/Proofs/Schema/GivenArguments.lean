import Keyspace.Proofs.Schema.Directives

/-!
# The arguments a directive is given

A directive is read where it may stand, if its arguments are known, have values of their kinds
and no required one is missing. What is read are the arguments that are given, in whatever order
they are written. A null argument leaves no trace, so that the same argument may be written again
behind it. Only then is a repeated argument accepted, and only then does the order matter.
-/
namespace Keyspace.Schema

/-- What a written value is as an argument of a kind. -/
inductive Argument.Kind.Accepts : Argument.Kind → Schema.Value → Argument.Value → Prop
  | string (text : String) : Accepts .string (.string text) (.string text)
  | boolean (flag : Bool) : Accepts .boolean (.boolean flag) (.boolean flag)
  | int {n : Int} (h : fitsInt64 n = true) : Accepts .int (.int n) (.int n)
  | enum {allowed : List String} {name : String} (h : name ∈ allowed) :
      Accepts (.enum allowed) (.enum name) (.enum name)
  | stringList (texts : List String) :
      Accepts .stringList (.list (texts.map .string)) (.stringList texts)

theorem Argument.Kind.Accepts.ne_null {kind : Argument.Kind} {value : Schema.Value}
    {argument : Argument.Value} (h : kind.Accepts value argument) : value ≠ .null := by
  rintro rfl
  cases h

namespace DirectiveUse

/-- Whole numbers are written in 64 bits, as every document has them. -/
def HasInt64s (use : DirectiveUse) : Prop :=
  ∀ name n, (name, Value.int n) ∈ use.arguments → fitsInt64 n = true

/-- An argument is written with a value other than null. -/
def Gives (use : DirectiveUse) (name : String) (value : Value) : Prop :=
  (name, value) ∈ use.arguments ∧ value ≠ .null

def argumentNames (use : DirectiveUse) : List String := use.arguments.map (·.1)

/-- What the catalog asks of a use, how often an argument is written apart. -/
structure Fits (use : DirectiveUse) (expected : Directive.Location) (kind : Directive.Kind) :
    Prop where
  location : kind.location = expected
  known : ∀ name ∈ use.argumentNames, ∃ spec ∈ kind.arguments, spec.name = name
  typed : ∀ spec ∈ kind.arguments, ∀ value, use.Gives spec.name value →
    ∃ argument, spec.kind.Accepts value argument
  required : ∀ spec ∈ kind.arguments, spec.required = true → ∃ value, use.Gives spec.name value

/-- An argument is written again only where it was null before. -/
def OnlyNullsRepeat (use : DirectiveUse) : Prop :=
  use.arguments.Pairwise fun first later => first.1 = later.1 → first.2 = .null

theorem Fits.perm {use use' : DirectiveUse} {expected : Directive.Location}
    {kind : Directive.Kind} (h : use.Fits expected kind)
    (hperm : use'.arguments.Perm use.arguments) : use'.Fits expected kind where
  location := h.location
  known name hname := h.known name ((hperm.map _).mem_iff.mp hname)
  typed spec hspec value hvalue := h.typed spec hspec value ⟨hperm.mem_iff.mp hvalue.1, hvalue.2⟩
  required spec hspec hrequired := by
    obtain ⟨value, hvalue, hnull⟩ := h.required spec hspec hrequired
    exact ⟨value, hperm.mem_iff.mpr hvalue, hnull⟩

theorem onlyNullsRepeat_of_nodup {use : DirectiveUse} (h : use.argumentNames.Nodup) :
    use.OnlyNullsRepeat :=
  (List.pairwise_map.mp h).imp fun hne hsame => absurd hsame hne

end DirectiveUse

namespace Directive

open Result

/-- A directive is of a kind, and holds exactly the arguments that a use gives. -/
structure Holds (d : Directive) (location : String) (kind : Kind) (use : DirectiveUse) :
    Prop where
  kind_eq : d.kind = kind
  location_eq : d.location = location
  ordered : Dict.Ordered d.arguments
  argument : ∀ name argument, d.arguments.get? name = some argument ↔
    ∃ spec ∈ kind.arguments, spec.name = name ∧
      ∃ value, use.Gives name value ∧ spec.kind.Accepts value argument

/-- A use is read exactly if it fits the catalog and repeats nothing, as what it gives and in
whatever order. -/
structure ReadsAsGiven (location : String) (expected : Location) (kind : Kind)
    (use : DirectiveUse) : Prop where
  accepted : (∃ d, read? location expected use = .ok (some d)) ↔
    use.Fits expected kind ∧ use.argumentNames.Nodup
  held : ∀ d, read? location expected use = .ok (some d) → d.Holds location kind use
  unordered : ∀ d use', read? location expected use = .ok (some d) → use'.name = use.name →
    use'.arguments.Perm use.arguments → read? location expected use' = .ok (some d)

theorem Holds.unique {d d' : Directive} {location : String} {kind : Kind} {use : DirectiveUse}
    (h : d.Holds location kind use) (h' : d'.Holds location kind use) : d = d' := by
  have harguments : d.arguments = d'.arguments :=
    h.ordered.ext h'.ordered fun name => Option.ext fun argument =>
      (h.argument name argument).trans (h'.argument name argument).symm
  cases d
  cases d'
  cases h.kind_eq
  cases h'.kind_eq
  cases h.location_eq
  cases h'.location_eq
  exact congrArg _ harguments

theorem Holds.perm {d : Directive} {location : String} {kind : Kind} {use use' : DirectiveUse}
    (h : d.Holds location kind use) (hperm : use'.arguments.Perm use.arguments) :
    d.Holds location kind use' := by
  refine ⟨h.kind_eq, h.location_eq, h.ordered, fun name argument => ?_⟩
  simp only [h.argument, DirectiveUse.Gives, hperm.mem_iff]

/-! ## Values and the catalog -/

theorem coerce_eq_ok_iff {kind : Argument.Kind} {value : Value} {argument : Argument.Value}
    (hint : ∀ n, value = .int n → fitsInt64 n = true) :
    coerce kind value = .ok argument ↔ kind.Accepts value argument := by
  constructor
  · intro h
    cases kind with
    | string =>
      cases value <;> cases h
      exact .string _
    | boolean =>
      cases value <;> cases h
      exact .boolean _
    | int =>
      cases value <;> cases h
      exact .int (hint _ rfl)
    | enum allowed =>
      cases value with
      | enum name =>
        change (if allowed.contains name then _ else _) = _ at h
        split at h
        · next hallowed =>
          cases h
          exact .enum (List.contains_iff_mem.mp hallowed)
        · cases h
      | _ => cases h
    | stringList =>
      cases value with
      | list elements =>
        obtain ⟨texts, rfl⟩ := exists_texts_of_coerce h
        rw [coerce_stringList.mpr rfl] at h
        cases h
        exact .stringList texts
      | _ => cases h
  · intro h
    cases h with
    | string | boolean | int => rfl
    | enum hallowed => exact if_pos (List.contains_iff_mem.mpr hallowed)
    | stringList texts => exact coerce_stringList.mpr rfl

/-- The arguments of an entry have different names, so a name finds its own. -/
theorem find?_arguments {kind : Kind} {name : String} {spec : Argument.Spec} :
    kind.arguments.find? (·.name = name) = some spec ↔
      spec ∈ kind.arguments ∧ spec.name = name := by
  have hdistinct : (kind.arguments.map (·.name)).Nodup := by cases kind <;> decide
  constructor
  · intro h
    have hname := List.find?_some h
    exact ⟨List.mem_of_find?_eq_some h, of_decide_eq_true hname⟩
  · rintro ⟨hspec, rfl⟩
    cases hfound : kind.arguments.find? (·.name = spec.name) with
    | none => exact absurd (decide_eq_true rfl) (List.find?_eq_none.mp hfound spec hspec)
    | some other =>
      have hname := List.find?_some hfound
      rw [List.inj_on_of_nodup_map hdistinct (List.mem_of_find?_eq_some hfound) hspec
        (of_decide_eq_true hname)]

/-! ## Reading the arguments one after the other -/

section Arguments

variable {location : String} {kind : Kind}

/-- A written argument is in the catalog, and it is null or has a value of its kind. -/
def IsReadable (kind : Kind) (written : String × Value) : Prop :=
  ∃ spec, kind.arguments.find? (·.name = written.1) = some spec ∧
    (written.2 = .null ∨ ∃ argument, coerce spec.kind written.2 = .ok argument)

theorem readArgument_of_new (location : String) {read : Dict Argument.Value}
    {written : String × Value} {spec : Argument.Spec}
    (hspec : kind.arguments.find? (·.name = written.1) = some spec)
    (hnew : read.get? written.1 = none) :
    (written.2 = .null → readArgument location kind read written = .ok read) ∧
      ∀ argument, coerce spec.kind written.2 = .ok argument →
        readArgument location kind read written = .ok (read.insert written.1 argument) := by
  have hname : spec.name = written.1 := (find?_arguments.mp hspec).2
  have hfirst : ¬ read.contains spec.name = true := by
    rw [hname, Dict.contains, hnew]
    exact Bool.false_ne_true
  obtain ⟨name, value⟩ := written
  unfold readArgument
  dsimp only at hspec hname ⊢
  rw [hspec]
  dsimp only
  rw [if_neg hfirst]
  constructor
  · rintro rfl
    rfl
  · intro argument hargument
    rw [hname]
    cases value with
    | null =>
      rw [coerce_null] at hargument
      cases hargument
    | _ =>
      dsimp only
      rw [hargument]

/-- Arguments are read if each can be, none is read already, and none repeats a value. -/
theorem exists_readArguments_iff {written : List (String × Value)} {read : Dict Argument.Value} :
    (∃ read', written.foldlM (readArgument location kind) read = .ok read') ↔
      (∀ argument ∈ written, IsReadable kind argument ∧ read.get? argument.1 = none) ∧
        written.Pairwise fun first later => first.1 = later.1 → first.2 = .null := by
  induction written generalizing read with
  | nil => simp [pure_eq_ok]
  | cons first rest ih =>
    have hcons : (∃ read', (first :: rest).foldlM (readArgument location kind) read = .ok read') ↔
        ∃ mid, readArgument location kind read first = .ok mid ∧
          ∃ read', rest.foldlM (readArgument location kind) mid = .ok read' := by
      simp only [List.foldlM_cons, bind_eq_ok]
      exact ⟨fun ⟨read', mid, hmid, hrest⟩ => ⟨mid, hmid, read', hrest⟩,
        fun ⟨mid, hmid, read', hrest⟩ => ⟨read', mid, hmid, hrest⟩⟩
    rw [hcons, List.forall_mem_cons, List.pairwise_cons]
    constructor
    · rintro ⟨mid, hmid, hrest⟩
      obtain ⟨hlater, hpairs⟩ := ih.mp hrest
      obtain ⟨spec, hspec, hnew, ⟨hnull, rfl⟩ | ⟨argument, hargument, rfl⟩⟩ :=
        readArgument_eq_ok hmid
      · exact ⟨⟨⟨⟨spec, hspec, Or.inl hnull⟩, hnew⟩, hlater⟩, fun _ _ _ => hnull, hpairs⟩
      · refine ⟨⟨⟨⟨spec, hspec, Or.inr ⟨argument, hargument⟩⟩, hnew⟩, fun later hmem => ?_⟩,
          fun later hmem hsame => ?_, hpairs⟩
        · obtain ⟨hreadable, hfree⟩ := hlater later hmem
          have hother : later.1 ≠ first.1 := by
            rintro hsame
            rw [hsame, Dict.get?_insert_self] at hfree
            cases hfree
          exact ⟨hreadable, (Dict.get?_insert_ne _ _ hother).symm.trans hfree⟩
        · have hfree := (hlater later hmem).2
          rw [← hsame, Dict.get?_insert_self] at hfree
          cases hfree
    · rintro ⟨⟨⟨⟨spec, hspec, hvalue⟩, hnew⟩, hlater⟩, hfirst, hpairs⟩
      obtain ⟨hskips, hinserts⟩ := readArgument_of_new location hspec hnew
      by_cases hnull : first.2 = .null
      · exact ⟨read, hskips hnull, ih.mpr ⟨hlater, hpairs⟩⟩
      · obtain ⟨argument, hargument⟩ := hvalue.resolve_left hnull
        refine ⟨_, hinserts argument hargument, ih.mpr ⟨fun later hmem => ?_, hpairs⟩⟩
        obtain ⟨hreadable, hfree⟩ := hlater later hmem
        have hother : later.1 ≠ first.1 := fun hsame => hnull (hfirst later hmem hsame.symm)
        exact ⟨hreadable, (Dict.get?_insert_ne _ _ hother).trans hfree⟩

theorem ordered_readArguments {written : List (String × Value)} {read read' : Dict Argument.Value}
    (hread : read.Ordered) (h : written.foldlM (readArgument location kind) read = .ok read') :
    read'.Ordered := by
  refine foldlM_keeps (fun acc argument acc' _ hacc hstep => ?_) hread h
  obtain ⟨spec, -, -, ⟨-, rfl⟩ | ⟨found, -, rfl⟩⟩ := readArgument_eq_ok hstep
  · exact hacc
  · exact hacc.insert _ _

/-- Nothing is read under a name that the catalog does not have. -/
theorem exists_spec_of_get? {written : List (String × Value)} {read : Dict Argument.Value}
    (h : written.foldlM (readArgument location kind) [] = .ok read) {name : String}
    {argument : Argument.Value} (hfound : read.get? name = some argument) :
    ∃ spec, kind.arguments.find? (·.name = name) = some spec := by
  refine foldlM_keeps (P := fun read : Dict Argument.Value => ∀ argument,
    read.get? name = some argument → ∃ spec, kind.arguments.find? (·.name = name) = some spec)
    (fun acc written acc' _ hacc hstep argument hfound => ?_) (by simp) h argument hfound
  obtain ⟨spec, hspec, -, ⟨-, rfl⟩ | ⟨new, -, rfl⟩⟩ := readArgument_eq_ok hstep
  · exact hacc argument hfound
  · by_cases hname : name = written.1
    · exact ⟨spec, hname ▸ hspec⟩
    · exact hacc argument ((Dict.get?_insert_ne _ _ hname).symm.trans hfound)

end Arguments

/-! ## Reading a directive -/

section Reading

variable {location : String} {expected : Location} {kind : Kind} {use : DirectiveUse}

theorem read?_eq_readAs (hkind : Kind.ofName? use.name = some kind) {d : Directive} :
    read? location expected use = .ok (some d) ↔ readAs location expected kind use = .ok d := by
  unfold read?
  rw [hkind]
  dsimp only
  cases readAs location expected kind use <;> simp [Except.map]

theorem missing?_eq_none {read : Dict Argument.Value} : missing? kind read = none ↔
    ∀ spec ∈ kind.arguments, spec.required = true →
      ∃ argument, read.get? spec.name = some argument := by
  unfold missing?
  simp only [List.find?_eq_none, Bool.and_eq_true, Bool.not_eq_true', not_and,
    Bool.not_eq_false, Dict.contains, Option.isSome_iff_exists]

theorem readAs_iff {d : Directive} : readAs location expected kind use = .ok d ↔
    kind.location = expected ∧ d.kind = kind ∧ d.location = location ∧
      use.arguments.foldlM (readArgument location kind) [] = .ok d.arguments ∧
      missing? kind d.arguments = none := by
  unfold readAs
  rw [check_eq_ok, not_not]
  refine and_congr_right fun _ => ?_
  rw [bind_eq_ok]
  constructor
  · rintro ⟨arguments, harguments, h⟩
    split at h
    · exact absurd h throw_ne_ok
    · next hnone =>
      cases pure_eq_ok.mp h
      exact ⟨rfl, rfl, harguments, hnone⟩
  · rintro ⟨rfl, rfl, harguments, hnone⟩
    refine ⟨d.arguments, harguments, ?_⟩
    rw [hnone]
    rfl

variable (hints : use.HasInt64s)
include hints

theorem coerce_written {name : String} {value : Value} (hvalue : (name, value) ∈ use.arguments)
    {argumentKind : Argument.Kind} {argument : Argument.Value} :
    coerce argumentKind value = .ok argument ↔ argumentKind.Accepts value argument :=
  coerce_eq_ok_iff fun n hn => hints name n (hn ▸ hvalue)

theorem holds_of_readAs {d : Directive} (h : readAs location expected kind use = .ok d) :
    d.Holds location kind use := by
  obtain ⟨-, hkind, hlocation, harguments, -⟩ := readAs_iff.mp h
  refine ⟨hkind, hlocation, ordered_readArguments Dict.ordered_nil harguments,
    fun name argument => ?_⟩
  constructor
  · intro hfound
    obtain ⟨spec, hspec⟩ := exists_spec_of_get? harguments hfound
    rw [get?_readArguments hspec harguments] at hfound
    obtain ⟨value, hvalue, hcoerce⟩ := hfound.resolve_left (by simp)
    obtain ⟨hmem, hname⟩ := find?_arguments.mp hspec
    have haccepts := (coerce_written hints hvalue).mp hcoerce
    exact ⟨spec, hmem, hname, value, ⟨hvalue, haccepts.ne_null⟩, haccepts⟩
  · rintro ⟨spec, hmem, hname, value, ⟨hvalue, -⟩, haccepts⟩
    rw [get?_readArguments (find?_arguments.mpr ⟨hmem, hname⟩) harguments]
    exact Or.inr ⟨value, hvalue, (coerce_written hints hvalue).mpr haccepts⟩

/-- What is accepted, exactly. -/
theorem exists_read?_iff (hkind : Kind.ofName? use.name = some kind) :
    (∃ d, read? location expected use = .ok (some d)) ↔
      use.Fits expected kind ∧ use.OnlyNullsRepeat := by
  have hreadable (argument : String × Value) (hargument : argument ∈ use.arguments) :
      IsReadable kind argument ↔ ∃ spec ∈ kind.arguments, spec.name = argument.1 ∧
        (argument.2 = .null ∨ ∃ found, spec.kind.Accepts argument.2 found) := by
    unfold IsReadable
    simp only [find?_arguments, coerce_written hints hargument, and_assoc]
  constructor
  · rintro ⟨d, hd⟩
    have hread := (read?_eq_readAs hkind).mp hd
    obtain ⟨hlocation, -, -, harguments, hmissing⟩ := readAs_iff.mp hread
    obtain ⟨hwritten, hrepeats⟩ := exists_readArguments_iff.mp ⟨d.arguments, harguments⟩
    refine ⟨⟨hlocation, fun name hname => ?_, fun spec hspec value hvalue => ?_,
      fun spec hspec hrequired => ?_⟩, hrepeats⟩
    · obtain ⟨argument, hargument, rfl⟩ := List.mem_map.mp hname
      obtain ⟨spec, hspec, hname, -⟩ := (hreadable _ hargument).mp (hwritten _ hargument).1
      exact ⟨spec, hspec, hname⟩
    · obtain ⟨other, hother, hname, hfound⟩ := (hreadable _ hvalue.1).mp (hwritten _ hvalue.1).1
      cases (find?_arguments.mpr ⟨hspec, rfl⟩).symm.trans (find?_arguments.mpr ⟨hother, hname⟩)
      exact hfound.resolve_left hvalue.2
    · obtain ⟨argument, hfound⟩ := missing?_eq_none.mp hmissing spec hspec hrequired
      obtain ⟨-, -, -, value, hvalue, -⟩ := ((holds_of_readAs hints hread).argument _ _).mp hfound
      exact ⟨value, hvalue⟩
  · rintro ⟨hfits, hrepeats⟩
    have hwritten : ∀ argument ∈ use.arguments,
        IsReadable kind argument ∧ Dict.get? ([] : Dict Argument.Value) argument.1 = none := by
      intro argument hargument
      obtain ⟨spec, hspec, hname⟩ := hfits.known _ (List.mem_map_of_mem hargument)
      refine ⟨(hreadable _ hargument).mpr ⟨spec, hspec, hname, or_iff_not_imp_left.mpr ?_⟩, rfl⟩
      exact fun hnull => hfits.typed spec hspec _ ⟨hname ▸ hargument, hnull⟩
    have hread : ∃ read, use.arguments.foldlM (readArgument location kind) [] = .ok read :=
      exists_readArguments_iff.mpr ⟨hwritten, hrepeats⟩
    obtain ⟨arguments, harguments⟩ := hread
    refine ⟨⟨kind, location, arguments⟩, (read?_eq_readAs hkind).mpr (readAs_iff.mpr
      ⟨hfits.location, rfl, rfl, harguments, missing?_eq_none.mpr fun spec hspec hrequired => ?_⟩)⟩
    obtain ⟨value, hvalue⟩ := hfits.required spec hspec hrequired
    obtain ⟨argument, haccepts⟩ := hfits.typed spec hspec value hvalue
    refine ⟨argument, (get?_readArguments (find?_arguments.mpr ⟨hspec, rfl⟩) harguments _).mpr ?_⟩
    exact Or.inr ⟨value, hvalue.1, (coerce_written hints hvalue.1).mpr haccepts⟩

/-- A directive of the catalog is accepted exactly if it fits its entry and repeats an argument
only behind nulls. Hence it is read as it is given, whatever the order, unless an argument that is
written as null is written again. -/
theorem readsAsGiven_iff (hkind : Kind.ofName? use.name = some kind) :
    ((∃ d, read? location expected use = .ok (some d)) ↔
      use.Fits expected kind ∧ use.OnlyNullsRepeat) ∧
    (ReadsAsGiven location expected kind use ↔
      (use.Fits expected kind → use.OnlyNullsRepeat → use.argumentNames.Nodup)) := by
  refine ⟨exists_read?_iff hints hkind, fun h hfits hrepeats => ?_, fun h => ?_⟩
  · exact (h.accepted.mp ((exists_read?_iff hints hkind).mpr ⟨hfits, hrepeats⟩)).2
  have hheld (d : Directive) (hd : read? location expected use = .ok (some d)) :
      d.Holds location kind use := holds_of_readAs hints ((read?_eq_readAs hkind).mp hd)
  refine ⟨?_, hheld, fun d use' hd hname hperm => ?_⟩
  · rw [exists_read?_iff hints hkind]
    exact and_congr_right fun hfits =>
      ⟨h hfits, DirectiveUse.onlyNullsRepeat_of_nodup⟩
  · have hkind' : Kind.ofName? use'.name = some kind := hname ▸ hkind
    have hints' : use'.HasInt64s := fun name n hn => hints name n (hperm.mem_iff.mp hn)
    obtain ⟨hfits, hrepeats⟩ := (exists_read?_iff hints hkind).mp ⟨d, hd⟩
    have hdistinct : use'.argumentNames.Nodup :=
      (hperm.map _).nodup_iff.mpr (h hfits hrepeats)
    have haccepted : ∃ d', read? location expected use' = .ok (some d') :=
      (exists_read?_iff hints' hkind').mpr
        ⟨hfits.perm hperm, DirectiveUse.onlyNullsRepeat_of_nodup hdistinct⟩
    obtain ⟨d', hd'⟩ := haccepted
    have hsame := (holds_of_readAs hints' ((read?_eq_readAs hkind').mp hd')).unique
      ((hheld d hd).perm hperm)
    rw [hd', hsame]

end Reading

/-- Arguments in another order than the catalog's, one of them null. -/
theorem reaction_is_read_as_given :
    Kind.ofName? "reacts" = some .reacts ∧
    DirectiveUse.HasInt64s
      ⟨"reacts", [("memorySize", .int 512), ("handler", .null), ("event", .enum "INSERT")]⟩ ∧
    ReadsAsGiven "Order" .type .reacts
      ⟨"reacts", [("memorySize", .int 512), ("handler", .null), ("event", .enum "INSERT")]⟩ ∧
    read? "Order" .type
      ⟨"reacts", [("memorySize", .int 512), ("handler", .null), ("event", .enum "INSERT")]⟩ =
        .ok (some ⟨.reacts, "Order", [("event", .enum "INSERT"), ("memorySize", .int 512)]⟩) := by
  have hints : DirectiveUse.HasInt64s
      ⟨"reacts", [("memorySize", .int 512), ("handler", .null), ("event", .enum "INSERT")]⟩ := by
    intro name n hn
    simp only [List.mem_cons, Prod.mk.injEq, Value.int.injEq, reduceCtorEq, and_false, or_false,
      List.not_mem_nil] at hn
    obtain ⟨-, rfl⟩ := hn
    decide
  refine ⟨rfl, hints, (readsAsGiven_iff hints rfl).2.mpr fun _ _ => ?_, rfl⟩
  decide

/-- A name that is null and then given again is accepted, though it is written twice. The other
way round it is refused. -/
theorem null_name_is_given_again :
    read? "Order" .type ⟨"table", [("name", .null), ("name", .string "A")]⟩ =
      .ok (some ⟨.table, "Order", [("name", .string "A")]⟩) ∧
    read? "Order" .type ⟨"table", [("name", .string "A"), ("name", .null)]⟩ =
      .error (.directive "Order" "table" "name" "is given more than once") ∧
    ¬ ReadsAsGiven "Order" .type .table ⟨"table", [("name", .null), ("name", .string "A")]⟩ := by
  have hread : read? "Order" .type ⟨"table", [("name", .null), ("name", .string "A")]⟩ =
      .ok (some ⟨.table, "Order", [("name", .string "A")]⟩) := rfl
  refine ⟨hread, rfl, fun h => ?_⟩
  have hdistinct := (h.accepted.mp ⟨_, hread⟩).2
  revert hdistinct
  decide

end Directive

end Keyspace.Schema
