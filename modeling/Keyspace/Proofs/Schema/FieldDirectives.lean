import Keyspace.Proofs.Schema.Directives

/-!
# Directives of a field

A field has the directives that are written at it, and from each interface of its type, in their
order, those of a kind that it does not have yet. So it has at most one of a kind, from the first
place where one is written. It does not matter where a directive is read: written out at the
field, the directives of the interfaces are read as they are there.
-/
namespace Keyspace.Schema

namespace DirectiveUse

/-- The kind of a written directive, if the catalog has one. -/
def kind? (use : DirectiveUse) : Option Directive.Kind := Directive.Kind.ofName? use.name

/-- Whether a directive of a kind is written in a list. -/
def declares (uses : List DirectiveUse) (kind : Directive.Kind) : Bool :=
  uses.any fun use => use.kind? = some kind

/-- Adds the directives of the catalog whose kind is not in the list. -/
def addMissing (uses more : List DirectiveUse) : List DirectiveUse :=
  uses ++ more.filter fun use => use.kind?.any fun kind => !declares uses kind

/-- A directive of a kind is from the first list that has one. -/
def Prevails (kind : Directive.Kind) (use : DirectiveUse) : List (List DirectiveUse) → Prop
  | [] => False
  | uses :: rest =>
    (use ∈ uses ∧ use.kind? = some kind) ∨ (declares uses kind = false ∧ Prevails kind use rest)

variable {uses more : List DirectiveUse} {kind : Directive.Kind} {use : DirectiveUse}

theorem isKnown_of_kind? (h : use.kind? = some kind) : use.isKnown = true := by
  rw [isKnown, ← kind?, h, Option.isSome_some]

theorem Prevails.kind_eq {sources : List (List DirectiveUse)} (h : Prevails kind use sources) :
    use.kind? = some kind := by
  induction sources with
  | nil => exact h.elim
  | cons uses rest ih =>
    rcases h with ⟨-, hkind⟩ | ⟨-, hlater⟩
    · exact hkind
    · exact ih hlater

theorem declares_iff : declares uses kind = true ↔ ∃ use ∈ uses, use.kind? = some kind := by
  simp [declares]

theorem mem_addMissing (hkind : use.kind? = some kind) :
    use ∈ addMissing uses more ↔ use ∈ uses ∨ use ∈ more ∧ declares uses kind = false := by
  simp [addMissing, hkind]

theorem declares_addMissing :
    declares (addMissing uses more) kind = (declares uses kind || declares more kind) := by
  rw [Bool.eq_iff_iff, Bool.or_eq_true]
  simp only [declares_iff]
  constructor
  · rintro ⟨use, huse, hkind⟩
    rcases (mem_addMissing hkind).mp huse with huse | ⟨huse, -⟩
    · exact Or.inl ⟨use, huse, hkind⟩
    · exact Or.inr ⟨use, huse, hkind⟩
  · rintro (⟨use, huse, hkind⟩ | ⟨use, huse, hkind⟩)
    · exact ⟨use, (mem_addMissing hkind).mpr (Or.inl huse), hkind⟩
    · cases hdeclared : declares uses kind with
      | false => exact ⟨use, (mem_addMissing hkind).mpr (Or.inr ⟨huse, hdeclared⟩), hkind⟩
      | true =>
        obtain ⟨own, hown, hsame⟩ := declares_iff.mp hdeclared
        exact ⟨own, (mem_addMissing hsame).mpr (Or.inl hown), hsame⟩

theorem declares_foldl (sources : List (List DirectiveUse)) :
    declares (sources.foldl addMissing uses) kind =
      (declares uses kind || sources.any (declares · kind)) := by
  induction sources generalizing uses with
  | nil => simp
  | cons more sources ih => simp [ih, declares_addMissing, Bool.or_assoc]

/-- What is added list by list prevails over the lists that come later. -/
theorem mem_foldl_addMissing (hkind : use.kind? = some kind) (sources : List (List DirectiveUse)) :
    use ∈ sources.foldl addMissing uses ↔ Prevails kind use (uses :: sources) := by
  induction sources generalizing uses with
  | nil => simp [Prevails, hkind]
  | cons more sources ih =>
    rw [List.foldl_cons, ih]
    simp only [Prevails, mem_addMissing hkind, declares_addMissing, hkind, Bool.or_eq_false_iff]
    tauto

end DirectiveUse

namespace Directive

open DirectiveUse Result

/-! ## Where a directive is read -/

/-- The directive as it is read at another place. -/
def relocated (location : String) (d : Directive) : Directive := { d with location := location }

section Relocated

variable (location name : String) (d : Directive)

@[simp] theorem string?_relocated : (d.relocated location).string? name = d.string? name := rfl

theorem requiredString_relocated {text : String} (h : d.requiredString name = .ok text) :
    (d.relocated location).requiredString name = .ok text := by
  rw [requiredString, string?_relocated, requiredString_eq_ok h]

theorem find?_relocated (ds : List Directive) (kind : Kind) :
    (ds.map (relocated location)).find? (·.kind = kind) =
      (ds.find? (·.kind = kind)).map (relocated location) := by
  rw [List.find?_map]
  rfl

end Relocated

theorem readArgument_relocated {location location' : String} {kind : Kind}
    {read read' : Dict Argument.Value} {written : String × Value}
    (h : readArgument location kind read written = .ok read') :
    readArgument location' kind read written = .ok read' := by
  unfold readArgument at h ⊢
  dsimp only at h ⊢
  split at h
  · cases h
  · split at h
    · cases h
    · next hnew =>
      rw [if_neg hnew]
      split at h
      · exact h
      · split at h
        · exact h
        · cases h

theorem readArguments_relocated {location location' : String} {kind : Kind}
    {written : List (String × Value)} {read read' : Dict Argument.Value}
    (h : written.foldlM (readArgument location kind) read = .ok read') :
    written.foldlM (readArgument location' kind) read = .ok read' := by
  induction written generalizing read with
  | nil => exact h
  | cons first rest ih =>
    rw [List.foldlM_cons, bind_eq_ok] at h ⊢
    obtain ⟨mid, hmid, hrest⟩ := h
    exact ⟨mid, readArgument_relocated hmid, ih hrest⟩

theorem readAs_location {location : String} {expected : Location} {kind : Kind} {use : DirectiveUse}
    {d : Directive} (h : readAs location expected kind use = .ok d) :
    kind.location = expected ∧ d.location = location := by
  unfold readAs at h
  obtain ⟨hplace, h⟩ := check_eq_ok.mp h
  obtain ⟨arguments, -, h⟩ := bind_eq_ok.mp h
  split at h
  · exact absurd h throw_ne_ok
  · cases pure_eq_ok.mp h
    exact ⟨not_ne_iff.mp hplace, rfl⟩

theorem readAs_relocated {location location' : String} {expected : Location} {kind : Kind}
    {use : DirectiveUse} {d : Directive} (h : readAs location expected kind use = .ok d) :
    readAs location' expected kind use = .ok (d.relocated location') := by
  unfold readAs at h ⊢
  obtain ⟨hplace, h⟩ := check_eq_ok.mp h
  obtain ⟨arguments, harguments, h⟩ := bind_eq_ok.mp h
  refine check_eq_ok.mpr
    ⟨hplace, bind_eq_ok.mpr ⟨arguments, readArguments_relocated harguments, ?_⟩⟩
  split at h
  · exact absurd h throw_ne_ok
  · cases pure_eq_ok.mp h
    rfl

/-- What could be read somewhere can be read in the same way anywhere. -/
theorem IsReadFrom.read?_relocated {d : Directive} {use : DirectiveUse} (h : d.IsReadFrom use)
    (location : String) :
    read? location d.kind.location use = .ok (some (d.relocated location)) := by
  obtain ⟨location', expected, hread⟩ := h
  obtain ⟨hkind, hread⟩ := read?_eq_some hread
  rw [(readAs_location hread).1]
  unfold read?
  rw [hkind]
  dsimp only
  rw [readAs_relocated hread]
  rfl

/-! ## The directives of a field -/

/-- Directives of fields, each of a kind of its own, and the list they are written in. -/
structure AreFieldDirectives (ds : List Directive) (uses : List DirectiveUse) : Prop where
  inOrder : List.Forall₂ (fun use d => IsReadFrom d use) (uses.filter (·.isKnown)) ds
  onField : ∀ d ∈ ds, d.kind.location = .field
  distinct : (ds.map (·.kind)).Nodup

theorem readNext_location {location : String} {expected : Location} {read read' : List Directive}
    {use : DirectiveUse} (h : readNext location expected read use = .ok read')
    (hread : ∀ d ∈ read, d.kind.location = expected) : ∀ d ∈ read', d.kind.location = expected := by
  unfold readNext at h
  obtain ⟨found, hfound, h⟩ := bind_eq_ok.mp h
  cases found with
  | none => exact pure_eq_ok.mp h ▸ hread
  | some d =>
    dsimp only at h
    split at h
    · exact absurd h throw_ne_ok
    · cases pure_eq_ok.mp h
      have hd := (readAs_location (read?_eq_some hfound).2).1
      simpa [or_imp, forall_and, hd] using hread

theorem isRepeatable_of_field {kind : Kind} (h : kind.location = .field) :
    kind.isRepeatable = false := by
  cases kind <;> first | rfl | cases h

theorem readAll_field {location : String} {uses : List DirectiveUse} {ds : List Directive}
    (h : readAll location .field uses = .ok ds) : AreFieldDirectives ds uses := by
  have hread := readAll_eq_ok h
  have honField : ∀ d ∈ ds, d.kind.location = .field :=
    foldlM_keeps (P := fun read : List Directive => ∀ d ∈ read, d.kind.location = .field)
      (fun _ _ _ _ hread hnext => readNext_location hnext hread) (by simp) h
  refine ⟨hread.inOrder, honField, List.pairwise_map.mpr (hread.distinct.imp_of_mem ?_)⟩
  intro d d' _ hd' hne
  exact hne (isRepeatable_of_field (honField d' hd'))

theorem readNext_of_unknown {location : String} {expected : Location} {read : List Directive}
    {use : DirectiveUse} (h : use.isKnown = false) :
    readNext location expected read use = .ok read := by
  have hnone : Kind.ofName? use.name = none := by
    simpa [DirectiveUse.isKnown] using h
  unfold readNext read?
  rw [hnone]
  rfl

theorem readNext_of_new {location : String} {expected : Location} {read : List Directive}
    {use : DirectiveUse} {d : Directive} (h : read? location expected use = .ok (some d))
    (hnew : ∀ d' ∈ read, d'.kind ≠ d.kind) :
    readNext location expected read use = .ok (read ++ [d]) := by
  have hfresh : (read.any fun d' => d'.kind = d.kind) = false := by
    simpa using hnew
  unfold readNext
  refine bind_eq_ok.mpr ⟨some d, h, ?_⟩
  dsimp only
  rw [hfresh, Bool.and_false]
  rfl

/-- Adds one by one the directives of a kind that is not there yet. -/
def withMissing (ds more : List Directive) : List Directive :=
  more.foldl (fun all d => if all.any (·.kind = d.kind) then all else all ++ [d]) ds

section Missing

variable {ds more : List Directive}

/-- If no kind comes twice, the directives that are added are those of a new kind. -/
theorem withMissing_eq (hdistinct : (more.map (·.kind)).Nodup) :
    withMissing ds more = ds ++ more.filter fun d => !ds.any (·.kind = d.kind) := by
  unfold withMissing
  induction more generalizing ds with
  | nil => simp
  | cons d more ih =>
    obtain ⟨hother, hdistinct⟩ := List.nodup_cons.mp hdistinct
    rw [List.foldl_cons, ih hdistinct]
    cases hknown : ds.any (·.kind = d.kind) with
    | true => simp [hknown]
    | false =>
      have hsame : (more.filter fun d' => !(ds ++ [d]).any (·.kind = d'.kind)) =
          more.filter fun d' => !ds.any (·.kind = d'.kind) := by
        refine List.filter_congr fun d' hd' => ?_
        have hne : d.kind ≠ d'.kind := fun heq => hother (List.mem_map.mpr ⟨d', hd', heq.symm⟩)
        simp [hne]
      rw [if_neg (by simp), hsame, List.filter_cons_of_pos (by simp [hknown]), List.append_assoc]
      rfl

/-- Where all kinds are there already, nothing is added. -/
theorem withMissing_of_known (hknown : ∀ d ∈ more, ds.any (·.kind = d.kind) = true) :
    withMissing ds more = ds := by
  unfold withMissing
  induction more with
  | nil => rfl
  | cons d more ih =>
    obtain ⟨hd, hmore⟩ := List.forall_mem_cons.mp hknown
    rw [List.foldl_cons, if_pos hd, ih hmore]

end Missing

namespace AreFieldDirectives

variable {ds more : List Directive} {uses moreUses : List DirectiveUse}

/-- Written at one field, directives of fields are read there. -/
theorem readMore (location : String) {read : List Directive} (h : AreFieldDirectives ds uses)
    (hnew : ∀ d ∈ ds, ∀ d' ∈ read, d'.kind ≠ d.kind) :
    uses.foldlM (readNext location .field) read = .ok (read ++ ds.map (relocated location)) := by
  obtain ⟨hinOrder, honField, hdistinct⟩ := h
  induction uses generalizing read ds with
  | nil =>
    cases hinOrder
    simp [pure, Except.pure]
  | cons use uses ih =>
    rw [List.foldlM_cons]
    cases hknown : use.isKnown with
    | false =>
      rw [readNext_of_unknown hknown]
      rw [List.filter_cons_of_neg (by simp [hknown])] at hinOrder
      exact ih hnew hinOrder honField hdistinct
    | true =>
      rw [List.filter_cons_of_pos hknown] at hinOrder
      cases hinOrder with
      | @cons _ d _ ds hd hinOrder =>
        obtain ⟨hfirst, hrest⟩ := List.forall_mem_cons.mp hnew
        obtain ⟨hother, hdistinct⟩ := List.nodup_cons.mp hdistinct
        have hread := hd.read?_relocated location
        rw [honField d List.mem_cons_self] at hread
        rw [readNext_of_new hread hfirst]
        have hlater : ∀ d' ∈ ds, ∀ earlier ∈ read ++ [d.relocated location],
            earlier.kind ≠ d'.kind := by
          intro d' hd' earlier hearlier
          rcases List.mem_append.mp hearlier with hearlier | hlast
          · exact hrest d' hd' earlier hearlier
          · rw [List.mem_singleton.mp hlast]
            intro hsame
            exact hother (List.mem_map.mpr ⟨d', hd', hsame.symm⟩)
        refine (ih hlater hinOrder (fun d' hd' => honField d' (List.mem_cons_of_mem _ hd'))
          hdistinct).trans ?_
        rw [List.append_assoc, List.map_cons, List.singleton_append]

theorem readAll_eq (location : String) (h : AreFieldDirectives ds uses) :
    readAll location .field uses = .ok (ds.map (relocated location)) :=
  h.readMore location fun _ _ _ hnone => absurd hnone List.not_mem_nil

theorem declares_eq (h : AreFieldDirectives ds uses) (kind : Kind) :
    declares uses kind = ds.any (·.kind = kind) := by
  rw [Bool.eq_iff_iff, declares_iff, List.any_eq_true]
  constructor
  · rintro ⟨use, huse, hkind⟩
    obtain ⟨d, hd, hread⟩ := exists_of_mem_forall₂ h.inOrder.flip
      (List.mem_filter.mpr ⟨huse, isKnown_of_kind? hkind⟩)
    have hsame : use.kind? = some d.kind := IsReadFrom.ofName?_eq hread
    exact ⟨d, hd, decide_eq_true (Option.some.inj (hsame.symm.trans hkind))⟩
  · rintro ⟨d, hd, hkind⟩
    obtain ⟨use, huse, hread⟩ := exists_of_mem_forall₂ h.inOrder hd
    have hsame : use.kind? = some d.kind := hread.ofName?_eq
    exact ⟨use, (List.mem_filter.mp huse).1, hsame.trans (by simpa using hkind)⟩

/-- The directive of a kind is the one that is written. -/
theorem find?_eq_some (h : AreFieldDirectives ds uses) {use : DirectiveUse} (huse : use ∈ uses)
    {kind : Kind} (hname : use.name = kind.name) :
    ∃ d, ds.find? (·.kind = kind) = some d ∧ d.IsReadFrom use := by
  obtain ⟨d, hd, hread⟩ := exists_of_mem_forall₂ h.inOrder.flip
    (List.mem_filter.mpr ⟨huse, DirectiveUse.isKnown_of_name hname⟩)
  have hkind : d.kind = kind := IsReadFrom.kind_eq hread hname
  have hfound : (ds.find? (·.kind = kind)).isSome = true :=
    List.find?_isSome.mpr ⟨d, hd, decide_eq_true hkind⟩
  obtain ⟨d', hd'⟩ := Option.isSome_iff_exists.mp hfound
  have hkind' : d'.kind = kind := by simpa using List.find?_some hd'
  have hsame : d' = d := List.inj_on_of_nodup_map h.distinct (List.mem_of_find?_eq_some hd') hd
    (hkind'.trans hkind.symm)
  exact ⟨d, hsame ▸ hd', hread⟩

/-- What is missing among the directives is missing in the list they are written in. -/
theorem withMissing (h : AreFieldDirectives ds uses) (hmore : AreFieldDirectives more moreUses) :
    AreFieldDirectives (Directive.withMissing ds more) (addMissing uses moreUses) := by
  rw [withMissing_eq hmore.distinct]
  refine ⟨?_, fun d hd => ?_, ?_⟩
  · rw [addMissing, List.filter_append, List.filter_comm]
    refine List.rel_append h.inOrder (List.rel_filter (fun use d hread => ?_) hmore.inOrder)
    have hkind : use.kind? = some d.kind := hread.ofName?_eq
    dsimp only
    rw [hkind, Option.any_some, h.declares_eq]
  · rcases List.mem_append.mp hd with hd | hd
    · exact h.onField d hd
    · exact hmore.onField d (List.mem_filter.mp hd).1
  · rw [List.map_append]
    refine List.nodup_append.mpr
      ⟨h.distinct, hmore.distinct.sublist (List.filter_sublist.map _), ?_⟩
    rintro kind hkind _ hkind' rfl
    obtain ⟨d, hd, rfl⟩ := List.mem_map.mp hkind
    obtain ⟨d', hd', hsame⟩ := List.mem_map.mp hkind'
    have hnew := (List.mem_filter.mp hd').2
    simp only [Bool.not_eq_true', List.any_eq_false, decide_eq_true_eq] at hnew
    exact hnew d hd hsame.symm

end AreFieldDirectives

end Directive

end Keyspace.Schema
