import Keyspace.Proofs.Record.Writing

/-!
# What keys are made of

A key part is the column of one field, or an attribute with a name of its own that no field has. The
fields it names are fields of the model, and they are stored scalars wherever they are checked. The
field of a simple index is not checked: such an index may stand on a list, on an embedded object, or
on a field that is never stored, and no other part of a key may.
-/
namespace Keyspace

/-- A field that is persisted, and neither a list nor an embedded object. -/
structure Field.IsStoredScalar (f : Field) : Prop where
  stored : f.isStored = true
  notList : f.isList = false
  notEmbedded : f.kind ≠ .embedded

/-- A part that is marked as a single field is one field of the model, without lead text, under the
column of the field. Any other part has the attribute made for it, which is no column. -/
structure KeyPart.IsMarked (m : Model) (synthetic : String) (part : KeyPart) : Prop where
  single : part.isSingleField = true → ∃ f, part.fields = [f.name] ∧ m.field? f.name = some f ∧
    part.lead = none ∧ part.attributeName = f.column
  joined : part.isSingleField = false →
    part.attributeName = synthetic ∧ ∀ f ∈ m.fields, synthetic ∉ f.columns

theorem KeyPart.isMarked_single {m : Model} {name synthetic : String} {f : Field}
    (h : m.field? name = some f) : IsMarked m synthetic ⟨f.column, [name], none, true⟩ := by
  obtain rfl := (Field.of_find? h).2
  exact ⟨fun _ => ⟨f, rfl, h, rfl, rfl⟩, nofun⟩

theorem KeyPart.IsBuilt.isMarked {m : Model} (hapart : m.ColumnsApart) {synthetic : String}
    {part : KeyPart} (h : part.IsBuilt m.fields synthetic) (hpart : part ∈ m.keyParts) :
    part.IsMarked m synthetic := by
  cases h with
  | single found => exact isMarked_single found
  | joined names lead =>
    exact ⟨nofun, fun _ => ⟨rfl, fun f hf => hapart.not_mem_columns_of_joined hpart rfl hf⟩⟩

namespace Blueprint

open Schema Result

theorem checkKeyField_storedScalar {d : Directive} {argument name : String} {fields : List Field}
    (h : checkKeyField d argument fields name = .ok ()) :
    ∃ f, fields.find? (·.name = name) = some f ∧ f.IsStoredScalar := by
  unfold checkKeyField at h
  split at h
  · cases h
  · next f hfound =>
    split at h
    · cases h
    · next hplain =>
      simp only [Bool.or_eq_true, not_or, Bool.not_eq_true, Bool.not_eq_false',
        decide_eq_true_eq] at hplain
      exact ⟨f, hfound, hplain.2, hplain.1.1, hplain.1.2⟩

/-- The type of a model has a simple index on the field of a name. -/
def IndexesSimply (document : Document) (model name : String) : Prop :=
  ∃ type, Definition.object type ∈ document ∧ type.name = model ∧ ∃ use ∈ type.directives,
    use.name = "simpleIndex" ∧ ("field", Value.string name) ∈ use.arguments

/-- A simple index is declared for the field that is written. -/
theorem simpleIndex_field_iff {d : Directive} {use : DirectiveUse} (hread : d.IsReadFrom use)
    (hkind : d.kind = .simpleIndex) {name : String} :
    d.string? "field" = some name ↔ ("field", Value.string name) ∈ use.arguments := by
  have hspec : d.kind.arguments.find? (·.name = "field") = some ⟨"field", .string, true⟩ := by
    rw [hkind]
    rfl
  exact hread.string?_iff hspec name

namespace IsOrigin

variable {config : Config} {document : Document} {b : Blueprint} {type : TypeDeclaration}
  {directives : List Directive} {m : Model} (h : IsOrigin document type directives m)
include h

/-- A part is built from fields that were checked, or it is the one field of a simple index. -/
theorem namedPart_cases {entry : String × KeyPart} (hentry : entry ∈ m.namedParts) :
    (∃ d fieldsArgument leadArgument,
      keyPart d fieldsArgument leadArgument entry.1 m.fields = .ok entry.2) ∨
    ∃ d ∈ directives, ∃ name f, d.kind = .simpleIndex ∧ d.string? "field" = some name ∧
      m.field? name = some f ∧ entry.2 = ⟨f.column, [name], none, true⟩ := by
  rcases List.mem_append.mp hentry with hprimary | hindexed
  · obtain ⟨d, hkey⟩ := h.keyBuilt
    exact Or.inl ⟨d, primaryKey_keyPart hkey hprimary⟩
  · obtain ⟨index, hindex, hentry⟩ := List.mem_flatMap.mp hindexed
    obtain ⟨d, hd, hdeclares⟩ := exists_directive_of_mem h.indexesBuilt hindex
    cases hdeclares with
    | secondary _ built => exact Or.inl ⟨d, secondaryIndex_keyPart built hentry⟩
    | simple kind built =>
      obtain ⟨name, f, hname, hfound, rfl⟩ := simpleIndex_eq_ok built
      obtain rfl := List.mem_singleton.mp hentry
      exact Or.inr ⟨d, hd, name, f, kind, hname, hfound, rfl⟩

theorem namedPart_isMarked {entry : String × KeyPart} (hentry : entry ∈ m.namedParts) :
    entry.2.IsMarked m entry.1 := by
  have hpart : entry.2 ∈ m.keyParts := by
    rw [← m.map_snd_namedParts]
    exact List.mem_map_of_mem hentry
  rcases h.namedPart_cases hentry with ⟨d, _, _, hbuilt⟩ | ⟨d, -, name, f, -, -, hfound, hsingle⟩
  · exact (keyPart_isBuilt hbuilt).isMarked h.columnsApart hpart
  · rw [hsingle]
    exact KeyPart.isMarked_single hfound

/-- A directive for a simple index names the field that is written at the type. -/
theorem indexesSimply_of_mem {d : Directive} (hd : d ∈ directives) (hkind : d.kind = .simpleIndex)
    {name : String} (hname : d.string? "field" = some name) :
    IndexesSimply document m.name name := by
  obtain ⟨use, huse, hread⟩ := h.exists_use hd
  have hwritten : use.name = "simpleIndex" := by
    rw [hread.name_eq, hkind]
    rfl
  exact ⟨type, h.declared, h.name_eq.symm, use, huse, hwritten,
    (simpleIndex_field_iff hread hkind).mp hname⟩

/-- What a part names is a field of the model, and a stored scalar or the field of a simple
index. -/
theorem namedPart_field {entry : String × KeyPart} (hentry : entry ∈ m.namedParts) {name : String}
    (hname : name ∈ entry.2.fields) :
    ∃ f, m.field? name = some f ∧ (f.IsStoredScalar ∨ IndexesSimply document m.name name) := by
  rcases h.namedPart_cases hentry with ⟨d, _, _, hbuilt⟩ |
    ⟨d, hd, name', f, hkind, hfield, hfound, hsingle⟩
  · obtain ⟨f, hfound, hscalar⟩ := checkKeyField_storedScalar (keyPart_checked hbuilt hname)
    exact ⟨f, hfound, Or.inl hscalar⟩
  · rw [hsingle, List.mem_singleton] at hname
    subst hname
    exact ⟨f, hfound, Or.inr (h.indexesSimply_of_mem hd hkind hfield)⟩

/-- The field of a simple index is part of a key. -/
theorem exists_keyPart_of_simply (hb : ofDocument config document = .ok b) {name : String}
    (hsimply : IndexesSimply document m.name name) :
    ∃ part ∈ m.keyParts, part.fields = [name] := by
  obtain ⟨type', hdeclared, htype, use, huse, hwritten, hargument⟩ := hsimply
  obtain rfl := h.eq_of_name hb hdeclared htype
  have hname : use.name = Directive.Kind.simpleIndex.name := hwritten
  obtain ⟨d, hd, hread⟩ := h.exists_directive huse (DirectiveUse.isKnown_of_name hname)
  have hkind : d.kind = .simpleIndex := hread.kind_eq hname
  obtain ⟨index, hindex, hdeclares⟩ := exists_index_of_kind h.indexesBuilt hd (Or.inl hkind)
  obtain ⟨name', f, hfield, -, rfl⟩ := simpleIndex_eq_ok (hdeclares.of_simple hkind)
  cases hfield.symm.trans ((simpleIndex_field_iff hread hkind).mpr hargument)
  exact ⟨_, List.mem_append_right _ (List.mem_flatMap.mpr ⟨_, hindex, List.mem_singleton_self _⟩),
    rfl⟩

end IsOrigin

/-- The parts of the keys of an accepted schema are marked for what they are, and name fields of
their model. These are stored scalars throughout if those of simple indexes are, and only then. -/
theorem key_fields_stored_iff {config : Config} {document : Document} {b : Blueprint}
    (hb : ofDocument config document = .ok b) {m : Model} (hm : m ∈ b.models) :
    (∀ entry ∈ m.namedParts, entry.2.IsMarked m entry.1) ∧
    (∀ part ∈ m.keyParts, ∀ name ∈ part.fields, ∃ f, m.field? name = some f) ∧
    ((∀ part ∈ m.keyParts, ∀ name ∈ part.fields, ∀ f, m.field? name = some f → f.IsStoredScalar) ↔
      ∀ name, IndexesSimply document m.name name →
        ∀ f, m.field? name = some f → f.IsStoredScalar) := by
  obtain ⟨type, directives, horigin⟩ := exists_origin hb hm
  have hfields : ∀ part ∈ m.keyParts, ∀ name ∈ part.fields, ∃ f, m.field? name = some f ∧
      (f.IsStoredScalar ∨ IndexesSimply document m.name name) := by
    intro part hpart name hname
    rw [← m.map_snd_namedParts] at hpart
    obtain ⟨entry, hentry, rfl⟩ := List.mem_map.mp hpart
    exact horigin.namedPart_field hentry hname
  refine ⟨fun entry hentry => horigin.namedPart_isMarked hentry, fun part hpart name hname => ?_,
    fun hscalar name hsimply => ?_, fun hscalar part hpart name hname f hfound => ?_⟩
  · obtain ⟨f, hfound, -⟩ := hfields part hpart name hname
    exact ⟨f, hfound⟩
  · obtain ⟨part, hpart, hsingle⟩ := horigin.exists_keyPart_of_simply hb hsimply
    exact hscalar part hpart name (hsingle ▸ List.mem_singleton_self _)
  · obtain ⟨f', hfound', hcase⟩ := hfields part hpart name hname
    cases hfound.symm.trans hfound'
    exact hcase.elim id fun hsimply => hscalar name hsimply f hfound

namespace NoteExample

def place : TypeDeclaration := ⟨"Place", [], [], [⟨"city", .named "String", []⟩]⟩

/-- Notes with a composite key, and with simple indexes on some of their fields. -/
def type (indexed : List String) : TypeDeclaration where
  name := "Note"
  interfaces := []
  directives := ⟨"compositeKey", [("pkFields", .list [.string "owner"]),
    ("skFields", .list [.string "day", .string "id"])]⟩ ::
      indexed.map fun name => ⟨"simpleIndex", [("field", .string name)]⟩
  fields := [⟨"owner", .nonNull (.named "ID"), []⟩, ⟨"day", .nonNull (.named "Date"), []⟩,
    ⟨"id", .nonNull (.named "ID"), []⟩, ⟨"tags", .list (.named "String"), []⟩,
    ⟨"place", .named "Place", []⟩, ⟨"title", .named "String",
      [⟨"computed", [("function", .string "crate::note::title"), ("virtual", .boolean true)]⟩]⟩]

def document (indexed : List String) : Document := [.object place, .object (type indexed)]

def tags : Field := { Field.scalar "tags" "String" false with isList := true }

def placeField : Field := { Field.scalar "place" "Place" false with kind := .embedded }

def title : Field :=
  { Field.scalar "title" "String" false with computed := some ⟨"crate::note::title", true⟩ }

/-- The index is named for the field and stands under its column. -/
def index (name : String) : SecondaryIndex := .global name ⟨name, [name], none, true⟩ none .all

def key : PrimaryKey :=
  .composite ⟨"owner", ["owner"], none, true⟩ ⟨"sk", ["day", "id"], none, false⟩

def day : Field := { Field.scalar "day" "Date" true with isDateType := true }

def note (indexed : List String) : Model :=
  ⟨"Note", "Note", [.scalar "owner" "ID" true, day, .scalar "id" "ID" true, tags, placeField, title],
    key, indexed.map index, none, false, false, false, []⟩

def blueprint (indexed : List String) : Blueprint :=
  ⟨[note indexed], [⟨"Note", key, indexed.map index, false, false, none, none⟩], []⟩

theorem note_mem (indexed : List String) : note indexed ∈ (blueprint indexed).models :=
  List.mem_singleton_self _

theorem ofDocument_day : ofDocument .default (document ["day"]) = .ok (blueprint ["day"]) := by
  decide +kernel

end NoteExample

open NoteExample in
theorem notes_are_indexed_by_day :
    ofDocument .default (document ["day"]) = .ok (blueprint ["day"]) ∧
    note ["day"] ∈ (blueprint ["day"]).models ∧
    (note ["day"]).keyParts.map (·.fields) = [["owner"], ["day", "id"], ["day"]] ∧
    ∀ part ∈ (note ["day"]).keyParts, ∀ name ∈ part.fields, ∀ f,
      (note ["day"]).field? name = some f → f.IsStoredScalar := by
  obtain ⟨-, -, hscalars⟩ := key_fields_stored_iff ofDocument_day (note_mem ["day"])
  refine ⟨ofDocument_day, note_mem _, rfl, hscalars.mpr fun name hsimply f hfound => ?_⟩
  obtain ⟨declared, hdeclared, hname, use, huse, hkind, hargument⟩ := hsimply
  have hnote : declared = type ["day"] := by
    simp only [document, List.mem_cons, List.not_mem_nil, or_false, Definition.object.injEq]
      at hdeclared
    rcases hdeclared with rfl | rfl
    · exact absurd hname (by decide)
    · rfl
  subst hnote
  have hday : name = "day" := by
    simp only [type, List.map_cons, List.map_nil, List.mem_cons, List.not_mem_nil, or_false] at huse
    rcases huse with rfl | rfl
    · exact absurd hkind (by decide)
    · simpa using hargument
  subst hday
  cases hfound
  exact ⟨rfl, rfl, by decide⟩

open NoteExample in
/-- Indexes on a list, on an embedded object and on a field that is never stored are accepted,
though no other part of a key may name such a field. -/
theorem unfit_fields_are_indexed :
    ofDocument .default (document ["tags", "place", "title"]) =
      .ok (blueprint ["tags", "place", "title"]) ∧
    note ["tags", "place", "title"] ∈ (blueprint ["tags", "place", "title"]).models ∧
    (∀ f ∈ [tags, placeField, title],
      (note ["tags", "place", "title"]).field? f.name = some f ∧
      ⟨f.column, [f.name], none, true⟩ ∈ (note ["tags", "place", "title"]).keyParts ∧
      ¬f.IsStoredScalar) ∧
    tags.isList = true ∧ placeField.kind = .embedded ∧ title.isStored = false := by
  have hfields : ∀ f ∈ [tags, placeField, title],
      (note ["tags", "place", "title"]).field? f.name = some f ∧
      ⟨f.column, [f.name], none, true⟩ ∈ (note ["tags", "place", "title"]).keyParts := by decide
  refine ⟨by decide +kernel, note_mem _, fun f hf => ⟨(hfields f hf).1, (hfields f hf).2, ?_⟩, rfl,
    rfl, rfl⟩
  intro hscalar
  simp only [List.mem_cons, List.not_mem_nil, or_false] at hf
  rcases hf with rfl | rfl | rfl
  · cases hscalar.notList
  · exact hscalar.notEmbedded rfl
  · cases hscalar.stored

end Blueprint

end Keyspace
