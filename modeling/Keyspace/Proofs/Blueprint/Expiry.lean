import Keyspace.Proofs.Blueprint.Inlining
import Keyspace.Proofs.Blueprint.SchemaNames

/-!
# The expiry of an accepted model

At most one field of a model carries the directive for its expiry, written at the field or in an
interface. It is a date or a point in time, and the duration of its default is one that can be read.
-/
namespace Keyspace.Blueprint

open Schema Directive Result

/-- A directive makes a field the expiry of its model. -/
structure IsExpiryOf (d : Directive) (f : Field) (ttl : TimeToLive) : Prop where
  dated : f.isDateType = true
  single : f.isList = false
  field_eq : ttl.field = f.name
  column_eq : ttl.column = f.column
  seconds_eq : ttl.seconds = (d.string? "duration").bind parseDuration
  parsed : ∀ text ∈ d.string? "duration", (parseDuration text).isSome

/-- A duration that is written with the directive can be read, and the expiry has its seconds. -/
theorem IsExpiryOf.of_duration {d : Directive} {f : Field} {ttl : TimeToLive}
    (h : IsExpiryOf d f ttl) {use : DirectiveUse} (hread : d.IsReadFrom use)
    (hname : use.name = "ttl") {duration : String}
    (hduration : ("duration", .string duration) ∈ use.arguments) :
    ∃ n, parseDuration duration = some n ∧ ttl = ⟨f.name, f.column, some n⟩ := by
  have hkind : d.kind = .ttl := hread.kind_eq hname
  have hspec : d.kind.arguments.find? (·.name = "duration") =
      some ⟨"duration", .string, false⟩ := by
    rw [hkind]
    rfl
  have htext : d.string? "duration" = some duration := (hread.string?_iff hspec _).mpr hduration
  obtain ⟨n, hn⟩ := Option.isSome_iff_exists.mp (h.parsed duration htext)
  have hseconds : ttl.seconds = some n := by
    rw [h.seconds_eq, htext, Option.bind_some, hn]
  refine ⟨n, hn, ?_⟩
  rw [← h.field_eq, ← h.column_eq, ← hseconds]

/-- A field leaves the expiry as it is, or it has the directive and there was none. -/
theorem addTtl_eq_ok {ds : Declarations} {type : TypeDeclaration} {fields : List Field}
    {ttl ttl' : Option TimeToLive} {declared : FieldDeclaration}
    (h : addTtl ds type fields ttl declared = .ok ttl') :
    ∃ effective, fieldDirectives ds type declared = .ok effective ∧
      ((effective.find? (·.kind = .ttl) = none ∧ ttl' = ttl) ∨
        ∃ d f expiry, effective.find? (·.kind = .ttl) = some d ∧ ttl = none ∧
          fields.find? (·.name = declared.name) = some f ∧ IsExpiryOf d f expiry ∧
          ttl' = some expiry) := by
  unfold addTtl at h
  obtain ⟨effective, heffective, h⟩ := bind_eq_ok.mp h
  refine ⟨effective, heffective, ?_⟩
  split at h
  · next hnone => exact Or.inl ⟨hnone, (pure_eq_ok.mp h).symm⟩
  · next d hd =>
    obtain ⟨hfirst, h⟩ := check_eq_ok.mp h
    dsimp only at h
    split at h
    · exact absurd h throw_ne_ok
    · next f hf =>
      obtain ⟨hdated, h⟩ := check_eq_ok.mp h
      simp only [Bool.or_eq_true, not_or, Bool.not_eq_true, Bool.not_eq_false'] at hdated
      have hduration : (∀ text ∈ d.string? "duration", (parseDuration text).isSome) ∧
          ttl' = some ⟨f.name, f.column, (d.string? "duration").bind parseDuration⟩ := by
        split at h
        · next hnone =>
          rw [hnone]
          exact ⟨nofun, (pure_eq_ok.mp h).symm⟩
        · next text htext =>
          rw [htext]
          split at h
          · next n hn =>
            rw [Option.bind_some, hn]
            exact ⟨by simp [hn], (pure_eq_ok.mp h).symm⟩
          · obtain ⟨_, hthrow, -⟩ := bind_eq_ok.mp h
            exact absurd hthrow throw_ne_ok
      obtain ⟨hparsed, httl⟩ := hduration
      exact Or.inr ⟨d, f, _, hd, by simpa using hfirst, hf,
        ⟨hdated.1, hdated.2, rfl, rfl, rfl, hparsed⟩, httl⟩

/-- A field of the type of a model has the expiry directive with a duration, or inherits it. -/
def CarriesDuration (document : Document) (model field duration : String) : Prop :=
  ∃ type, Definition.object type ∈ document ∧ type.name = model ∧
    ∃ declared ∈ type.fields, declared.name = field ∧
      ∃ use ∈ (inlinedField (interfacesOf document) type declared).directives,
        use.name = "ttl" ∧ ("duration", Value.string duration) ∈ use.arguments

namespace IsOrigin

variable {config : Config} {document : Document} {b : Blueprint} {type : TypeDeclaration}
  {directives : List Directive} {m : Model} (h : IsOrigin document type directives m)
include h

/-- The expiry of a model is one of its fields, and the model has the column of that field. -/
theorem exists_expiryField {ttl : TimeToLive} (httl : m.ttl = some ttl) :
    ∃ d f, m.field? ttl.field = some f ∧ IsExpiryOf d f ttl := by
  refine foldlM_keeps (P := fun ttl : Option TimeToLive => ∀ expiry ∈ ttl,
    ∃ d f, m.field? expiry.field = some f ∧ IsExpiryOf d f expiry) ?_
    (fun expiry hnone => absurd hnone (Option.not_mem_none expiry)) h.expiryBuilt ttl httl
  intro known declared known' _ hknown hstep
  obtain ⟨effective, -, ⟨-, rfl⟩ | ⟨d, f, expiry, -, -, hfound, hexpiry, rfl⟩⟩ := addTtl_eq_ok hstep
  · exact hknown
  · intro _ hsame
    cases hsame
    refine ⟨d, f, ?_, hexpiry⟩
    rw [hexpiry.field_eq, (Field.of_find? hfound).2]
    exact hfound

/-- A duration that a field carries is the one of its model. -/
theorem ttl_of_duration (hb : ofDocument config document = .ok b) {f : Field} {duration : String}
    (hcarries : CarriesDuration document m.name f.name duration)
    (hfound : m.field? f.name = some f) :
    ∃ n, parseDuration duration = some n ∧ m.ttl = some ⟨f.name, f.column, some n⟩ := by
  obtain ⟨type', htype, hmodel, declared, hdeclared, hfield, use, huse, hname, hduration⟩ :=
    hcarries
  obtain rfl := h.eq_of_name hb htype hmodel
  rw [← hfield] at hfound
  refine foldlM_brings (P := fun ttl => ∃ n, parseDuration duration = some n ∧
    ttl = some ⟨f.name, f.column, some n⟩) hdeclared ?_ ?_ h.expiryBuilt
  · intro known known' hstep
    obtain ⟨effective, heffective, hcases⟩ := addTtl_eq_ok hstep
    have hkind : use.name = Directive.Kind.ttl.name := hname
    obtain ⟨d, hd, hread⟩ := (fieldDirectives_eq_ok heffective).find?_eq_some huse hkind
    obtain ⟨hnone, -⟩ | ⟨d', f', expiry, hd', -, hfound', hexpiry, rfl⟩ := hcases
    · cases hd.symm.trans hnone
    · cases hd.symm.trans hd'
      cases hfound.symm.trans hfound'
      obtain ⟨n, hn, rfl⟩ := hexpiry.of_duration hread hname hduration
      exact ⟨n, hn, rfl⟩
  · rintro known other known' - ⟨n, hn, rfl⟩ hstep
    obtain ⟨_, -, ⟨-, rfl⟩ | ⟨_, _, _, -, hnone, -⟩⟩ := addTtl_eq_ok hstep
    · exact ⟨n, hn, rfl⟩
    · cases hnone

/-- The built-in scalars are no enums and no models, whatever the document declares. -/
theorem kind_of_dated {f : Field} (hf : f ∈ m.fields) (hdated : f.isDateType = true) :
    f.kind = .scalar ∧ (f.typeName = "Date" ∨ f.typeName = "DateTime") := by
  obtain ⟨declared, -, owners, owners', hbuilt⟩ := exists_buildField h.fieldsBuilt hf
  obtain ⟨-, hkind, htype⟩ := buildField_declared hbuilt
  have hname : f.typeName = "Date" ∨ f.typeName = "DateTime" := by
    rw [hdated] at htype
    simpa using htype.symm
  have hbuiltin : f.typeName ∈ builtinScalars := by
    rcases hname with hname | hname <;> rw [hname] <;> decide
  have hscalar : (declarations document).scalars.contains f.typeName = true :=
    List.contains_iff_mem.mpr (List.mem_append_left _ hbuiltin)
  unfold Declarations.fieldKind at hkind
  rw [if_pos hscalar] at hkind
  exact ⟨(Except.ok.inj hkind).symm, hname⟩

end IsOrigin

end Keyspace.Blueprint
