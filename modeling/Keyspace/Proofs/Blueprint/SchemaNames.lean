import Keyspace.Proofs.Blueprint.Columns
import Keyspace.Proofs.Blueprint.HandlerTables

/-!
# The names in an accepted blueprint

Models, fields, enums and their values keep the names that the schema declares. The names that a
model refers to lead to something: those in keys and indexes to its own fields, those of enum types
to enums of the blueprint, and those in handlers to models.
-/
namespace Keyspace

/-- The keys and the indexes of a model are made of its own fields. -/
structure Model.UsesOwnFields (m : Model) : Prop where
  keys : ∀ part ∈ m.primaryKey.parts, ∀ name ∈ part.fields, ∃ f ∈ m.fields, f.name = name
  indexes : ∀ part ∈ m.indexes.flatMap (·.parts), ∀ name ∈ part.fields,
    ∃ f ∈ m.fields, f.name = name

theorem Model.UsesOwnFields.keyFields {m : Model} (h : m.UsesOwnFields) {name : String}
    (hname : name ∈ m.keyFields) : ∃ f ∈ m.fields, f.name = name := by
  obtain ⟨part, hpart, hfield⟩ := mem_keyFields_iff.mp hname
  exact h.keys part hpart name hfield

/-- The field that gets a default is a field of the model. -/
theorem Model.mem_of_expiryDefault? {m : Model} {field : String} {seconds : Nat}
    (h : m.expiryDefault? = some (field, seconds)) : ∃ f ∈ m.fields, f.name = field := by
  obtain ⟨ttl, f, -, -, -, hfound, -, -⟩ := expiryDefault?_eq_some.mp h
  exact ⟨f, Field.of_find? hfound⟩

namespace Blueprint

open Schema Result

/-- What the generator of code relies on in the names of a blueprint. -/
structure NamesSettled (b : Blueprint) : Prop where
  models : ∀ m ∈ b.models, IsReadableName m.name
  fields : ∀ m ∈ b.models, ∀ f ∈ m.fields, IsReadableName f.name
  enums : ∀ e ∈ b.enums, IsReadableName e.name ∧ ∀ value ∈ e.values, IsReadableName value
  ownFields : ∀ m ∈ b.models, m.UsesOwnFields
  enumTypes : ∀ m ∈ b.models, ∀ f ∈ m.fields, f.kind = .enum → ∃ e ∈ b.enums, e.name = f.typeName
  handled : ∀ h ∈ b.handlers, ∀ name ∈ h.source :: h.target.toList, ∃ m ∈ b.models, m.name = name

/-! ## Fields -/

/-- What a field takes from its declaration. -/
theorem buildField_declared {ds : Declarations} {type : TypeDeclaration}
    {owners owners' : Dict String} {declared : FieldDeclaration} {f : Field}
    (h : buildField ds type owners declared = .ok (owners', f)) : f.name = declared.name ∧
      ds.fieldKind s!"{type.name}.{declared.name}" f.typeName = .ok f.kind ∧
      f.isDateType = (f.typeName = "Date" || f.typeName = "DateTime") := by
  unfold buildField at h
  obtain ⟨directives, -, h⟩ := bind_eq_ok.mp h
  obtain ⟨kind, hkind, h⟩ := bind_eq_ok.mp h
  dsimp only at h
  split at h <;>
  · obtain ⟨column, -, h⟩ := bind_eq_ok.mp h
    obtain ⟨claimed, -, h⟩ := bind_eq_ok.mp h
    obtain ⟨computed, -, h⟩ := bind_eq_ok.mp h
    cases pure_eq_ok.mp h
    exact ⟨rfl, hkind, rfl⟩

/-- Every field of a model is built from a declared one. -/
theorem exists_buildField {ds : Declarations} {type : TypeDeclaration} {fields : List Field}
    (h : buildFields ds type = .ok fields) {f : Field} (hf : f ∈ fields) :
    ∃ declared ∈ type.fields, ∃ owners owners',
      buildField ds type owners declared = .ok (owners', f) := by
  unfold buildFields at h
  obtain ⟨⟨owners, built⟩, hbuilt, h⟩ := bind_eq_ok.mp h
  cases pure_eq_ok.mp h
  refine foldlM_keeps (P := fun (state : Dict String × List Field) => ∀ f ∈ state.2,
    ∃ declared ∈ type.fields, ∃ owners owners',
      buildField ds type owners declared = .ok (owners', f)) ?_
    (fun f hf => absurd hf List.not_mem_nil) hbuilt f hf
  rintro ⟨owners, fields⟩ declared state hdeclared hfields hstep
  obtain ⟨⟨owners', f⟩, hf, hstep⟩ := bind_eq_ok.mp hstep
  cases pure_eq_ok.mp hstep
  intro other hother
  rcases List.mem_append.mp hother with hold | hnew
  · exact hfields other hold
  · rw [List.mem_singleton.mp hnew]
    exact ⟨declared, (List.mem_filter.mp hdeclared).1, owners, owners', hf⟩

theorem contains_of_fieldKind {ds : Declarations} {location typeName : String}
    (h : ds.fieldKind location typeName = .ok .enum) : ds.enums.contains typeName = true := by
  unfold Declarations.fieldKind at h
  by_contra henum
  rw [if_neg henum] at h
  split_ifs at h <;> cases h

/-- Every built field is declared, and an enum it names is declared too. -/
theorem exists_declared {ds : Declarations} {type : TypeDeclaration} {fields : List Field}
    (h : buildFields ds type = .ok fields) : ∀ f ∈ fields,
      (∃ declared ∈ type.fields, declared.name = f.name) ∧
        (f.kind = .enum → ds.enums.contains f.typeName = true) := by
  intro f hf
  obtain ⟨declared, hdeclared, owners, owners', hbuilt⟩ := exists_buildField h hf
  obtain ⟨hname, hkind, -⟩ := buildField_declared hbuilt
  exact ⟨⟨declared, hdeclared, hname.symm⟩, fun henum => contains_of_fieldKind (henum ▸ hkind)⟩

/-! ## A whole blueprint -/

theorem ofDocument_enums {config : Config} {document : Document} {b : Blueprint}
    (h : ofDocument config document = .ok b) :
    b.enums = usedEnums (declarations document) b.models := by
  unfold ofDocument at h
  obtain ⟨ds, hds, h⟩ := bind_eq_ok.mp h
  obtain ⟨built, -, h⟩ := bind_eq_ok.mp h
  obtain ⟨models, -, h⟩ := bind_eq_ok.mp h
  obtain ⟨tables, -, h⟩ := bind_eq_ok.mp h
  obtain ⟨⟨⟩, -, h⟩ := bind_eq_ok.mp h
  cases pure_eq_ok.mp h
  rw [(ofDocument_eq_ok_iff.mp hds).2]

/-- An enum is found under its own name. -/
theorem get?_enumsOf {document : Document} {name : String} {e : EnumDeclaration}
    (h : Dict.get? (enumsOf document) name = some e) :
    Definition.enum e ∈ document ∧ e.name = name := by
  obtain ⟨d, hd, hentry⟩ := List.mem_filterMap.mp (Dict.mem_of_mem_ofList (Dict.mem_of_get? h))
  split at hentry
  · cases hentry
    exact ⟨hd, rfl⟩
  · cases hentry

theorem ofSchema_namesSettled {config : Config} {text : String} {b : Blueprint}
    (h : ofSchema config text = .ok b) : NamesSettled b := by
  obtain ⟨document, hparsed, hdocument⟩ := ofSchema_eq_ok h
  have henums := ofDocument_enums hdocument
  -- The declaration that a model is built from.
  have hdeclared {m : Model} (hm : m ∈ b.models) : ∃ type, Definition.object type ∈ document ∧
      m.name = type.name ∧ buildFields (declarations document) type = .ok m.fields := by
    obtain ⟨type, _, horigin⟩ := exists_origin hdocument hm
    exact ⟨type, horigin.declared, horigin.name_eq, horigin.fieldsBuilt⟩
  constructor
  case models =>
    intro m hm
    obtain ⟨type, htype, hname, -⟩ := hdeclared hm
    rw [hname]
    exact (namesReadable_of_parse hparsed htype).1
  case fields =>
    intro m hm f hf
    obtain ⟨type, htype, -, hfields⟩ := hdeclared hm
    obtain ⟨⟨declared, hmem, hname⟩, -⟩ := exists_declared hfields f hf
    rw [← hname]
    exact (namesReadable_of_parse hparsed htype).2 declared hmem
  case enums =>
    intro e he
    rw [henums] at he
    obtain ⟨name, -, hsome⟩ := List.mem_filterMap.mp he
    obtain ⟨e', he', rfl⟩ := Option.map_eq_some_iff.mp hsome
    exact namesReadable_of_parse hparsed (get?_enumsOf he').1
  case ownFields =>
    intro m hm
    refine ⟨fun part hpart name hname => ?_,
      fun part hpart name hname => ofSchema_indexFieldsFound h hm hpart hname⟩
    obtain ⟨f, hfound, -⟩ := (ofSchema_isSound h).keyFieldsRequired m hm part hpart name hname
    exact ⟨f, Field.of_find? hfound⟩
  case enumTypes =>
    intro m hm f hf hkind
    obtain ⟨type, -, -, hfields⟩ := hdeclared hm
    have hcontains := (exists_declared hfields f hf).2 hkind
    obtain ⟨e, he⟩ := Option.isSome_iff_exists.mp hcontains
    refine ⟨⟨e.name, e.values⟩, ?_, (get?_enumsOf he).2⟩
    rw [henums]
    refine List.mem_filterMap.mpr ⟨f.typeName, mem_sortedDistinct.mpr (List.mem_map_of_mem ?_), ?_⟩
    · exact List.mem_filter.mpr ⟨List.mem_flatMap.mpr ⟨m, hm, hf⟩, decide_eq_true hkind⟩
    · rw [he]
      rfl
  case handled =>
    intro handler hhandler name hname
    obtain ⟨m, hm, hmem⟩ := List.mem_flatMap.mp hhandler
    obtain ⟨type, -, -, hhandlers⟩ := handlersDeclared hdocument hm
    obtain ⟨use, -, hof⟩ := exists_of_mem_forall₂ hhandlers hmem
    rcases List.mem_cons.mp hname with rfl | htarget
    · exact ⟨m, hm, hof.source_eq.symm⟩
    · exact hof.target_mem name (Option.mem_toList.mp htarget)

end Blueprint

end Keyspace
