import Keyspace.Proofs.Blueprint.Accepted
import Keyspace.Proofs.Blueprint.Declarations
import Keyspace.Proofs.Schema.Directives

/-!
# Where models come from

A model of a blueprint is built from the one object type of the document that has its name. All of
it but its handlers stays as it was built: its fields, its keys and its indexes are what the type
and the directives of the type declare.
-/
namespace Keyspace.Blueprint

open Schema Result

/-- A model is built from a type of a document, and from the directives of the type. -/
structure IsOrigin (document : Document) (type : TypeDeclaration) (directives : List Directive)
    (m : Model) : Prop where
  declared : Definition.object type ∈ document
  name_eq : m.name = type.name
  directivesRead : Directive.readAll type.name .type type.directives = .ok directives
  fieldsBuilt : buildFields (declarations document) type = .ok m.fields
  keyBuilt : ∃ d, primaryKey type.name d m.fields = .ok m.primaryKey
  indexesBuilt : directives.foldlM (addIndex m.fields m.primaryKey) [] = .ok m.indexes
  expiryBuilt : type.fields.foldlM (addTtl (declarations document) type m.fields) none = .ok m.ttl
  columnsFree : checkReservedColumns type.name m.fields m.primaryKey m.indexes = .ok ()

variable {config : Config} {document : Document} {b : Blueprint} {m : Model}

theorem exists_origin (h : ofDocument config document = .ok b) (hm : m ∈ b.models) :
    ∃ type directives, IsOrigin document type directives m := by
  obtain ⟨ds, built, hds, hbuilt, hmodels, -⟩ := ofDocument_eq_ok h
  obtain ⟨hapart, rfl⟩ := ofDocument_eq_ok_iff.mp hds
  obtain ⟨m', hm', handlers, rfl⟩ := exists_of_mem_forall₂ (resolveHandlers_eq_ok hmodels) hm
  obtain ⟨member, hmember, rfl⟩ := List.mem_map.mp hm'
  obtain ⟨entry, hentry, hmodel⟩ := exists_of_mem_buildModels hbuilt hmember
  obtain ⟨directives, hsteps⟩ := exists_isBuiltFrom hmodel
  exact ⟨entry.2, directives, ((mem_objectsOf hapart.distinct).mp hentry).1, hsteps.name_eq,
    hsteps.directivesRead, hsteps.fieldsBuilt, hsteps.keyBuilt, hsteps.indexesBuilt,
    hsteps.expiryBuilt, hsteps.columnsFree⟩

namespace IsOrigin

variable {type : TypeDeclaration} {directives : List Directive}

/-- The type is told by its name. -/
theorem eq_of_name (h : IsOrigin document type directives m)
    (hb : ofDocument config document = .ok b) {type' : TypeDeclaration}
    (hdeclared : Definition.object type' ∈ document) (hname : type'.name = m.name) :
    type' = type := by
  obtain ⟨ds, -, hds, -⟩ := ofDocument_eq_ok hb
  exact object_inj (ofDocument_eq_ok_iff.mp hds).1.distinct hdeclared h.declared
    (hname.trans h.name_eq)

/-- Every directive of the model is written at its type. -/
theorem exists_use (h : IsOrigin document type directives m) {d : Directive} (hd : d ∈ directives) :
    ∃ use ∈ type.directives, d.IsReadFrom use :=
  (Directive.readAll_eq_ok h.directivesRead).exists_use hd

theorem exists_directive (h : IsOrigin document type directives m) {use : DirectiveUse}
    (huse : use ∈ type.directives) (hknown : use.isKnown = true) :
    ∃ d ∈ directives, d.IsReadFrom use :=
  (Directive.readAll_eq_ok h.directivesRead).exists_read huse hknown

end IsOrigin

end Keyspace.Blueprint
