import Keyspace.Proofs.Blueprint.Accepted
import Keyspace.Proofs.Blueprint.Declarations

/-!
# The order of definitions

A document may list its definitions in any order. What it declares is kept by name, and the
names of its scalars are only asked for, so two orders of one document lead the builder through
the same steps. Only a document that declares a type twice is told about the first clash in its
own order, and that is refused in every order.
-/
namespace Keyspace.Blueprint

open Schema

section Declared

variable {document document' : Document}

theorem typeNames_perm (h : document.Perm document') :
    (typeNames document).Perm (typeNames document') :=
  h.filterMap _

theorem scalarsOf_perm (h : document.Perm document') :
    (scalarsOf document).Perm (scalarsOf document') :=
  (h.filterMap _).append_left _

theorem ofList_declared_perm {α : Type} {declared? : Definition → Option (String × α)}
    (hname : ∀ d entry, declared? d = some entry → d.typeName? = some entry.1)
    (h : document.Perm document') (hdistinct : (typeNames document).Nodup) :
    Dict.ofList (document.filterMap declared?) = Dict.ofList (document'.filterMap declared?) :=
  Dict.ofList_perm (h.filterMap _) (nodup_entryNames hname hdistinct)

theorem objectsOf_perm (h : document.Perm document') (hdistinct : (typeNames document).Nodup) :
    objectsOf document = objectsOf document' := by
  refine ofList_declared_perm (fun d entry hentry => ?_) h hdistinct
  cases d <;> cases hentry
  rfl

theorem interfacesOf_perm (h : document.Perm document')
    (hdistinct : (typeNames document).Nodup) : interfacesOf document = interfacesOf document' := by
  refine ofList_declared_perm (fun d entry hentry => ?_) h hdistinct
  cases d <;> cases hentry
  rfl

theorem enumsOf_perm (h : document.Perm document') (hdistinct : (typeNames document).Nodup) :
    enumsOf document = enumsOf document' := by
  refine ofList_declared_perm (fun d entry hentry => ?_) h hdistinct
  cases d <;> cases hentry
  rfl

/-- The declarations of a permuted document list the scalars in another order and differ in
nothing else; and they fail the same checks. -/
theorem ofDocument_declarations_perm (h : document.Perm document')
    (hdistinct : (typeNames document).Nodup) :
    Declarations.ofDocument document' =
      (fun ds => { ds with scalars := scalarsOf document' }) <$>
        Declarations.ofDocument document := by
  have hrepeated {names : List String} (hnames : names.Nodup) : repeated? [] names = none :=
    repeated?_eq_none_iff.mpr ⟨hnames, fun _ _ => List.not_mem_nil⟩
  have hdistinct' : (typeNames document').Nodup := (typeNames_perm h).nodup_iff.mp hdistinct
  unfold typeNames at hdistinct hdistinct'
  unfold Declarations.ofDocument
  rw [hrepeated hdistinct, hrepeated hdistinct', ← objectsOf_perm h hdistinct,
    ← interfacesOf_perm h hdistinct, ← enumsOf_perm h hdistinct]
  dsimp only
  cases (objectsOf document : List (String × TypeDeclaration)).find? fun entry =>
      primaryKeyCount entry.2 > 1 with
  | some entry => rfl
  | none =>
    cases (interfacesOf document : List (String × TypeDeclaration)).find? fun entry =>
        primaryKeyCount entry.2 > 0 with
    | some entry => rfl
    | none => rfl

end Declared

/-! ## Scalars are only asked for -/

section Scalars

variable {ds : Declarations} {scalars : List String}

theorem fieldKind_scalars (h : ds.scalars.Perm scalars) :
    { ds with scalars := scalars }.fieldKind = ds.fieldKind := by
  funext location typeName
  have hcontains : scalars.contains typeName = ds.scalars.contains typeName :=
    h.symm.contains_eq
  unfold Declarations.fieldKind
  rw [hcontains]

theorem buildField_scalars (h : ds.scalars.Perm scalars) :
    buildField { ds with scalars := scalars } = buildField ds := by
  funext type owners declared
  unfold buildField
  rw [fieldKind_scalars h]
  rfl

theorem buildModel_scalars (config : Config) (h : ds.scalars.Perm scalars) :
    buildModel config { ds with scalars := scalars } = buildModel config ds := by
  funext type
  unfold buildModel buildFields
  rw [buildField_scalars h]
  rfl

theorem buildModels_scalars (config : Config) (h : ds.scalars.Perm scalars) :
    buildModels config { ds with scalars := scalars } = buildModels config ds := by
  unfold buildModels
  rw [buildModel_scalars config h]

end Scalars

/-- A document whose types have names of their own is built, or refused with the same error, in
whatever order it lists them. -/
theorem ofDocument_eq_of_perm (config : Config) {document document' : Document}
    (h : document.Perm document') (hdistinct : (typeNames document).Nodup) :
    ofDocument config document' = ofDocument config document := by
  unfold ofDocument
  rw [ofDocument_declarations_perm h hdistinct]
  cases hds : Declarations.ofDocument document with
  | error e => rfl
  | ok ds =>
    have hscalars : ds.scalars.Perm (scalarsOf document') := by
      rw [(ofDocument_eq_ok_iff.mp hds).2]
      exact scalarsOf_perm h
    show (buildModels config { ds with scalars := scalarsOf document' } >>= _) =
      (buildModels config ds >>= _)
    rw [buildModels_scalars config hscalars]
    rfl

/-- A document is accepted in every order of its definitions or in none, and its blueprint does
not depend on the order. -/
theorem ofDocument_perm (config : Config) {document document' : Document}
    (h : document.Perm document') (b : Blueprint) :
    ofDocument config document' = .ok b ↔ ofDocument config document = .ok b := by
  by_cases hdistinct : (typeNames document).Nodup
  · rw [ofDocument_eq_of_perm config h hdistinct]
  · have hrefused {d : Document} (hd : ¬(typeNames d).Nodup) : ofDocument config d ≠ .ok b := by
      intro hok
      obtain ⟨ds, -, hds, -⟩ := ofDocument_eq_ok hok
      exact hd (ofDocument_eq_ok_iff.mp hds).1.distinct
    have hdistinct' : ¬(typeNames document').Nodup := by
      rwa [← (typeNames_perm h).nodup_iff]
    exact iff_of_false (hrefused hdistinct') (hrefused hdistinct)

open OrdersDocument in
/-- The definitions may be listed backwards, models before the interfaces they implement. -/
theorem reversed_document_is_built : document.Perm document.reverse ∧
    ∃ b, ofDocument .default document = .ok b ∧ ofDocument .default document.reverse = .ok b ∧
      b.models.map (·.name) = ["Customer", "Order", "Summary"] := by
  obtain ⟨b, hb, hmodels, -⟩ := exists_blueprint
  have hperm : document.Perm document.reverse := (List.reverse_perm document).symm
  exact ⟨hperm, b, hb, (ofDocument_perm .default hperm b).mpr hb, hmodels⟩

end Keyspace.Blueprint
