import Keyspace.Code.Emit
import Keyspace.Proofs.Blueprint.SchemaNames
import Keyspace.Proofs.Code.Identifiers
import Keyspace.Proofs.Record.Writing

/-!
# Where code generation faults

The generator makes identifiers and puts text around them, so it faults where a name is no
identifier and nowhere else. For every function of the generator the lemma here says which names
those are; the names that a model's keys, indexes and expiry bring in are names of its own fields.
-/
namespace Keyspace

namespace Result

variable {α β : Type} {p q : Prop}

/-- The computation gives a result if a condition holds, and is a fault if it does not. -/
structure FaultsUnless (x : Result α) (p : Prop) : Prop where
  ok : p → ∃ a, x = .ok a
  fault : ¬p → ∃ detail, x = .error (.fault detail)

theorem FaultsUnless.congr {x : Result α} (h : FaultsUnless x p) (hiff : p ↔ q) :
    FaultsUnless x q :=
  ⟨fun hq => h.ok (hiff.mpr hq), fun hq => h.fault (mt hiff.mp hq)⟩

theorem FaultsUnless.of_eq_ok {x : Result α} (h : FaultsUnless x p) {a : α} (hok : x = .ok a) :
    p := by
  by_contra hp
  obtain ⟨detail, hfault⟩ := h.fault hp
  rw [hok] at hfault
  cases hfault

theorem faultsUnless_pure (a : α) : FaultsUnless (pure a) True :=
  ⟨fun _ => ⟨a, rfl⟩, fun h => absurd trivial h⟩

theorem FaultsUnless.bind {x : Result α} {f : α → Result β} (hx : FaultsUnless x p)
    (hf : ∀ a, x = .ok a → FaultsUnless (f a) q) : FaultsUnless (x >>= f) (p ∧ q) := by
  constructor
  · rintro ⟨hp, hq⟩
    obtain ⟨a, rfl⟩ := hx.ok hp
    exact (hf a rfl).ok hq
  · intro hnot
    by_cases hp : p
    · obtain ⟨a, rfl⟩ := hx.ok hp
      exact (hf a rfl).fault fun hq => hnot ⟨hp, hq⟩
    · obtain ⟨detail, rfl⟩ := hx.fault hp
      exact ⟨detail, rfl⟩

/-- What follows without a fault of its own changes nothing. -/
theorem FaultsUnless.andThen {x : Result α} {f : α → Result β} (hx : FaultsUnless x p)
    (hf : ∀ a, ∃ b, f a = .ok b) : FaultsUnless (x >>= f) p := by
  refine (hx.bind (q := True) fun a _ => ?_).congr (and_iff_left trivial)
  exact ⟨fun _ => hf a, fun h => absurd trivial h⟩

/-- A list is gone through up to its first fault. -/
theorem faultsUnless_mapM {f : α → Result β} {p : α → Prop} {xs : List α}
    (h : ∀ x ∈ xs, FaultsUnless (f x) (p x)) : FaultsUnless (xs.mapM f) (∀ x ∈ xs, p x) := by
  induction xs with
  | nil => exact ⟨fun _ => ⟨[], rfl⟩, fun hnot => absurd (by simp) hnot⟩
  | cons x xs ih =>
    rw [List.forall_mem_cons] at h
    rw [List.mapM_cons]
    refine ((h.1.bind fun y _ => (ih h.2).andThen fun ys => ⟨y :: ys, rfl⟩)).congr ?_
    rw [List.forall_mem_cons]

end Result

/-- The names of the fields that a step of writing reads. -/
def WriteStep.fields : WriteStep → List String
  | .index _ _ fields => fields
  | .computed _ _ => []
  | .expiry _ field _ => [field]
  | .plain _ field => [field]

theorem Model.UsesOwnFields.writeSteps {m : Model} (h : m.UsesOwnFields)
    {paths : Code.PathReader} {step : WriteStep} (hstep : step ∈ m.writeSteps paths)
    {name : String} (hname : name ∈ step.fields) : ∃ f ∈ m.fields, f.name = name := by
  rcases mem_writeSteps.mp hstep with ⟨part, hpart, -, rfl⟩ | ⟨f, hf, hfield⟩
  · exact h.indexes part hpart name hname
  · obtain ⟨-, ⟨c, -, -, rfl⟩ | ⟨-, -, rfl⟩ | ⟨-, -, rfl⟩⟩ := fieldStep?_eq_some.mp hfield
    · cases hname
    · exact ⟨f, hf, (List.mem_singleton.mp hname).symm⟩
    · exact ⟨f, hf, (List.mem_singleton.mp hname).symm⟩

namespace Code

open Result

/-! ## Identifiers -/

theorem faultsUnless_identifier (text : String) :
    FaultsUnless (identifier text) (isIdentifier text = true) := by
  unfold identifier
  constructor
  · intro h
    exact ⟨text, if_pos h⟩
  · intro h
    exact ⟨_, if_neg h⟩

theorem faultsUnless_typeIdentifier (name : String) :
    FaultsUnless (typeIdentifier name) (NamesType name) := faultsUnless_identifier _

theorem faultsUnless_fieldIdentifier (name : String) :
    FaultsUnless (fieldIdentifier name) (NamesField name) := by
  refine ⟨fun h => ⟨_, fieldIdentifier_eq_ok.mpr ⟨h, rfl⟩⟩, fun h => ?_⟩
  cases hfound : fieldIdentifier name with
  | ok text => exact absurd (fieldIdentifier_eq_ok.mp hfound).1 h
  | error e =>
    unfold fieldIdentifier rawIdentifier identifier at hfound
    dsimp only at hfound
    split_ifs at hfound <;> cases hfound <;> exact ⟨_, rfl⟩

/-! ## Models -/

/-- The type of a field is the type of its enum, if it has one. -/
theorem faultsUnless_fieldType (f : Field) :
    FaultsUnless (fieldType f) (f.kind = .enum → NamesType f.typeName) := by
  have helement : FaultsUnless (elementType f) (f.kind = .enum → NamesType f.typeName) := by
    unfold elementType
    cases hkind : f.kind with
    | enum => exact (faultsUnless_typeIdentifier _).congr (by simp)
    | embedded => exact (faultsUnless_pure _).congr (by simp)
    | scalar => exact (faultsUnless_pure _).congr (by simp)
  refine helement.andThen fun element => ?_
  split_ifs <;> exact ⟨_, rfl⟩

theorem faultsUnless_selfField (name : String) : FaultsUnless (selfField name) (NamesField name) :=
  (faultsUnless_fieldIdentifier name).andThen fun _ => ⟨_, rfl⟩

theorem faultsUnless_fieldNames {f : String → String → String} (names : List String) :
    FaultsUnless (names.mapM fun name => do pure (f name (← fieldIdentifier name)))
      (∀ name ∈ names, NamesField name) :=
  faultsUnless_mapM fun name _ => (faultsUnless_fieldIdentifier name).andThen fun _ => ⟨_, rfl⟩

theorem faultsUnless_structField (f : Field) : FaultsUnless (structField f)
    (NamesField f.name ∧ (f.kind = .enum → NamesType f.typeName)) :=
  (faultsUnless_fieldIdentifier f.name).bind fun _ _ =>
    (faultsUnless_fieldType f).andThen fun _ => ⟨_, rfl⟩

theorem faultsUnless_recordStruct (m : Model) : FaultsUnless (recordStruct m)
    (NamesType m.name ∧
      ∀ f ∈ m.fields, NamesField f.name ∧ (f.kind = .enum → NamesType f.typeName)) :=
  (faultsUnless_typeIdentifier m.name).bind fun _ _ =>
    (faultsUnless_mapM fun f _ => faultsUnless_structField f).andThen fun _ => ⟨_, rfl⟩

theorem faultsUnless_keyInsert (part : KeyPart) :
    FaultsUnless (keyInsert part) (∀ name ∈ part.fields, NamesField name) :=
  (faultsUnless_fieldNames part.fields).andThen fun _ => ⟨_, rfl⟩

theorem faultsUnless_writeStatement (paths : PathReader) (step : WriteStep) :
    FaultsUnless (writeStatement paths step) (∀ name ∈ step.fields, NamesField name) := by
  cases step with
  | index attributeName lead fields =>
    refine FaultsUnless.andThen (faultsUnless_mapM fun name _ => ?_) fun _ => ⟨_, rfl⟩
    exact (faultsUnless_selfField name).andThen fun _ => ⟨_, rfl⟩
  | computed column function => exact (faultsUnless_pure _).congr (by simp [WriteStep.fields])
  | expiry column field isRequired =>
    refine FaultsUnless.congr ((faultsUnless_selfField field).andThen fun value => ?_)
      (by simp [WriteStep.fields])
    cases isRequired <;> exact ⟨_, rfl⟩
  | plain column field =>
    exact ((faultsUnless_selfField field).andThen fun _ => ⟨_, rfl⟩).congr
      (by simp [WriteStep.fields])

theorem faultsUnless_readInitializer (m : Model) (f : Field) :
    FaultsUnless (readInitializer m f) (NamesField f.name) :=
  (faultsUnless_fieldIdentifier f.name).andThen fun _ => ⟨_, rfl⟩

theorem faultsUnless_computeStatement (paths : PathReader) (f : Field) (c : ComputeFunction) :
    FaultsUnless (computeStatement paths f c) (NamesField f.name) :=
  (faultsUnless_fieldIdentifier f.name).andThen fun _ => ⟨_, rfl⟩

theorem faultsUnless_expiryMethod (m : Model) : FaultsUnless (expiryMethod m)
    (∀ field seconds, m.expiryDefault? = some (field, seconds) → NamesField field) := by
  unfold expiryMethod
  cases hdefault : m.expiryDefault? with
  | none => exact (faultsUnless_pure _).congr (by simp)
  | some default =>
    refine FaultsUnless.congr ((faultsUnless_selfField default.1).andThen fun _ => ⟨_, rfl⟩) ?_
    constructor
    · rintro hnames field seconds ⟨⟩
      exact hnames
    · exact fun h => h default.1 default.2 rfl

theorem faultsUnless_keyBuilder (m : Model) : FaultsUnless (keyBuilder m)
    (NamesType m.name ∧ (∀ name ∈ m.keyFields, NamesField name) ∧
      ∀ part ∈ m.primaryKey.parts, ∀ name ∈ part.fields, NamesField name) :=
  (faultsUnless_typeIdentifier m.name).bind fun _ _ =>
    (faultsUnless_fieldNames m.keyFields).bind fun _ _ =>
      (faultsUnless_mapM fun part _ => faultsUnless_keyInsert part).andThen fun _ => ⟨_, rfl⟩

theorem faultsUnless_modelImpl (paths : PathReader) (m : Model) :
    FaultsUnless (modelImpl paths m) (NamesType m.name ∧ (∀ name ∈ m.keyFields, NamesField name) ∧
      (∀ step ∈ m.writeSteps paths, ∀ name ∈ step.fields, NamesField name) ∧
      (∀ f ∈ m.fields, NamesField f.name) ∧
      (∀ entry ∈ m.computedOnRead paths, NamesField entry.1.name) ∧
      ∀ field seconds, m.expiryDefault? = some (field, seconds) → NamesField field) :=
  (faultsUnless_typeIdentifier m.name).bind fun _ _ =>
    (faultsUnless_mapM fun name _ =>
      (faultsUnless_selfField name).andThen fun _ => ⟨_, rfl⟩).bind fun _ _ =>
    (faultsUnless_mapM fun step _ => faultsUnless_writeStatement paths step).bind fun _ _ =>
    (faultsUnless_mapM fun f _ => faultsUnless_readInitializer m f).bind fun _ _ =>
    (faultsUnless_mapM fun entry _ =>
      faultsUnless_computeStatement paths entry.1 entry.2).bind fun _ _ =>
    (faultsUnless_expiryMethod m).andThen fun _ => ⟨_, rfl⟩

/-- The names of a model can be written: its own, those of its fields, and those of their enums. -/
structure NamesModel (m : Model) : Prop where
  type : NamesType m.name
  fields : ∀ f ∈ m.fields, NamesField f.name
  enums : ∀ f ∈ m.fields, f.kind = .enum → NamesType f.typeName

theorem NamesModel.keyFields {m : Model} (h : NamesModel m) (hown : m.UsesOwnFields) {name : String}
    (hname : name ∈ m.keyFields) : NamesField name := by
  obtain ⟨f, hf, rfl⟩ := hown.keyFields hname
  exact h.fields f hf

theorem faultsUnless_modelCode (paths : PathReader) {m : Model} (h : m.UsesOwnFields) :
    FaultsUnless (modelCode paths m) (NamesModel m) := by
  refine FaultsUnless.congr ((faultsUnless_recordStruct m).bind fun _ _ =>
    (faultsUnless_keyBuilder m).bind fun _ _ =>
      (faultsUnless_modelImpl paths m).andThen fun _ => ⟨_, rfl⟩) ⟨?_, fun hnames => ?_⟩
  · rintro ⟨⟨htype, hfields⟩, -, -⟩
    exact ⟨htype, fun f hf => (hfields f hf).1, fun f hf => (hfields f hf).2⟩
  · have hfield {name : String} (hname : ∃ f ∈ m.fields, f.name = name) : NamesField name := by
      obtain ⟨f, hf, rfl⟩ := hname
      exact hnames.fields f hf
    have hkeys : ∀ name ∈ m.keyFields, NamesField name := fun _ => hnames.keyFields h
    have hcomputed : ∀ entry ∈ m.computedOnRead paths, NamesField entry.1.name := by
      intro entry hentry
      obtain ⟨f, hf, hsome⟩ := List.mem_filterMap.mp hentry
      split_ifs at hsome
      obtain ⟨c, -, hsome⟩ := Option.bind_eq_some_iff.mp hsome
      split_ifs at hsome
      cases hsome
      exact hnames.fields f hf
    exact ⟨⟨hnames.type, fun f hf => ⟨hnames.fields f hf, hnames.enums f hf⟩⟩,
      ⟨hnames.type, hkeys, fun part hpart name hname => hfield (h.keys part hpart name hname)⟩,
      hnames.type, hkeys, fun step hstep name hname => hfield (h.writeSteps hstep hname),
      hnames.fields, hcomputed, fun field seconds hdefault =>
        hfield (Model.mem_of_expiryDefault? hdefault)⟩

/-! ## Store methods and enums -/

theorem faultsUnless_storeMethods {m : Model} (hread : Schema.IsReadableName m.name) :
    FaultsUnless (storeMethods m) (NamesType m.name ∧ ∀ name ∈ m.keyFields, NamesField name) := by
  have hmethod (verb : String) (hverb : verb ∈ storeVerbs) :
      FaultsUnless (storeMethodName verb m) True :=
    (faultsUnless_identifier _).congr (iff_true_intro (isLegal_methodName hverb hread).1)
  refine FaultsUnless.congr ((faultsUnless_typeIdentifier m.name).bind fun _ _ =>
    (hmethod "create" (by decide)).bind fun _ _ => (hmethod "get" (by decide)).bind fun _ _ =>
    (hmethod "find" (by decide)).bind fun _ _ => (hmethod "update" (by decide)).bind fun _ _ =>
    (hmethod "delete" (by decide)).bind fun _ _ =>
    (faultsUnless_fieldNames m.keyFields).bind fun _ _ =>
    (faultsUnless_mapM fun name _ => faultsUnless_fieldIdentifier name).andThen fun _ => ?_) ?_
  · dsimp only
    split_ifs <;> exact ⟨_, rfl⟩
  · simp

theorem faultsUnless_storeCode {models : List Model}
    (hread : ∀ m ∈ models, Schema.IsReadableName m.name) : FaultsUnless (storeCode models)
      (∀ m ∈ models, NamesType m.name ∧ ∀ name ∈ m.keyFields, NamesField name) :=
  (faultsUnless_mapM fun m hm => faultsUnless_storeMethods (hread m hm)).andThen fun _ => ⟨_, rfl⟩

theorem faultsUnless_enumVariants (e : EnumType) :
    FaultsUnless (enumVariants e) (∀ value ∈ e.values, NamesType value) :=
  faultsUnless_mapM fun value _ => (faultsUnless_typeIdentifier value).andThen fun _ => ⟨_, rfl⟩

theorem faultsUnless_enumCode (e : EnumType) : FaultsUnless (enumCode e)
    (NamesType e.name ∧ ∀ value ∈ e.values, NamesType value) :=
  (faultsUnless_typeIdentifier e.name).bind fun _ _ =>
    (faultsUnless_enumVariants e).andThen fun _ => ⟨_, rfl⟩

end Code

end Keyspace
