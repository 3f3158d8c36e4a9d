import Keyspace.Proofs.Code.Faults

/-!
# What code generation ends with

Models, fields and enums come first: a name among them that is no identifier is a fault, and a type
or a value called `Self` is an error, and so is a function that is called where its path cannot be.
Handlers are written after them, one by one, so a handler is reached only if none before it is
called `Self`.
-/
namespace Keyspace

namespace Result

variable {α β : Type}

def Faults (x : Result α) : Prop := ∃ detail, x = .error (.fault detail)

theorem not_faults_ok (a : α) : ¬Faults (.ok a) := fun ⟨_, h⟩ => by cases h

theorem not_faults_unexpected (detail : String) : ¬Faults (α := α) (.error (.unexpected detail)) :=
  fun ⟨_, h⟩ => by cases h

theorem Faults.bind {x : Result α} {f : α → Result β} (h : Faults x) : Faults (x >>= f) := by
  obtain ⟨detail, rfl⟩ := h
  exact ⟨detail, rfl⟩

theorem faults_bind_pure {x : Result α} {g : α → β} :
    Faults (x >>= fun a => pure (g a)) ↔ Faults x := by
  refine ⟨fun ⟨detail, h⟩ => ?_, Faults.bind⟩
  cases x with
  | ok a => cases h
  | error e =>
    cases h
    exact ⟨detail, rfl⟩

theorem mapM_eq_ok_map {f : α → Result β} {g : α → β} {xs : List α}
    (h : ∀ x ∈ xs, f x = .ok (g x)) : xs.mapM f = .ok (xs.map g) := by
  rw [mapM_eq_ok, List.forall₂_map_right_iff, List.forall₂_same]
  exact h

/-- A list is gone through up to the first element that is refused, or to its first fault. -/
theorem faults_mapM_iff {f : α → Result β} {stops : α → Bool} {good : α → Prop} {xs : List α}
    (hstops : ∀ x ∈ xs, stops x = true → ∃ detail, f x = .error (.unexpected detail))
    (hgood : ∀ x ∈ xs, stops x = false → FaultsUnless (f x) (good x)) :
    Faults (xs.mapM f) ↔ ¬∀ x ∈ xs.takeWhile (!stops ·), good x := by
  induction xs with
  | nil => exact iff_of_false (not_faults_ok []) fun hnot => hnot (by simp)
  | cons x xs ih =>
    rw [List.forall_mem_cons] at hstops hgood
    rw [List.mapM_cons, List.takeWhile_cons]
    cases hstop : stops x with
    | true =>
      obtain ⟨detail, hx⟩ := hstops.1 hstop
      rw [hx]
      exact iff_of_false (not_faults_unexpected detail) fun hnot => hnot (by simp)
    | false =>
      by_cases hx : good x
      · obtain ⟨y, hy⟩ := (hgood.1 hstop).ok hx
        rw [hy]
        show Faults (xs.mapM f >>= fun ys => pure (y :: ys)) ↔ _
        rw [faults_bind_pure, ih hstops.2 hgood.2]
        simp [hx]
      · refine iff_of_true ?_ fun hall => hx (hall x (by simp))
        exact Faults.bind ((hgood.1 hstop).fault hx)

end Result

namespace Blueprint

open Code Text

/-- Every name a blueprint declares begins with a letter, and no field is called `super`. -/
structure IsNameable (b : Blueprint) : Prop where
  enums : ∀ e ∈ b.enums, startsWithLetter e.name = true
  values : ∀ e ∈ b.enums, ∀ value ∈ e.values, startsWithLetter value = true
  models : ∀ m ∈ b.models, startsWithLetter m.name = true
  fields : ∀ m ∈ b.models, ∀ f ∈ m.fields,
    startsWithLetter f.name = true ∧ snakeCase f.name ≠ "super"

/-- The names of the types and enum values that the models module declares, in its order. -/
def declared (b : Blueprint) : List String :=
  (b.enums.flatMap fun e => e.name :: e.values) ++ b.models.map (·.name)

/-- A type or an enum value is called `Self`. -/
def DeclaresSelf (b : Blueprint) : Prop := ∃ name ∈ b.declared, pascalCase name = "Self"

instance (b : Blueprint) : Decidable b.DeclaresSelf :=
  inferInstanceAs (Decidable (∃ name ∈ b.declared, _))

/-- The models module is refused: it declares a type or a value called `Self`, or calls a function
where its path cannot be called. -/
def IsRefused (b : Blueprint) (paths : PathReader) : Prop :=
  b.DeclaresSelf ∨ ∃ m ∈ b.models, hasValidCalls paths m = false

instance (b : Blueprint) (paths : PathReader) : Decidable (b.IsRefused paths) :=
  inferInstanceAs (Decidable (_ ∨ ∃ m ∈ b.models, _))

end Blueprint

namespace Code

open Result Text Blueprint

/-! ## Models -/

theorem checkNames_eq_ok {names : List String} :
    checkNames names = .ok () ↔ ∀ name ∈ names, name ∉ keywords := by
  unfold checkNames
  cases hfound : names.find? keywords.contains with
  | none => simpa using hfound
  | some name =>
    refine ⟨(nomatch ·), fun h => absurd ?_ (h name (List.mem_of_find?_eq_some hfound))⟩
    simpa using List.find?_some hfound

theorem checkNames_unexpected {names : List String} {name : String} (hname : name ∈ names)
    (hkeyword : name ∈ keywords) : ∃ detail, checkNames names = .error (.unexpected detail) := by
  unfold checkNames
  cases hfound : names.find? keywords.contains with
  | none => exact absurd (by simpa using hkeyword) (List.find?_eq_none.mp hfound name hname)
  | some found => exact ⟨_, rfl⟩

section Settled

variable {b : Blueprint} (hb : NamesSettled b)
include hb

theorem isNameable_iff : b.IsNameable ↔
    (∀ e ∈ b.enums, NamesType e.name ∧ ∀ value ∈ e.values, NamesType value) ∧
      ∀ m ∈ b.models, NamesModel m := by
  have htype {name : String} (h : Schema.IsReadableName name) :
      NamesType name ↔ startsWithLetter name = true := by rw [NamesType, isIdentifier_pascalCase h]
  have hfield {name : String} (h : Schema.IsReadableName name) :
      NamesField name ↔ startsWithLetter name = true ∧ snakeCase name ≠ "super" := by
    rw [NamesField, isIdentifier_snakeCase h]
  constructor
  · intro h
    have henums : ∀ e ∈ b.enums, NamesType e.name ∧ ∀ value ∈ e.values, NamesType value :=
      fun e he => ⟨(htype (hb.enums e he).1).mpr (h.enums e he),
        fun value hvalue =>
          (htype ((hb.enums e he).2 value hvalue)).mpr (h.values e he value hvalue)⟩
    refine ⟨henums, fun m hm => ⟨(htype (hb.models m hm)).mpr (h.models m hm),
      fun f hf => (hfield (hb.fields m hm f hf)).mpr (h.fields m hm f hf), fun f hf hkind => ?_⟩⟩
    obtain ⟨e, he, hname⟩ := hb.enumTypes m hm f hf hkind
    rw [← hname]
    exact (henums e he).1
  · rintro ⟨henums, hmodels⟩
    exact ⟨fun e he => (htype (hb.enums e he).1).mp (henums e he).1,
      fun e he value hvalue =>
        (htype ((hb.enums e he).2 value hvalue)).mp ((henums e he).2 value hvalue),
      fun m hm => (htype (hb.models m hm)).mp (hmodels m hm).type,
      fun m hm f hf => (hfield (hb.fields m hm f hf)).mp ((hmodels m hm).fields f hf)⟩

end Settled

theorem typeIdentifier_eq {name : String} (h : NamesType name) :
    typeIdentifier name = .ok (pascalCase name) := if_pos h

theorem enumVariants_eq {e : EnumType} (h : ∀ value ∈ e.values, NamesType value) :
    enumVariants e = .ok (e.values.map fun value => (value, pascalCase value)) := by
  refine mapM_eq_ok_map fun value hvalue => ?_
  rw [show variantIdentifier value = .ok (pascalCase value) from if_pos (h value hvalue)]
  rfl

theorem declaredNames_eq {b : Blueprint}
    (henums : ∀ e ∈ b.enums, NamesType e.name ∧ ∀ value ∈ e.values, NamesType value)
    (hmodels : ∀ m ∈ b.models, NamesModel m) :
    declaredNames b = .ok (b.declared.map pascalCase) := by
  have hnames : (b.enums.mapM fun e => do
      pure ((← typeIdentifier e.name) :: (← enumVariants e).map (·.2)) : Result _) =
        .ok (b.enums.map fun e => pascalCase e.name :: e.values.map pascalCase) := by
    refine mapM_eq_ok_map fun e he => ?_
    rw [typeIdentifier_eq (henums e he).1, enumVariants_eq (henums e he).2]
    show Except.ok _ = _
    rw [List.map_map]
    rfl
  have hstructs : (b.models.mapM fun m => typeIdentifier m.name) =
      .ok (b.models.map fun m => pascalCase m.name) :=
    mapM_eq_ok_map fun m hm => typeIdentifier_eq (hmodels m hm).type
  unfold declaredNames
  rw [hnames, hstructs]
  show Except.ok _ = _
  simp only [Blueprint.declared, List.map_append, List.map_flatMap, List.map_map, List.map_cons,
    ← List.flatMap_def]
  rfl

theorem checkNames_declared {b : Blueprint} (hself : ¬b.DeclaresSelf) :
    checkNames (b.declared.map pascalCase) = .ok () := by
  refine checkNames_eq_ok.mpr fun text htext hkeyword => hself ?_
  obtain ⟨name, hname, rfl⟩ := List.mem_map.mp htext
  exact ⟨name, hname, pascalCase_mem_keywords_iff.mp hkeyword⟩

section Settled

variable {b : Blueprint} {paths : PathReader} (hb : NamesSettled b)
include hb

theorem modelsCode_faults (h : ¬b.IsNameable) : Faults (modelsCode paths b) := by
  have henums := faultsUnless_mapM fun e (_ : e ∈ b.enums) => faultsUnless_enumCode e
  have hmodels := faultsUnless_mapM fun m (hm : m ∈ b.models) =>
    faultsUnless_modelCode paths (hb.ownFields m hm)
  rw [isNameable_iff hb] at h
  unfold modelsCode
  by_cases hnamed : ∀ e ∈ b.enums, NamesType e.name ∧ ∀ value ∈ e.values, NamesType value
  · obtain ⟨enums, hok⟩ := henums.ok hnamed
    have hfault : Faults (b.models.mapM (modelCode paths)) :=
      hmodels.fault fun hall => h ⟨hnamed, hall⟩
    rw [hok]
    exact hfault.bind
  · exact Faults.bind (henums.fault hnamed)

variable (paths) in
/-- With names that can be written, all that can fail are the checks for keywords and calls. -/
theorem exists_modelsCode_eq (h : b.IsNameable) (hvalid : ∀ m ∈ b.models, hasValidKey m = true) :
    ∃ text reason, modelsCode paths b = checkNames (b.declared.map pascalCase) >>= fun _ =>
      checkSyntax (b.models.all (hasValidCalls paths)) reason >>= fun _ => pure text := by
  obtain ⟨hnamed, hall⟩ := (isNameable_iff hb).mp h
  have hkeys : ∀ m ∈ b.models, NamesType m.name ∧ ∀ name ∈ m.keyFields, NamesField name :=
    fun m hm => ⟨(hall m hm).type, fun _ => (hall m hm).keyFields (hb.ownFields m hm)⟩
  obtain ⟨enums, henums⟩ := (faultsUnless_mapM fun e _ => faultsUnless_enumCode e).ok hnamed
  obtain ⟨models, hmodels⟩ := (faultsUnless_mapM fun m hm =>
    faultsUnless_modelCode paths (hb.ownFields m hm)).ok hall
  obtain ⟨store, hstore⟩ := (faultsUnless_storeCode hb.models).ok hkeys
  refine ⟨line (enums ++ models ++ [store]), "a function is called by no expression", ?_⟩
  unfold modelsCode
  rw [henums, hmodels, hstore, declaredNames_eq hnamed hall, List.all_eq_true.mpr hvalid]
  rfl

theorem modelsCode_refused (h : b.IsNameable) (hvalid : ∀ m ∈ b.models, hasValidKey m = true)
    (hrefused : b.IsRefused paths) :
    ∃ detail, modelsCode paths b = .error (.unexpected detail) := by
  obtain ⟨text, reason, htext⟩ := exists_modelsCode_eq paths hb h hvalid
  by_cases hself : b.DeclaresSelf
  · obtain ⟨name, hname, heq⟩ := hself
    obtain ⟨detail, hdetail⟩ := checkNames_unexpected (List.mem_map_of_mem hname)
      (pascalCase_mem_keywords_iff.mpr heq)
    refine ⟨detail, ?_⟩
    rw [htext, hdetail]
    rfl
  · obtain ⟨m, hm, hcalls⟩ := hrefused.resolve_left hself
    have hinvalid : b.models.all (hasValidCalls paths) = false :=
      List.all_eq_false.mpr ⟨m, hm, by rw [hcalls]; exact Bool.false_ne_true⟩
    refine ⟨s!"generated code does not parse: {reason}", ?_⟩
    rw [htext, checkNames_declared hself, hinvalid]
    rfl

theorem exists_modelsCode (h : b.IsNameable) (hvalid : ∀ m ∈ b.models, hasValidKey m = true)
    (haccepted : ¬b.IsRefused paths) : ∃ text, modelsCode paths b = .ok text := by
  obtain ⟨text, reason, htext⟩ := exists_modelsCode_eq paths hb h hvalid
  obtain ⟨hself, hcalls⟩ := not_or.mp haccepted
  have hall : b.models.all (hasValidCalls paths) = true :=
    List.all_eq_true.mpr fun m hm => by simpa using fun hinvalid => hcalls ⟨m, hm, hinvalid⟩
  refine ⟨text, ?_⟩
  rw [htext, checkNames_declared hself, hall]
  rfl

end Settled

/-! ## Handlers -/

/-- A handler's module has the handler's name and code. -/
theorem handlerModule_eq_ok {h : ChangeHandler} {entry : String × String}
    (hentry : handlerModule h = .ok entry) :
    entry.1 = handlerModuleName h.name ∧ handlerCode h = .ok entry.2 := by
  unfold handlerModule at hentry
  obtain ⟨text, htext, hentry⟩ := bind_eq_ok.mp hentry
  obtain ⟨used, -, hentry⟩ := bind_eq_ok.mp hentry
  obtain ⟨⟨⟩, -, hentry⟩ := bind_eq_ok.mp hentry
  cases pure_eq_ok.mp hentry
  exact ⟨rfl, htext⟩

/-- Modules are named after the handlers, in their order. -/
theorem map_fst_handlerModules {hs : List ChangeHandler} {modules : List (String × String)}
    (h : hs.mapM handlerModule = .ok modules) :
    modules.map (·.1) = hs.map fun h => handlerModuleName h.name := by
  have hall : List.Forall₂ (· = ·) (hs.map fun h => handlerModuleName h.name)
      (modules.map (·.1)) := by
    rw [List.forall₂_map_left_iff, List.forall₂_map_right_iff]
    exact (mapM_eq_ok.mp h).imp fun _ _ hentry => (handlerModule_eq_ok hentry).1.symm
  rw [List.forall₂_eq_eq_eq] at hall
  exact hall.symm

section Handler

variable {h : ChangeHandler} (hused : ∀ name ∈ h.source :: h.target.toList, NamesType name)
include hused

theorem faultsUnless_handlerCode : FaultsUnless (handlerCode h) (NamesType h.name) := by
  rw [List.forall_mem_cons] at hused
  have htarget : ∃ target, h.target.mapM typeIdentifier = .ok target := by
    cases hname : h.target with
    | none => exact ⟨none, rfl⟩
    | some name =>
      refine ⟨some (pascalCase name), ?_⟩
      show some <$> typeIdentifier name = _
      rw [typeIdentifier_eq (hused.2 name (by simp [hname]))]
      rfl
  obtain ⟨target, htarget⟩ := htarget
  refine (faultsUnless_identifier _).andThen fun handler => ?_
  rw [typeIdentifier_eq hused.1, htarget]
  exact ⟨_, rfl⟩

/-- The check for keywords comes after the code of a handler. -/
theorem handlerModule_eq : handlerModule h = handlerCode h >>= fun code =>
    checkNames ((h.source :: h.target.toList).map pascalCase ++ [handlerStructName h.name]) >>=
      fun _ => pure (handlerModuleName h.name, code) := by
  unfold handlerModule
  dsimp only
  rw [mapM_eq_ok_map fun name hname => typeIdentifier_eq (hused name hname)]
  rfl

theorem handlerModule_self (hself : handlerStructName h.name = "Self") :
    ∃ detail, handlerModule h = .error (.unexpected detail) := by
  have hnamed : NamesType h.name := by
    rw [NamesType, show Text.pascalCase h.name = "Self" from hself]
    decide
  obtain ⟨code, hcode⟩ := (faultsUnless_handlerCode hused).ok hnamed
  have hmem : handlerStructName h.name ∈
      (h.source :: h.target.toList).map pascalCase ++ [handlerStructName h.name] :=
    List.mem_append_right _ (List.mem_singleton_self _)
  obtain ⟨detail, hdetail⟩ := checkNames_unexpected hmem (pascalCase_mem_keywords_iff.mpr hself)
  refine ⟨detail, ?_⟩
  rw [handlerModule_eq hused, hcode]
  show checkNames _ >>= _ = _
  rw [hdetail]
  rfl

theorem faultsUnless_handlerModule
    (hapart : ∀ name ∈ h.source :: h.target.toList, pascalCase name ≠ "Self")
    (hself : handlerStructName h.name ≠ "Self") :
    FaultsUnless (handlerModule h) (NamesType h.name) := by
  rw [handlerModule_eq hused]
  refine (faultsUnless_handlerCode hused).andThen fun code => ⟨(handlerModuleName h.name, code), ?_⟩
  have hchecked : checkNames ((h.source :: h.target.toList).map pascalCase ++
      [handlerStructName h.name]) = .ok () := by
    refine checkNames_eq_ok.mpr fun text htext hkeyword => ?_
    rcases List.mem_append.mp htext with hmem | hmem
    · obtain ⟨name, hname, rfl⟩ := List.mem_map.mp hmem
      exact hapart name hname (pascalCase_mem_keywords_iff.mp hkeyword)
    · rw [List.mem_singleton.mp hmem] at hkeyword
      exact hself (pascalCase_mem_keywords_iff.mp hkeyword)
  rw [hchecked]
  rfl

end Handler

end Code

/-! ## A whole blueprint -/

namespace Blueprint

open Code Result Text

/-- The struct of a handler is called by a keyword. -/
def isSelf (h : ChangeHandler) : Bool := decide (handlerStructName h.name = "Self")

/-- The handlers before the first that is called `Self`. -/
def reached (b : Blueprint) : List ChangeHandler := b.handlers.takeWhile (!isSelf ·)

/-- Every key of a model that is a single field has one field. -/
theorem hasValidKey_of_columnsApart {m : Model} (h : m.ColumnsApart) : hasValidKey m = true := by
  have hpart {fields : List Field} {synthetic : String} {part : KeyPart}
      (hbuilt : part.IsBuilt fields synthetic) :
      (!part.isSingleField || decide (part.fields.length ≤ 1)) = true := by
    cases hbuilt with
    | single found stored scalar => rfl
    | joined names lead => rfl
  refine List.all_eq_true.mpr fun part hmem => ?_
  rcases List.mem_cons.mp hmem with rfl | hsort
  · exact hpart h.partitionBuilt
  · exact hpart (h.sortBuilt part (Option.mem_toList.mp hsort))

section Accepted

variable {config : Config} {text : String} {b : Blueprint} {paths : PathReader}
  (hb : ofSchema config text = .ok b)
include hb

theorem ofSchema_hasValidKey : ∀ m ∈ b.models, hasValidKey m = true :=
  fun _ hm => hasValidKey_of_columnsApart (ofSchema_columnsApart hb hm)

theorem handlers_named (hnames : b.IsNameable) {h : ChangeHandler} (hh : h ∈ b.handlers) :
    ∀ name ∈ h.source :: h.target.toList, NamesType name := by
  intro name hname
  obtain ⟨m, hm, rfl⟩ := (ofSchema_namesSettled hb).handled h hh name hname
  exact (((isNameable_iff (ofSchema_namesSettled hb)).mp hnames).2 m hm).type

/-- Once the models are accepted, the module of a handler depends on the handler's name alone. -/
theorem faultsUnless_module (hnames : b.IsNameable) (haccepted : ¬b.IsRefused paths)
    {h : ChangeHandler} (hh : h ∈ b.handlers) (hself : handlerStructName h.name ≠ "Self") :
    FaultsUnless (handlerModule h) (NamesType h.name) := by
  have hapart : ∀ name ∈ h.source :: h.target.toList, pascalCase name ≠ "Self" := by
    intro name hname heq
    obtain ⟨m, hm, rfl⟩ := (ofSchema_namesSettled hb).handled h hh name hname
    exact haccepted (Or.inl ⟨m.name, List.mem_append_right _ (List.mem_map_of_mem hm), heq⟩)
  exact faultsUnless_handlerModule (handlers_named hb hnames hh) hapart hself

/-- Generation faults over a name among models, fields and enums, or over a handler it reaches. -/
theorem ofBlueprint_faults_iff : Faults (Code.ofBlueprint b paths) ↔
    ¬(b.IsNameable ∧ (b.IsRefused paths ∨ ∀ h ∈ b.reached, NamesType h.name)) := by
  unfold Code.ofBlueprint
  by_cases hnames : b.IsNameable
  · by_cases hrefused : b.IsRefused paths
    · obtain ⟨detail, hdetail⟩ := modelsCode_refused (ofSchema_namesSettled hb) hnames
        (ofSchema_hasValidKey hb) hrefused
      rw [hdetail]
      exact iff_of_false (not_faults_unexpected detail) fun hnot => hnot ⟨hnames, Or.inl hrefused⟩
    · obtain ⟨models, hmodels⟩ :=
        exists_modelsCode (ofSchema_namesSettled hb) hnames (ofSchema_hasValidKey hb) hrefused
      have hhandlers : Faults (b.handlers.mapM handlerModule) ↔
          ¬∀ h ∈ b.reached, NamesType h.name :=
        faults_mapM_iff (fun h hh hstop =>
            handlerModule_self (handlers_named hb hnames hh) (of_decide_eq_true hstop))
          fun h hh hgo => faultsUnless_module hb hnames hrefused hh (of_decide_eq_false hgo)
      rw [hmodels]
      show Faults (b.handlers.mapM handlerModule >>= _) ↔ _
      rw [faults_bind_pure, hhandlers]
      simp [hnames, hrefused]
  · exact iff_of_true (modelsCode_faults (ofSchema_namesSettled hb) hnames).bind
      fun h => hnames h.1

/-- Code is given if every name can be written, none is `Self`, and no call is refused. -/
theorem exists_ofBlueprint (hnames : b.IsNameable) (haccepted : ¬b.IsRefused paths)
    (hhandlers : ∀ h ∈ b.handlers, NamesType h.name ∧ handlerStructName h.name ≠ "Self") :
    ∃ code, Code.ofBlueprint b paths = .ok code := by
  obtain ⟨models, hmodels⟩ := exists_modelsCode (ofSchema_namesSettled hb) hnames
    (ofSchema_hasValidKey hb) haccepted
  obtain ⟨handlers, hok⟩ := exists_mapM_eq_ok_iff.mpr fun h (hh : h ∈ b.handlers) =>
    (faultsUnless_module hb hnames haccepted hh (hhandlers h hh).2).ok (hhandlers h hh).1
  refine ⟨⟨header ++ models, .ofList handlers⟩, ?_⟩
  unfold Code.ofBlueprint
  rw [hmodels, hok]
  rfl

/-- What has passed when code is given. -/
theorem of_ofBlueprint_eq_ok {code : RuntimeCode} (hcode : Code.ofBlueprint b paths = .ok code) :
    b.IsNameable ∧ ¬b.IsRefused paths ∧
      (∀ h ∈ b.handlers, NamesType h.name ∧ handlerStructName h.name ≠ "Self") ∧
      ∀ name, name ∈ code.handlers.keys ↔ ∃ h ∈ b.handlers, handlerModuleName h.name = name := by
  have hnames : b.IsNameable := by
    by_contra hnames
    have hfaults : Faults (Code.ofBlueprint b paths) :=
      (ofBlueprint_faults_iff hb).mpr fun h => hnames h.1
    rw [hcode] at hfaults
    exact not_faults_ok code hfaults
  unfold Code.ofBlueprint at hcode
  obtain ⟨models, hmodels, hcode⟩ := bind_eq_ok.mp hcode
  obtain ⟨handlers, hhandlers, hcode⟩ := bind_eq_ok.mp hcode
  cases pure_eq_ok.mp hcode
  have haccepted : ¬b.IsRefused paths := by
    intro hrefused
    obtain ⟨detail, hdetail⟩ := modelsCode_refused (ofSchema_namesSettled hb) hnames
      (ofSchema_hasValidKey hb) hrefused
    rw [hmodels] at hdetail
    cases hdetail
  refine ⟨hnames, haccepted, fun h hh => ?_, fun name => ?_⟩
  · obtain ⟨written, -, hwritten⟩ := mapM_reads_mem hhandlers hh
    have hapart : handlerStructName h.name ≠ "Self" := by
      intro heq
      obtain ⟨detail, hdetail⟩ := handlerModule_self (handlers_named hb hnames hh) heq
      rw [hwritten] at hdetail
      cases hdetail
    exact ⟨(faultsUnless_module hb hnames haccepted hh hapart).of_eq_ok hwritten, hapart⟩
  · show name ∈ Dict.keys (Dict.ofList handlers) ↔ _
    rw [Dict.mem_keys_ofList, map_fst_handlerModules hhandlers, List.mem_map]

end Accepted

end Blueprint

end Keyspace
