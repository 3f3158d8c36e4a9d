import Keyspace.Proofs.Code.Outcome
import Keyspace.Proofs.Record.OwnColumns

/-!
# What the code of a model does for each field

The methods that write and read the records of a model are made of statements, one for each step
of the model's plan, and stand in the generated module as they are. The plan serves a field if a
stored field is written once and read from its columns, and a virtual field is filled once. A
field whose compute function is named by no path is passed over where it would be written or
filled, though it is read like any other: what is written for such a field is nothing, and a
record that needs it cannot be read again. Which texts are paths is left to the reader of paths:
all of this holds whatever it reads.
-/
namespace Keyspace

open Result

/-- The columns that a field is looked for under. -/
def ReadRule.columns : ReadRule → List String
  | virtual => []
  | list columns => columns
  | required columns => columns
  | optional columns => columns

namespace Code

/-! ## Pieces of text -/

theorem infix_intercalate {α : Type} {separator piece : List α} {pieces : List (List α)}
    (h : piece ∈ pieces) : piece <:+: separator.intercalate pieces := by
  induction pieces with
  | nil => cases h
  | cons first rest ih =>
    cases rest with
    | nil =>
      obtain rfl := List.mem_singleton.mp h
      exact ⟨[], [], by simp⟩
    | cons second rest =>
      rw [List.intercalate_cons_cons]
      rcases List.mem_cons.mp h with rfl | hrest
      · exact ⟨[], separator ++ separator.intercalate (second :: rest), by simp⟩
      · exact (ih hrest).trans ⟨first ++ separator, [], by simp⟩

/-- A piece of code stands in the line it is put into. -/
theorem infix_line {piece : String} {pieces : List String} (h : piece ∈ pieces) :
    piece.toList <:+: (line pieces).toList := by
  unfold line
  rw [String.toList_intercalate]
  by_cases hempty : piece.isEmpty = true
  · rw [String.isEmpty_iff.mp hempty]
    exact List.nil_infix
  · exact infix_intercalate (List.mem_map_of_mem (List.mem_filter.mpr ⟨h, by simpa using hempty⟩))

theorem infix_braces {piece : String} {pieces : List String} (h : piece ∈ pieces) :
    piece.toList <:+: (braces pieces).toList :=
  infix_line (List.mem_append_left _ (List.mem_cons_of_mem _ h))

/-! ## Statements -/

/-- The statements of the methods that write and read the records of a model. -/
structure Statements where
  /-- The call that makes the key. -/
  key : String
  writes : List String
  reads : List String
  computes : List String

namespace Statements

/-- The method that writes: the key comes first. -/
def marshal (s : Statements) : String :=
  function "marshal" ["& self"] (wire "Item")
    (some (["let mut item =", s.key, ";"] ++ s.writes ++ ["item"]))

/-- The method that reads: the virtual fields are filled after the others are read. -/
def unmarshal (s : Statements) (m : Model) : String :=
  function "unmarshal" [line ["item : &", wire "Item"]]
    (line [path ["dynaform", "Result"], angles ["Self"]])
    (some ([if s.computes.isEmpty then "let record" else "let mut record", "= Self",
      braces [commas (s.reads ++ [line ["meta :", call (path ["dynaform", "RecordMeta", "from_item"])
        ["item", literal m.name], "?"]])], ";"] ++ s.computes ++ ["Ok ( record )"]))

/-- The statements follow the plan of the model, one statement a step, and their methods stand in
the code. -/
structure AreOf (s : Statements) (paths : PathReader) (m : Model) (code : String) : Prop where
  writes : List.Forall₂ (fun step statement => writeStatement paths step = .ok statement)
    (m.writeSteps paths) s.writes
  reads : List.Forall₂ (fun f initializer => readInitializer m f = .ok initializer)
    m.fields s.reads
  computes : List.Forall₂
    (fun entry statement => computeStatement paths entry.1 entry.2 = .ok statement)
    (m.computedOnRead paths) s.computes
  marshal : s.marshal.toList <:+: code.toList
  unmarshal : (s.unmarshal m).toList <:+: code.toList

theorem AreOf.trans {s : Statements} {paths : PathReader} {m : Model} {code text : String}
    (h : s.AreOf paths m code) (hcode : code.toList <:+: text.toList) : s.AreOf paths m text :=
  ⟨h.writes, h.reads, h.computes, h.marshal.trans hcode, h.unmarshal.trans hcode⟩

end Statements

theorem exists_statements_modelImpl {paths : PathReader} {m : Model} {text : String}
    (h : modelImpl paths m = .ok text) : ∃ s : Statements, s.AreOf paths m text := by
  unfold modelImpl at h
  obtain ⟨name, -, h⟩ := bind_eq_ok.mp h
  obtain ⟨keyArguments, -, h⟩ := bind_eq_ok.mp h
  obtain ⟨writes, hwrites, h⟩ := bind_eq_ok.mp h
  obtain ⟨reads, hreads, h⟩ := bind_eq_ok.mp h
  obtain ⟨computes, hcomputes, h⟩ := bind_eq_ok.mp h
  obtain ⟨default, -, h⟩ := bind_eq_ok.mp h
  rw [← pure_eq_ok.mp h]
  let s : Statements := ⟨call (path ["Self", "key_of"]) keyArguments, writes, reads, computes⟩
  refine ⟨s, mapM_eq_ok.mp hwrites, mapM_eq_ok.mp hreads, mapM_eq_ok.mp hcomputes, ?_, ?_⟩
  · refine (infix_braces ?_).trans (infix_line (List.mem_cons_of_mem _ (List.mem_cons_of_mem _
      (List.mem_cons_of_mem _ (List.mem_cons_of_mem _ (List.mem_singleton_self _))))))
    simp [s, Statements.marshal]
  · refine (infix_braces ?_).trans (infix_line (List.mem_cons_of_mem _ (List.mem_cons_of_mem _
      (List.mem_cons_of_mem _ (List.mem_cons_of_mem _ (List.mem_singleton_self _))))))
    simp [s, Statements.unmarshal]

/-- Every model has its statements in the code of its blueprint. -/
theorem exists_statements {paths : PathReader} {b : Blueprint} {code : RuntimeCode}
    (h : ofBlueprint b paths = .ok code) {m : Model} (hm : m ∈ b.models) :
    ∃ s : Statements, s.AreOf paths m code.models := by
  obtain ⟨models, hmodels, h⟩ := bind_eq_ok.mp h
  obtain ⟨handlers, -, h⟩ := bind_eq_ok.mp h
  rw [← pure_eq_ok.mp h]
  obtain ⟨enums, -, hmodels⟩ := bind_eq_ok.mp hmodels
  obtain ⟨texts, htexts, hmodels⟩ := bind_eq_ok.mp hmodels
  obtain ⟨store, -, hmodels⟩ := bind_eq_ok.mp hmodels
  obtain ⟨names, -, hmodels⟩ := bind_eq_ok.mp hmodels
  obtain ⟨⟨⟩, -, hmodels⟩ := bind_eq_ok.mp hmodels
  obtain ⟨⟨⟩, -, hmodels⟩ := bind_eq_ok.mp hmodels
  obtain ⟨⟨⟩, -, hmodels⟩ := bind_eq_ok.mp hmodels
  have hmodelsText : models = line (enums ++ texts ++ [store]) := (pure_eq_ok.mp hmodels).symm
  obtain ⟨text, htext, hcode⟩ := mapM_reads_mem htexts hm
  obtain ⟨record, -, hcode⟩ := bind_eq_ok.mp hcode
  obtain ⟨key, -, hcode⟩ := bind_eq_ok.mp hcode
  obtain ⟨impl, himpl, hcode⟩ := bind_eq_ok.mp hcode
  obtain ⟨s, hs⟩ := exists_statements_modelImpl himpl
  have hline : impl.toList <:+: text.toList := by
    rw [← pure_eq_ok.mp hcode]
    exact infix_line (by simp)
  have hmodule : text.toList <:+: models.toList := by
    rw [hmodelsText]
    exact infix_line (List.mem_append_left _ (List.mem_append_right _ htext))
  refine ⟨s, hs.trans (hline.trans (hmodule.trans ?_))⟩
  rw [String.toList_append]
  exact (List.suffix_append _ _).isInfix

end Code

/-! ## The plan -/

namespace Model

variable {m : Model} {paths : Code.PathReader} {f : Field}

/-- What the plan of a model has to do for a field. -/
structure Serves (m : Model) (paths : Code.PathReader) (f : Field) : Prop where
  /-- A stored field is written once, by a step of its own. -/
  written : f.isStored = true → ((m.writeSteps paths).map (·.column)).count f.column = 1 ∧
    ∃ step ∈ m.writeSteps paths, m.fieldStep? paths f = some step
  /-- A stored field is read from all its columns. -/
  read : f.isStored = true → f.readRule.columns = f.readColumns
  /-- A virtual field is not written, -/
  unwritten : f.isStored = false → f.column ∉ (m.writeSteps paths).map (·.column)
  /-- not read, and filled once with what its function computes. -/
  filled : f.isStored = false → f.readRule = .virtual ∧
    ((m.computedOnRead paths).map (·.1)).count f = 1 ∧
      ∃ c, f.computed = some c ∧ (f, c) ∈ m.computedOnRead paths

theorem columns_readRule (h : f.isStored = true) : f.readRule.columns = f.readColumns := by
  unfold Field.readRule
  rw [h]
  cases f.isList <;> cases f.isRequired <;> rfl

theorem exists_computed_of_virtual (h : f.isStored = false) : ∃ c, f.computed = some c := by
  unfold Field.isStored Field.isVirtual at h
  cases hcomputed : f.computed with
  | none => rw [hcomputed] at h; cases h
  | some c => exact ⟨c, rfl⟩

theorem mem_computedOnRead {c : ComputeFunction} : (f, c) ∈ m.computedOnRead paths ↔
    f ∈ m.fields ∧ f.isStored = false ∧ f.computed = some c ∧ (paths c.function).isSome = true := by
  unfold computedOnRead
  rw [List.mem_filterMap]
  constructor
  · rintro ⟨f', hf', hentry⟩
    split at hentry
    · cases hentry
    · next hvirtual =>
      obtain ⟨c', hc', hentry⟩ := Option.bind_eq_some_iff.mp hentry
      obtain ⟨hpath, hsame⟩ := Option.ite_none_right_eq_some.mp hentry
      cases hsame
      exact ⟨hf', by simpa using hvirtual, hc', hpath⟩
  · rintro ⟨hf, hvirtual, hc, hpath⟩
    refine ⟨f, hf, ?_⟩
    simp [hvirtual, hc, hpath]

/-- The fields that are filled are fields of the model, in their order. -/
theorem fields_computedOnRead (m : Model) (paths : Code.PathReader) :
    List.Sublist ((m.computedOnRead paths).map (·.1)) m.fields := by
  have hkept : ∀ entry? : Field → Option (Field × ComputeFunction),
      (∀ f entry, entry? f = some entry → entry.1 = f) →
        List.Sublist ((m.fields.filterMap entry?).map (·.1)) m.fields := by
    intro entry? hown
    have hsublist := map_filterMap_sublist (f := id) (List.forall₂_map_right_iff.mpr
      (List.forall₂_same.mpr fun f (_ : f ∈ m.fields) => hown f))
    rwa [List.filterMap_map, Function.id_comp, List.map_id] at hsublist
  refine hkept _ fun f entry hentry => ?_
  split at hentry
  · cases hentry
  · obtain ⟨c, -, hentry⟩ := Option.bind_eq_some_iff.mp hentry
    obtain ⟨-, hsame⟩ := Option.ite_none_right_eq_some.mp hentry
    cases hsame
    rfl

/-- A stored field has a step of its own unless its compute function is named by no path. -/
theorem exists_fieldStep?_iff : (∃ step, m.fieldStep? paths f = some step) ↔
    f.isStored = true ∧ ∀ c ∈ f.computed, (paths c.function).isSome = true := by
  constructor
  · rintro ⟨step, hstep⟩
    obtain ⟨hstored, ⟨c, hc, hpath, -⟩ | ⟨hnone, -⟩ | ⟨hnone, -⟩⟩ := fieldStep?_eq_some.mp hstep
    · simp [hstored, hc, hpath]
    · simp [hstored, hnone]
    · simp [hstored, hnone]
  · rintro ⟨hstored, hpath⟩
    cases hc : f.computed with
    | some c => exact ⟨_, fieldStep?_eq_some.mpr ⟨hstored, Or.inl ⟨c, hc, hpath c hc, rfl⟩⟩⟩
    | none =>
      cases hexpiry : m.isExpiry f with
      | true => exact ⟨_, fieldStep?_eq_some.mpr ⟨hstored, Or.inr (Or.inl ⟨hc, hexpiry, rfl⟩)⟩⟩
      | false => exact ⟨_, fieldStep?_eq_some.mpr ⟨hstored, Or.inr (Or.inr ⟨hc, hexpiry, rfl⟩)⟩⟩

/-- A field is served if its compute function, if it has one, is named by a path, and only then. -/
theorem serves_iff (h : m.ColumnsApart) (hf : f ∈ m.fields) :
    m.Serves paths f ↔ ∀ c ∈ f.computed, (paths c.function).isSome = true := by
  constructor
  · intro hserves c hc
    cases hstored : f.isStored with
    | true =>
      obtain ⟨-, step, -, hstep⟩ := hserves.written hstored
      exact (exists_fieldStep?_iff.mp ⟨step, hstep⟩).2 c hc
    | false =>
      obtain ⟨-, -, c', hc', hfilled⟩ := hserves.filled hstored
      obtain rfl : c' = c := Option.mem_unique hc' hc
      exact (mem_computedOnRead.mp hfilled).2.2.2
  · intro hpath
    constructor
    case written =>
      intro hstored
      obtain ⟨step, hstep⟩ := exists_fieldStep?_iff.mpr ⟨hstored, hpath⟩
      have hmem : step ∈ m.writeSteps paths := mem_writeSteps.mpr (Or.inr ⟨f, hf, hstep⟩)
      refine ⟨List.count_eq_one_of_mem h.steps_nodup ?_, step, hmem, hstep⟩
      rw [← column_fieldStep? hstep]
      exact List.mem_map_of_mem hmem
    case read => exact columns_readRule
    case unwritten =>
      intro hvirtual hwritten
      obtain ⟨step, hmem, hcolumn⟩ := List.mem_map.mp hwritten
      obtain ⟨part, hpart, hjoined, rfl⟩ | ⟨f', hf', hstep'⟩ := mem_writeSteps.mp hmem
      · exact h.ne_indexAttribute hf f.column_mem_columns hpart hjoined hcolumn
      · obtain rfl : f' = f := h.eq_of_mem_columns hf' hf f'.column_mem_columns
          ((column_fieldStep? hstep').symm.trans hcolumn ▸ f.column_mem_columns)
        rw [(fieldStep?_eq_some.mp hstep').1] at hvirtual
        cases hvirtual
    case filled =>
      intro hvirtual
      obtain ⟨c, hc⟩ := exists_computed_of_virtual hvirtual
      have hfilled : (f, c) ∈ m.computedOnRead paths :=
        mem_computedOnRead.mpr ⟨hf, hvirtual, hc, hpath c hc⟩
      have hdistinct : ((m.computedOnRead paths).map (·.1)).Nodup :=
        h.fieldColumns_nodup.of_map.sublist (m.fields_computedOnRead paths)
      refine ⟨by simp [Field.readRule, hvirtual], ?_, c, hc, hfilled⟩
      exact List.count_eq_one_of_mem hdistinct (List.mem_map_of_mem hfilled)

end Model

/-- A required field that is passed over is in no image, so no image of its model can be read. -/
theorem RecordType.unmarshal_toItem_passedOver {t : RecordType} (h : t.model.ColumnsApart)
    {f : Field} (hf : f ∈ t.model.fields) (hstored : f.isStored = true)
    (hrequired : f.isRequired = true) (hlist : f.isList = false)
    (hkey : ¬t.model.IsKeyColumn f) (hserves : ¬t.model.Serves t.paths f) (r : Record) :
    ∃ column detail, t.unmarshal (t.toItem r) = .error (.dataIntegrity t.model.name column detail) := by
  have hstep : ¬∃ step, t.model.fieldStep? t.paths f = some step := fun hstep =>
    hserves ((Model.serves_iff h hf).mpr (Model.exists_fieldStep?_iff.mp hstep).2)
  have hunread : ¬∃ value, t.readField (t.toItem r) f = .ok value := by
    rintro ⟨value, hread⟩
    rcases readField_cases hstored hread with ⟨found, -, hfound, -, -⟩ |
      ⟨-, ⟨hlisted, -⟩ | ⟨-, hoptional, -⟩⟩
    · obtain ⟨step, hwrites, -⟩ | ⟨hkeyed, -⟩ := h.readsOwn.written t rfl r f hf found hfound
      · exact hstep ⟨step, hwrites⟩
      · exact hkey hkeyed
    · rw [hlist] at hlisted
      cases hlisted
    · rw [hrequired] at hoptional
      cases hoptional
  cases hread : t.unmarshal (t.toItem r) with
  | ok r' => exact absurd ((exists_unmarshal_iff.mp ⟨r', hread⟩).1 f hf) hunread
  | error err =>
    obtain ⟨column, detail, rfl⟩ := unmarshal_error hread
    exact ⟨column, detail, rfl⟩

/-- Whatever the reader of paths, the code of an accepted schema writes and reads by the plan of
each model, and the plan serves the fields whose compute functions are read as paths. -/
theorem Code.fields_served_iff (paths : PathReader) {config : Config} {text : String}
    {b : Blueprint} {code : RuntimeCode} (hb : Blueprint.ofSchema config text = .ok b)
    (hcode : Code.ofBlueprint b paths = .ok code) {m : Model} (hm : m ∈ b.models) :
    (∃ s : Statements, s.AreOf paths m code.models) ∧
      ((∀ f ∈ m.fields, m.Serves paths f) ↔
        ∀ f ∈ m.fields, ∀ c ∈ f.computed, (paths c.function).isSome = true) :=
  ⟨exists_statements hcode hm,
    forall₂_congr fun _ hf => Model.serves_iff (Blueprint.ofSchema_columnsApart hb hm) hf⟩

/-- A path with an argument and a comment in it, and a text that is no path. -/
example : Code.functionPath? "crate::bill::total /* of all lines */ ::<i64>" =
      some ⟨"crate : : bill : : total : : < i64 >", true, true⟩ ∧
    Code.functionPath? "crate.bill.total" = none := by decide +kernel

namespace BillExample

/-- A function of the module for bills, with a mark between the names on its way. -/
def function (mark name : String) : String := "crate" ++ mark ++ "bill" ++ mark ++ name

/-- A field that is computed when it is written, and one that is computed after each read. -/
def schema (mark : String) : String :=
  "type Bill @partitionKey(pkFields: [\"id\"]) \x7b id: ID! total: Int! @computed(function: \"" ++
    function mark "total" ++ "\") label: String @computed(function: \"" ++ function mark "label" ++
    "\", virtual: true) \x7d"

def total (mark : String) : Field :=
  { Field.scalar "total" "Int" true with computed := some ⟨function mark "total", false⟩ }

def label (mark : String) : Field :=
  { Field.scalar "label" "String" false with computed := some ⟨function mark "label", true⟩ }

def key : PrimaryKey := .simple ⟨"id", ["id"], none, true⟩

def bill (mark : String) : Model :=
  ⟨"Bill", "Bill", [.scalar "id" "ID" true, total mark, label mark], key, [], none, false, false,
    false, []⟩

def blueprint (mark : String) : Blueprint :=
  ⟨[bill mark], [⟨"Bill", key, [], false, false, none, none⟩], []⟩

/-- Bills as the generated code reads and writes them, with points in the names of functions. -/
def billType (functions : Dict Computation) : RecordType :=
  ⟨bill ".", [], functions, Code.functionPath?⟩

theorem bill_mem (mark : String) : bill mark ∈ (blueprint mark).models := List.mem_singleton_self _

end BillExample

open BillExample in
theorem bill_is_served :
    Blueprint.ofSchema .default (schema "::") = .ok (blueprint "::") ∧
    ∃ code, Code.ofBlueprint (blueprint "::") Code.functionPath? = .ok code ∧
      (∃ s : Code.Statements, s.AreOf Code.functionPath? (bill "::") code.models) ∧
      ∀ f ∈ (bill "::").fields, (bill "::").Serves Code.functionPath? f := by
  have haccepted : Blueprint.ofSchema .default (schema "::") = .ok (blueprint "::") := by
    decide +kernel
  have hcode : (Code.ofBlueprint (blueprint "::") Code.functionPath?).isOk = true := by
    decide +kernel
  have hpaths : ∀ f ∈ (bill "::").fields, ∀ c ∈ f.computed,
      (Code.functionPath? c.function).isSome = true := by decide +kernel
  cases hgenerated : Code.ofBlueprint (blueprint "::") Code.functionPath? with
  | error err => rw [hgenerated] at hcode; cases hcode
  | ok code =>
    obtain ⟨hstatements, hserved⟩ :=
      Code.fields_served_iff Code.functionPath? haccepted hgenerated (bill_mem "::")
    exact ⟨haccepted, code, rfl, hstatements, hserved.mpr hpaths⟩

open BillExample in
/-- Points in place of colons are accepted, and code is generated. But it calls neither function:
the total is never written, the label never filled, and no bill that was written can be read. -/
theorem pointed_functions_are_passed_over :
    Blueprint.ofSchema .default (schema ".") = .ok (blueprint ".") ∧
    (Code.ofBlueprint (blueprint ".") Code.functionPath?).isOk = true ∧
    (total ".").isStored = true ∧ (bill ".").writeSteps Code.functionPath? = [.plain "id" "id"] ∧
    (total ".").readRule = .required ["total"] ∧
    ¬(bill ".").Serves Code.functionPath? (total ".") ∧
    (label ".").isStored = false ∧ (bill ".").computedOnRead Code.functionPath? = [] ∧
    ¬(bill ".").Serves Code.functionPath? (label ".") ∧
    ∀ functions r, ∃ column detail,
      (billType functions).unmarshal ((billType functions).toItem r) =
        .error (.dataIntegrity "Bill" column detail) := by
  have haccepted : Blueprint.ofSchema .default (schema ".") = .ok (blueprint ".") := by
    decide +kernel
  have hapart := Blueprint.ofSchema_columnsApart haccepted (bill_mem ".")
  have hpassed : ∀ f ∈ [total ".", label "."], ¬(bill ".").Serves Code.functionPath? f := by
    intro f hf hserves
    have hmem : f ∈ (bill ".").fields := List.mem_cons_of_mem _ hf
    have hpaths : ∀ f ∈ [total ".", label "."], ¬∀ c ∈ f.computed,
        (Code.functionPath? c.function).isSome = true := by decide +kernel
    exact hpaths f hf ((Model.serves_iff hapart hmem).mp hserves)
  have htotal := hpassed (total ".") (by simp)
  refine ⟨haccepted, by decide +kernel, rfl, by decide +kernel, by decide +kernel, htotal, rfl,
    by decide +kernel, hpassed (label ".") (by simp), fun functions r => ?_⟩
  have hmem : total "." ∈ (bill ".").fields := by simp [bill]
  have hkey : ¬(bill ".").IsKeyColumn (total ".") := by decide
  exact @RecordType.unmarshal_toItem_passedOver (billType functions) hapart (total ".") hmem rfl
    rfl rfl hkey htotal r

end Keyspace
