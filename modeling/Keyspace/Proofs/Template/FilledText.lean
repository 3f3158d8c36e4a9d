import Keyspace.Proofs.Template.LocalizedText
import Keyspace.Proofs.Text.WordCharacters

/-!
# Texts whose variables have values

When a stack is deployed its parameters have values, and a text of `Fn::Sub` stands for the
text with these values in place of its variables. Such a text can be read from left to right:
what is no opening stays as it is, and a variable gives its value.
-/
namespace Keyspace

open Text CutText Stacks

namespace CutText

/-- What stands for a hole: the value of its variable, or the hole as it is written. -/
def fillHole (value : String → String) (inside : List Char) : List Char :=
  match holeName? inside with
  | some name => (value name).toList
  | none => written inside

/-- The text with values in place of its variables. -/
def fill (value : String → String) (c : CutText) : List Char :=
  c.holes.foldr (fun hole text => hole.1 ++ fillHole value hole.2 ++ text) c.rest

theorem cutFrom_eq_ofText {fuel : Nat} {text : List Char} (h : text.length < fuel) :
    cutFrom fuel text = ofText text := by
  rw [← ofText_join (isCut_cutFrom h), join_cutFrom]

variable {value : String → String}

theorem fill_ofText_cons {c : Char} (hc : c ≠ '$') (rest : List Char) :
    (ofText (c :: rest)).fill value = c :: (ofText rest).fill value := by
  have hsplit : splitAtMark? opening (c :: rest) =
      (splitAtMark? opening rest).map fun parts => (c :: parts.1, parts.2) := by
    rw [opening, splitAtMark?, dropBeginning?, if_neg (Ne.symm hc)]
  have hwhole : (c :: rest).length < rest.length + 2 := by simp
  have hrest : rest.length < rest.length + 2 := by omega
  rw [← cutFrom_eq_ofText hwhole, ← cutFrom_eq_ofText hrest]
  unfold cutFrom
  rw [hsplit]
  cases splitAtMark? opening rest with
  | none => rfl
  | some parts =>
    dsimp only [Option.map_some]
    cases splitAtMark? ['\x7d'] parts.2 with
    | none => rfl
    | some hole => rfl

end CutText

/-- A name that is written as a variable is that variable. -/
structure NamesItself (name : String) : Prop where
  closed : '\x7d' ∉ name.toList
  named : holeName? name.toList = some name

theorem namesItself_of_isWordChar {name : String} (hne : name ≠ "")
    (h : ∀ c ∈ name.toList, IsWordChar c) : NamesItself name where
  closed := fun hmem => absurd (h _ hmem) (by decide)
  named := by
    have htrim : trim name.toList = name.toList := trim_eq_self fun c hc => (h c hc).not_blank
    refine holeName?_eq_some.mpr ⟨htrim.symm, ?_, fun hhead => ?_⟩
    · rwa [Ne, String.toList_eq_nil_iff]
    · exact absurd (h _ (List.mem_of_head? hhead)) (by decide)

theorem CutText.fill_ofText_written {value : String → String} {name : String}
    (h : NamesItself name) (rest : List Char) :
    (ofText (writtenVariable name ++ rest)).fill value =
      (value name).toList ++ (ofText rest).fill value := by
  have hopening : splitAtMark? opening (writtenVariable name ++ rest) =
      some ([], name.toList ++ '\x7d' :: rest) := by
    simp [writtenVariable, opening, splitAtMark?, dropBeginning?]
  have hlength : rest.length < (writtenVariable name ++ rest).length := by
    simp [writtenVariable]
    omega
  have hcut : ofText (writtenVariable name ++ rest) =
      ⟨([], name.toList) :: (ofText rest).holes, (ofText rest).rest⟩ := by
    unfold ofText
    rw [cutFrom, hopening]
    dsimp only
    rw [splitAtMark?_singleton h.closed]
    dsimp only
    rw [cutFrom_eq_ofText hlength]
    rfl
  rw [hcut]
  show [] ++ fillHole value name.toList ++ _ = _
  rw [fillHole, h.named]
  rfl

/-- The parameter of a table is written as it is named, whatever the table is called. -/
theorem namesItself_tableParameter (table : String) : NamesItself (tableParameter table) := by
  have hlead : ∀ c ∈ "Table".toList, IsWordChar c := by simp [IsWordChar]
  refine namesItself_of_isWordChar (by simp [tableParameter]) fun c hc => ?_
  rw [tableParameter, String.toList_append] at hc
  rcases List.mem_append.mp hc with hc | hc
  · exact hlead c hc
  · exact isWordChar_of_mem_pascalCase hc

/-- A text and what it stands for, read from left to right. -/
inductive Fills (value : String → String) : List Char → List Char → Prop
  | nil : Fills value [] []
  | cons {c : Char} {text filled : List Char} (hc : c ≠ '$') (h : Fills value text filled) :
      Fills value (c :: text) (c :: filled)
  | written {name : String} {text filled : List Char} (hname : NamesItself name)
      (h : Fills value text filled) :
      Fills value (writtenVariable name ++ text) ((value name).toList ++ filled)

namespace Fills

variable {value : String → String}

theorem fill_ofText {text filled : List Char} (h : Fills value text filled) :
    (ofText text).fill value = filled := by
  induction h with
  | nil => rfl
  | cons hc _ ih => rw [fill_ofText_cons hc, ih]
  | written hname _ ih => rw [fill_ofText_written hname, ih]

theorem append {text filled text' filled' : List Char} (h : Fills value text filled)
    (h' : Fills value text' filled') : Fills value (text ++ text') (filled ++ filled') := by
  induction h with
  | nil => exact h'
  | cons hc _ ih => exact ih.cons hc
  | written hname _ ih =>
    rw [List.append_assoc, List.append_assoc]
    exact ih.written hname

/-- A text without a dollar stands for itself. -/
theorem of_plain {text : List Char} (h : '$' ∉ text) : Fills value text text := by
  induction text with
  | nil => exact nil
  | cons c rest ih =>
    rw [List.mem_cons, not_or] at h
    exact cons (Ne.symm h.1) (ih h.2)

theorem intercalate {α : Type} {separator : List Char} (hseparator : '$' ∉ separator)
    {xs : List α} {text filled : α → List Char} (h : ∀ x ∈ xs, Fills value (text x) (filled x)) :
    Fills value (separator.intercalate (xs.map text)) (separator.intercalate (xs.map filled)) := by
  induction xs with
  | nil => exact nil
  | cons x rest ih =>
    rw [List.forall_mem_cons] at h
    cases rest with
    | nil => simpa using h.1
    | cons next rest =>
      simp only [List.map_cons, List.intercalate_cons_cons] at ih ⊢
      exact (h.1.append (of_plain hseparator)).append (ih h.2)

theorem lone {name : String} (h : NamesItself name) :
    Fills value (writtenVariable name) (value name).toList := by
  have hwritten : Fills value (writtenVariable name ++ []) ((value name).toList ++ []) :=
    nil.written h
  rwa [List.append_nil, List.append_nil] at hwritten

end Fills

/-- What a text of `Fn::Sub` stands for. -/
def fillText (value : String → String) (text : String) : String :=
  String.ofList ((ofText text.toList).fill value)

theorem toList_fillText {value : String → String} {text : String} {filled : List Char}
    (h : Fills value text.toList filled) : (fillText value text).toList = filled := by
  rw [fillText, String.toList_ofList, h.fill_ofText]

end Keyspace
