import Keyspace.Proofs.Number.FloatText
import Keyspace.Proofs.Record.KeyTypes
import Keyspace.Proofs.Text.JoinedTexts
import Keyspace.Proofs.Time.Text

/-!
# The texts of values in keys

The attribute of a value is told by its text if the type of the value is known, unless it is JSON.
Of these types only texts can have the mark in them that keys are joined with.
-/
namespace Keyspace

open Text

namespace Text

theorem markCount_eq_zero {text : String} : markCount text = 0 ↔ '#' ∉ text.toList :=
  List.count_eq_zero

theorem markCount_of_digits {text : String} (h : ∀ c ∈ text.toList, c.isDigit = true) :
    markCount text = 0 :=
  markCount_eq_zero.mpr fun hmark => absurd (h _ hmark) (by decide)

end Text

theorem IsDecimal.not_mem_mark {body : List Char} (h : IsDecimal body) : '#' ∉ body := by
  have hdigit {digits : List Char} (hdigits : ∀ c ∈ digits, c.isDigit = true) : '#' ∉ digits :=
    fun hmark => absurd (hdigits _ hmark) (by decide)
  cases h with
  | whole _ hdigits => exact hdigit hdigits
  | point _ hdigits hfraction => simp [hdigit hdigits, hdigit hfraction]

theorem NumberForm.markCount_write_plain (x : Double) : markCount (plain.write x) = 0 := by
  by_cases hnan : x.isNaN = true
  · have hwrite : plain.write x = "NaN" := by simp [write, hnan, plain]
    rw [hwrite]
    decide
  by_cases hfinite : x.isFinite = true
  · have hwrite : (plain.write x).toList = (if x.isNegative then ['-'] else []) ++
        if x.isZero then ['0'] else plain.writeDecimal (x.shortest .up) := by
      simp [write, hnan, hfinite, plain]
    have hbody : '#' ∉ if x.isZero then ['0'] else plain.writeDecimal (x.shortest .up) := by
      split
      · decide
      · exact (isDecimal_placePoint rfl (by simp [Nat.toList_repr, Nat.toDigits_ne_nil])
          fun c hc => isDigit_of_mem_repr hc).not_mem_mark
    rw [markCount_eq_zero, hwrite, List.mem_append, not_or]
    refine ⟨?_, hbody⟩
    split <;> decide
  · have hwrite : plain.write x = if x.isNegative then "-inf" else "inf" := by
      simp [write, hnan, hfinite, plain]
    rw [hwrite]
    split <;> decide

theorem Date.markCount_toText (date : Date) : markCount date.toText = 0 := by
  have hpadded (width n : Nat) : markCount (padded width n) = 0 :=
    markCount_of_digits fun _ => isDigit_of_mem_padded
  have hyear : markCount (yearText date.year) = 0 := by
    unfold yearText
    split
    · exact hpadded _ _
    · split <;> simp [hpadded] <;> decide
  have hdash : markCount "-" = 0 := by decide
  simp [toText, hyear, hpadded, hdash]

theorem Timestamp.markCount_toText (t : Timestamp) : markCount (t.toText .millis) = 0 := by
  have hdate := Text.markCount_eq_zero.mp (Date.markCount_toText t.date)
  have hpadded (width n : Nat) : '#' ∉ (Date.padded width n).toList :=
    fun hmark => absurd (Date.isDigit_of_mem_padded hmark) (by decide)
  rw [Text.markCount_eq_zero, toList_toText]
  simp [hdate, hpadded]

/-- A text, a number or a truth value is told by its text. -/
theorem AttributeValue.eq_of_keyText {value value' : AttributeValue} {name : String}
    (hname : name ∈ ["S", "N", "BOOL"]) (htype : value.typeName = name)
    (htype' : value'.typeName = name) (h : value.keyText = value'.keyText) : value = value' := by
  subst htype
  cases value <;> cases value' <;> simp_all [typeName, keyText]
  case bool.bool content content' =>
    have hbool : ∀ content content' : Bool, toString content = toString content' →
        content = content' := by decide
    exact hbool _ _ h

namespace ValueType

/-- A type whose values have no mark in their texts. -/
inductive IsMarkless : ValueType → Prop where
  | bool : IsMarkless bool
  | int : IsMarkless int
  | float : IsMarkless float
  | timestamp : IsMarkless timestamp
  | date : IsMarkless date
  | choice {name : String} {values : List String} (h : ∀ value ∈ values, markCount value = 0) :
      IsMarkless (choice name values)

/-- A type that key fields have: text, JSON, or one whose values have no mark. -/
def IsKeyType (type : ValueType) : Prop := type = text ∨ type = json ∨ type.IsMarkless

theorem isKeyType_ofScalar (name : String) : (ofScalar name).IsKeyType := by
  unfold ofScalar
  split
  case h_6 => exact Or.inr (Or.inl rfl)
  case h_7 => exact Or.inl rfl
  all_goals exact Or.inr (Or.inr (by constructor))

theorem IsKeyType.ne_list {type : ValueType} (h : type.IsKeyType) (element : ValueType) :
    type ≠ list element := by
  rintro rfl
  obtain hlist | hlist | hmarkless := h
  · cases hlist
  · cases hlist
  · cases hmarkless

variable {type : ValueType} {value value' : Value}

theorem IsMarkless.markCount_eq (h : type.IsMarkless) (hvalue : type.Has value) :
    markCount value.toAttribute.keyText = 0 := by
  cases h with
  | bool =>
    cases value with
    | bool content => cases content <;> decide
    | _ => cases hvalue
  | int =>
    cases value with
    | int n =>
      have hfits : fitsInt64 n = true := hvalue
      have hread := readInt64?_toString n
      rw [if_pos hfits] at hread
      refine markCount_eq_zero.mpr fun hmark => ?_
      rcases isDigit_of_readInt64? hread _ hmark with h | h | h <;> exact absurd h (by decide)
    | _ => cases hvalue
  | float =>
    cases value with
    | float x => exact NumberForm.markCount_write_plain x
    | _ => cases hvalue
  | timestamp =>
    cases value with
    | timestamp time => exact Timestamp.markCount_toText time
    | _ => cases hvalue
  | date =>
    cases value with
    | date day => exact Date.markCount_toText day
    | _ => cases hvalue
  | choice h =>
    cases value with
    | text content => exact h content hvalue
    | _ => cases hvalue

/-- Except for JSON, the attribute of a value of a known type is told by its text. -/
theorem toAttribute_inj (hkey : type.IsKeyType) (hjson : type ≠ json) (hvalue : type.Has value)
    (hvalue' : type.Has value') (h : value.toAttribute.keyText =
      value'.toAttribute.keyText) : value.toAttribute = value'.toAttribute := by
  have hscalar : ∃ name ∈ ["S", "N", "BOOL"], type.wireType? = some name := by
    cases type with
    | json => exact absurd rfl hjson
    | list element => exact absurd rfl (hkey.ne_list element)
    | _ => exact ⟨_, by decide, rfl⟩
  obtain ⟨name, hname, htype⟩ := hscalar
  refine AttributeValue.eq_of_keyText hname (typeName_toAttribute hvalue htype)
    (typeName_toAttribute hvalue' htype) h

end ValueType

end Keyspace
