import Keyspace.Number.Reading
import Keyspace.Proofs.Text.Marks

/-!
# The texts of whole numbers

Reading the decimal text of a whole number gives the number back, provided that it fits
64 bits; the text of any other number is refused.
-/
namespace Keyspace

/-- The digits of a text are those in front of its first other character. -/
theorem spanDigits_append {digits rest : List Char} (hdigits : ∀ c ∈ digits, c.isDigit = true)
    (hrest : ∀ c ∈ rest.head?, c.isDigit = false) :
    spanDigits (digits ++ rest) = (digits, rest) :=
  Text.span_eq_iff.mpr ⟨rfl, hdigits, hrest⟩

theorem spanDigits_of_forall {digits : List Char} (h : ∀ c ∈ digits, c.isDigit = true) :
    spanDigits digits = (digits, []) := by
  have hspan : spanDigits (digits ++ []) = (digits, []) := spanDigits_append h (by simp)
  rwa [List.append_nil] at hspan

/-- The value of digits is that of the library. -/
theorem digitsValue_eq (digits : List Char) :
    digitsValue digits = Nat.ofDigitChars 10 digits 0 := by
  simp [digitsValue, Nat.ofDigitChars_eq_foldl, Nat.mul_comm]

theorem readNat?_eq_some {text : List Char} {n : Nat} :
    readNat? text = some n ↔
      text ≠ [] ∧ (∀ c ∈ text, c.isDigit = true) ∧ Nat.ofDigitChars 10 text 0 = n := by
  rw [readNat?, Option.ite_none_right_eq_some, List.all_eq_true, digitsValue_eq, and_assoc,
    Option.some.injEq]

theorem isDigit_of_readNat? {text : List Char} {n : Nat} (h : readNat? text = some n) :
    ∀ c ∈ text, c.isDigit = true := (readNat?_eq_some.mp h).2.1

theorem digitsValue_toDigits (n : Nat) : digitsValue (Nat.toDigits 10 n) = n := by
  rw [digitsValue_eq, Nat.ofDigitChars_ten_toDigits]

theorem readNat?_toDigits (n : Nat) : readNat? (Nat.toDigits 10 n) = some n :=
  readNat?_eq_some.mpr ⟨Nat.toDigits_ne_nil,
    fun _ hc => Nat.isDigit_of_mem_toDigits (by decide) (by decide) hc,
    Nat.ofDigitChars_ten_toDigits⟩

/-- A run of digits has no sign. -/
theorem readSign_toDigits (n : Nat) : readSign (Nat.toDigits 10 n) = (false, Nat.toDigits 10 n) := by
  cases htext : Nat.toDigits 10 n with
  | nil => exact absurd htext Nat.toDigits_ne_nil
  | cons c rest =>
    have hc : c.isDigit = true :=
      Nat.isDigit_of_mem_toDigits (b := 10) (n := n) (by decide) (by decide) (by simp [htext])
    have hminus : c ≠ '-' := by rintro rfl; simp at hc
    have hplus : c ≠ '+' := by rintro rfl; simp at hc
    unfold readSign
    split <;> simp_all

theorem toList_toString_int (n : Int) :
    (toString n).toList =
      if n < 0 then '-' :: Nat.toDigits 10 n.natAbs else Nat.toDigits 10 n.natAbs := by
  cases n with
  | ofNat m => simp [toString, Int.repr, Nat.toList_repr]
  | negSucc m =>
    simp [toString, Int.repr, Nat.toList_repr, Int.negSucc_lt_zero]

theorem readInt64?_toString (n : Int) :
    readInt64? (toString n) = if fitsInt64 n then some n else none := by
  unfold readInt64?
  rw [toList_toString_int]
  by_cases hn : n < 0
  · have hvalue : -(n.natAbs : Int) = n := by omega
    rw [if_pos hn]
    show (readNat? (Nat.toDigits 10 n.natAbs)).bind
      (fun m => if fitsInt64 (-(m : Int)) then some (-(m : Int)) else none) = _
    rw [readNat?_toDigits, Option.bind_some, hvalue]
  · have hvalue : (n.natAbs : Int) = n := by omega
    rw [if_neg hn, readSign_toDigits]
    show (readNat? (Nat.toDigits 10 n.natAbs)).bind
      (fun m => if fitsInt64 (m : Int) then some (m : Int) else none) = _
    rw [readNat?_toDigits, Option.bind_some, hvalue]

theorem fitsInt64_of_readInt64? {text : String} {n : Int} (h : readInt64? text = some n) :
    fitsInt64 n = true := by
  unfold readInt64? at h
  generalize readSign text.toList = signed at h
  obtain ⟨negative, digits⟩ := signed
  obtain ⟨m, -, h⟩ := Option.bind_eq_some_iff.mp h
  obtain ⟨hfits, hn⟩ := Option.ite_none_right_eq_some.mp h
  exact Option.some.inj hn ▸ hfits

end Keyspace
