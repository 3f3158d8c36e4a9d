import Keyspace.Number.Shortest
import Keyspace.Proofs.Number.IntegerText

/-!
# The texts of doubles

In JSON text a finite double always has a point or an exponent, so its text is never read as a
whole number. In attribute values it has neither an exponent nor a final point, and every text of
that form is read as some double.
-/
namespace Keyspace

/-- A text that is read as a whole number is digits after a sign. -/
theorem isDigit_of_readInt64? {text : String} {n : Int} (h : readInt64? text = some n) :
    ∀ c ∈ text.toList, c.isDigit = true ∨ c = '-' ∨ c = '+' := by
  obtain ⟨m, hm, -⟩ := Option.bind_eq_some_iff.mp h
  have hdigits := isDigit_of_readNat? hm
  intro c hc
  split at hdigits
  · next rest heq =>
    rw [heq] at hc
    rcases List.mem_cons.mp hc with rfl | hc
    · exact .inr (.inl rfl)
    · exact .inl (hdigits c hc)
  · next rest heq =>
    rw [heq] at hc
    rcases List.mem_cons.mp hc with rfl | hc
    · exact .inr (.inr rfl)
    · exact .inl (hdigits c hc)
  · exact .inl (hdigits c hc)

namespace NumberForm

variable {form : NumberForm} {digits : List Char} {k : Int}

/-- Where whole numbers end in a point and a zero, every number has a point. -/
theorem point_mem_placePoint (hform : form.wholePoint = true) :
    '.' ∈ form.placePoint digits k := by
  by_cases hlow : k ≤ 0
  · simp [placePoint, hlow]
  · by_cases hhigh : digits.length ≤ k.toNat
    · simp [placePoint, hlow, hhigh, hform]
    · simp [placePoint, hlow, hhigh]

theorem exponent_mem_scientific : 'e' ∈ form.scientific digits k := by
  simp [scientific]

theorem mark_mem_writeDecimal (hform : form.wholePoint = true) (d : Decimal) :
    '.' ∈ form.writeDecimal d ∨ 'e' ∈ form.writeDecimal d := by
  unfold writeDecimal
  dsimp only
  split
  · exact .inl (point_mem_placePoint hform)
  · split
    · exact .inl (point_mem_placePoint hform)
    · exact .inr exponent_mem_scientific

theorem mark_mem_write (hform : form.wholePoint = true) {x : Double} (hx : x.isFinite = true) :
    '.' ∈ (form.write x).toList ∨ 'e' ∈ (form.write x).toList := by
  have hnan : x.isNaN = false := by
    simp only [Double.isFinite, bne_iff_ne, ne_eq] at hx
    simp [Double.isNaN, hx]
  by_cases hzero : x.isZero = true
  · simp [write, hnan, hx, hzero, hform]
  · have hmark := mark_mem_writeDecimal hform (x.shortest form.tie)
    simp only [write, hnan, hx, hzero, Bool.false_eq_true, if_false, Bool.not_true,
      String.toList_ofList, List.mem_append]
    exact hmark.imp .inr .inr

/-- A finite double is not written as a whole number in JSON text. -/
theorem readInt64?_write_json {x : Double} (hx : x.isFinite = true) :
    readInt64? (json.write x) = none := by
  cases hread : readInt64? (json.write x) with
  | none => rfl
  | some n =>
    have hdigits := isDigit_of_readInt64? hread
    rcases @mark_mem_write json rfl x hx with hmark | hmark
    · exact absurd (hdigits _ hmark) (by decide)
    · exact absurd (hdigits _ hmark) (by decide)

end NumberForm

/-! ## Texts that are read as some double -/

/-- Digits, and possibly more after a point. -/
inductive IsDecimal : List Char → Prop
  | whole {digits : List Char} : digits ≠ [] → (∀ c ∈ digits, c.isDigit = true) →
    IsDecimal digits
  | point {digits fraction : List Char} : digits ≠ [] → (∀ c ∈ digits, c.isDigit = true) →
    (∀ c ∈ fraction, c.isDigit = true) → IsDecimal (digits ++ '.' :: fraction)

namespace IsDecimal

variable {body : List Char}

theorem exists_readUnsigned? (h : IsDecimal body) (negative : Bool) :
    ∃ x, Double.readUnsigned? negative body = some x := by
  cases h with
  | whole hne hdigits =>
    simp [Double.readUnsigned?, spanDigits_of_forall hdigits, hne, Double.readExponent?]
  | @point digits fraction hne hdigits hfraction =>
    have hspan : spanDigits (digits ++ '.' :: fraction) = (digits, '.' :: fraction) :=
      spanDigits_append hdigits (by simp)
    simp [Double.readUnsigned?, hspan, spanDigits_of_forall hfraction, hne, Double.readExponent?]

theorem readSign_eq (h : IsDecimal body) : readSign body = (false, body) := by
  have hhead : ∀ c rest, body = c :: rest → c.isDigit = true := by
    intro c rest hbody
    cases h with
    | whole hne hdigits => exact hdigits c (by simp [hbody])
    | point hne hdigits hfraction =>
      obtain ⟨d, digits, rfl⟩ := List.exists_cons_of_ne_nil hne
      obtain rfl : d = c := (List.cons.inj hbody).1
      exact hdigits d List.mem_cons_self
  unfold readSign
  split
  · next rest => exact absurd (hhead _ _ rfl) (by decide)
  · next rest => exact absurd (hhead _ _ rfl) (by decide)
  · rfl

end IsDecimal

namespace Double

/-- Digits with an optional minus are read as a double. -/
theorem exists_read?_of_isDecimal {body : List Char} (h : IsDecimal body) (negative : Bool) :
    ∃ x, read? (String.ofList ((if negative then ['-'] else []) ++ body)) = some x := by
  have hsign : readSign ((if negative then ['-'] else []) ++ body) = (negative, body) := by
    cases negative with
    | true => rfl
    | false => exact h.readSign_eq
  obtain ⟨x, hx⟩ := h.exists_readUnsigned? negative
  unfold read?
  rw [String.toList_ofList, hsign]
  dsimp only
  split
  · exact ⟨_, rfl⟩
  · split
    · exact ⟨_, rfl⟩
    · exact ⟨x, hx⟩

end Double

namespace NumberForm

theorem isDigit_of_mem_repr {n : Nat} {c : Char} (h : c ∈ n.repr.toList) : c.isDigit = true := by
  rw [Nat.toList_repr] at h
  exact Nat.isDigit_of_mem_toDigits (by decide) (by decide) h

theorem isDecimal_placePoint {form : NumberForm} {digits : List Char} {k : Int}
    (hform : form.wholePoint = false) (hne : digits ≠ [])
    (hdigits : ∀ c ∈ digits, c.isDigit = true) : IsDecimal (form.placePoint digits k) := by
  have hzeros (count : Nat) : ∀ c ∈ List.replicate count '0', c.isDigit = true := by
    intro c hc
    rw [List.eq_of_mem_replicate hc]
    decide
  by_cases hlow : k ≤ 0
  · simp only [placePoint, hlow, if_true]
    refine @IsDecimal.point ['0'] _ (by simp) (by simp) fun c hc => ?_
    exact (List.mem_append.mp hc).elim (hzeros _ c) (hdigits c)
  · by_cases hhigh : digits.length ≤ k.toNat
    · simp only [placePoint, hlow, hhigh, if_true, if_false, hform, Bool.false_eq_true,
        List.append_nil]
      refine .whole (by simp [hne]) fun c hc => ?_
      exact (List.mem_append.mp hc).elim (hdigits c) (hzeros _ c)
    · simp only [placePoint, hlow, hhigh, if_false]
      refine .point ?_ (fun c hc => hdigits c (List.mem_of_mem_take hc))
        (fun c hc => hdigits c (List.mem_of_mem_drop hc))
      have hk : k.toNat ≠ 0 := by omega
      simp [List.take_eq_nil_iff, hk, hne]

/-- The text of any double in an attribute is read as a double. -/
theorem exists_read?_write_plain (x : Double) : ∃ y, Double.read? (plain.write x) = some y := by
  by_cases hnan : x.isNaN = true
  · have hwrite : plain.write x = "NaN" := by simp [write, hnan, plain]
    exact ⟨Double.nan, by rw [hwrite]; decide +kernel⟩
  by_cases hfinite : x.isFinite = true
  · have hbody : IsDecimal (if x.isZero then ['0'] else plain.writeDecimal (x.shortest .up)) := by
      split
      · exact .whole (by simp) (by simp)
      · exact isDecimal_placePoint rfl (by simp [Nat.toList_repr, Nat.toDigits_ne_nil])
          fun c hc => isDigit_of_mem_repr hc
    have hread := Double.exists_read?_of_isDecimal hbody x.isNegative
    simpa [write, hnan, hfinite, plain] using hread
  · have hwrite : plain.write x = if x.isNegative then "-inf" else "inf" := by
      simp [write, hnan, hfinite, plain]
    rw [hwrite]
    cases x.isNegative with
    | true => exact ⟨Double.infinity true, by decide +kernel⟩
    | false => exact ⟨Double.infinity false, by decide +kernel⟩

end NumberForm

end Keyspace
