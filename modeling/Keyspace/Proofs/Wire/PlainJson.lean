import Keyspace.Proofs.Number.FloatText
import Keyspace.Wire.Attribute

/-!
# Plain JSON through attributes

Plain JSON is kept as attributes and read back. Every part of it comes back as it was, at any
depth, with one exception: a number attribute is read as a whole number of 64 bits with a sign
where it is one, and as a double otherwise, so a whole number that is out of that range comes
back as a double. The unsigned range of plain JSON reaches twice as far.
-/
namespace Keyspace

namespace Json

mutual

/-- The parts of a value that are neither arrays nor objects. -/
def scalars : Json → List Json
  | arr elements => scalarsOfElements elements
  | obj members => scalarsOfMembers members
  | scalar => [scalar]

def scalarsOfElements : List Json → List Json
  | [] => []
  | x :: xs => scalars x ++ scalarsOfElements xs

def scalarsOfMembers : List (String × Json) → List Json
  | [] => []
  | (_, x) :: xs => scalars x ++ scalarsOfMembers xs

end

/-- Every double in a value is finite and is read back from its text. -/
def ReadsBackDoubles (value : Json) : Prop :=
  ∀ x, .float x ∈ value.scalars →
    x.isFinite = true ∧ Double.read? (NumberForm.json.write x) = some x

/-- Every whole number in a value lies in the signed range. -/
def FitsSigned (value : Json) : Prop := ∀ n, .int n ∈ value.scalars → fitsInt64 n = true

end Json

namespace AttributeValue

theorem plainNumber_toString (n : Int) :
    plainNumber (toString n) = .int n ↔ fitsInt64 n = true := by
  unfold plainNumber
  rw [readInt64?_toString]
  by_cases hfits : fitsInt64 n = true
  · simp [hfits]
  · simp only [hfits, if_false, Bool.false_eq_true, iff_false]
    split
    · split <;> simp
    · simp

theorem plainNumber_write {x : Double} (hfinite : x.isFinite = true)
    (hread : Double.read? (NumberForm.json.write x) = some x) :
    plainNumber (NumberForm.json.write x) = .float x := by
  simp [plainNumber, NumberForm.readInt64?_write_json hfinite, hread, hfinite]

mutual

theorem plain_ofPlain_iff (value : Json) (h : value.ReadsBackDoubles) :
    (ofPlain value).plain = value ↔ value.FitsSigned := by
  cases value with
  | null => simp [ofPlain, plain, Json.FitsSigned, Json.scalars]
  | bool content => simp [ofPlain, plain, Json.FitsSigned, Json.scalars]
  | int n =>
    have hnumber : (ofPlain (.int n)).plain = .int n ↔ fitsInt64 n = true :=
      plainNumber_toString n
    simpa [Json.FitsSigned, Json.scalars] using hnumber
  | float x =>
    obtain ⟨hfinite, hread⟩ := h x (by simp [Json.scalars])
    simp [ofPlain, plain, Json.FitsSigned, Json.scalars, plainNumber_write hfinite hread]
  | str content => simp [ofPlain, plain, Json.FitsSigned, Json.scalars]
  | arr elements =>
    have helements := plainElements_ofPlainElements_iff elements h
    simpa [ofPlain, plain, Json.FitsSigned, Json.scalars] using helements
  | obj members =>
    have hmembers := plainMembers_ofPlainMembers_iff members h
    simpa [ofPlain, plain, Json.FitsSigned, Json.scalars] using hmembers

theorem plainElements_ofPlainElements_iff (elements : List Json)
    (h : (Json.arr elements).ReadsBackDoubles) :
    plainElements (ofPlainElements elements) = elements ↔ (Json.arr elements).FitsSigned := by
  match elements with
  | [] => simp [ofPlainElements, plainElements, Json.FitsSigned, Json.scalars,
      Json.scalarsOfElements]
  | value :: rest =>
    have hvalue := plain_ofPlain_iff value fun x hx =>
      h x (by simp [Json.scalars, Json.scalarsOfElements, hx])
    have hrest := plainElements_ofPlainElements_iff rest fun x hx =>
      h x (by simp_all [Json.scalars, Json.scalarsOfElements])
    simp only [ofPlainElements, plainElements, List.cons.injEq, hvalue, hrest, Json.FitsSigned,
      Json.scalars, Json.scalarsOfElements, List.mem_append, or_imp, forall_and]

theorem plainMembers_ofPlainMembers_iff (members : List (String × Json))
    (h : (Json.obj members).ReadsBackDoubles) :
    plainMembers (ofPlainMembers members) = members ↔ (Json.obj members).FitsSigned := by
  match members with
  | [] => simp [ofPlainMembers, plainMembers, Json.FitsSigned, Json.scalars,
      Json.scalarsOfMembers]
  | (key, value) :: rest =>
    have hvalue := plain_ofPlain_iff value fun x hx =>
      h x (by simp [Json.scalars, Json.scalarsOfMembers, hx])
    have hrest := plainMembers_ofPlainMembers_iff rest fun x hx =>
      h x (by simp_all [Json.scalars, Json.scalarsOfMembers])
    simp only [ofPlainMembers, plainMembers, List.cons.injEq, Prod.mk.injEq, true_and, hvalue,
      hrest, Json.FitsSigned, Json.scalars, Json.scalarsOfMembers, List.mem_append, or_imp,
      forall_and]

end

end AttributeValue

namespace Json

/-- A value comes back from the attribute that holds it, and an object from its attributes,
exactly when every whole number in it lies in the signed range. -/
theorem comes_back_iff_fitsSigned (value : Json) (h : value.ReadsBackDoubles) :
    ((AttributeValue.ofPlain value).plain = value ↔ value.FitsSigned) ∧
      ∀ object : Dict Json, value = .obj object →
        (Item.plain (Item.ofPlain object) = object ↔ value.FitsSigned) := by
  refine ⟨AttributeValue.plain_ofPlain_iff value h, ?_⟩
  rintro object rfl
  exact AttributeValue.plainMembers_ofPlainMembers_iff object h

namespace MeasurementExample

/-- One half. -/
def half : Double := ⟨0x3fe0000000000000⟩

def measurement : Dict Json :=
  [("count", .int 9223372036854775807), ("samples", .arr [.float half, .null, .int (-1)])]

theorem readsBackDoubles : (obj measurement).ReadsBackDoubles := by
  intro x hx
  obtain rfl : x = half := by
    simpa [measurement, scalars, scalarsOfMembers, scalarsOfElements] using hx
  exact ⟨by decide +kernel, by decide +kernel⟩

end MeasurementExample

open MeasurementExample in
/-- A nested object with the largest signed number comes back. -/
theorem measurement_comes_back :
    (obj measurement).ReadsBackDoubles ∧ Item.plain (Item.ofPlain measurement) = measurement := by
  refine ⟨readsBackDoubles, ?_⟩
  refine ((comes_back_iff_fitsSigned (obj measurement) readsBackDoubles).2 measurement rfl).mpr ?_
  intro n hn
  have hn : n = 9223372036854775807 ∨ n = -1 := by
    simpa [measurement, scalars, scalarsOfMembers, scalarsOfElements] using hn
  rcases hn with rfl | rfl
  · decide
  · decide

/-- The largest unsigned number comes back as a double, which is greater by one. -/
theorem largest_unsigned_becomes_double :
    (AttributeValue.ofPlain (int uint64Max)).plain = float (.ofNat (uint64Max + 1)) ∧
      Item.plain (Item.ofPlain [("n", int uint64Max)]) ≠ [("n", int uint64Max)] := by
  have hvalue : (AttributeValue.ofPlain (int uint64Max)).plain =
      float (.ofNat (uint64Max + 1)) := by decide +kernel
  refine ⟨hvalue, fun hobject => ?_⟩
  have hmember : (AttributeValue.ofPlain (int uint64Max)).plain = int uint64Max :=
    congrArg Prod.snd (List.cons.inj hobject).1
  rw [hvalue] at hmember
  cases hmember

end Json

end Keyspace
