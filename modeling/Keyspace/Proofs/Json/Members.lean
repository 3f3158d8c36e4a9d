import Keyspace.Json.Decode
import Keyspace.Proofs.Dict

/-!
# Reading the members of a record back

A record is written as an object of members, some of which are left out. Each member is found
under its name again, and one that may be left out is read as what it was made of, provided that
its form is not null.
-/
namespace Keyspace

namespace Json

variable {α : Type} {decode : Decoder α} {encode : α → Json}

theorem members?_object (shape : List Member) (entries : List (String × Json)) :
    members? shape (object entries) =
      some (shape.map fun member => Dict.get? (Dict.ofList entries) member.name) := rfl

@[simp] theorem required_some (value : Json) : required decode (some value) = decode value := rfl

@[simp] theorem decodeString_str (text : String) : decodeString (str text) = some text := rfl

@[simp] theorem decodeBool_bool (value : Bool) : decodeBool (bool value) = some value := rfl

/-- The members of a record are found again if it is written in the order it is read in. -/
theorem members?_object_of_nodup {shape : List Member} {entries : List (String × Json)}
    (hshape : shape.map (·.name) = entries.map (·.1)) (hdistinct : (shape.map (·.name)).Nodup) :
    members? shape (object entries) = some (entries.map fun entry => some entry.2) := by
  have hnames : shape.map (fun member => Dict.get? (Dict.ofList entries) member.name) =
      (shape.map (·.name)).map (Dict.get? (Dict.ofList entries)) := by
    rw [List.map_map]
    rfl
  rw [hshape] at hdistinct
  rw [members?_object, hnames, hshape, List.map_map]
  exact congrArg some (List.map_congr_left fun entry hentry =>
    Dict.get?_ofList_of_mem hdistinct hentry)

/-- A list is read back if its elements are. -/
theorem decodeList_map {elements : List α} (h : ∀ a ∈ elements, decode (encode a) = some a) :
    decodeList decode (arr (elements.map encode)) = some elements := by
  show (elements.map encode).mapM decode = some elements
  induction elements with
  | nil => rfl
  | cons a rest ih =>
    obtain ⟨ha, hrest⟩ := List.forall_mem_cons.mp h
    simp [ha, ih hrest]

theorem decodeList_ofStrings (texts : List String) :
    decodeList decodeString (ofStrings texts) = some texts :=
  decodeList_map fun _ _ => rfl

theorem decodeNatTo_int {high n : Nat} (h : n ≤ high) : decodeNatTo high (int n) = some n := by
  rw [decodeNatTo, if_pos ⟨Int.natCast_nonneg n, Int.ofNat_le.mpr h⟩, Int.toNat_natCast]

/-- A member that may be left out is read back if its value is, and is not written as null. -/
theorem optional_map {value : Option α} (h : ∀ a ∈ value, decode (encode a) = some a)
    (hnull : ∀ a ∈ value, encode a ≠ null) : optional decode (value.map encode) = some value := by
  cases value with
  | none => rfl
  | some a =>
    have hread : optional decode (some (encode a)) = (decode (encode a)).map some := by
      unfold optional
      split
      · next heq => cases heq
      · next heq => exact absurd (Option.some.inj heq) (hnull a rfl)
      · next heq => rw [Option.some.inj heq]
    rw [Option.map_some, hread, h a rfl, Option.map_some]

/-- A member that is null where it is unset is read back likewise. -/
theorem optional_ofOption {value : Option α} (h : ∀ a ∈ value, decode (encode a) = some a)
    (hnull : ∀ a ∈ value, encode a ≠ null) :
    optional decode (some (ofOption encode value)) = some value := by
  cases value with
  | none => rfl
  | some a => exact optional_map h hnull

end Json

end Keyspace
