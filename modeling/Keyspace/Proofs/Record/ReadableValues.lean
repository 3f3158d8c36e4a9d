import Keyspace.Proofs.Number.FloatText
import Keyspace.Proofs.Record.KeyTypes
import Keyspace.Proofs.Record.Reading
import Keyspace.Proofs.Wire.Values

/-!
# Values that attributes hold in some form

Attributes hold more values than they hold exactly: a point in time loses what is finer than a
millisecond, a double and a JSON value may come back as others. Still each value of a type, if
its dates and times lie in the years 0 to 9999, has an attribute from which a value of the type
is read. Only the JSON null has an attribute that counts as missing.
-/
namespace Keyspace

open Result

namespace Value

theorem elementsToAttributes_eq_map (elements : List Value) :
    elementsToAttributes elements = elements.map toAttribute := by
  induction elements with
  | nil => rfl
  | cons value rest ih => rw [elementsToAttributes, List.map_cons, ih]

/-- Only the JSON null is written as an attribute that counts as missing. -/
theorem isNull_toAttribute_iff {value : Value} :
    value.toAttribute.isNull = true ↔ value = .json .null := by
  cases value with
  | json content => cases content <;> simp [toAttribute, AttributeValue.ofPlain,
      AttributeValue.isNull]
  | _ => simp [toAttribute, AttributeValue.isNull]

end Value

namespace Timestamp

/-- A point in time that is written with four digits for its year. -/
structure HasFourDigits (t : Timestamp) : Prop where
  point : t.IsPoint
  minYear : 0 ≤ t.date.year
  maxYear : t.date.year ≤ 9999

/-- The last whole millisecond up to a point in time. -/
def floorMillis (t : Timestamp) : Timestamp := ⟨t.seconds, t.nanos / 1000000 * 1000000⟩

theorem toText_floorMillis (t : Timestamp) : t.floorMillis.toText .millis = t.toText .millis := by
  have hleap : (t.nanos / 1000000 * 1000000 ≥ 1000000000) = (t.nanos ≥ 1000000000) :=
    propext (by omega)
  have hfraction : t.nanos / 1000000 * 1000000 % 1000000000 / 1000000 =
      t.nanos % 1000000000 / 1000000 := by omega
  simp only [toText, date, clockText, fractionText, floorMillis, hleap, hfraction]

theorem HasFourDigits.floorMillis {t : Timestamp} (h : t.HasFourDigits) :
    t.floorMillis.IsWholeMillis := by
  obtain ⟨⟨hrange, hnanos⟩, hmin, hmax⟩ := h
  refine ⟨⟨hrange, ?_⟩, hmin, hmax, ?_⟩
  · simp only [Timestamp.floorMillis]
    omega
  · simp only [Timestamp.floorMillis]
    omega

/-- The stored text of a point in time is read as its last whole millisecond. -/
theorem HasFourDigits.read?_toText {t : Timestamp} (h : t.HasFourDigits) :
    Timestamp.read? (t.toText .millis) = some t.floorMillis := by
  rw [← toText_floorMillis]
  exact Timestamp.read?_toText h.floorMillis

end Timestamp

namespace ValueType

/-- The values of a type whose dates and times lie in the years 0 to 9999. -/
def HasInYears : ValueType → Value → Prop
  | timestamp, .timestamp t => t.HasFourDigits
  | date, .date d => d.HasFourDigits
  | list element, .list elements => ∀ value ∈ elements, element.HasInYears value
  | type, value => type.Has value

theorem exists_elements {element : ValueType} {elements : List Value}
    (h : ∀ value ∈ elements, ∃ found, element.ofAttribute value.toAttribute = .ok found) :
    ∃ found, (Value.elementsToAttributes elements).mapM element.ofAttribute = .ok found := by
  rw [Value.elementsToAttributes_eq_map, exists_mapM_eq_ok_iff, List.forall_mem_map]
  exact h

/-- From the attribute of a value of a type, some value is read. -/
theorem exists_ofAttribute_toAttribute {type : ValueType} {value : Value}
    (h : type.HasInYears value) : ∃ found, type.ofAttribute value.toAttribute = .ok found := by
  induction type generalizing value with
  | text => cases value with
    | text content => exact ⟨.text content, rfl⟩
    | _ => cases h
  | bool => cases value with
    | bool content => exact ⟨.bool content, rfl⟩
    | _ => cases h
  | int => cases value with
    | int n => exact ⟨.int n, @ofAttribute_toAttribute .int _ h⟩
    | _ => cases h
  | float => cases value with
    | float x =>
      obtain ⟨y, hy⟩ := NumberForm.exists_read?_write_plain x
      exact ⟨.float y, Item.ofAttribute_float hy⟩
    | _ => cases h
  | timestamp => cases value with
    | timestamp t => exact ⟨.timestamp t.floorMillis, ofAttribute_timestamp h.read?_toText⟩
    | _ => cases h
  | date => cases value with
    | date d => exact ⟨.date d, @ofAttribute_toAttribute .date _ h⟩
    | _ => cases h
  | json => cases value with
    | json content => exact ⟨.json (AttributeValue.ofPlain content).plain, rfl⟩
    | _ => cases h
  | choice name values => cases value with
    | text content =>
      exact ⟨.text content, @ofAttribute_toAttribute (.choice name values) _ h⟩
    | _ => cases h
  | list element ih => cases value with
    | list elements =>
      obtain ⟨found, hfound⟩ := exists_elements fun value hvalue => ih (h value hvalue)
      refine ⟨.list found, ?_⟩
      show ((Value.elementsToAttributes elements).mapM element.ofAttribute).map Value.list = _
      rw [hfound]
      rfl
    | _ => cases h

/-! ## What is read -/

theorem of_recognised_eq_ok {α : Type} {text kind : String} {found : Option α} {a : α}
    (h : recognised text kind found = .ok a) : found = some a := by
  cases found with
  | none => cases h
  | some b => exact congrArg some (Except.ok.inj h)

theorem mem_of_readChoice {name : String} {values : List String} {found : AttributeValue}
    {content : String} (h : readChoice name values found = .ok content) : content ∈ values := by
  unfold readChoice at h
  split at h
  · split at h
    · next hlisted =>
      cases h
      exact List.contains_iff_mem.mp hlisted
    · cases h
  · cases h

/-- Whatever is read from an attribute for a type is a value of the type. -/
theorem has_of_ofAttribute {type : ValueType} {found : AttributeValue} {value : Value}
    (h : type.ofAttribute found = .ok value) : type.Has value := by
  induction type generalizing found value with
  | text =>
    obtain ⟨content, -, rfl⟩ := map_eq_ok.mp h
    trivial
  | bool => cases found with
    | bool content => cases h; trivial
    | _ => cases h
  | int => cases found with
    | number content =>
      obtain ⟨n, hread, rfl⟩ := map_eq_ok.mp h
      exact fitsInt64_of_readInt64? (of_recognised_eq_ok hread)
    | _ => cases h
  | float => cases found with
    | number content =>
      obtain ⟨x, -, rfl⟩ := map_eq_ok.mp h
      trivial
    | _ => cases h
  | timestamp =>
    obtain ⟨t, -, rfl⟩ := map_eq_ok.mp h
    trivial
  | date =>
    obtain ⟨d, -, rfl⟩ := map_eq_ok.mp h
    trivial
  | json => cases h; trivial
  | choice name values =>
    obtain ⟨content, hread, rfl⟩ := map_eq_ok.mp h
    exact mem_of_readChoice hread
  | list element ih =>
    obtain ⟨elements, -, hread⟩ := bind_eq_ok.mp h
    obtain ⟨values, hvalues, rfl⟩ := map_eq_ok.mp hread
    intro value hvalue
    obtain ⟨stored, -, hstored⟩ := exists_of_mem_mapM hvalues hvalue
    exact ih hstored

end ValueType

end Keyspace
