import Keyspace.Proofs.Time.Text
import Keyspace.Wire.Columns

/-!
# Values that attributes hold exactly

An attribute is read back as the value it was made of, if the value is one of its type: a text,
a truth value, a whole number of 64 bits, a choice among the values of its enum, a day of the
years 0 to 9999, a point in time of these years in whole milliseconds, or a list of such values.
-/
namespace Keyspace

namespace Date

/-- A day that is written with four digits for its year. -/
structure HasFourDigits (date : Date) : Prop where
  day : date.IsDay
  minYear : 0 ≤ date.year
  maxYear : date.year ≤ 9999

end Date

namespace ValueType

/-- The values of a type that an attribute holds exactly. -/
def Stores : ValueType → Value → Prop
  | text, .text _ => True
  | bool, .bool _ => True
  | int, .int n => fitsInt64 n = true
  | timestamp, .timestamp t => t.IsWholeMillis
  | date, .date d => d.HasFourDigits
  | choice _ values, .text content => content ∈ values
  | list element, .list elements => ∀ value ∈ elements, element.Stores value
  | _, _ => False

theorem ofAttribute_elements {element : ValueType} {elements : List Value}
    (h : ∀ value ∈ elements, element.ofAttribute value.toAttribute = .ok value) :
    (Value.elementsToAttributes elements).mapM element.ofAttribute = .ok elements := by
  induction elements with
  | nil => rfl
  | cons value rest ih =>
    have hvalue := h value List.mem_cons_self
    have hrest := ih fun other hother => h other (List.mem_cons_of_mem value hother)
    rw [Value.elementsToAttributes, List.mapM_cons, hvalue, hrest]
    rfl

theorem ofAttribute_timestamp {text : String} {time : Timestamp}
    (h : Timestamp.read? text = some time) :
    timestamp.ofAttribute (.text text) = .ok (.timestamp time) := by
  show (readTimestamp (.text text)).map Value.timestamp = _
  unfold readTimestamp
  dsimp only
  rw [h]
  rfl

/-- The whole seconds of an expiry column are a point in time. -/
theorem ofAttribute_seconds {time : Timestamp} (hrange : Timestamp.inRange time.seconds = true)
    (hwhole : time.nanos = 0) :
    timestamp.ofAttribute (.number (toString time.seconds)) = .ok (.timestamp time) := by
  have hbounds := Bool.and_eq_true_iff.mp hrange
  have hmin : Timestamp.minSeconds ≤ time.seconds := of_decide_eq_true hbounds.1
  have hmax : time.seconds ≤ Timestamp.maxSeconds := of_decide_eq_true hbounds.2
  have hfits : fitsInt64 time.seconds = true :=
    Bool.and_eq_true_iff.mpr ⟨decide_eq_true (le_trans (by decide) hmin),
      decide_eq_true (le_trans hmax (by decide))⟩
  have hread : readInt64? (toString time.seconds) = some time.seconds := by
    rw [readInt64?_toString, if_pos hfits]
  have hseconds : Timestamp.ofSeconds? time.seconds = some time := by
    rw [Timestamp.ofSeconds?, if_pos hrange, ← hwhole]
  show (recognised _ _ ((readInt64? _).bind Timestamp.ofSeconds?)).map Value.timestamp = _
  rw [hread, Option.bind_some, hseconds]
  rfl

/-- Reading undoes writing, type by type. -/
theorem ofAttribute_toAttribute {type : ValueType} {value : Value} (h : type.Stores value) :
    type.ofAttribute value.toAttribute = .ok value := by
  induction type generalizing value with
  | text => cases value with
    | text content => rfl
    | _ => cases h
  | bool => cases value with
    | bool content => rfl
    | _ => cases h
  | int => cases value with
    | int n =>
      have hfits : fitsInt64 n = true := h
      have hread : readInt64? (toString n) = some n := by
        rw [readInt64?_toString, if_pos hfits]
      show (recognised _ _ (readInt64? (toString n))).map Value.int = _
      rw [hread]
      rfl
    | _ => cases h
  | float => cases value <;> cases h
  | timestamp => cases value with
    | timestamp time => exact ofAttribute_timestamp (Timestamp.read?_toText h)
    | _ => cases h
  | date => cases value with
    | date day =>
      have hread := Date.read?_toText h.day h.minYear h.maxYear
      have htext : readText (.text day.toText) = .ok day.toText := rfl
      have hday : readDate (.text day.toText) = .ok day := by
        unfold readDate
        rw [htext]
        simp only [bind, Except.bind, hread]
      show (readDate (.text day.toText)).map Value.date = _
      rw [hday]
      rfl
    | _ => cases h
  | json => cases value <;> cases h
  | choice name values => cases value with
    | text content =>
      have hlisted : values.contains content = true := List.contains_iff_mem.mpr h
      show (readChoice name values (.text content)).map Value.text = _
      unfold readChoice
      dsimp only [AttributeValue.asText?]
      rw [if_pos hlisted]
      rfl
    | _ => cases h
  | list element ih => cases value with
    | list elements =>
      have hread := ofAttribute_elements fun value hvalue => ih (h value hvalue)
      show ((Value.elementsToAttributes elements).mapM element.ofAttribute).map Value.list = _
      rw [hread]
      rfl
    | _ => cases h

/-- What an attribute holds exactly is not null. -/
theorem isNull_toAttribute {type : ValueType} {value : Value} (h : type.Stores value) :
    value.toAttribute.isNull = false := by
  cases value with
  | json content => cases type <;> cases h
  | _ => rfl

end ValueType

end Keyspace
