import Keyspace.Json.Decode
import Keyspace.Json.Printer

/-!
# Attribute values

The storage service keeps items: attributes by name, each with a typed value. Numbers are
kept as text. `plain` and `ofPlain` go between attribute values and plain JSON, which has no
binary texts and no sets; `toJson` and `ofJson?` are the service's own JSON form, an object
of the type and the content.
-/
namespace Keyspace

/-- The value of an attribute. -/
inductive AttributeValue where
  | text (content : String)
  | number (content : String)
  | binary (content : String)
  | bool (content : Bool)
  | null (content : Bool)
  | list (elements : List AttributeValue)
  | map (members : List (String × AttributeValue))
  | textSet (elements : List String)
  | numberSet (elements : List String)
  | binarySet (elements : List String)
deriving Inhabited, Repr

/-- A stored item or image: its attributes by name. -/
abbrev Item := Dict AttributeValue

namespace AttributeValue

mutual

/-- Equality of values, decided member by member. -/
def same : AttributeValue → AttributeValue → Bool
  | text a, text b => a == b
  | number a, number b => a == b
  | binary a, binary b => a == b
  | bool a, bool b => a == b
  | null a, null b => a == b
  | list a, list b => sameElements a b
  | map a, map b => sameMembers a b
  | textSet a, textSet b => a == b
  | numberSet a, numberSet b => a == b
  | binarySet a, binarySet b => a == b
  | _, _ => false

def sameElements : List AttributeValue → List AttributeValue → Bool
  | [], [] => true
  | x :: xs, y :: ys => same x y && sameElements xs ys
  | _, _ => false

def sameMembers : List (String × AttributeValue) → List (String × AttributeValue) → Bool
  | [], [] => true
  | (k, x) :: xs, (l, y) :: ys => k == l && same x y && sameMembers xs ys
  | _, _ => false

end

mutual

theorem same_iff (a b : AttributeValue) : same a b = true ↔ a = b := by
  cases a <;> cases b <;> simp [same]
  · exact sameElements_iff _ _
  · exact sameMembers_iff _ _

theorem sameElements_iff (a b : List AttributeValue) : sameElements a b = true ↔ a = b := by
  match a, b with
  | [], [] => simp [sameElements]
  | [], _ :: _ => simp [sameElements]
  | _ :: _, [] => simp [sameElements]
  | x :: xs, y :: ys => simp [sameElements, same_iff x y, sameElements_iff xs ys]

theorem sameMembers_iff (a b : List (String × AttributeValue)) :
    sameMembers a b = true ↔ a = b := by
  match a, b with
  | [], [] => simp [sameMembers]
  | [], _ :: _ => simp [sameMembers]
  | _ :: _, [] => simp [sameMembers]
  | (k, x) :: xs, (l, y) :: ys =>
    simp [sameMembers, same_iff x y, sameMembers_iff xs ys, and_assoc]

end

instance : DecidableEq AttributeValue := fun a b => decidable_of_iff _ (same_iff a b)

/-- The name of a value's type. -/
def typeName : AttributeValue → String
  | text _ => "S"
  | number _ => "N"
  | binary _ => "B"
  | bool _ => "BOOL"
  | null _ => "NULL"
  | list _ => "L"
  | map _ => "M"
  | textSet _ => "SS"
  | numberSet _ => "NS"
  | binarySet _ => "BS"

def asText? : AttributeValue → Option String
  | text content => some content
  | _ => none

def asNumber? : AttributeValue → Option String
  | number content => some content
  | _ => none

def isNull (value : AttributeValue) : Bool := value = null true

/-- A number in plain JSON. A text that is no finite number stays a text. -/
def plainNumber (content : String) : Json :=
  match readInt64? content with
  | some n => .int n
  | none => match Double.read? content with
    | some x => if x.isFinite then .float x else .str content
    | none => .str content

mutual

/-- The value in plain JSON. -/
def plain : AttributeValue → Json
  | text content => .str content
  | number content => plainNumber content
  | binary content => .str content
  | bool content => .bool content
  | null _ => .null
  | list elements => .arr (plainElements elements)
  | map members => .obj (plainMembers members)
  | textSet elements => .arr (elements.map .str)
  | numberSet elements => .arr (elements.map plainNumber)
  | binarySet elements => .arr (elements.map .str)

def plainElements : List AttributeValue → List Json
  | [] => []
  | x :: xs => plain x :: plainElements xs

def plainMembers : List (String × AttributeValue) → List (String × Json)
  | [] => []
  | (key, x) :: xs => (key, plain x) :: plainMembers xs

end

mutual

/-- The value for plain JSON. -/
def ofPlain : Json → AttributeValue
  | .null => null true
  | .bool content => bool content
  | .int n => number (toString n)
  | .float x => number (NumberForm.json.write x)
  | .str content => text content
  | .arr elements => list (ofPlainElements elements)
  | .obj members => map (ofPlainMembers members)

def ofPlainElements : List Json → List AttributeValue
  | [] => []
  | x :: xs => ofPlain x :: ofPlainElements xs

def ofPlainMembers : List (String × Json) → List (String × AttributeValue)
  | [] => []
  | (key, x) :: xs => (key, ofPlain x) :: ofPlainMembers xs

end

mutual

/-- The service's JSON form. -/
def toJson : AttributeValue → Json
  | text content => .obj [("S", .str content)]
  | number content => .obj [("N", .str content)]
  | binary content => .obj [("B", .str content)]
  | bool content => .obj [("BOOL", .bool content)]
  | null content => .obj [("NULL", .bool content)]
  | list elements => .obj [("L", .arr (elementsToJson elements))]
  | map members => .obj [("M", .obj (membersToJson members))]
  | textSet elements => .obj [("SS", .ofStrings elements)]
  | numberSet elements => .obj [("NS", .ofStrings elements)]
  | binarySet elements => .obj [("BS", .ofStrings elements)]

def elementsToJson : List AttributeValue → List Json
  | [] => []
  | x :: xs => toJson x :: elementsToJson xs

def membersToJson : List (String × AttributeValue) → List (String × Json)
  | [] => []
  | (key, x) :: xs => (key, toJson x) :: membersToJson xs

end

mutual

/-- Reads the service's JSON form. -/
def ofJson? : Json → Option AttributeValue
  | .obj [(type, content)] => match type, content with
    | "S", .str content => some (text content)
    | "N", .str content => some (number content)
    | "B", .str content => some (binary content)
    | "BOOL", .bool content => some (bool content)
    | "NULL", .bool content => some (null content)
    | "L", .arr elements => (elementsOfJson? elements).map list
    | "M", .obj members => (membersOfJson? members).map map
    | "SS", content => (Json.decodeList Json.decodeString content).map textSet
    | "NS", content => (Json.decodeList Json.decodeString content).map numberSet
    | "BS", content => (Json.decodeList Json.decodeString content).map binarySet
    | _, _ => none
  | _ => none

def elementsOfJson? : List Json → Option (List AttributeValue)
  | [] => some []
  | x :: xs => match ofJson? x, elementsOfJson? xs with
    | some value, some values => some (value :: values)
    | _, _ => none

def membersOfJson? : List (String × Json) → Option (List (String × AttributeValue))
  | [] => some []
  | (key, x) :: xs => match ofJson? x, membersOfJson? xs with
    | some value, some values => some ((key, value) :: values)
    | _, _ => none

end

end AttributeValue

namespace Item

def ofPlain (object : Dict Json) : Item := AttributeValue.ofPlainMembers object

def plain (item : Item) : Dict Json := AttributeValue.plainMembers item

def toJson (item : Item) : Json := .obj (AttributeValue.membersToJson item)

def ofJson? : Json → Option Item
  | .obj members => AttributeValue.membersOfJson? members
  | _ => none

end Item

end Keyspace
