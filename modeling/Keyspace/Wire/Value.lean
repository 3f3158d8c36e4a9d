import Keyspace.Time.Reading
import Keyspace.Wire.Attribute

/-!
# Typed values

The values that records hold, and the types that say how a value is read from an attribute
and from JSON. Every value has one written form of each kind, whatever its type.
-/
namespace Keyspace

/-- The type of a value. -/
inductive ValueType where
  | text
  | bool
  | int
  | float
  | timestamp
  | date
  | json
  /-- A choice among the values of a named enum. -/
  | choice (name : String) (values : List String)
  | list (element : ValueType)
deriving DecidableEq, Inhabited, Repr

/-- A value. Choices are kept as their texts. -/
inductive Value where
  | text (content : String)
  | bool (content : Bool)
  | int (content : Int)
  | float (content : Double)
  | timestamp (content : Timestamp)
  | date (content : Date)
  | json (content : Json)
  | list (elements : List Value)
deriving Inhabited

namespace Value

mutual

/-- The attribute that holds a value. -/
def toAttribute : Value → AttributeValue
  | text content => .text content
  | bool content => .bool content
  | int content => .number (toString content)
  | float content => .number (NumberForm.plain.write content)
  | timestamp content => .text (content.toText .millis)
  | date content => .text content.toText
  | json content => .ofPlain content
  | list elements => .list (elementsToAttributes elements)

def elementsToAttributes : List Value → List AttributeValue
  | [] => []
  | x :: xs => toAttribute x :: elementsToAttributes xs

end

mutual

/-- The JSON form of a value. -/
def toJson : Value → Json
  | text content => .str content
  | bool content => .bool content
  | int content => .int content
  | float content => .ofDouble content
  | timestamp content => .str (content.toText .exact)
  | date content => .str content.toText
  | json content => content
  | list elements => .arr (elementsToJson elements)

def elementsToJson : List Value → List Json
  | [] => []
  | x :: xs => toJson x :: elementsToJson xs

end

end Value

namespace ValueType

/-- The type of a named scalar. Scalars that a schema declares itself are texts. -/
def ofScalar : (name : String) → ValueType
  | "Int" => int
  | "Float" => float
  | "Boolean" => bool
  | "Date" => date
  | "DateTime" => timestamp
  | "JSONObject" => json
  | _ => text

/-- The value that a type has by default: of a choice, the first. -/
def default : ValueType → Value
  | text => .text ""
  | bool => .bool false
  | int => .int 0
  | float => .float (.zero false)
  | timestamp => .timestamp .epoch
  | date => .date .epoch
  | json => .json .null
  | choice _ values => .text (values.headD "")
  | list _ => .list []

def mismatch (expected : String) (value : AttributeValue) : Except String α :=
  .error s!"expected {expected}, found {value.typeName}"

/-- The elements an attribute lists: those of a list, a set of texts or a set of numbers. -/
def listed : AttributeValue → Except String (List AttributeValue)
  | .list elements => .ok elements
  | .textSet elements => .ok (elements.map .text)
  | .numberSet elements => .ok (elements.map .number)
  | value => mismatch "L" value

def readText : AttributeValue → Except String String
  | .text content => .ok content
  | value => mismatch "S" value

def readNumber : AttributeValue → Except String String
  | .number content => .ok content
  | value => mismatch "N" value

/-- A part that could be read, or what the text is not. -/
def recognised (text kind : String) : Option α → Except String α
  | some a => .ok a
  | none => .error ("`" ++ text ++ "` is not " ++ kind)

/-- Reads a point in time: a text, or the whole seconds of an expiry column. -/
def readTimestamp : AttributeValue → Except String Timestamp
  | .text content =>
    match Timestamp.read? content with
    | some t => .ok t
    | none => .error ("`" ++ content ++ "` is not an RFC 3339 timestamp: malformed")
  | .number content =>
    recognised content "an epoch timestamp" ((readInt64? content).bind Timestamp.ofSeconds?)
  | value => mismatch "S" value

def readDate (value : AttributeValue) : Except String Date := do
  let content ← readText value
  match Date.read? content with
  | some day => .ok day
  | none => .error ("`" ++ content ++ "` is not a date: malformed")

def readChoice (name : String) (values : List String) (value : AttributeValue) :
    Except String String :=
  match value.asText? with
  | some content =>
    if values.contains content then .ok content
    else .error ("unknown " ++ name ++ " value `" ++ content ++ "`")
  | none => .error s!"expected a {name} string"

/-- Reads a value of a type from an attribute, or tells what is wrong with the attribute. -/
def ofAttribute : ValueType → AttributeValue → Except String Value
  | text, value => (readText value).map .text
  | bool, .bool content => .ok (.bool content)
  | bool, value => mismatch "BOOL" value
  | int, value => do
    let content ← readNumber value
    (recognised content "an integer" (readInt64? content)).map .int
  | float, value => do
    let content ← readNumber value
    (recognised content "a number" (Double.read? content)).map .float
  | timestamp, value => (readTimestamp value).map .timestamp
  | date, value => (readDate value).map .date
  | json, value => .ok (.json value.plain)
  | choice name values, value => (readChoice name values value).map .text
  | list element, value => do
    ((← listed value).mapM element.ofAttribute).map .list

/-- Reads a value of a type from JSON. -/
def ofJson? : ValueType → Json → Option Value
  | text, value => (Json.decodeString value).map .text
  | bool, value => (Json.decodeBool value).map .bool
  | int, value => (Json.decodeInt64 value).map .int
  | float, value => (Json.decodeDouble value).map .float
  | timestamp, value => (Json.decodeString value).bind fun content =>
    (Timestamp.readLoose? content).map .timestamp
  | date, value => (Json.decodeString value).bind fun content =>
    (Date.readLoose? content).map .date
  | json, value => some (.json value)
  | choice _ values, value =>
    (Json.decodeChoice (values.map fun name => (name, name)) value).map .text
  | list element, value => (Json.decodeList element.ofJson? value).map .list

end ValueType

end Keyspace
