import Keyspace.Error
import Keyspace.Wire.Value

/-!
# Reading and writing columns

A field is read from the first of its columns that is there and not null: its own, or an
older one. An absent value is left out of an item.
-/
namespace Keyspace.Item

/-- Writes an attribute unless it is absent. -/
def put (item : Item) (column : String) : Option AttributeValue → Item
  | some value => Dict.insert item column value
  | none => item

/-- The first attribute under these columns that is not null. -/
def find? (item : Item) (columns : List String) : Option AttributeValue :=
  (columns.filterMap item.get?).find? (!·.isNull)

/-- Puts the blame for a bad attribute on the first of the columns. -/
def blame (model : String) (columns : List String) (r : Except String α) : Result α :=
  r.mapError (.dataIntegrity model (columns.headD ""))

/-- Reads a value that has to be there. -/
def readRequired (type : ValueType) (item : Item) (model : String) (columns : List String) :
    Result Value :=
  blame model columns (match item.find? columns with
    | some value => type.ofAttribute value
    | none => .error "required attribute is missing")

/-- Reads a value that may be missing, but not malformed. -/
def readOptional (type : ValueType) (item : Item) (model : String) (columns : List String) :
    Result (Option Value) :=
  blame model columns (match item.find? columns with
    | some value => (type.ofAttribute value).map some
    | none => .ok none)

end Keyspace.Item
