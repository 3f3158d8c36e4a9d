import Keyspace.Blueprint.Access
import Keyspace.Storage.Condition
import Keyspace.Wire.Columns
import Keyspace.Wire.Key

/-!
# Records

A record holds the values of a model's fields and its revision: how often it was written,
and when. An unset optional field has no value. `RecordType` is what it takes to read and
write the records of a model: the model, the enums its fields use, and the functions that
compute fields.
-/
namespace Keyspace

/-- What the store keeps about a record besides its fields. -/
structure Revision where
  /-- Zero until the record has been written once. -/
  version : Int
  createdAt : Option Timestamp
  updatedAt : Option Timestamp
deriving DecidableEq, Inhabited, Repr

namespace Revision

def unwritten : Revision := ⟨0, none, none⟩

def isPersisted (r : Revision) : Bool := 0 < r.version

def ofItem (item : Item) (model : String) : Result Revision := do
  let version ← item.readRequired .int model [versionAttribute]
  let createdAt ← item.readOptional .timestamp model [createdAtAttribute]
  let updatedAt ← item.readOptional .timestamp model [updatedAtAttribute]
  let time : Option Value → Option Timestamp
    | some (.timestamp t) => some t
    | _ => none
  match version with
  | .int n => pure ⟨n, time createdAt, time updatedAt⟩
  | _ => pure ⟨0, time createdAt, time updatedAt⟩

def writeTo (r : Revision) (item : Item) : Item :=
  let time (t : Option Timestamp) : Option AttributeValue := t.map fun t => (Value.timestamp t).toAttribute
  ((item.put versionAttribute (some (Value.int r.version).toAttribute)).put
    createdAtAttribute (time r.createdAt)).put updatedAtAttribute (time r.updatedAt)

end Revision

/-- A record: the values of its fields by their names. -/
structure Record where
  values : Dict Value
  revision : Revision
deriving Inhabited

namespace Record

def get? (r : Record) (field : String) : Option Value := r.values.get? field

def set (r : Record) (field : String) (value : Value) : Record :=
  { r with values := r.values.insert field value }

/-- Sets a field, or unsets it. -/
def assign (r : Record) (field : String) : Option Value → Record
  | some value => r.set field value
  | none => { r with values := r.values.erase field }

/-- The attribute of a field. -/
def attribute? (r : Record) (field : String) : Option AttributeValue :=
  (r.get? field).map Value.toAttribute

end Record

/-- A function that computes a field's value, if it has one. -/
abbrev Computation := Record → Option Value

structure RecordType where
  model : Model
  enums : List EnumType
  /-- The functions of computed fields by their names. -/
  functions : Dict Computation
  /-- How the generator of the code has read these names. -/
  paths : Code.PathReader

namespace RecordType

/-- The type of one of a model's fields. -/
def valueType (t : RecordType) (f : Field) : ValueType :=
  let element := match f.kind with
    | .scalar => ValueType.ofScalar f.typeName
    | .embedded => .json
    | .enum =>
      let values := (t.enums.find? (·.name = f.typeName)).elim [] (·.values)
      .choice f.typeName values
  if f.isList then .list element else element

def compute (t : RecordType) (function : String) (r : Record) : Option Value :=
  (t.functions.get? function).bind fun f => f r

/-- The value of a field that nothing sets; an optional field has none. -/
def initial? (t : RecordType) (f : Field) : Option Value :=
  if f.isList || f.isRequired then some (t.valueType f).default else none

/-- A record with nothing set. -/
def blank (t : RecordType) : Record :=
  ⟨.ofList (t.model.fields.filterMap fun f => (t.initial? f).map fun v => (f.name, v)), .unwritten⟩

end RecordType

end Keyspace
