import Keyspace.Change.Event
import Keyspace.Record.Basic

/-!
# Records in JSON

A record is an object of its fields, those unset left out, and its revision under `meta`.
Lists and the revision may be left out when a record is read, required fields may not.
-/
namespace Keyspace

open Json

namespace Revision

def toJson (r : Revision) : Json := .object [
  ("version", .int r.version),
  ("createdAt", .ofOption Timestamp.toJson r.createdAt),
  ("updatedAt", .ofOption Timestamp.toJson r.updatedAt)]

def ofJson? : Decoder Revision := fun value => do
  let [version, createdAt, updatedAt] ← members?
      [.listed "version", .listed "createdAt", .listed "updatedAt"] value
    | none
  pure ⟨← required decodeInt64 version, ← optional decodeTimestamp createdAt,
    ← optional decodeTimestamp updatedAt⟩

end Revision

namespace Record

def toJson (r : Record) : Json :=
  .object (("meta", r.revision.toJson) :: r.values.map fun (name, value) => (name, value.toJson))

end Record

namespace RecordType

/-- The member that holds a field. -/
def member (f : Field) : Member := ⟨f.name, f.isList || !f.isRequired⟩

/-- The value of a field from its member. -/
def fieldOfJson? (t : RecordType) (f : Field) (value : Option Json) : Option (Option Value) :=
  let decode := (t.valueType f).ofJson?
  if f.isList then (orDefault (.list []) decode value).map some
  else if f.isRequired then (required decode value).map some
  else optional decode value

def ofJson? (t : RecordType) : Decoder Record := fun value => do
  let fields := t.model.fields
  let given ← members? (fields.map member ++ [.defaulted "meta"]) value
  let values ← (fields.zip given).mapM fun (f, value) => do
    pure ((← t.fieldOfJson? f value).map fun v => (f.name, v))
  let revision ← orDefault .unwritten Revision.ofJson? (given.getLast?.join)
  pure ⟨.ofList (values.filterMap id), revision⟩

end RecordType

end Keyspace
