import Keyspace.Record.Basic

/-!
# Records and items

The item of a record starts from its key and follows the model's plan of writing. An item
is read field by field, in the order of the model; the virtual fields are computed after
that.
-/
namespace Keyspace

namespace Model

/-- The attributes of a key part, from an attribute for each field. -/
def keyAttribute (part : KeyPart) (argument : String → AttributeValue) : AttributeValue :=
  match part.isSingleField, part.fields with
  | true, field :: _ => argument field
  | _, fields => keyValue part.lead (fields.map argument)

/-- The key made of an attribute for each key field. -/
def keyOf (m : Model) (argument : String → AttributeValue) : Item :=
  m.primaryKey.parts.foldl
    (fun key part => Dict.insert key part.attributeName (keyAttribute part argument)) .empty

/-- The key made of attributes listed in the order of the key fields; missing ones are null. -/
def keyOfList (m : Model) (arguments : List AttributeValue) : Item :=
  m.keyOf fun field => keyComponent ((m.keyFields.zip arguments).lookup field)

end Model

namespace RecordType

def key (t : RecordType) (r : Record) : Item :=
  t.model.keyOf fun field => keyComponent (r.attribute? field)

/-- Carries out one step of writing. -/
def write (t : RecordType) (r : Record) (item : Item) : WriteStep → Item
  | .index attributeName lead fields =>
    item.put attributeName (sparseKeyValue? lead (fields.map r.attribute?))
  | .computed column function => item.put column ((t.compute function r).map Value.toAttribute)
  | .expiry column field _ =>
    match r.get? field with
    | some (.timestamp at_) => item.put column (some (.number (toString at_.seconds)))
    | _ => item
  | .plain column field => item.put column (r.attribute? field)

/-- The data, key and index attributes of a record. -/
def marshal (t : RecordType) (r : Record) : Item :=
  (t.model.writeSteps t.paths).foldl (t.write r) (t.key r)

/-- The whole stored image of a record. -/
def toItem (t : RecordType) (r : Record) : Item :=
  Dict.insert (r.revision.writeTo (t.marshal r)) entityTypeAttribute (.text t.model.name)

/-- The value of one field in an item. -/
def readField (t : RecordType) (item : Item) (f : Field) : Result (Option Value) :=
  let read := Item.readOptional (t.valueType f) item t.model.name
  match f.readRule with
  | .virtual => .ok (t.initial? f)
  | .list columns => (read columns).map fun value => some (value.getD (.list []))
  | .required columns =>
    (Item.readRequired (t.valueType f) item t.model.name columns).map some
  | .optional columns => read columns

/-- Fills in the virtual fields. -/
def computeVirtual (t : RecordType) (r : Record) : Record :=
  (t.model.computedOnRead t.paths).foldl
    (fun r (f, c) => r.assign f.name (t.compute c.function r)) r

/-- Reads a stored image. -/
def unmarshal (t : RecordType) (item : Item) : Result Record := do
  let values ← t.model.fields.mapM fun f => do pure ((← t.readField item f).map fun v => (f.name, v))
  let revision ← Revision.ofItem item t.model.name
  pure (t.computeVirtual ⟨.ofList (values.filterMap id), revision⟩)

/-- Gives an unset expiry field its default, before the first write of a record. -/
def beforeCreate (t : RecordType) (now : Timestamp) (r : Record) : Result Record :=
  match t.model.expiryDefault? with
  | none => .ok r
  | some (field, seconds) =>
    if (r.get? field).isSome then .ok r
    else match now.plusSeconds? seconds with
      | some later => .ok (r.set field (.timestamp later))
      | none => .error (.fault "expiry out of range")

end RecordType

end Keyspace
