import Keyspace.Wire.Attribute

/-!
# Keys

The key of an item is an item of its own: the attributes of the primary key. An attribute
made of several fields joins their texts with `#`, after a lead text if there is one.
-/
namespace Keyspace

/-- The text a value contributes to a key. -/
def AttributeValue.keyText : AttributeValue → String
  | .text content => content
  | .number content => content
  | .binary content => content
  | .bool content => toString content
  | .null _ => ""
  | value => value.plain.compact

/-- The value that a missing part of a key has. -/
def keyComponent (value : Option AttributeValue) : AttributeValue := value.getD (.null true)

/-- The attribute made of several parts. -/
def keyValue (lead : Option String) (parts : List AttributeValue) : AttributeValue :=
  .text ("#".intercalate (lead.toList ++ parts.map AttributeValue.keyText))

/-- The attribute of an index; with a part missing there is none, and the item stays out of
the index. -/
def sparseKeyValue? (lead : Option String) (parts : List (Option AttributeValue)) :
    Option AttributeValue :=
  (parts.mapM id).map (keyValue lead)

/-- A key in words: `pk=CUSTOMER#1, sk=ORDER#2`. -/
def describeKey (key : Item) : String :=
  ", ".intercalate (key.map fun (name, value) => name ++ "=" ++ value.keyText)

end Keyspace
