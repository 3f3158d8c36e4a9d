import Keyspace.Wire.Attribute

/-!
# Conditions on stored items

A write can depend on what is stored under its key. `holds` judges a condition, and
`expression` puts it into the words of the storage service, whose placeholders stand for
attribute names and values.
-/
namespace Keyspace

/-- The attribute that tells the model of an item. -/
def entityTypeAttribute : String := "_et"

/-- The attribute that counts the writes of an item. -/
def versionAttribute : String := "_v"

def createdAtAttribute : String := "_ct"

def updatedAtAttribute : String := "_md"

inductive Condition where
  /-- No item is stored, or it lacks the attribute. -/
  | absent (attributeName : String)
  /-- An item is stored and has the attribute. -/
  | present (attributeName : String)
  /-- An item is stored at this version. -/
  | version (expected : Int)
  | all (conditions : List Condition)
deriving Inhabited, Repr

/-- A condition in the service's words, with what its placeholders stand for. -/
structure Expression where
  text : String
  names : Dict String
  values : Dict AttributeValue
deriving DecidableEq, Inhabited

namespace Condition

/-- The version of a stored item, if it has one. -/
def storedVersion? (current : Option Item) : Option Int := do
  let value ← (← current).get? versionAttribute
  readInt64? (← value.asNumber?)

mutual

/-- Whether a condition holds of the item stored, if any. -/
def holds : Condition → Option Item → Bool
  | absent attributeName, current => !current.any (·.contains attributeName)
  | present attributeName, current => current.any (·.contains attributeName)
  | version expected, current => storedVersion? current == some expected
  | all conditions, current => holdAll conditions current

def holdAll : List Condition → Option Item → Bool
  | [], _ => true
  | c :: cs, current => holds c current && holdAll cs current

end

/-- The placeholder of an attribute: its ASCII letters and digits. -/
def placeholder (attributeName : String) : String :=
  "#" ++ String.ofList (attributeName.toList.filter Char.isAlphanum)

mutual

/-- Adds the names and values of a condition and gives its text. -/
def expressionFrom : Condition → Dict String → Dict AttributeValue → Expression
  | absent attributeName, names, values =>
    let name := placeholder attributeName
    ⟨s!"attribute_not_exists({name})", names.insert name attributeName, values⟩
  | present attributeName, names, values =>
    let name := placeholder attributeName
    ⟨s!"attribute_exists({name})", names.insert name attributeName, values⟩
  | version expected, names, values =>
    ⟨"#version = :version", names.insert "#version" versionAttribute,
      values.insert ":version" (.number (toString expected))⟩
  | all conditions, names, values =>
    let (texts, names, values) := expressionsFrom conditions names values
    ⟨" AND ".intercalate texts, names, values⟩

def expressionsFrom : List Condition → Dict String → Dict AttributeValue →
    List String × Dict String × Dict AttributeValue
  | [], names, values => ([], names, values)
  | c :: cs, names, values =>
    let e := expressionFrom c names values
    let (texts, names, values) := expressionsFrom cs e.names e.values
    (e.text :: texts, names, values)

end

/-- The condition in the service's words. -/
def expression (c : Condition) : Expression := c.expressionFrom .empty .empty

end Condition

end Keyspace
