import Keyspace.Json.Basic

/-!
# Reading typed values out of JSON

A decoder takes a JSON value to a value of its type, or fails. A record is read from an
object by the names of its members, others being passed over, or from an array that lists
the members in order. `members?` treats both forms alike.
-/
namespace Keyspace.Json

/-- A reader of values of one type. -/
abbrev Decoder (α : Type) := Json → Option α

/-- A member of a record: its name, and whether it may be left out of either form. -/
structure Member where
  name : String
  omissible : Bool

/-- A member that an array form must hold. -/
def Member.listed (name : String) : Member := ⟨name, false⟩

/-- A member with a default. -/
def Member.defaulted (name : String) : Member := ⟨name, true⟩

/-- The members of a record, in the order asked for; those left out are none. -/
def members? (shape : List Member) : Json → Option (List (Option Json))
  | obj entries => some (shape.map fun member => Dict.get? entries member.name)
  | arr elements =>
    if elements.length ≤ shape.length ∧ (shape.drop elements.length).all (·.omissible) then
      some (elements.map some ++ (shape.drop elements.length).map fun _ => none)
    else none
  | _ => none

/-- A member that has to be there. -/
def required (decode : Decoder α) : Option Json → Option α
  | some value => decode value
  | none => none

/-- A member that may be left out or null. -/
def optional (decode : Decoder α) : Option Json → Option (Option α)
  | none => some none
  | some null => some none
  | some value => (decode value).map some

/-- A member that has a default when it is left out. -/
def orDefault (default : α) (decode : Decoder α) : Option Json → Option α
  | none => some default
  | some value => decode value

def decodeAny : Decoder Json := some

def decodeString : Decoder String := asString?

def decodeBool : Decoder Bool := asBool?

/-- A whole number between two bounds. -/
def decodeIntIn (low high : Int) : Decoder Int
  | int n => if low ≤ n ∧ n ≤ high then some n else none
  | _ => none

def decodeInt64 : Decoder Int := decodeIntIn int64Min int64Max

/-- A natural number up to a bound. -/
def decodeNatTo (high : Nat) : Decoder Nat
  | int n => if 0 ≤ n ∧ n ≤ high then some n.toNat else none
  | _ => none

def decodeUInt32 : Decoder Nat := decodeNatTo uint32Max

def decodeUInt64 : Decoder Nat := decodeNatTo uint64Max

/-- A double, which a whole number may stand for. -/
def decodeDouble : Decoder Double
  | int n => some (Double.ofInt n)
  | float x => some x
  | _ => none

def decodeList (decode : Decoder α) : Decoder (List α)
  | arr elements => elements.mapM decode
  | _ => none

def decodeDict (decode : Decoder α) : Decoder (Dict α)
  | obj entries => entries.mapM fun entry => (decode entry.2).map fun value => (entry.1, value)
  | _ => none

/-- A choice by name, written as the name or as an object of the name with null. -/
def decodeChoice (choices : List (String × α)) : Decoder α
  | str name => choices.lookup name
  | obj [(name, null)] => choices.lookup name
  | _ => none

end Keyspace.Json
