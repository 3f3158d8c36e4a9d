import Keyspace.Dict
import Keyspace.Number.Reading

/-!
# JSON values

Whole numbers are kept apart from doubles, as their texts are (`1` and `1.0`). Whole
numbers lie in the range of 64-bit integers, signed or unsigned; doubles are finite. The
members of an object are a dictionary, so equal objects are equal lists.
-/
namespace Keyspace

inductive Json where
  | null
  | bool (value : Bool)
  | int (value : Int)
  | float (value : Double)
  | str (text : String)
  | arr (elements : List Json)
  | obj (members : List (String × Json))
deriving Inhabited

namespace Json

mutual

/-- Equality of values, decided member by member. -/
def same : Json → Json → Bool
  | null, null => true
  | bool a, bool b => a == b
  | int a, int b => a == b
  | float a, float b => a == b
  | str a, str b => a == b
  | arr a, arr b => sameElements a b
  | obj a, obj b => sameMembers a b
  | _, _ => false

def sameElements : List Json → List Json → Bool
  | [], [] => true
  | x :: xs, y :: ys => same x y && sameElements xs ys
  | _, _ => false

def sameMembers : List (String × Json) → List (String × Json) → Bool
  | [], [] => true
  | (k, x) :: xs, (l, y) :: ys => k == l && same x y && sameMembers xs ys
  | _, _ => false

end

mutual

theorem same_iff (a b : Json) : same a b = true ↔ a = b := by
  cases a <;> cases b <;> simp [same]
  · exact sameElements_iff _ _
  · exact sameMembers_iff _ _

theorem sameElements_iff (a b : List Json) : sameElements a b = true ↔ a = b := by
  match a, b with
  | [], [] => simp [sameElements]
  | [], _ :: _ => simp [sameElements]
  | _ :: _, [] => simp [sameElements]
  | x :: xs, y :: ys => simp [sameElements, same_iff x y, sameElements_iff xs ys]

theorem sameMembers_iff (a b : List (String × Json)) : sameMembers a b = true ↔ a = b := by
  match a, b with
  | [], [] => simp [sameMembers]
  | [], _ :: _ => simp [sameMembers]
  | _ :: _, [] => simp [sameMembers]
  | (k, x) :: xs, (l, y) :: ys =>
    simp [sameMembers, same_iff x y, sameMembers_iff xs ys, and_assoc]

end

instance : DecidableEq Json := fun a b => decidable_of_iff _ (same_iff a b)

/-- A double as a value; one that is not finite has no JSON form and becomes null. -/
def ofDouble (x : Double) : Json := if x.isFinite then float x else null

def ofStrings (texts : List String) : Json := arr (texts.map str)

def ofOption (f : α → Json) : Option α → Json
  | none => null
  | some a => f a

/-- An object of the given members. -/
def object (members : List (String × Json)) : Json := obj (Dict.ofList members)

/-- The member under a key; nothing has members but an object. -/
def get? : Json → String → Option Json
  | obj members, key => Dict.get? members key
  | _, _ => none

def isNull : Json → Bool
  | null => true
  | _ => false

def asString? : Json → Option String
  | str text => some text
  | _ => none

def asBool? : Json → Option Bool
  | bool b => some b
  | _ => none

def asObject? : Json → Option (Dict Json)
  | obj members => some members
  | _ => none

def asArray? : Json → Option (List Json)
  | arr elements => some elements
  | _ => none

end Json

end Keyspace
