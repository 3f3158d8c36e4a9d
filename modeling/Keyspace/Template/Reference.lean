import Keyspace.Template.Basic
import Keyspace.Text.Basic
import Keyspace.Text.Debug

/-!
# References

Properties name parameters and resources through `Ref`, `Fn::GetAtt` and the variables of
`Fn::Sub` texts. `references` collects what a value names, sorted and without repeats.
-/
namespace Keyspace

/-- A name that a value refers to. -/
inductive Reference where
  | ref (name : String)
  | getAtt (resource attributeName : String)
deriving DecidableEq, Inhabited, Repr

namespace Reference

/-- The order of references: names first, then attributes by resource. -/
def before : Reference → Reference → Bool
  | ref a, ref b => a < b
  | ref _, getAtt _ _ => true
  | getAtt _ _, ref _ => false
  | getAtt r a, getAtt s b => r < s || (r = s && a < b)

/-- The parameter that carries the reference into a nested stack. -/
def parameterName : Reference → String
  | ref name => name
  | getAtt resource attributeName =>
    String.ofList ((resource ++ attributeName).toList.filter Char.isAlphanum)

/-- The value that resolves the reference where it is declared. -/
def toJson : Reference → Json
  | ref name => .ref name
  | getAtt resource attributeName => .getAtt resource attributeName

/-- Names such as `AWS::Region` resolve everywhere. -/
def isPseudo : Reference → Bool
  | ref name => (Text.dropBeginning? "AWS::".toList name.toList).isSome
  | getAtt _ _ => false

/-- What a variable of an `Fn::Sub` text refers to. -/
def ofVariable (name : String) : Reference :=
  match Text.splitAtMark? ['.'] name.toList with
  | some (resource, attributeName) => getAtt (String.ofList resource) (String.ofList attributeName)
  | none => ref name

/-- The reference as messages show it. -/
def describe : Reference → String
  | ref name => "Ref(" ++ Text.debugQuote name ++ ")"
  | getAtt resource attributeName =>
    "GetAtt \x7b resource: " ++ Text.debugQuote resource ++ ", attribute: "
      ++ Text.debugQuote attributeName ++ " \x7d"

/-- Adds a reference to a sorted list without repeats. -/
def insertInto (r : Reference) : List Reference → List Reference
  | [] => [r]
  | s :: rest =>
    if r = s then s :: rest
    else if r.before s then r :: s :: rest
    else s :: insertInto r rest

end Reference

/-- The variables of a text after the next `${`, `fuel` of them at most. -/
def variablesFrom : (fuel : Nat) → List Char → List (List Char)
  | 0, _ => []
  | fuel + 1, text =>
    match Text.splitAtMark? ['$', '\x7b'] text with
    | none => []
    | some (_, after) =>
      match Text.splitAtMark? ['\x7d'] after with
      | none => []
      | some (inside, rest) =>
        let name := Text.trim inside
        if name = [] ∨ name.head? = some '!' then variablesFrom fuel rest
        else name :: variablesFrom fuel rest

/-- The variables named in an `Fn::Sub` text. `${!Literal}` is none. -/
def subVariables (text : String) : List String :=
  (variablesFrom (text.length + 1) text.toList).map String.ofList

namespace Json

/-- The attribute that the argument of `Fn::GetAtt` names. -/
def getAttTarget? : Json → Option Reference
  | arr (str resource :: str attributeName :: _) => some (.getAtt resource attributeName)
  | str dotted =>
    (Text.splitAtMark? ['.'] dotted.toList).map fun (resource, attributeName) =>
      .getAtt (String.ofList resource) (String.ofList attributeName)
  | _ => none

/-- The text of an `Fn::Sub` argument and the names it binds itself. -/
def subParts? : Json → Option (String × List String)
  | str text => some (text, [])
  | arr (str text :: bindings :: _) => some (text, (bindings.asObject?.getD []).keys)
  | arr [str text] => some (text, [])
  | _ => none

/-- What the argument of `Fn::Sub` refers to by the variables of its text. -/
def subReferences (argument : Json) : List Reference :=
  match subParts? argument with
  | none => []
  | some (text, bound) =>
    ((subVariables text).filter fun name => !bound.contains name).map .ofVariable

mutual

/-- What a value refers to, in the order met. -/
def referencesIn : Json → List Reference
  | arr elements => referencesInAll elements
  | obj members =>
    match members with
    | [(key, argument)] =>
      if key = "Ref" then
        match argument with
        | str name => [.ref name]
        | argument => referencesIn argument
      else if key = "Fn::GetAtt" then
        match getAttTarget? argument with
        | some target => [target]
        | none => referencesIn argument
      else if key = "Fn::Sub" then subReferences argument ++ referencesIn argument
      else referencesIn argument
    | members => referencesInMembers members
  | _ => []

def referencesInAll : List Json → List Reference
  | [] => []
  | x :: xs => referencesIn x ++ referencesInAll xs

def referencesInMembers : List (String × Json) → List Reference
  | [] => []
  | (_, x) :: xs => referencesIn x ++ referencesInMembers xs

end

/-- What a value refers to, sorted and without repeats. -/
def references (value : Json) : List Reference :=
  (referencesIn value).foldr Reference.insertInto []

end Json

end Keyspace
