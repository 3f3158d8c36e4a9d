import Keyspace.Blueprint.Basic
import Keyspace.Code.Identifier
import Keyspace.Code.Text

/-!
# Enums in code

An enum of the schema becomes an enum with its texts, its wire conversions and, if it has
values, its first one as default.
-/
namespace Keyspace.Code

/-- A value of the enum itself. -/
def selfVariant (variant : String) : String := path ["Self", variant]

def enumDeclaration (name : String) (variants : List (String × String)) : String :=
  let declared := variants.map fun (value, variant) =>
    line [attributeText (call "serde" [line ["rename", "=", literal value]]), variant]
  line [
    attributeText (call "derive" ["Debug", "Clone", "Copy", "PartialEq", "Eq", "Hash",
      path ["serde", "Serialize"], path ["serde", "Deserialize"]]),
    "pub enum", name, braces [commas declared]]

def enumDefault (name : String) (variants : List (String × String)) : String :=
  match variants with
  | [] => ""
  | (_, first) :: _ =>
    line ["impl Default for", name,
      braces [function "default" [] "Self" (some [selfVariant first])]]

def enumTexts (name : String) (variants : List (String × String)) : String :=
  let all := variants.map fun (_, variant) => selfVariant variant
  let arms := variants.map fun (value, variant) => arm (selfVariant variant) (literal value)
  line ["impl", name, braces [
    "pub const ALL : & ' static [ Self ] = &", brackets all, ";",
    "pub", function "as_str" ["& self"] "& ' static str" (some [
      "match self", braces [commas arms]])]]

def enumToAttribute (name : String) : String :=
  line ["impl", wire "ToAttribute", "for", name, braces [
    function "to_attribute" ["& self"] (line ["Option", angles [wire "AttributeValue"]]) (some [
      call "Some" [call (path ["dynaform", "wire", "AttributeValue", "S"])
        [method (method "self" "as_str" []) "to_string" []]]])]]

def enumFromAttribute (typeName name : String) (variants : List (String × String)) : String :=
  let arms := variants.map fun (value, variant) =>
    arm (call "Some" [literal value]) (call "Ok" [selfVariant variant])
  let failure (format : String) (arguments : List String) : String :=
    call "Err" [call "format !" (literal format :: arguments)]
  let unknown := arm (call "Some" ["other"])
    (failure "unknown \x7b\x7d value `\x7b\x7d`" [literal typeName, "other"])
  let missing := arm "None" (failure "expected a \x7b\x7d string" [literal typeName])
  line ["impl", wire "FromAttribute", "for", name, braces [
    function "from_attribute" [line ["value : &", wire "AttributeValue"]]
      "Result < Self , String >" (some [
        "match", method "value" "as_s" [], braces [commas (arms ++ [unknown, missing])]])]]

/-- The values of an enum with their variants. -/
def enumVariants (e : EnumType) : Result (List (String × String)) :=
  e.values.mapM fun value => do pure (value, ← variantIdentifier value)

/-- An enum and its impls. -/
def enumCode (e : EnumType) : Result String := do
  let name ← typeIdentifier e.name
  let variants ← enumVariants e
  pure (line [enumDeclaration name variants, enumDefault name variants, enumTexts name variants,
    enumToAttribute name, enumFromAttribute e.name name variants])

end Keyspace.Code
