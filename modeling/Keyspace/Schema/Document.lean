import Keyspace.Error
import Keyspace.Schema.Token

/-!
# Schema documents

A document is a list of definitions. Object and interface types keep their fields, and
types and fields their directives; what else a document may declare keeps its name, if it
declares a type. `parse` reads a document, and a text that is none is refused at the first
token that no document could have there.
-/
namespace Keyspace.Schema

/-- The value of a directive's argument. -/
inductive Value where
  | variable (name : String)
  | int (value : Int)
  | float (text : String)
  | string (text : String)
  | boolean (value : Bool)
  | null
  | enum (name : String)
  | list (elements : List Value)
  | object (members : List (String × Value))
deriving Inhabited, Repr

/-- A directive as it is written at a type or field. -/
structure DirectiveUse where
  name : String
  arguments : List (String × Value)
deriving Inhabited, Repr

inductive TypeRef where
  | named (name : String)
  | list (element : TypeRef)
  | nonNull (inner : TypeRef)
deriving DecidableEq, Inhabited, Repr

structure FieldDeclaration where
  name : String
  type : TypeRef
  directives : List DirectiveUse
deriving Inhabited, Repr

/-- An object or interface type. -/
structure TypeDeclaration where
  name : String
  interfaces : List String
  directives : List DirectiveUse
  fields : List FieldDeclaration
deriving Inhabited, Repr

structure EnumDeclaration where
  name : String
  values : List String
deriving Inhabited, Repr

inductive Definition where
  | object (type : TypeDeclaration)
  | interface (type : TypeDeclaration)
  | enum (type : EnumDeclaration)
  | scalar (name : String)
  | union (name : String)
  | input (name : String)
  /-- A schema, a directive or an extension: it declares no type. -/
  | other
deriving Inhabited, Repr

abbrev Document := List Definition

/-- The type a definition declares. -/
def Definition.typeName? : Definition → Option String
  | object type => some type.name
  | interface type => some type.name
  | enum type => some type.name
  | scalar name => some name
  | union name => some name
  | input name => some name
  | other => none

namespace TypeRef

/-- The named type inside lists and non-null marks. -/
def base : TypeRef → String
  | named name => name
  | list element => element.base
  | nonNull inner => inner.base

def isRequired : TypeRef → Bool
  | nonNull _ => true
  | _ => false

def isList : TypeRef → Bool
  | named _ => false
  | list _ => true
  | nonNull inner => inner.isList

end TypeRef

/-- Reads from the front of a list of tokens; a failure gives the tokens that were left. -/
abbrev Parser (α : Type) := StateT (List Token) (Except (List Token)) α

namespace Parser

/-- Refuses the token that comes next. -/
def refuse : Parser α := fun tokens => .error tokens

/-- Takes the next token if it is wanted. -/
def take (wanted : Token → Option α) : Parser α
  | [] => .error []
  | token :: rest => match wanted token with
    | some a => .ok (a, rest)
    | none => .error (token :: rest)

/-- Whether the next token is wanted. -/
def next (wanted : Token → Bool) : Parser Bool
  | [] => .ok (false, [])
  | token :: rest => .ok (wanted token, token :: rest)

def isMark (mark : String) (token : Token) : Bool := token.kind = .punctuator && token.text = mark

def isWord (word : String) (token : Token) : Bool := token.kind = .name && token.text = word

def mark (mark : String) : Parser Unit :=
  take fun token => if isMark mark token then some () else none

def word (word : String) : Parser Unit :=
  take fun token => if isWord word token then some () else none

def name : Parser String := take fun token => if token.kind = .name then some token.text else none

/-- Takes a mark if it comes next, and says whether it did. -/
def mark? (m : String) : Parser Bool := do
  if ← next (isMark m) then
    mark m
    pure true
  else pure false

/-- A description may stand before a declaration. -/
def description : Parser Unit := do
  if ← next (·.kind = .string) then take fun _ => some ()

/-- Items up to a closing mark, which is taken too. -/
def manyUntil (close : String) (item : Parser α) : Nat → Parser (List α)
  | 0 => refuse
  | fuel + 1 => do
    if ← mark? close then pure []
    else
      let first ← item
      let rest ← Parser.manyUntil close item fuel
      pure (first :: rest)

/-- One item or more, up to a closing mark. -/
def someUntil (close : String) (item : Parser α) (fuel : Nat) : Parser (List α) := do
  let first ← item
  let rest ← Parser.manyUntil close item fuel
  pure (first :: rest)

/-- Items between marks; none at all if the opening mark does not come next. -/
def optionalBlock (opening close : String) (item : Parser α) (fuel : Nat) : Parser (List α) := do
  if ← mark? opening then someUntil close item fuel else pure []

/-- Items with a mark between each two. -/
def separated (separator : String) (item : Parser α) : Nat → Parser (List α)
  | 0 => refuse
  | fuel + 1 => do
    let first ← item
    if ← mark? separator then
      let rest ← separated separator item fuel
      pure (first :: rest)
    else pure [first]

/-- The value of a token that is one by itself. -/
def plainValue? (token : Token) : Option Value :=
  match token.kind with
  | .punctuator => none
  | .name =>
    if token.text = "true" then some (.boolean true)
    else if token.text = "false" then some (.boolean false)
    else if token.text = "null" then some .null
    else some (.enum token.text)
  | .int => (readInt64? token.text).map .int
  | .float => some (.float token.text)
  | .string => some (.string token.text)

/-- A value; variables stand only where they are allowed. -/
def value (allowsVariables : Bool) : Nat → Parser Value
  | 0 => refuse
  | fuel + 1 => do
    if allowsVariables && (← next (isMark "$")) then
      mark "$"
      Value.variable <$> name
    else if ← mark? "[" then
      Value.list <$> Parser.manyUntil "]" (value allowsVariables fuel) fuel
    else if ← mark? "\x7b" then
      let member := do
        let key ← name
        mark ":"
        let v ← value allowsVariables fuel
        pure (key, v)
      Value.object <$> Parser.manyUntil "\x7d" member fuel
    else take plainValue?

def argument (fuel : Nat) : Parser (String × Value) := do
  let key ← name
  mark ":"
  let v ← value true fuel
  pure (key, v)

def directives : Nat → Parser (List DirectiveUse)
  | 0 => refuse
  | fuel + 1 => do
    if ← mark? "@" then
      let directiveName ← name
      let arguments ← optionalBlock "(" ")" (argument fuel) fuel
      let rest ← directives fuel
      pure (⟨directiveName, arguments⟩ :: rest)
    else pure []

def typeRef : Nat → Parser TypeRef
  | 0 => refuse
  | fuel + 1 => do
    let inner ← if ← mark? "[" then do
        let element ← typeRef fuel
        mark "]"
        pure (TypeRef.list element)
      else TypeRef.named <$> name
    if ← mark? "!" then pure (.nonNull inner) else pure inner

/-- The declaration of an argument or of a field of an input type. -/
def inputValue (fuel : Nat) : Parser Unit := do
  description
  let _ ← name
  mark ":"
  let _ ← typeRef fuel
  if ← mark? "=" then
    let _ ← value false fuel
  let _ ← directives fuel

def field (fuel : Nat) : Parser FieldDeclaration := do
  description
  let fieldName ← name
  let _ ← optionalBlock "(" ")" (inputValue fuel) fuel
  mark ":"
  let type ← typeRef fuel
  let uses ← directives fuel
  pure ⟨fieldName, type, uses⟩

def interfaces (fuel : Nat) : Parser (List String) := do
  if ← next (isWord "implements") then
    word "implements"
    let _ ← mark? "&"
    separated "&" name fuel
  else pure []

/-- The declaration of an object or interface type after its keyword. -/
def typeDeclaration (fuel : Nat) : Parser TypeDeclaration := do
  let typeName ← name
  let implemented ← interfaces fuel
  let uses ← directives fuel
  let fields ← optionalBlock "\x7b" "\x7d" (field fuel) fuel
  pure ⟨typeName, implemented, uses, fields⟩

def enumDeclaration (fuel : Nat) : Parser EnumDeclaration := do
  let typeName ← name
  let _ ← directives fuel
  let enumValue := do
    description
    let valueName ← name
    let _ ← directives fuel
    pure valueName
  let values ← optionalBlock "\x7b" "\x7d" enumValue fuel
  pure ⟨typeName, values⟩

/-- The places a directive definition may name. -/
def directiveLocations : List String :=
  ["QUERY", "MUTATION", "SUBSCRIPTION", "FIELD", "FRAGMENT_DEFINITION", "FRAGMENT_SPREAD",
   "INLINE_FRAGMENT", "SCHEMA", "SCALAR", "OBJECT", "FIELD_DEFINITION", "ARGUMENT_DEFINITION",
   "INTERFACE", "UNION", "ENUM", "ENUM_VALUE", "INPUT_OBJECT", "INPUT_FIELD_DEFINITION",
   "VARIABLE_DEFINITION"]

def directiveDefinition (fuel : Nat) : Parser Unit := do
  mark "@"
  let _ ← name
  let _ ← optionalBlock "(" ")" (inputValue fuel) fuel
  if ← next (isWord "repeatable") then word "repeatable"
  word "on"
  let _ ← mark? "|"
  let location := take fun token =>
    if token.kind = .name && directiveLocations.contains token.text then some () else none
  let _ ← separated "|" location fuel

/-- A definition that declares or extends a type. -/
def typeDefinition (fuel : Nat) : Parser Definition := do
  let keyword ← take fun token =>
    if token.kind = .name
        && ["scalar", "type", "interface", "union", "enum", "input"].contains token.text then
      some token.text
    else none
  match keyword with
  | "type" => Definition.object <$> typeDeclaration fuel
  | "interface" => Definition.interface <$> typeDeclaration fuel
  | "enum" => Definition.enum <$> enumDeclaration fuel
  | "scalar" => do
    let typeName ← name
    let _ ← directives fuel
    pure (.scalar typeName)
  | "union" => do
    let typeName ← name
    let _ ← directives fuel
    if ← mark? "=" then
      let _ ← mark? "|"
      let _ ← separated "|" name fuel
    pure (.union typeName)
  | _ => do
    let typeName ← name
    let _ ← directives fuel
    let _ ← optionalBlock "\x7b" "\x7d" (inputValue fuel) fuel
    pure (.input typeName)

/-- The operations of a schema definition, each given once. -/
def schemaDefinition (fuel : Nat) : Parser Unit := fun tokens => do
  let operation : Parser String := do
    let kind ← take fun token =>
      if token.kind = .name && ["query", "mutation", "subscription"].contains token.text then
        some token.text
      else none
    mark ":"
    let _ ← name
    pure kind
  let body : Parser (List String) := do
    word "schema"
    let _ ← directives fuel
    mark "\x7b"
    someUntil "\x7d" operation fuel
  let (kinds, rest) ← body tokens
  if kinds.Nodup then .ok ((), rest) else .error tokens

def definition (fuel : Nat) : Parser Definition := do
  if ← next (isWord "schema") then
    schemaDefinition fuel
    pure .other
  else if ← next (isWord "extend") then
    word "extend"
    let _ ← typeDefinition fuel
    pure .other
  else
    description
    if ← next (isWord "directive") then
      word "directive"
      directiveDefinition fuel
      pure .other
    else typeDefinition fuel

/-- Definitions up to the end of the tokens. -/
def definitions : Nat → Parser Document
  | 0 => refuse
  | fuel + 1 => do
    let first ← definition fuel
    if (← get).isEmpty then pure [first]
    else
      let rest ← definitions fuel
      pure (first :: rest)

end Parser

/-- The error that refuses a schema text at a place. -/
def refusal (p : Position) : Error :=
  .parse s!"schema parse error: Parse error at {p.line}:{p.column}"

/-- Reads a schema document. -/
def parse (text : String) : Result Document :=
  let found := scan text
  let place : List Token → Position
    | token :: _ => token.position
    | [] => found.stop
  match Parser.definitions (found.tokens.length + 2) found.tokens with
  | .error rest => .error (refusal (place rest))
  | .ok (document, _) => if found.complete then .ok document else .error (refusal found.stop)

end Keyspace.Schema
