import Keyspace.Blueprint.Names
import Keyspace.Error

/-!
# Identifiers of the generated code

Types, fields and variants are named after their names in the schema. A name that makes no
identifier is a fault. A field named like a keyword is written as a raw identifier, and the
keywords that cannot be raw get an underscore.
-/
namespace Keyspace.Code

/-- Whether a text has the form of an identifier. -/
def isIdentifier (text : String) : Bool :=
  match text.toList with
  | [] => false
  | c :: rest => (c = '_' || Text.isIdentifierStart c) && rest.all Text.isIdentifierContinue

/-- A text as an identifier. -/
def identifier (text : String) : Result String :=
  if isIdentifier text then .ok text else .error (.fault s!"`{text}` is no identifier")

/-- The words a path begins with; none of them can be a raw identifier. -/
def pathKeywords : List String := ["super", "self", "Self", "crate"]

/-- A text as a raw identifier. -/
def rawIdentifier (text : String) : Result String :=
  if isIdentifier text ∧ text ≠ "_" ∧ ¬pathKeywords.contains text then .ok ("r#" ++ text)
  else .error (.fault s!"`{text}` is no raw identifier")

/-- Keywords that a field name may be, as raw identifiers. -/
def fieldKeywords : List String :=
  ["type", "struct", "enum", "fn", "let", "mut", "ref", "super", "mod", "use", "pub", "impl",
   "trait", "for", "loop", "while", "if", "else", "match", "return", "break", "continue", "as",
   "in", "where", "async", "await", "dyn", "move", "static", "const", "unsafe", "extern",
   "true", "false", "abstract", "become", "box", "do", "final", "macro", "override", "priv",
   "typeof", "unsized", "virtual", "yield", "try"]

/-- The keywords of the language. -/
def keywords : List String :=
  ["abstract", "as", "async", "await", "become", "box", "break", "const", "continue", "crate",
   "do", "dyn", "else", "enum", "extern", "false", "final", "fn", "for", "if", "impl", "in",
   "let", "loop", "macro", "match", "mod", "move", "mut", "override", "priv", "pub", "ref",
   "return", "Self", "self", "static", "struct", "super", "trait", "true", "try", "type",
   "typeof", "unsafe", "unsized", "use", "virtual", "where", "while", "yield", "_"]

/-- The type of a model or enum. -/
def typeIdentifier (name : String) : Result String := identifier (Text.pascalCase name)

/-- The variant of an enum value. -/
def variantIdentifier (value : String) : Result String := identifier (Text.pascalCase value)

/-- The struct field of a model's field. `meta` belongs to every model already. -/
def fieldIdentifier (name : String) : Result String :=
  let snake := Text.snakeCase name
  if fieldKeywords.contains snake then rawIdentifier snake
  else if snake = "self" ∨ snake = "crate" ∨ snake = "meta" then identifier (snake ++ "_")
  else identifier snake

end Keyspace.Code
