import Keyspace.Text.Debug

/-!
# Code as text

Generated Rust code is written as its tokens, one space between each two and every
punctuation character a token of its own; layout is left to formatters. The functions here
put pieces of such text together.
-/
namespace Keyspace.Code

/-- Pieces of code one after the other; empty ones leave no trace. -/
def line (pieces : List String) : String :=
  " ".intercalate (pieces.filter fun piece => !piece.isEmpty)

def commas (items : List String) : String := " , ".intercalate items

def parens (items : List String) : String := line ["(", commas items, ")"]

def brackets (items : List String) : String := line ["[", commas items, "]"]

def braces (pieces : List String) : String := line ("\x7b" :: pieces ++ ["\x7d"])

def angles (items : List String) : String := line ["<", commas items, ">"]

/-- Names with `::` between each two. -/
def path (names : List String) : String := " : : ".intercalate names

/-- A name of the wire format. -/
def wire (name : String) : String := path ["dynaform", "wire", name]

/-- The inside of a string literal. `\0` would take in an octal digit that follows it. -/
def literalInside : List Char → List Char
  | [] => []
  | c :: rest =>
    let isOctal := match rest with
      | d :: _ => '0' ≤ d && d ≤ '7'
      | [] => false
    (if c.toNat = 0 && isOctal then ['\\', 'x', '0', '0'] else Text.debugChar c)
      ++ literalInside rest

/-- A text as a string literal. -/
def literal (text : String) : String :=
  String.ofList ('"' :: literalInside text.toList ++ ['"'])

/-- An attribute of an item. -/
def attributeText (body : String) : String := line ["#", brackets [body]]

/-- A doc comment. -/
def doc (text : String) : String := attributeText (line ["doc", "=", literal text])

def call (function : String) (arguments : List String) : String :=
  line [function, parens arguments]

/-- A method call. -/
def method (receiver name : String) (arguments : List String) : String :=
  line [receiver, ".", call name arguments]

def reference (expression : String) : String := line ["&", expression]

/-- An arm of a match. -/
def arm (pattern body : String) : String := line [pattern, "= >", body]

/-- A function with its result type; the body is none in a trait. -/
def function (name : String) (parameters : List String) (result : String)
    (body : Option (List String)) : String :=
  line ["fn", call name parameters, "- >", result,
    match body with
    | some pieces => braces pieces
    | none => ";"]

end Keyspace.Code
