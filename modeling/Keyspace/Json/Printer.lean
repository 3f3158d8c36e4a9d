import Keyspace.Json.Basic
import Keyspace.Number.Shortest

/-!
# Writing JSON text

`compact` writes a value without blanks, `pretty` with one member or element a line,
indented by two spaces a level. Strings escape the quote, the backslash and the control
characters below U+0020.
-/
namespace Keyspace.Json

def hexDigit (n : Nat) : Char :=
  if n < 10 then Char.ofNat (48 + n) else Char.ofNat (87 + n)

/-- How a character stands inside a string. -/
def escapeChar (c : Char) : List Char :=
  if c = '"' then ['\\', '"']
  else if c = '\\' then ['\\', '\\']
  else if c = '\x08' then ['\\', 'b']
  else if c = '\x0c' then ['\\', 'f']
  else if c = '\n' then ['\\', 'n']
  else if c = '\r' then ['\\', 'r']
  else if c = '\t' then ['\\', 't']
  else if c.toNat < 0x20 then
    ['\\', 'u', '0', '0', hexDigit (c.toNat / 16), hexDigit (c.toNat % 16)]
  else [c]

/-- A string with its quotes. -/
def quote (text : String) : String :=
  String.ofList ('"' :: text.toList.flatMap escapeChar ++ ['"'])

/-- The text of a value that holds no other. -/
def atomText : Json → String
  | null => "null"
  | bool true => "true"
  | bool false => "false"
  | int n => toString n
  | float x => NumberForm.json.write x
  | str s => quote s
  | arr _ => "[]"
  | obj _ => "\x7b\x7d"

mutual

def compact : Json → String
  | arr elements => "[" ++ String.intercalate "," (compactElements elements) ++ "]"
  | obj members => "\x7b" ++ String.intercalate "," (compactMembers members) ++ "\x7d"
  | value => atomText value

def compactElements : List Json → List String
  | [] => []
  | x :: xs => compact x :: compactElements xs

def compactMembers : List (String × Json) → List String
  | [] => []
  | (k, x) :: xs => (quote k ++ ":" ++ compact x) :: compactMembers xs

end

/-- A line break and the indentation of a level. -/
def lineAt (level : Nat) : String := "\n" ++ String.ofList (List.replicate (2 * level) ' ')

mutual

def prettyAt (level : Nat) : Json → String
  | arr [] => "[]"
  | arr (x :: xs) =>
    "[" ++ lineAt (level + 1)
      ++ String.intercalate ("," ++ lineAt (level + 1)) (prettyElements (level + 1) (x :: xs))
      ++ lineAt level ++ "]"
  | obj [] => "\x7b\x7d"
  | obj (x :: xs) =>
    "\x7b" ++ lineAt (level + 1)
      ++ String.intercalate ("," ++ lineAt (level + 1)) (prettyMembers (level + 1) (x :: xs))
      ++ lineAt level ++ "\x7d"
  | value => atomText value

def prettyElements (level : Nat) : List Json → List String
  | [] => []
  | x :: xs => prettyAt level x :: prettyElements level xs

def prettyMembers (level : Nat) : List (String × Json) → List String
  | [] => []
  | (k, x) :: xs => (quote k ++ ": " ++ prettyAt level x) :: prettyMembers level xs

end

def pretty (value : Json) : String := prettyAt 0 value

end Keyspace.Json
