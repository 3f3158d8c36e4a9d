import Keyspace.Json.Printer
import Keyspace.Json.Reader
import Keyspace.Text.Basic

/-!
# Tokens of code

Code is the same whatever its layout. `Code.tokens` gives what counts: words, single marks, and
string literals by their texts, whatever their escapes, as JSON. A comment ends with its line.
-/
namespace Keyspace.Code

/-- The characters of words; those beyond the basic ones count as letters. -/
def isWordChar (c : Char) : Bool := c.isAlphanum || c = '_' || c.toNat ≥ 128

/-- The character that stands after a backslash. -/
def escapedChar : Char → Char
  | 'n' => '\n'
  | 'r' => '\r'
  | 't' => '\t'
  | '0' => '\x00'
  | c => c

/-- The text of a string literal, up to its closing quote, and what follows it. Inside the braces
of an escape `\u`, `number?` is what its digits have given so far. -/
def readLiteral : (number? : Option Nat) → List Char → List Char × List Char
  | _, [] => ([], [])
  | some n, c :: rest =>
    if c = '\x7d' then
      let (text, after) := readLiteral none rest
      (Char.ofNat n :: text, after)
    else readLiteral (some ((Json.hexValue? c).elim n (n * 16 + ·))) rest
  | none, '"' :: rest => ([], rest)
  | none, '\\' :: 'u' :: '\x7b' :: rest => readLiteral (some 0) rest
  | none, '\\' :: 'x' :: c :: d :: rest =>
    let (text, after) := readLiteral none rest
    let number := (Json.hexValue? c).getD 0 * 16 + (Json.hexValue? d).getD 0
    (Char.ofNat number :: text, after)
  | none, '\\' :: c :: rest =>
    let (text, after) := readLiteral none rest
    (escapedChar c :: text, after)
  | none, c :: rest =>
    let (text, after) := readLiteral none rest
    (c :: text, after)

/-- The tokens at the start of a text, at most as many as `fuel`. -/
def tokensFrom : (fuel : Nat) → List Char → List (List Char)
  | 0, _ => []
  | _ + 1, [] => []
  | fuel + 1, 'r' :: '#' :: rest =>
    ('r' :: '#' :: rest.takeWhile isWordChar) :: tokensFrom fuel (rest.dropWhile isWordChar)
  | fuel + 1, '/' :: '/' :: rest => tokensFrom fuel (rest.dropWhile (· ≠ '\n'))
  | fuel + 1, '"' :: rest =>
    let (text, after) := readLiteral none rest
    (Json.quote (String.ofList text)).toList :: tokensFrom fuel after
  | fuel + 1, c :: rest =>
    if Text.isBlank c then tokensFrom fuel rest
    else if isWordChar c then
      (c :: rest.takeWhile isWordChar) :: tokensFrom fuel (rest.dropWhile isWordChar)
    else [c] :: tokensFrom fuel rest

/-- The tokens of code. Every token has a character of its own. -/
def tokens (text : String) : List String :=
  (tokensFrom text.length text.toList).map String.ofList

end Keyspace.Code
