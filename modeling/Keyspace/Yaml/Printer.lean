import Keyspace.Json.Basic
import Keyspace.Number.Shortest
import Keyspace.Yaml.Basic

/-!
# Writing YAML text

Values are written in block style, two spaces a level, the items of a sequence in the column
of its key. A text is plain where it would read back as itself, else quoted; a text of
several lines is a literal block. Members are written in the order of the value.
-/
namespace Keyspace.Yaml

inductive Style where
  | plain
  | single
  | double
  | literal
deriving DecidableEq, Repr

/-- Whether a plain text would be read as something other than a text. -/
def readsAsOther (text : String) : Bool :=
  text.isEmpty || isNullText text || (boolean? text).isSome
    || (integer? text).any fitsInt128
    || hasLeadingZero text.toList || (double? text).isSome

/-- Characters that may stand unescaped. -/
def isPrintable (c : Char) : Bool :=
  let n := c.toNat
  n = 0x0a || (0x20 ≤ n && n ≤ 0x7e)
    || (0xa0 ≤ n && n != 0xfeff && n != 0xfffe && n != 0xffff)

/-- Whether a mark inside a plain text would end it: a colon before a blank, a number sign
after one. -/
def hasInnerMark (afterBlank : Bool) : List Char → Bool
  | [] => false
  | c :: rest =>
    (c = ':' && blankFollows rest) || (c = '#' && afterBlank)
      || hasInnerMark (isBlank c || isBreak c) rest

/-- Whether a plain text may not begin like this. -/
def beginsLikeMark : List Char → Bool
  | [] => false
  | c :: rest =>
    "#,[]\x7b\x7d&*!|>'\"%@`".toList.contains c
      || ((c = '?' || c = ':' || c = '-') && blankFollows rest)
      || (c :: rest).take 3 = ['-', '-', '-'] || (c :: rest).take 3 = ['.', '.', '.']

/-- Whether one character stands directly before another anywhere in a text. -/
def hasPair (first second : Char → Bool) : List Char → Bool
  | c :: d :: rest => (first c && second d) || hasPair first second (d :: rest)
  | _ => false

def isSpace (c : Char) : Bool := c = ' '

/-- Whether every character is kept where it stands as it is: none needs an escape, and no
space is lost at the end of a line. -/
def keepsCharacters (chars : List Char) : Bool :=
  chars.all isPrintable && !hasPair isSpace isBreak chars

/-- Whether a text may be a literal block. A space at its end would be lost. -/
def allowsLiteral (chars : List Char) : Bool :=
  keepsCharacters chars && chars.getLast? != some ' '

/-- Whether a text may stand in single quotes. A space at the start of a line would be
lost. -/
def allowsSingle (chars : List Char) : Bool :=
  keepsCharacters chars && !hasPair isBreak isSpace chars

/-- Whether a text may stand without quotes, if it is read as a text there. -/
def allowsPlain (chars : List Char) : Bool :=
  allowsSingle chars && !chars.any isBreak && !beginsLikeMark chars
    && !hasInnerMark false (chars.drop 1) && chars.head? != some ' '
    && chars.getLast? != some ' '

/-- The style a text is written in. -/
def styleOf (text : String) : Style :=
  let chars := text.toList
  if chars.contains '\n' then if allowsLiteral chars then .literal else .double
  else if !readsAsOther text && allowsPlain chars then .plain
  else if allowsSingle chars then .single
  else .double

/-- Whether a key is written before its colon. A long key, or one of several lines, is marked
as a key instead. -/
def isSimpleKey (key : String) : Bool := !key.toList.any isBreak && key.utf8ByteSize ≤ 128

def upperHex (n : Nat) : List Char := (Nat.toDigits 16 n).map Char.toUpper

def padHex (width n : Nat) : List Char :=
  let digits := upperHex n
  List.replicate (width - digits.length) '0' ++ digits

/-- How a character stands in double quotes. -/
def escapeChar (c : Char) : List Char :=
  let n := c.toNat
  if c = '"' then ['\\', '"']
  else if c = '\\' then ['\\', '\\']
  else if c = '\n' then ['\\', 'n']
  else if isPrintable c && !isBreak c then [c]
  else match n with
    | 0x00 => ['\\', '0']
    | 0x07 => ['\\', 'a']
    | 0x08 => ['\\', 'b']
    | 0x09 => ['\\', 't']
    | 0x0b => ['\\', 'v']
    | 0x0c => ['\\', 'f']
    | 0x0d => ['\\', 'r']
    | 0x1b => ['\\', 'e']
    | 0x85 => ['\\', 'N']
    | 0x2028 => ['\\', 'L']
    | 0x2029 => ['\\', 'P']
    | _ =>
      if n ≤ 0xff then '\\' :: 'x' :: padHex 2 n
      else if n ≤ 0xffff then '\\' :: 'u' :: padHex 4 n
      else '\\' :: 'U' :: padHex 8 n

def pad (column : Nat) : List Char := List.replicate column ' '

/-- Characters with each of their lines, where one begins, at a column. -/
def indented (column : Nat) (atStart : Bool) : List Char → List Char
  | [] => []
  | c :: rest =>
    if isBreak c then c :: indented column true rest
    else if atStart then pad column ++ c :: indented column false rest
    else c :: indented column false rest

/-- A literal block below a column. The header says how the text begins and ends. -/
def literalText (column : Nat) (chars : List Char) : List Char :=
  let indentHint := match chars with
    | [] => []
    | c :: _ => if isSpace c || isBreak c then ['2'] else []
  let endHint := match chars.reverse with
    | [] => ['-']
    | [c] => if isBreak c then ['+'] else ['-']
    | c :: d :: _ => if !isBreak c then ['-'] else if isBreak d then ['+'] else []
  '|' :: indentHint ++ endHint ++ '\n' :: indented (column + 2) true chars

/-- A text between single quotes, below a column. -/
def singleText (column : Nat) (chars : List Char) : List Char :=
  let quoted := chars.flatMap fun c => if c = '\'' then [c, c] else [c]
  '\'' :: indented (column + 2) false (quoted ++ ['\''])

/-- A text as a scalar below a column. -/
def scalarText (column : Nat) (text : String) : String :=
  let chars := text.toList
  match styleOf text with
  | .plain => text
  | .single => String.ofList (singleText column chars)
  | .double => String.ofList ('"' :: chars.flatMap escapeChar ++ ['"'])
  | .literal => String.ofList (literalText column chars)

/-- A value that holds no other. -/
def atomText (column : Nat) : Json → String
  | .null => "null"
  | .bool true => "true"
  | .bool false => "false"
  | .int n => toString n
  | .float x => NumberForm.yaml.write x
  | .str text => scalarText column text
  | .arr _ => "[]"
  | .obj _ => "\x7b\x7d"

/-- A text with its last line ended; a literal block may have ended it already. -/
def endLine (text : String) : String :=
  if text.toList.getLast?.any isBreak then text else text ++ "\n"

/-- Pieces of text one below the other in a column; the first is placed by the caller. -/
def stack (column : Nat) : List String → String
  | [] => ""
  | [piece] => piece
  | piece :: pieces => endLine piece ++ String.ofList (pad column) ++ stack column pieces

mutual

/-- What follows a key in a mapping at a column. -/
def valueText (column : Nat) : Json → String
  | .arr (x :: xs) =>
    "\n" ++ String.ofList (pad column) ++ stack column (itemTexts column (x :: xs))
  | .obj (x :: xs) =>
    "\n" ++ String.ofList (pad (column + 2))
      ++ stack (column + 2) (entryTexts (column + 2) (x :: xs))
  | value => " " ++ atomText column value

def entryTexts (column : Nat) : List (String × Json) → List String
  | [] => []
  | (k, x) :: xs =>
    let entry :=
      if isSimpleKey k then scalarText column k ++ ":" ++ valueText column x
      else stack column ["? " ++ scalarText column k, ": " ++ itemText column x]
    entry :: entryTexts column xs

/-- What follows the mark of an item, or of a marked key's value, at a column. -/
def itemText (column : Nat) : Json → String
  | .arr (x :: xs) => stack (column + 2) (itemTexts (column + 2) (x :: xs))
  | .obj (x :: xs) => stack (column + 2) (entryTexts (column + 2) (x :: xs))
  | value => atomText column value

def itemTexts (column : Nat) : List Json → List String
  | [] => []
  | x :: xs => ("- " ++ itemText column x) :: itemTexts column xs

end

/-- The document of a value. -/
def print : Json → String
  | .arr (x :: xs) => endLine (stack 0 (itemTexts 0 (x :: xs)))
  | .obj (x :: xs) => endLine (stack 0 (entryTexts 0 (x :: xs)))
  | value => endLine (atomText 0 value)

end Keyspace.Yaml
