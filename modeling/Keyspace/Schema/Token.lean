import Keyspace.Text.Basic
import Keyspace.Number.Reading

/-!
# Tokens of a schema text

A schema text is names, punctuation, numbers and strings between blanks; commas and `#`
comments count as blanks. `scan` cuts a text into its tokens, each with its place, up to
the end or to the first thing that is no token. Brackets may nest fifty deep.
-/
namespace Keyspace.Schema

/-- A place in a text; lines and columns count from one. -/
structure Position where
  line : Nat
  column : Nat
deriving DecidableEq, Repr

inductive Token.Kind where
  | punctuator
  | name
  | int
  | float
  | string
deriving DecidableEq, Repr

/-- A token; the text of a string token is the string it stands for. -/
structure Token where
  kind : Token.Kind
  text : String
  position : Position
deriving DecidableEq, Repr

/-- The tokens of a text, and where and how they stop. -/
structure Scan where
  tokens : List Token
  stop : Position
  /-- Whether the whole text was read. -/
  complete : Bool

namespace Position

def start : Position := ⟨1, 1⟩

def nextLine (p : Position) : Position := ⟨p.line + 1, 1⟩

def right (p : Position) (columns : Nat) : Position := ⟨p.line, p.column + columns⟩

/-- The place after a stretch of text in which only line feeds end lines. -/
def after (p : Position) : List Char → Position
  | [] => p
  | c :: rest => after (if c = '\n' then p.nextLine else p.right 1) rest

end Position

/-- Skips blanks and comments. A tab is eight columns wide; carriage returns and byte order
marks have no width, nor has what stands in a comment. -/
def skipBlanks (inComment : Bool) (p : Position) : List Char → Position × List Char
  | [] => (p, [])
  | c :: rest =>
    if inComment then
      if c = '\r' ∨ c = '\n' then skipBlanks false p.nextLine rest else skipBlanks true p rest
    else if c = '\ufeff' ∨ c = '\r' then skipBlanks false p rest
    else if c = '\t' then skipBlanks false (p.right 8) rest
    else if c = '\n' then skipBlanks false p.nextLine rest
    else if c = ' ' ∨ c = ',' then skipBlanks false (p.right 1) rest
    else if c = '#' then skipBlanks true p rest
    else (p, c :: rest)

def isNameStart (c : Char) : Bool := c.isAlpha || c = '_'

def isNameChar (c : Char) : Bool := c.isAlphanum || c = '_'

/-- The characters that end a number. -/
def endsNumber (c : Char) : Bool := " \n\r\t,#!$:=@|&()[]\x7b\x7d".toList.contains c

/-- A whole number as it may be written: no leading zero but in `0` itself. -/
def isIntText : List Char → Bool
  | ['0'] => true
  | ['-', '0'] => true
  | '0' :: _ => false
  | '-' :: '0' :: _ => false
  | '-' :: rest => !rest.isEmpty && rest.all Char.isDigit
  | _ :: rest => rest.all Char.isDigit
  | [] => false

/-- The digits after the point. -/
def isFractionText (text : List Char) : Bool := !text.isEmpty && text.all Char.isDigit

/-- The exponent: a sign with digits, or digits that begin with one to eight. -/
def isExponentText : List Char → Bool
  | [] => false
  | c :: rest =>
    if c = '-' ∨ c = '+' then !rest.isEmpty && rest.all Char.isDigit
    else '0' < c && c < '9' && rest.all Char.isDigit

/-- Splits at the last character of a class. -/
def splitAtLast? (holds : Char → Bool) (text : List Char) : Option (List Char × List Char) :=
  match text.reverse.span (fun c => !holds c) with
  | (_, []) => none
  | (after, _ :: before) => some (before.reverse, after.reverse)

/-- The kind of number a text is, if it is one. -/
def numberKind? (text : List Char) : Option Token.Kind :=
  match splitAtLast? (fun c => c = 'e' || c = 'E') text with
  | some (mantissa, exponent) =>
    match splitAtLast? (· = '.') mantissa with
    | some (whole, fraction) =>
      if isIntText whole ∧ isFractionText fraction ∧ isExponentText exponent then some .float
      else none
    | none => if isIntText mantissa ∧ isExponentText exponent then some .float else none
  | none =>
    match splitAtLast? (· = '.') text with
    | some (whole, fraction) =>
      if isIntText whole ∧ isFractionText fraction then some .float else none
    | none =>
      if isIntText text ∧ (readInt64? (String.ofList text)).isSome then some .int else none

/-- The raw characters of a string up to its closing quote, which must stand on the line. -/
def rawString? (escaped : Bool) : List Char → Option (List Char × List Char)
  | [] => none
  | c :: rest =>
    if c = '"' ∧ ¬escaped then some ([], rest)
    else if c = '\n' then none
    else (rawString? (!escaped && c = '\\') rest).map fun parts => (c :: parts.1, parts.2)

/-- The raw characters of a block string up to its closing quotes; quotes after a backslash
do not close it. -/
def rawBlock? (escaped : Bool) : List Char → Option (List Char × List Char)
  | '"' :: '"' :: '"' :: rest =>
    if escaped then (rawBlock? false rest).map fun parts => ('"' :: '"' :: '"' :: parts.1, parts.2)
    else some ([], rest)
  | c :: rest => (rawBlock? (c = '\\') rest).map fun parts => (c :: parts.1, parts.2)
  | [] => none

def hexDigit? (c : Char) : Option Nat :=
  if c.isDigit then some (c.toNat - 48)
  else if 'a' ≤ c ∧ c ≤ 'f' then some (c.toNat - 87)
  else if 'A' ≤ c ∧ c ≤ 'F' then some (c.toNat - 55)
  else none

/-- The character of a `\u` escape. A plus sign may stand for the first digit. -/
def unicodeEscape? (digits : List Char) : Option Char := do
  let digits := match digits with
    | '+' :: rest => rest
    | digits => digits
  let values ← digits.mapM hexDigit?
  let n := values.foldl (fun n d => n * 16 + d) 0
  if 0xD800 ≤ n ∧ n < 0xE000 then none else some (Char.ofNat n)

/-- The string that raw characters stand for. -/
def unescape? : List Char → Option (List Char)
  | [] => some []
  | '\\' :: 'u' :: a :: b :: c :: d :: rest => do
    let x ← unicodeEscape? [a, b, c, d]
    (unescape? rest).map (x :: ·)
  | '\\' :: c :: rest => do
    let x ← match c with
      | '"' => some '"'
      | '\\' => some '\\'
      | '/' => some '/'
      | 'b' => some '\x10'
      | 'f' => some '\x0c'
      | 'n' => some '\n'
      | 'r' => some '\r'
      | 't' => some '\t'
      | _ => none
    (unescape? rest).map (x :: ·)
  | c :: rest => (unescape? rest).map (c :: ·)

/-- The lines of a text, each without its line end; nothing stands after a last line end. -/
def linesOf (text : List Char) : List (List Char) :=
  let lines := Text.splitWhere (· = '\n') text
  let lines := if lines.getLast? = some [] then lines.dropLast else lines
  let ended := if text.getLast? = some '\n' then lines.length else lines.length - 1
  lines.mapIdx fun i line =>
    if i < ended ∧ line.getLast? = some '\r' then line.dropLast else line

/-- Writes out the escaped triple quotes of a block string. -/
def unescapeQuotes : List Char → List Char
  | '\\' :: '"' :: '"' :: '"' :: rest => '"' :: '"' :: '"' :: unescapeQuotes rest
  | c :: rest => c :: unescapeQuotes rest
  | [] => []

/-- The text of a block string: blank lines at both ends go, and so does the indentation
that all lines but the first share. -/
def dedent (raw : List Char) : List Char :=
  let lines := linesOf raw
  let isEmptyLine (line : List Char) : Bool := line.all Text.isBlank
  let width (cs : List Char) : Nat := (String.ofList cs).utf8ByteSize
  let indents := (lines.drop 1).filterMap fun line =>
    if isEmptyLine line then none else some (width (line.takeWhile Text.isBlank))
  let indent := indents.min?
  let stripped := lines.mapIdx fun i line =>
    if i = 0 then line
    else match indent with
      | some n => if n ≤ width line then line.drop n else []
      | none => []
  let kept := (lines.zip stripped).dropWhile fun pair => isEmptyLine pair.1
  let kept := (kept.reverse.dropWhile fun pair => isEmptyLine pair.1).reverse
  Text.joinWith ['\n'] (kept.map fun pair => unescapeQuotes pair.2)

/-- A token at the start of a text, the place after it, the text after it, and how many
more brackets may be opened then; none if no token stands there. -/
def nextToken? (p : Position) (room : Nat) (text : List Char) :
    Option (Token × Position × Nat × List Char) :=
  match text with
  | [] => none
  | '.' :: '.' :: '.' :: rest => some (⟨.punctuator, "...", p⟩, p.right 3, room, rest)
  | '"' :: '"' :: '"' :: rest => do
    let (raw, after) ← rawBlock? false rest
    let end_ := ((p.right 3).after raw).right 3
    pure (⟨.string, String.ofList (dedent raw), p⟩, end_, room, after)
  | '"' :: rest => do
    let (raw, after) ← rawString? false rest
    let value ← unescape? raw
    pure (⟨.string, String.ofList value, p⟩, p.right (raw.length + 2), room, after)
  | c :: rest =>
    let single := (⟨.punctuator, c.toString, p⟩, p.right 1)
    if c = '(' ∨ c = '[' ∨ c = '\x7b' then
      if room = 0 then none else some (single.1, single.2, room - 1, rest)
    else if c = ')' ∨ c = ']' ∨ c = '\x7d' then some (single.1, single.2, room + 1, rest)
    else if "!$:=@|&".toList.contains c then some (single.1, single.2, room, rest)
    else if isNameStart c then
      let word := c :: rest.takeWhile isNameChar
      some (⟨.name, String.ofList word, p⟩, p.right word.length, room, rest.dropWhile isNameChar)
    else if c = '-' ∨ c.isDigit then
      let number := c :: rest.takeWhile (fun d => !endsNumber d)
      (numberKind? number).map fun kind =>
        (⟨kind, String.ofList number, p⟩, p.right number.length, room,
          rest.dropWhile (fun d => !endsNumber d))
    else none

def scanFrom : (fuel : Nat) → Position → (room : Nat) → List Char → Scan
  | 0, p, _, _ => ⟨[], p, false⟩
  | fuel + 1, p, room, text =>
    match skipBlanks false p text with
    | (p, []) => ⟨[], p, true⟩
    | (p, text) =>
      match nextToken? p room text with
      | none => ⟨[], p, false⟩
      | some (token, p, room, rest) =>
        let scan := scanFrom fuel p room rest
        { scan with tokens := token :: scan.tokens }

/-- Cuts a text into tokens. -/
def scan (text : String) : Scan := scanFrom (text.length + 1) .start 50 text.toList

end Keyspace.Schema
