import Keyspace.Number.Reading
import Keyspace.Yaml.Basic

/-!
# Tokens of YAML text

`Scan.tokens?` takes a text to its tokens. Block collections get tokens for their starts and
ends, which follow from the columns of dashes and keys. What a colon follows is a key only
in hindsight: the place of a possible key is kept, and the tokens of the key go there.
-/
namespace Keyspace.Yaml

inductive Token where
  | versionDirective (major minor : Nat)
  | tagDirective (handle lead : String)
  | documentStart
  | documentEnd
  | blockSequenceStart
  | blockMappingStart
  | blockEnd
  | flowSequenceStart
  | flowSequenceEnd
  | flowMappingStart
  | flowMappingEnd
  | blockEntry
  | flowEntry
  | key
  | value
  | reference (anchor : String)
  | anchor (name : String)
  | tag (handle suffix : String)
  | scalar (text : String) (isPlain : Bool)
deriving DecidableEq, Inhabited, Repr

/-! ## Characters -/

def breakFollows : List Char → Bool
  | [] => true
  | c :: _ => isBreak c

def isOneOf (marks : String) (c : Char) : Bool := marks.toList.contains c

/-- Marks of flow collections. -/
def isFlowMark (c : Char) : Bool := isOneOf ",[]\x7b\x7d" c

def isNameChar (c : Char) : Bool := c.isAlphanum || c = '_' || c = '-'

/-- Whether three characters and a blank mark the border of a document. -/
def isBorder (mark : Char) (text : List Char) : Bool :=
  text.take 3 = [mark, mark, mark] && blankFollows (text.drop 3)

def isAnyBorder (text : List Char) : Bool := isBorder '-' text || isBorder '.' text

/-! ## Places in a text -/

/-- The rest of a text and where it begins. -/
structure Cursor where
  rest : List Char
  index : Nat
  line : Nat
  column : Nat
deriving Inhabited

namespace Cursor

/-- Skips a character that is no break. -/
def skip (c : Cursor) : Cursor :=
  { c with rest := c.rest.drop 1, index := c.index + 1, column := c.column + 1 }

/-- Skips a number of characters of the line. -/
def skipMany (c : Cursor) (n : Nat) : Cursor :=
  { c with rest := c.rest.drop n, index := c.index + n, column := c.column + n }

/-- Skips a break. -/
def skipBreak (c : Cursor) : Cursor :=
  { rest := c.rest.drop 1, index := c.index + 1, line := c.line + 1, column := 0 }

/-- Skips the characters at the start that belong to a class of characters of lines. -/
def skipWhile (p : Char → Bool) (c : Cursor) : Cursor :=
  c.skipMany (c.rest.takeWhile p).length

/-- Skips blanks and a comment, after which the line has to be over; and its break. -/
def skipLineEnd? (c : Cursor) : Option Cursor :=
  let c := c.skipWhile isBlank
  let c := if c.rest.head? = some '#' then c.skipWhile (!isBreak ·) else c
  if c.rest = [] then some c
  else if breakFollows c.rest then some c.skipBreak
  else none

end Cursor

/-! ## Scalars -/

/-- Blanks and breaks inside a scalar that await the next character. -/
structure Joint where
  blanks : List Char
  /-- Whether a line was ended. Blanks do not count then. -/
  broken : Bool
  first : List Char
  others : List Char
deriving Inhabited

namespace Joint

def none : Joint := ⟨[], false, [], []⟩

def blank (j : Joint) (c : Char) : Joint :=
  if j.broken then j else { j with blanks := j.blanks ++ [c] }

def lineBreak (j : Joint) (c : Char) : Joint :=
  if j.broken then { j with others := j.others ++ [c] } else ⟨[], true, [c], []⟩

/-- The text a joint stands for: a single break folds into a space, the first of several
goes. -/
def text (j : Joint) : List Char :=
  if !j.broken then j.blanks
  else if j.first = ['\n'] then (if j.others.isEmpty then [' '] else j.others)
  else j.first ++ j.others

end Joint

/-- Reads a plain scalar from a character that may begin one. On further lines it has to
stand at `indent` or to the right of it. Gives the joint at its end too. -/
def plainFrom (inFlow : Bool) (indent : Int) :
    (fuel : Nat) → (text : List Char) → Joint → Cursor → Option (List Char × Joint × Cursor)
  | 0, _, _, _ => none
  | fuel + 1, text, joint, cursor =>
    match cursor.rest with
    | [] => some (text, joint, cursor)
    | c :: rest =>
      if isBlank c then
        if joint.broken ∧ (cursor.column : Int) < indent ∧ c = '\t' then none
        else plainFrom inFlow indent fuel text (joint.blank c) cursor.skip
      else if isBreak c then plainFrom inFlow indent fuel text (joint.lineBreak c) cursor.skipBreak
      else if joint.broken ∧ !inFlow ∧ (cursor.column : Int) < indent then
        some (text, joint, cursor)
      else if cursor.column = 0 ∧ isAnyBorder cursor.rest then some (text, joint, cursor)
      else if c = '#' ∧ (joint.broken ∨ joint.blanks ≠ []) then some (text, joint, cursor)
      else if inFlow ∧ c = ':' ∧ rest.head?.any (isOneOf ",?[]\x7b\x7d") then none
      else if (c = ':' ∧ blankFollows rest) ∨ (inFlow ∧ isFlowMark c) then
        some (text, joint, cursor)
      else plainFrom inFlow indent fuel (text ++ joint.text ++ [c]) .none cursor.skip

/-- The character of an escape with a number of hexadecimal digits. -/
def hexEscape? (count : Nat) (cursor : Cursor) : Option (Char × Cursor) := do
  let digits := cursor.rest.take count
  if digits.length < count then none
  let n ← naturalIn? 16 digits
  if (0xD800 ≤ n ∧ n < 0xE000) ∨ n > 0x10FFFF then none
  pure (Char.ofNat n, cursor.skipMany count)

/-- The characters that single letters stand for after a backslash. -/
def escapes : List (Char × Char) := [
  ('0', '\x00'), ('a', '\x07'), ('b', '\x08'), ('t', '\t'), ('\t', '\t'), ('n', '\n'),
  ('v', '\x0b'), ('f', '\x0c'), ('r', '\r'), ('e', '\x1b'), (' ', ' '), ('"', '"'),
  ('/', '/'), ('\\', '\\'), ('N', '\u0085'), ('_', '\u00a0'), ('L', '\u2028'), ('P', '\u2029')]

/-- The character after a backslash. -/
def escape? (cursor : Cursor) : Option (Char × Cursor) :=
  match cursor.rest with
  | 'x' :: _ => hexEscape? 2 cursor.skip
  | 'u' :: _ => hexEscape? 4 cursor.skip
  | 'U' :: _ => hexEscape? 8 cursor.skip
  | c :: _ => (escapes.lookup c).map (·, cursor.skip)
  | [] => none

/-- Reads a scalar in quotes after its first quote. -/
def quotedFrom (double : Bool) :
    (fuel : Nat) → (text : List Char) → Joint → Cursor → Option (List Char × Cursor)
  | 0, _, _, _ => none
  | fuel + 1, text, joint, cursor =>
    match cursor.rest with
    | [] => none
    | c :: rest =>
      if isBlank c then quotedFrom double fuel text (joint.blank c) cursor.skip
      else if isBreak c then quotedFrom double fuel text (joint.lineBreak c) cursor.skipBreak
      else if cursor.column = 0 ∧ isAnyBorder cursor.rest then none
      else
        let text := text ++ joint.text
        if double ∧ c = '"' then some (text, cursor.skip)
        else if double ∧ c = '\\' then
          if rest ≠ [] ∧ breakFollows rest then
            quotedFrom double fuel text ⟨[], true, [], []⟩ cursor.skip.skipBreak
          else match escape? cursor.skip with
            | some (d, cursor) => quotedFrom double fuel (text ++ [d]) .none cursor
            | none => none
        else if !double ∧ c = '\'' then
          if rest.head? = some '\'' then
            quotedFrom double fuel (text ++ [c]) .none cursor.skip.skip
          else some (text, cursor.skip)
        else quotedFrom double fuel (text ++ [c]) .none cursor.skip

/-- Which breaks at the end of a block scalar stay. -/
inductive Chomping where
  | strip
  | clip
  | keep
deriving DecidableEq

/-- The header of a block scalar: its indentation, if given, and its chomping, in either
order. -/
def blockHeader? (cursor : Cursor) : Option (Option Nat × Chomping × Cursor) :=
  let chomping? : Char → Option Chomping := fun c =>
    if c = '+' then some .keep else if c = '-' then some .strip else none
  let digit? : Char → Option Nat := fun c => if c.isDigit then some (c.toNat - 48) else none
  let header : Option Nat × Chomping × Nat :=
    match cursor.rest with
    | c :: d :: _ =>
      match chomping? c, digit? c with
      | some chomping, _ =>
        match digit? d with
        | some n => (some n, chomping, 2)
        | none => (none, chomping, 1)
      | none, some n =>
        match chomping? d with
        | some chomping => (some n, chomping, 2)
        | none => (some n, .clip, 1)
      | none, none => (none, .clip, 0)
    | [c] =>
      match chomping? c, digit? c with
      | some chomping, _ => (none, chomping, 1)
      | none, some n => (some n, .clip, 1)
      | none, none => (none, .clip, 0)
    | [] => (none, .clip, 0)
  if header.1 = some 0 then none
  else ((cursor.skipMany header.2.2).skipLineEnd?).map fun cursor =>
    (header.1, header.2.1, cursor)

/-- Skips the indentation of the next line with text, and the empty lines before it. Gives
their breaks and the widest column met. An `indent` of zero is not known yet. -/
def skipEmptyLines (indent : Nat) :
    (fuel : Nat) → (widest : Nat) → (breaks : List Char) → Cursor →
      Option (Nat × List Char × Cursor)
  | 0, _, _, _ => none
  | fuel + 1, widest, breaks, cursor =>
    let isInside := indent = 0 || cursor.column < indent
    match cursor.rest with
    | [] => some (max widest cursor.column, breaks, cursor)
    | c :: _ =>
      if c = ' ' ∧ isInside then skipEmptyLines indent fuel widest breaks cursor.skip
      else if c = '\t' ∧ isInside then none
      else
        let widest := max widest cursor.column
        if isBreak c then skipEmptyLines indent fuel widest (breaks ++ [c]) cursor.skipBreak
        else some (widest, breaks, cursor)

/-- What has been read of a block scalar: its text, the break after its last line, the
breaks of empty lines after that, and whether the last line began with a blank. -/
structure BlockText where
  text : List Char
  lineBreak : List Char
  emptyLines : List Char
  beganBlank : Bool

namespace BlockText

/-- The text before a next line. When folding, a break between two lines that begin with no
blank goes, and is a space if no empty line stood between them. -/
def joined (b : BlockText) (folded beginsBlank : Bool) : List Char :=
  if folded ∧ b.lineBreak = ['\n'] ∧ !b.beganBlank ∧ !beginsBlank then
    b.text ++ (if b.emptyLines.isEmpty then [' '] else b.emptyLines)
  else b.text ++ b.lineBreak ++ b.emptyLines

def finish (b : BlockText) : Chomping → List Char
  | .strip => b.text
  | .clip => b.text ++ b.lineBreak
  | .keep => b.text ++ b.lineBreak ++ b.emptyLines

end BlockText

/-- Reads the lines of a block scalar that stand at its indentation. -/
def blockLines (folded : Bool) (indent : Nat) :
    (fuel : Nat) → BlockText → Cursor → Option (BlockText × Cursor)
  | 0, _, _ => none
  | fuel + 1, b, cursor =>
    match cursor.rest with
    | [] => some (b, cursor)
    | c :: _ =>
      if cursor.column ≠ indent then some (b, cursor)
      else
        let line := cursor.rest.takeWhile (!isBreak ·)
        let after := cursor.skipMany line.length
        let text := b.joined folded (isBlank c) ++ line
        match after.rest with
        | [] => some (⟨text, [], [], isBlank c⟩, after)
        | d :: rest => do
          let (_, empty, cursor) ← skipEmptyLines indent (rest.length + 1) 0 [] after.skipBreak
          blockLines folded indent fuel ⟨text, [d], empty, isBlank c⟩ cursor

/-- Reads a block scalar after its mark, inside a block at column `parent`. -/
def blockScalar? (folded : Bool) (parent : Int) (cursor : Cursor) :
    Option (List Char × Cursor) := do
  let (given, chomping, cursor) ← blockHeader? cursor
  let known := match given with
    | some n => if parent ≥ 0 then parent.toNat + n else n
    | none => 0
  let fuel := cursor.rest.length + 1
  let (widest, breaks, cursor) ← skipEmptyLines known fuel 0 [] cursor
  let indent := if known = 0 then max (max widest (parent + 1).toNat) 1 else known
  let (b, cursor) ← blockLines folded indent fuel ⟨[], [], breaks, false⟩ cursor
  pure (b.finish chomping, cursor)

/-! ## Names and tags -/

/-- The name of an anchor. -/
def anchorName? (cursor : Cursor) : Option (String × Cursor) :=
  let name := cursor.rest.takeWhile isNameChar
  let after := cursor.skipMany name.length
  if name ≠ [] ∧ (blankFollows after.rest ∨ after.rest.head?.any (isOneOf "?:,]\x7d%@`")) then
    some (String.ofList name, after)
  else none

/-- The characters of a tag; commas and brackets only where `isWide` holds. An escape stands
for a byte. -/
def uriChars (isWide : Bool) : List Char → List Char
  | '%' :: a :: b :: rest =>
    match naturalIn? 16 [a, b] with
    | some n => if n < 128 then '%' :: a :: b :: uriChars isWide rest else []
    | none => []
  | c :: rest =>
    if isNameChar c || isOneOf ";/?:@&=+$.!~*'()" c || (isWide && isOneOf ",[]" c) then
      c :: uriChars isWide rest
    else []
  | [] => []

/-- The text that tag characters stand for. -/
def uriText : List Char → List Char
  | '%' :: a :: b :: rest => Char.ofNat ((naturalIn? 16 [a, b]).getD 0) :: uriText rest
  | c :: rest => c :: uriText rest
  | [] => []

/-- A handle: an exclamation mark, and a name between two of them. -/
def tagHandle? : List Char → Option (List Char)
  | '!' :: rest =>
    let name := rest.takeWhile isNameChar
    if (rest.drop name.length).head? = some '!' then some ('!' :: name ++ ['!']) else none
  | _ => none

/-- The handle and the rest of the tag at an exclamation mark. -/
def tag? (inFlow : Bool) (cursor : Cursor) : Option (Token × Cursor) := do
  let (token, after) ← match cursor.rest with
    | '!' :: '<' :: rest =>
      let uri := uriChars true rest
      let after := cursor.skipMany (uri.length + 2)
      if uri ≠ [] ∧ after.rest.head? = some '>' then
        some (Token.tag "" (String.ofList (uriText uri)), after.skip)
      else none
    | text =>
      match tagHandle? text with
      | some handle =>
        let uri := uriChars false (text.drop handle.length)
        if uri = [] then none
        else some (Token.tag (String.ofList handle) (String.ofList (uriText uri)),
          cursor.skipMany (handle.length + uri.length))
      | none =>
        let uri := uriChars false (text.drop 1)
        let token := if uri = [] then Token.tag "" "!"
          else Token.tag "!" (String.ofList (uriText uri))
        some (token, cursor.skipMany (1 + uri.length))
  if blankFollows after.rest ∨ (inFlow ∧ after.rest.head? = some ',') then
    some (token, after)
  else none

/-- A directive after its percent sign. -/
def directive? (cursor : Cursor) : Option (Token × Cursor) := do
  let name := cursor.rest.takeWhile isNameChar
  let after := (cursor.skipMany name.length).skipWhile isBlank
  if !blankFollows (cursor.rest.drop name.length) then none
  else if name = "YAML".toList then
    let major := after.rest.takeWhile Char.isDigit
    let point := after.skipMany major.length
    let minor := (point.rest.drop 1).takeWhile Char.isDigit
    if major = [] ∨ minor = [] ∨ point.rest.head? ≠ some '.' then none
    else
      let cursor ← (point.skipMany (minor.length + 1)).skipLineEnd?
      some (.versionDirective (digitsValue major) (digitsValue minor), cursor)
  else if name = "TAG".toList then
    let handle := match tagHandle? after.rest with
      | some handle => handle
      | none => ['!']
    let next := after.skipMany handle.length
    let lead := uriChars true (next.skipWhile isBlank).rest
    let last := (next.skipWhile isBlank).skipMany lead.length
    if after.rest.head? ≠ some '!' ∨ !next.rest.head?.any isBlank ∨ lead = []
      ∨ !blankFollows last.rest then none
    else
      let cursor ← last.skipLineEnd?
      some (.tagDirective (String.ofList handle) (String.ofList (uriText lead)), cursor)
  else none

/-! ## Scanning -/

/-- Where a key may have begun. -/
structure KeyPlace where
  /-- How many tokens precede it. -/
  tokens : Nat
  /-- Whether nothing but a key may stand there. -/
  isRequired : Bool
  index : Nat
  line : Nat
  column : Nat

structure Scan where
  cursor : Cursor
  /-- The tokens so far, the last one first. -/
  tokens : List Token
  /-- The column of the innermost block, -1 outside of all, and those around it. -/
  indent : Int
  indents : List Int
  /-- Whether a key may begin at the next token. -/
  keyAllowed : Bool
  /-- The place of a possible key outside of flow collections, and in each of those the
  next token stands in, the innermost first. -/
  keyPlace : Option KeyPlace
  outerPlaces : List (Option KeyPlace)

namespace Scan

def inFlow (s : Scan) : Bool := !s.outerPlaces.isEmpty

def emit (s : Scan) (token : Token) : Scan := { s with tokens := token :: s.tokens }

/-- Puts a token where `count` tokens precede it. -/
def emitAt (s : Scan) (count : Nat) (token : Token) : Scan :=
  let after := s.tokens.length - count
  { s with tokens := s.tokens.take after ++ token :: s.tokens.drop after }

/-- Opens a block at a column to the right of the one around it. -/
def openBlock (s : Scan) (column count : Nat) (token : Token) : Scan :=
  if !s.inFlow && s.indent < column then
    { s.emitAt count token with indent := column, indents := s.indent :: s.indents }
  else s

/-- Closes the blocks to the right of a column. -/
def closeBlocks (s : Scan) (column : Int) : Scan :=
  if s.inFlow then s
  else
    let inner := s.indent :: s.indents
    let closed := inner.takeWhile (column < ·)
    { s with
      tokens := List.replicate closed.length .blockEnd ++ s.tokens
      indent := (inner.drop closed.length).headD (-1)
      indents := inner.drop (closed.length + 1) }

/-- Gives up the place of a possible key. -/
def dropKey (s : Scan) : Option Scan :=
  match s.keyPlace with
  | some place => if place.isRequired then none else some { s with keyPlace := none }
  | none => some s

/-- Keeps the place of a possible key. -/
def keepKey (s : Scan) : Option Scan :=
  if s.keyAllowed then do
    let s ← s.dropKey
    let c := s.cursor
    let isRequired := !s.inFlow && s.indent = c.column
    some { s with keyPlace := some ⟨s.tokens.length, isRequired, c.index, c.line, c.column⟩ }
  else some s

/-- The most characters a key may have. -/
def maxKeyLength : Nat := 1024

/-- Skips what stands between tokens. Tabs may not take part in the indentation. -/
def skipGap : (fuel : Nat) → Scan → Scan
  | 0, s => s
  | fuel + 1, s =>
    match s.cursor.rest with
    | [] => s
    | c :: _ =>
      if isBreak c then
        skipGap fuel { s with
          cursor := s.cursor.skipBreak
          keyAllowed := s.keyAllowed || !s.inFlow }
      else if c = '#' then
        skipGap fuel { s with cursor := s.cursor.skipWhile (!isBreak ·) }
      else if c = ' ' ∨ (c = '\t' ∧ (s.inFlow ∨ !s.keyAllowed))
          ∨ (c = '\ufeff' ∧ s.cursor.column = 0) then
        skipGap fuel { s with cursor := s.cursor.skip }
      else s

/-- Takes a mark of a number of characters as a token. -/
def take (s : Scan) (token : Token) (width : Nat) : Scan :=
  { s with cursor := s.cursor.skipMany width }.emit token

def openFlow (s : Scan) (token : Token) : Option Scan := do
  let s ← s.keepKey
  pure { s.take token 1 with
    keyAllowed := true
    keyPlace := none
    outerPlaces := s.keyPlace :: s.outerPlaces }

def closeFlow (s : Scan) (token : Token) : Option Scan := do
  let s ← s.dropKey
  let s := { s with
    keyAllowed := false
    keyPlace := s.outerPlaces.headD none
    outerPlaces := s.outerPlaces.drop 1 }
  pure (s.take token 1)

def border (s : Scan) (token : Token) : Option Scan := do
  let s ← (s.closeBlocks (-1)).dropKey
  pure ({ s with keyAllowed := false }.take token 3)

def directive (s : Scan) : Option Scan := do
  let s ← (s.closeBlocks (-1)).dropKey
  let (token, cursor) ← directive? s.cursor.skip
  pure ({ s with keyAllowed := false, cursor := cursor }.emit token)

/-- Takes a dash or a question mark, which open a block where there is none. -/
def takeMark (s : Scan) (start token : Token) (allowsKey : Bool) : Option Scan := do
  if !s.inFlow && !s.keyAllowed then none
  else
    let s := s.openBlock s.cursor.column s.tokens.length start
    let s ← s.dropKey
    pure ({ s with keyAllowed := allowsKey }.take token 1)

/-- The place of the key that a colon follows, if there is one: on the same line, and not
too far away. Fails where nothing but a key may stand. -/
def keyBefore? (s : Scan) : Option (Option KeyPlace) :=
  match s.keyPlace with
  | none => some none
  | some place =>
    if place.line < s.cursor.line ∨ place.index + maxKeyLength < s.cursor.index then
      if place.isRequired then none else some none
    else some (some place)

/-- Takes a colon. -/
def takeColon (s : Scan) : Option Scan := do
  match ← s.keyBefore? with
  | some place =>
    let s := (s.emitAt place.tokens .key).openBlock place.column place.tokens .blockMappingStart
    pure ({ s with keyPlace := none, keyAllowed := false }.take .value 1)
  | none =>
    if !s.inFlow && !s.keyAllowed then none
    else
      let s := s.openBlock s.cursor.column s.tokens.length .blockMappingStart
      pure ({ s with keyPlace := none, keyAllowed := !s.inFlow }.take .value 1)

/-- Takes what stands at the front of a node or is one, and may be a key. -/
def takeKey (s : Scan) (read : Cursor → Option (Token × Cursor)) : Option Scan := do
  let s ← s.keepKey
  let (token, cursor) ← read s.cursor
  pure ({ s with keyAllowed := false, cursor := cursor }.emit token)

def takeQuoted (s : Scan) (double : Bool) : Option Scan :=
  s.takeKey fun cursor => do
    let (text, cursor) ← quotedFrom double (cursor.rest.length + 1) [] .none cursor.skip
    pure (.scalar (String.ofList text) false, cursor)

/-- Takes a plain scalar. Lines that end after it make room for a key. -/
def takePlain (s : Scan) : Option Scan := do
  let s ← s.keepKey
  let (text, joint, cursor) ←
    plainFrom s.inFlow (s.indent + 1) (s.cursor.rest.length + 1) [] .none s.cursor
  pure ({ s with keyAllowed := joint.broken, cursor := cursor }.emit
    (.scalar (String.ofList text) true))

def takeBlockScalar (s : Scan) (folded : Bool) : Option Scan := do
  let s ← s.dropKey
  let (text, cursor) ← blockScalar? folded s.indent s.cursor.skip
  pure ({ s with keyAllowed := true, cursor := cursor }.emit (.scalar (String.ofList text) false))

/-- Whether a plain scalar may begin with a character. -/
def beginsPlain (inFlow : Bool) (c : Char) (rest : List Char) : Bool :=
  if c = '-' then !rest.head?.any isBlank
  else if c = '?' || c = ':' then !inFlow && !blankFollows rest
  else !isOneOf ",[]\x7b\x7d#&*!|>'\"%@`" c && !isBlank c

/-- Takes the next token after a gap; none at all if no token begins so. -/
def next? (s : Scan) (c : Char) (rest : List Char) : Option Scan :=
  let s := s.closeBlocks s.cursor.column
  let atStart := s.cursor.column = 0
  if atStart && c = '%' then s.directive
  else if atStart && isBorder '-' (c :: rest) then s.border .documentStart
  else if atStart && isBorder '.' (c :: rest) then s.border .documentEnd
  else if c = '[' then s.openFlow .flowSequenceStart
  else if c = '\x7b' then s.openFlow .flowMappingStart
  else if c = ']' then s.closeFlow .flowSequenceEnd
  else if c = '\x7d' then s.closeFlow .flowMappingEnd
  else if c = ',' then do
    let s ← s.dropKey
    pure ({ s with keyAllowed := true }.take .flowEntry 1)
  else if c = '-' && blankFollows rest then s.takeMark .blockSequenceStart .blockEntry true
  else if c = '?' && (s.inFlow || blankFollows rest) then
    s.takeMark .blockMappingStart .key (!s.inFlow)
  else if c = ':' && (s.inFlow || blankFollows rest) then s.takeColon
  else if c = '*' then
    s.takeKey fun cursor => (anchorName? cursor.skip).map fun (name, c) => (.reference name, c)
  else if c = '&' then
    s.takeKey fun cursor => (anchorName? cursor.skip).map fun (name, c) => (.anchor name, c)
  else if c = '!' then s.takeKey (tag? s.inFlow)
  else if c = '|' && !s.inFlow then s.takeBlockScalar false
  else if c = '>' && !s.inFlow then s.takeBlockScalar true
  else if c = '\'' then s.takeQuoted false
  else if c = '"' then s.takeQuoted true
  else if beginsPlain s.inFlow c rest then s.takePlain
  else none

/-- Scans to the end of the text. Every token takes a character at least. -/
def run : (fuel : Nat) → Scan → Option Scan
  | 0, _ => none
  | fuel + 1, s =>
    let s := s.skipGap (s.cursor.rest.length + 1)
    match s.cursor.rest with
    | [] => (s.closeBlocks (-1)).dropKey
    | c :: rest => do run fuel (← s.next? c rest)

/-- The characters a text may hold. -/
def isAllowed (c : Char) : Bool :=
  let n := c.toNat
  n = 9 || n = 10 || n = 13 || (0x20 ≤ n && n ≤ 0x7e) || n = 0x85 || (0xa0 ≤ n && n ≤ 0xfffd)
    || 0x10000 ≤ n

/-- Writes the usual line breaks as line feeds. -/
def unifyBreaks : List Char → List Char
  | '\r' :: '\n' :: rest => '\n' :: unifyBreaks rest
  | '\r' :: rest => '\n' :: unifyBreaks rest
  | '\u0085' :: rest => '\n' :: unifyBreaks rest
  | c :: rest => c :: unifyBreaks rest
  | [] => []

/-- The tokens of a text, if it can be told apart into tokens. -/
def tokens? (text : String) : Option (List Token) := do
  if !text.toList.all isAllowed then none
  let chars := unifyBreaks text.toList
  let s ← run (chars.length + 1) ⟨⟨chars, 0, 0, 0⟩, [], -1, [], true, none, []⟩
  pure s.tokens.reverse

end Scan

end Keyspace.Yaml
