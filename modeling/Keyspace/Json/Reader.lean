import Keyspace.Json.Basic

/-!
# Reading JSON text

The reader takes the whole text or nothing. Containers nest at most 127 deep. Of members
under one key the last wins. A number with a point or an exponent, a whole number outside
the 64-bit ranges, and `-0` are doubles; their digits are taken while they fit 64 bits and
are then scaled by a power of ten in double arithmetic.
-/
namespace Keyspace.Json

/-- The JSON blanks. -/
def isBlank (c : Char) : Bool := c = ' ' || c = '\n' || c = '\t' || c = '\r'

def skipBlanks (text : List Char) : List Char := text.dropWhile isBlank

def hexValue? (c : Char) : Option Nat :=
  if '0' ≤ c ∧ c ≤ '9' then some (c.toNat - 48)
  else if 'a' ≤ c ∧ c ≤ 'f' then some (c.toNat - 87)
  else if 'A' ≤ c ∧ c ≤ 'F' then some (c.toNat - 55)
  else none

/-- Four hexadecimal digits. -/
def readHex4 : List Char → Option (Nat × List Char)
  | a :: b :: c :: d :: rest => do
    let w ← hexValue? a
    let x ← hexValue? b
    let y ← hexValue? c
    let z ← hexValue? d
    pure (((w * 16 + x) * 16 + y) * 16 + z, rest)
  | _ => none

/-- The character after `\u`: one unit of 16 bits, or a surrogate pair. -/
def readUnicodeEscape (text : List Char) : Option (Char × List Char) := do
  let (unit, rest) ← readHex4 text
  if 0xD800 ≤ unit ∧ unit < 0xDC00 then
    match rest with
    | '\\' :: 'u' :: rest =>
      let (low, rest) ← readHex4 rest
      if 0xDC00 ≤ low ∧ low < 0xE000 then
        pure (Char.ofNat (0x10000 + (unit - 0xD800) * 0x400 + (low - 0xDC00)), rest)
      else none
    | _ => none
  else if 0xDC00 ≤ unit ∧ unit < 0xE000 then none
  else pure (Char.ofNat unit, rest)

/-- The character after a backslash. -/
def readEscape : List Char → Option (Char × List Char)
  | '"' :: rest => some ('"', rest)
  | '\\' :: rest => some ('\\', rest)
  | '/' :: rest => some ('/', rest)
  | 'b' :: rest => some ('\x08', rest)
  | 'f' :: rest => some ('\x0c', rest)
  | 'n' :: rest => some ('\n', rest)
  | 'r' :: rest => some ('\r', rest)
  | 't' :: rest => some ('\t', rest)
  | 'u' :: rest => readUnicodeEscape rest
  | _ => none

/-- The characters of a string after its opening quote. -/
def readStringBody : (fuel : Nat) → List Char → Except String (List Char × List Char)
  | 0, _ => throw "unfinished string"
  | fuel + 1, text =>
    match text with
    | [] => throw "unfinished string"
    | '"' :: rest => pure ([], rest)
    | '\\' :: rest =>
      match readEscape rest with
      | none => throw "invalid escape"
      | some (c, rest) => do
        let (body, rest) ← readStringBody fuel rest
        pure (c :: body, rest)
    | c :: rest =>
      if c.toNat < 0x20 then throw "control character in a string"
      else do
        let (body, rest) ← readStringBody fuel rest
        pure (c :: body, rest)

def readString (text : List Char) : Except String (String × List Char) := do
  let (body, rest) ← readStringBody (text.length + 1) text
  pure (String.ofList body, rest)

/-- Digits of a number taken so far: their value below 2 ^ 64, the power of ten still to
multiply by, and whether a digit no longer fitted. -/
structure Significand where
  value : Nat
  exponent : Int
  full : Bool

namespace Significand

/-- Takes a digit of the whole part. Once full, a digit only counts as a power of ten. -/
def wholeDigit (s : Significand) (c : Char) : Significand :=
  let next := s.value * 10 + (c.toNat - 48)
  if s.full ∨ next > uint64Max then ⟨s.value, s.exponent + 1, true⟩
  else ⟨next, s.exponent, false⟩

/-- Takes a digit of the fraction. A digit that does not fit is dropped, and all after it. -/
def fractionDigit (dropping : Bool) (s : Significand) (c : Char) : Bool × Significand :=
  let next := s.value * 10 + (c.toNat - 48)
  if dropping ∨ next > uint64Max then (true, s)
  else (false, ⟨next, s.exponent - 1, s.full⟩)

/-- The double `value · 10 ^ exponent`; none when it is too large. -/
def toDouble? (s : Significand) (negative : Bool) : Option Double :=
  let power (k : Nat) : Double := Double.ofRatio false (tenTo k) 1
  let rec scale : Nat → Double → Int → Option Double
    | 0, x, _ => some x
    | fuel + 1, x, e =>
      if x.isZero then some x
      else if e > 308 then none
      else if e ≥ 0 then
        let y := x.mul (power e.toNat)
        if y.isFinite then some y else none
      else if e ≥ -308 then some (x.div (power (-e).toNat))
      else scale fuel (x.div (power 308)) (e + 308)
  (scale 5 (Double.ofNat s.value) s.exponent).map fun x => if negative then x.neg else x

end Significand

/-- The number after its sign. -/
def readNumber (negative : Bool) (text : List Char) : Except String (Json × List Char) := do
  let (whole, rest) := spanDigits text
  if whole = [] then throw "digit expected"
  if whole.head? = some '0' ∧ whole.length > 1 then throw "leading zero"
  let s := whole.foldl Significand.wholeDigit ⟨0, 0, false⟩
  let (s, fraction, rest) ← match rest with
    | '.' :: rest =>
      let (digits, rest) := spanDigits rest
      if digits = [] then throw "digit expected after the point"
      let taken := digits.foldl (fun p c => p.2.fractionDigit p.1 c) (false, s)
      pure (taken.2, true, rest)
    | rest => pure (s, false, rest)
  let (shift, scaled, rest) ← match rest with
    | c :: rest =>
      if c = 'e' ∨ c = 'E' then
        let (down, rest) := readSign rest
        let (digits, rest) := spanDigits rest
        if digits = [] then throw "digit expected in the exponent"
        let n : Int := digitsValue digits
        pure (if down then -n else n, true, rest)
      else pure ((0 : Int), false, c :: rest)
    | [] => pure ((0 : Int), false, [])
  let asDouble : Except String Json :=
    match { s with exponent := s.exponent + shift }.toDouble? negative with
    | some x => pure (float x)
    | none => throw "number out of range"
  if fraction ∨ scaled ∨ s.full then pure (← asDouble, rest)
  else if negative then
    if s.value = 0 ∨ s.value > int64Min.natAbs then pure (← asDouble, rest)
    else pure (int (-(s.value : Int)), rest)
  else pure (int s.value, rest)

/-- Takes a fixed word off the text. -/
def expectWord : List Char → List Char → Option (List Char)
  | [], text => some text
  | c :: word, d :: text => if c = d then expectWord word text else none
  | _ :: _, [] => none

mutual

/-- A value, `depth` containers deep at most. -/
def readValue : (fuel : Nat) → (depth : Nat) → List Char → Except String (Json × List Char)
  | 0, _, _ => throw "nesting too deep"
  | fuel + 1, depth, text =>
    match skipBlanks text with
    | [] => throw "value expected"
    | '"' :: rest => do
      let (s, rest) ← readString rest
      pure (str s, rest)
    | '[' :: rest =>
      if depth = 0 then throw "nesting too deep"
      else match skipBlanks rest with
        | ']' :: rest => pure (arr [], rest)
        | rest => do
          let (elements, rest) ← readElements fuel (depth - 1) rest
          pure (arr elements, rest)
    | '\x7b' :: rest =>
      if depth = 0 then throw "nesting too deep"
      else match skipBlanks rest with
        | '\x7d' :: rest => pure (obj [], rest)
        | rest => do
          let (members, rest) ← readMembers fuel (depth - 1) rest
          pure (object members, rest)
    | '-' :: rest => readNumber true rest
    | 'n' :: rest => word "ull".toList null rest
    | 't' :: rest => word "rue".toList (bool true) rest
    | 'f' :: rest => word "alse".toList (bool false) rest
    | c :: rest => if c.isDigit then readNumber false (c :: rest) else throw "value expected"
where
  word (expected : List Char) (value : Json) (rest : List Char) : Except String (Json × List Char) :=
    match expectWord expected rest with
    | some rest => pure (value, rest)
    | none => throw "value expected"

/-- The elements of an array, to its closing bracket; at least one. -/
def readElements : (fuel : Nat) → (depth : Nat) → List Char → Except String (List Json × List Char)
  | 0, _, _ => throw "nesting too deep"
  | fuel + 1, depth, text => do
    let (element, rest) ← readValue fuel depth text
    match skipBlanks rest with
    | ',' :: rest => do
      let (elements, rest) ← readElements fuel depth rest
      pure (element :: elements, rest)
    | ']' :: rest => pure ([element], rest)
    | _ => throw "comma or bracket expected"

/-- The members of an object, to its closing brace; at least one. -/
def readMembers : (fuel : Nat) → (depth : Nat) → List Char → Except String (List (String × Json) × List Char)
  | 0, _, _ => throw "nesting too deep"
  | fuel + 1, depth, text =>
    match skipBlanks text with
    | '"' :: rest => do
      let (key, rest) ← readString rest
      match skipBlanks rest with
      | ':' :: rest => do
        let (value, rest) ← readValue fuel depth rest
        match skipBlanks rest with
        | ',' :: rest => do
          let (members, rest) ← readMembers fuel depth rest
          pure ((key, value) :: members, rest)
        | '\x7d' :: rest => pure ([(key, value)], rest)
        | _ => throw "comma or brace expected"
      | _ => throw "colon expected"
    | _ => throw "key expected"

end

/-- Reads a text that holds one value and blanks around it. -/
def parse (text : String) : Except String Json := do
  let chars := text.toList
  let (value, rest) ← readValue (2 * chars.length + 2) 127 chars
  if skipBlanks rest = [] then pure value else throw "text after the value"

end Keyspace.Json
