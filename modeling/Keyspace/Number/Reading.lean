import Keyspace.Number.Double

/-!
# Numbers read from text

Integers are decimal, with an optional sign. Doubles are decimal with an optional fraction
and exponent, or a name of an infinity or of "not a number" in any case, and are rounded
to nearest.
-/
namespace Keyspace

/-- The value of a run of ASCII digits, most significant first. -/
def digitsValue (digits : List Char) : Nat :=
  digits.foldl (fun n c => n * 10 + (c.toNat - 48)) 0

/-- The digits at the start of a text, and the rest. -/
def spanDigits (text : List Char) : List Char × List Char := text.span Char.isDigit

/-- The natural number a non-empty run of digits stands for. -/
def readNat? (text : List Char) : Option Nat :=
  if text ≠ [] ∧ text.all Char.isDigit then some (digitsValue text) else none

/-- Splits off a sign; true stands for a minus. -/
def readSign : List Char → Bool × List Char
  | '-' :: rest => (true, rest)
  | '+' :: rest => (false, rest)
  | text => (false, text)

def int64Min : Int := -9223372036854775808

def int64Max : Int := 9223372036854775807

def uint64Max : Nat := 18446744073709551615

def uint32Max : Nat := 4294967295

def fitsInt64 (n : Int) : Bool := int64Min ≤ n && n ≤ int64Max

/-- Reads a signed integer of 64 bits. -/
def readInt64? (text : String) : Option Int := do
  let (negative, digits) := readSign text.toList
  let n ← readNat? digits
  let value : Int := if negative then -(n : Int) else n
  if fitsInt64 value then some value else none

namespace Double

/-- `digits · 10 ^ exponent`, rounded to nearest. The exponent is cut where the answer can
only be zero or an infinity. -/
def ofDecimal (negative : Bool) (digits : List Char) (exponent : Int) : Double :=
  let m := digitsValue digits
  if m = 0 then zero negative
  else if exponent > 400 then infinity negative
  else if exponent + digits.length < -400 then zero negative
  else if exponent ≥ 0 then ofRatio negative (m * tenTo exponent.toNat) 1
  else ofRatio negative m (tenTo (-exponent).toNat)

/-- The exponent after `e` or `E`, if the text has one; none if it is malformed. -/
def readExponent? : List Char → Option Int
  | [] => some 0
  | c :: rest =>
    if c = 'e' ∨ c = 'E' then
      let (negative, digits) := readSign rest
      (readNat? digits).map fun n => if negative then -(n : Int) else n
    else none

/-- Reads a number without sign: digits with an optional point among or around them. -/
def readUnsigned? (negative : Bool) (text : List Char) : Option Double :=
  let (whole, afterWhole) := spanDigits text
  let (fraction, afterFraction) := match afterWhole with
    | '.' :: rest => spanDigits rest
    | rest => ([], rest)
  if whole = [] ∧ fraction = [] then none
  else (readExponent? afterFraction).map fun e =>
    ofDecimal negative (whole ++ fraction) (e - fraction.length)

/-- Reads a double. -/
def read? (text : String) : Option Double :=
  let (negative, body) := readSign text.toList
  let name := String.ofList (body.map Char.toLower)
  if name = "inf" ∨ name = "infinity" then some (infinity negative)
  else if name = "nan" then some (if negative then neg nan else nan)
  else readUnsigned? negative body

end Double

end Keyspace
