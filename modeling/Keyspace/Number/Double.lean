import Keyspace.Number.Power

/-!
# Doubles

A double is its 64 bits. `magnitude` reads a finite one as `m · 2 ^ q`, exactly, and
`ofRatio` rounds a quotient of natural numbers to the nearest double, a tie going to the
even neighbour. Both are plain arithmetic on natural numbers.
-/
namespace Keyspace

/-- A number of the binary64 format, told apart by its bits. -/
structure Double where
  bits : UInt64
deriving DecidableEq, Inhabited, Repr

namespace Double

def isNegative (x : Double) : Bool := x.bits >>> 63 != 0

/-- The eleven exponent bits. -/
def exponentField (x : Double) : Nat := (x.bits.toNat / twoTo 52) % twoTo 11

/-- The fifty-two fraction bits. -/
def fractionField (x : Double) : Nat := x.bits.toNat % twoTo 52

def isFinite (x : Double) : Bool := x.exponentField != 2047

def isNaN (x : Double) : Bool := x.exponentField == 2047 && x.fractionField != 0

/-- The pair `(m, q)` with `|x| = m · 2 ^ q`, for a finite `x`. -/
def magnitude (x : Double) : Nat × Int :=
  if x.exponentField = 0 then (x.fractionField, -1074)
  else (twoTo 52 + x.fractionField, (x.exponentField : Int) - 1075)

def isZero (x : Double) : Bool := x.exponentField = 0 && x.fractionField = 0

def ofFields (negative : Bool) (exponent fraction : Nat) : Double :=
  ⟨UInt64.ofNat ((if negative then twoTo 63 else 0) + exponent * twoTo 52 + fraction)⟩

def infinity (negative : Bool) : Double := ofFields negative 2047 0

def nan : Double := ofFields false 2047 (twoTo 51)

def zero (negative : Bool) : Double := ofFields negative 0 0

/-- The quotient rounded to the nearest natural number, a tie to the even one. -/
def roundQuotient (num den : Nat) : Nat :=
  let q := num / den
  let twice := 2 * (num % den)
  if twice > den || (twice == den && q % 2 == 1) then q + 1 else q

/-- The double nearest to `num / den`, a tie going to the even fraction; beyond the
largest finite one it is the infinity. -/
def ofRatio (negative : Bool) (num den : Nat) : Double :=
  if num = 0 then zero negative
  else
    -- The exponent `e` with 2 ^ 52 ≤ num / den / 2 ^ e < 2 ^ 53, up to one.
    let guess : Int := (Nat.log2 num : Int) - (Nat.log2 den : Int) - 52
    let scaled (e : Int) : Nat × Nat :=
      if e < 0 then (num * twoTo e.natAbs, den) else (num, den * twoTo e.natAbs)
    let fits (e : Int) : Bool := (scaled e).1 / (scaled e).2 ≥ twoTo 52
    let e := max (if fits guess then guess else guess - 1) (-1074)
    let (n, d) := scaled e
    let m := roundQuotient n d
    -- Rounding up can carry into the next binade; the field sum below then carries too.
    let biased := (e + 1074).toNat * twoTo 52 + m
    if biased ≥ 2047 * twoTo 52 then infinity negative
    else ⟨UInt64.ofNat ((if negative then twoTo 63 else 0) + biased)⟩

def ofNat (n : Nat) : Double := ofRatio false n 1

def ofInt (n : Int) : Double := ofRatio (n < 0) n.natAbs 1

/-- The sum, rounded to nearest. -/
def add (x y : Double) : Double := ⟨(Float.ofBits x.bits + Float.ofBits y.bits).toBits⟩

def mul (x y : Double) : Double := ⟨(Float.ofBits x.bits * Float.ofBits y.bits).toBits⟩

def div (x y : Double) : Double := ⟨(Float.ofBits x.bits / Float.ofBits y.bits).toBits⟩

def neg (x : Double) : Double := ⟨x.bits ^^^ ((1 : UInt64) <<< 63)⟩

/-- The nearest whole number of a finite double, a half going away from zero. -/
def round? (x : Double) : Option Int :=
  if x.isFinite then
    let (m, q) := x.magnitude
    let rounded := if 0 ≤ q then m * twoTo q.toNat
      else (2 * m + twoTo (-q).toNat) / (2 * twoTo (-q).toNat)
    some (if x.isNegative then -(rounded : Int) else rounded)
  else none

end Double

end Keyspace
