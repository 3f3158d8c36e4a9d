import Keyspace.Number.Double

/-!
# The shortest decimal of a double

`shortest` finds the fewest decimal digits that read back to the same double and, of the
decimals with that many digits, the one nearest to it. The search is exact: a grid of
`n` digits is tried for `n = 1, 2, …, 17`, and on each grid only the two neighbours of the
value can be the nearest. How the digits are laid out is a `NumberForm`.
-/
namespace Keyspace

/-- Which of two equally near neighbours is taken. -/
inductive TieRule where
  | toEven
  | up
deriving DecidableEq, Repr

/-- The natural number `digits` times a power of ten. -/
structure Decimal where
  digits : Nat
  exponent : Int
deriving DecidableEq, Repr

namespace Double

/-- `x / 10 ^ g` as a fraction, for `x = m · 2 ^ q`: the factor of `m`, and the divisor. -/
def gridScale (q g : Int) : Nat × Nat :=
  (twoTo q.toNat * tenTo (-g).toNat, twoTo (-q).toNat * tenTo g.toNat)

/-- Whether `c · 10 ^ g` lies in the interval that rounds to `x`; its ends do when the
fraction is even. -/
def readsBack (x : Double) (g : Int) (c : Nat) : Bool :=
  let (m, q) := x.magnitude
  let (factor, divisor) := gridScale q g
  let below := if x.fractionField = 0 && x.exponentField > 1 then 1 else 2
  let low := (4 * m - below) * factor
  let high := (4 * m + 2) * factor
  let point := 4 * c * divisor
  if m % 2 = 0 then low ≤ point && point ≤ high else low < point && point < high

/-- The decimal on the grid `10 ^ g` that reads back and is nearest, if one reads back. -/
def onGrid? (tie : TieRule) (x : Double) (g : Int) : Option Decimal :=
  let (m, q) := x.magnitude
  let (factor, divisor) := gridScale q g
  let c := m * factor / divisor
  let twice := 2 * (m * factor % divisor)
  let upper : Bool :=
    if twice = divisor then (match tie with | .toEven => c % 2 == 1 | .up => true)
    else divisor < twice
  match x.readsBack g c, x.readsBack g (c + 1) with
  | true, true => some ⟨if upper then c + 1 else c, g⟩
  | true, false => some ⟨c, g⟩
  | false, true => some ⟨c + 1, g⟩
  | false, false => none

/-- The position of the decimal point: `10 ^ (k - 1) ≤ |x| < 10 ^ k`, for `x` not zero. -/
def pointPosition (x : Double) : Int :=
  let (m, q) := x.magnitude
  let guess := Int.fdiv (((Nat.log2 m : Int) + q) * 30103) 100000
  let (factor, divisor) := gridScale q (guess + 1)
  if m * factor ≥ divisor then guess + 2 else guess + 1

/-- Drops trailing zeros from the digits; `fuel` bounds their number. -/
def stripZeros : Nat → Decimal → Decimal
  | 0, d => d
  | fuel + 1, d =>
    if d.digits ≠ 0 ∧ d.digits % 10 = 0 then stripZeros fuel ⟨d.digits / 10, d.exponent + 1⟩
    else d

/-- The fewest digits that read back, of a finite double other than zero. -/
def shortest (tie : TieRule) (x : Double) : Decimal :=
  let k := x.pointPosition
  let found := ((List.range 17).findSome? fun n => x.onGrid? tie (k - (n + 1 : Nat))).getD ⟨0, 0⟩
  stripZeros 20 found

end Double

/-- The layout of a decimal number. -/
structure NumberForm where
  /-- The smallest and largest position of the decimal point written without an exponent;
  with none, every number is. -/
  positional : Option (Int × Int)
  /-- Whether a whole number written without an exponent ends in `.0`. -/
  wholePoint : Bool
  /-- Whether a positive exponent carries its sign. -/
  exponentPlus : Bool
  tie : TieRule
  positiveInfinity : String
  negativeInfinity : String
  notANumber : String

namespace NumberForm

/-- Numbers in JSON text: positional from 1e-5 up to 1e16, the exponent signed. -/
def json : NumberForm := ⟨some (-4, 16), true, true, .toEven, "inf", "-inf", "NaN"⟩

/-- Numbers in YAML text: as in JSON, a positive exponent without its sign. -/
def yaml : NumberForm := ⟨some (-4, 16), true, false, .toEven, ".inf", "-.inf", ".nan"⟩

/-- Numbers in attribute values: digits only, whatever the size. -/
def plain : NumberForm := ⟨none, false, false, .up, "inf", "-inf", "NaN"⟩

/-- The digits with a decimal point at position `k` (`k` digits stand before it). -/
def placePoint (form : NumberForm) (digits : List Char) (k : Int) : List Char :=
  let n := digits.length
  if k ≤ 0 then '0' :: '.' :: List.replicate (-k).toNat '0' ++ digits
  else if k.toNat ≥ n then
    digits ++ List.replicate (k.toNat - n) '0' ++ (if form.wholePoint then ['.', '0'] else [])
  else digits.take k.toNat ++ '.' :: digits.drop k.toNat

/-- One digit, the rest after a point, and the exponent. -/
def scientific (form : NumberForm) (digits : List Char) (k : Int) : List Char :=
  let e := k - 1
  let mantissa := match digits with
    | d :: [] => [d]
    | d :: rest => d :: '.' :: rest
    | [] => []
  let sign := if e < 0 then ['-'] else if form.exponentPlus then ['+'] else []
  mantissa ++ 'e' :: sign ++ e.natAbs.repr.toList

def writeDecimal (form : NumberForm) (d : Decimal) : List Char :=
  let digits := d.digits.repr.toList
  let k := (digits.length : Int) + d.exponent
  match form.positional with
  | none => form.placePoint digits k
  | some (low, high) =>
    if low ≤ k ∧ k ≤ high then form.placePoint digits k else form.scientific digits k

/-- The text of a double in this form. -/
def write (form : NumberForm) (x : Double) : String :=
  if x.isNaN then form.notANumber
  else if !x.isFinite then
    if x.isNegative then form.negativeInfinity else form.positiveInfinity
  else
    let sign := if x.isNegative then ['-'] else []
    let body := if x.isZero then (if form.wholePoint then ['0', '.', '0'] else ['0'])
      else form.writeDecimal (x.shortest form.tie)
    String.ofList (sign ++ body)

end NumberForm

end Keyspace
