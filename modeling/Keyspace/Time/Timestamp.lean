import Keyspace.Time.Calendar

/-!
# Points in time

A point in time is a count of seconds since 1970 and nanoseconds beyond it. The
nanoseconds of a leap second are those of the second before it, plus a whole second. Points
in time lie in the years a date can have.
-/
namespace Keyspace

structure Timestamp where
  seconds : Int
  nanos : Nat
deriving DecidableEq, Inhabited, Repr

namespace Timestamp

def epoch : Timestamp := ⟨0, 0⟩

def minSeconds : Int := -8334601228800

def maxSeconds : Int := 8210266876799

def inRange (seconds : Int) : Bool := minSeconds ≤ seconds && seconds ≤ maxSeconds

/-- A whole number of seconds, if it is in range. -/
def ofSeconds? (seconds : Int) : Option Timestamp :=
  if inRange seconds then some ⟨seconds, 0⟩ else none

/-- A whole number of milliseconds, if it is in range. -/
def ofMillis? (millis : Int) : Option Timestamp :=
  if inRange (millis / 1000) then some ⟨millis / 1000, (millis % 1000).toNat * 1000000⟩ else none

/-- A whole number of microseconds, if it is in range. -/
def ofMicros? (micros : Int) : Option Timestamp :=
  if inRange (micros / 1000000) then
    some ⟨micros / 1000000, (micros % 1000000).toNat * 1000⟩
  else none

/-- A later point in time, if it is in range. A leap second is over once time goes on. -/
def plusSeconds? (t : Timestamp) (seconds : Nat) : Option Timestamp :=
  let later := t.seconds + seconds
  if inRange later then some ⟨later, if seconds = 0 then t.nanos else t.nanos % 1000000000⟩
  else none

def date (t : Timestamp) : Date := .ofDays (t.seconds / 86400)

/-- The hour, minute and second of a second of the day; a leap second is the sixtieth. -/
def clockText (t : Timestamp) : String :=
  let second := (t.seconds % 86400).toNat
  let leap := if t.nanos ≥ 1000000000 then 1 else 0
  Date.padded 2 (second / 3600) ++ ":" ++ Date.padded 2 (second / 60 % 60) ++ ":"
    ++ Date.padded 2 (second % 60 + leap)

/-- How many digits of a second are written. -/
inductive Precision where
  | millis
  /-- None, or the first of three, six and nine that loses nothing. -/
  | exact
deriving DecidableEq, Repr

def fractionText (precision : Precision) (nanos : Nat) : String :=
  match precision with
  | .millis => "." ++ Date.padded 3 (nanos / 1000000)
  | .exact =>
    if nanos = 0 then ""
    else if nanos % 1000000 = 0 then "." ++ Date.padded 3 (nanos / 1000000)
    else if nanos % 1000 = 0 then "." ++ Date.padded 6 (nanos / 1000)
    else "." ++ Date.padded 9 nanos

def toText (precision : Precision) (t : Timestamp) : String :=
  t.date.toText ++ "T" ++ t.clockText ++ fractionText precision (t.nanos % 1000000000) ++ "Z"

end Timestamp

end Keyspace
