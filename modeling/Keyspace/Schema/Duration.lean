import Keyspace.Text.Basic
import Keyspace.Number.Reading

/-!
# Durations

A duration is a whole number and a unit, `90d` or `12 h`, and stands for a number of
seconds below 2 ^ 64.
-/
namespace Keyspace.Schema

/-- The seconds of a unit. -/
def unitSeconds? : List Char → Option Nat
  | ['s'] => some 1
  | ['m'] => some 60
  | ['h'] => some 3600
  | ['d'] => some 86400
  | _ => none

/-- The seconds of a duration without blanks around it. -/
def durationSeconds? (text : List Char) : Option Nat := do
  let (digits, rest) := spanDigits text
  let unit ← unitSeconds? (rest.dropWhile Text.isBlank)
  let amount ← readNat? digits
  if amount ≤ uint64Max ∧ amount * unit ≤ uint64Max then some (amount * unit) else none

/-- Reads a duration. -/
def parseDuration (text : String) : Option Nat := durationSeconds? (Text.trim text.toList)

end Keyspace.Schema
