import Keyspace.Error

/-!
# Trying again

An operation that meets a conflict with another writer is tried again after a pause, which
grows with every attempt. Other failures, and the last conflict, are final.
-/
namespace Keyspace

structure RetryPolicy where
  maxAttempts : Nat
  /-- In nanoseconds. -/
  baseDelay : Nat
  multiplier : Nat
deriving DecidableEq, Inhabited, Repr

namespace RetryPolicy

def default : RetryPolicy := ⟨5, 1000000000, 2⟩

def maxFactor : Nat := 4294967295

/-- A pause of as many seconds as 64 bits hold is too long. -/
def isTooLong (nanos : Nat) : Bool := nanos / 1000000000 ≥ 18446744073709551616

/-- The pause in nanoseconds after an attempt, the first attempt being number zero. -/
def delay (policy : RetryPolicy) (attempt : Nat) : Result Nat :=
  if attempt + 1 > maxFactor then .error (.fault "attempt number out of range")
  else
    let nanos := policy.baseDelay * min (policy.multiplier * (attempt + 1)) maxFactor
    if isTooLong nanos then .error (.fault "delay out of range") else .ok nanos

/-- Tries an operation from an attempt on, with at most `left` attempts after it. -/
def retryFrom (policy : RetryPolicy) (sleep : Nat → σ → σ) (operation : Nat → Action σ α) :
    (left attempt : Nat) → Action σ α
  | 0, attempt => operation attempt
  | left + 1, attempt => fun s =>
    match operation attempt s with
    | (.ok a, s) => (.ok a, s)
    | (.error e, s) =>
      if e.isTransient then
        match policy.delay attempt with
        | .ok nanos => retryFrom policy sleep operation left (attempt + 1) (sleep nanos s)
        | .error fault => (.error fault, s)
      else (.error e, s)

/-- Tries an operation until it succeeds, fails for good, or was tried often enough. The
operation is told the number of its attempt. -/
def retry (policy : RetryPolicy) (sleep : Nat → σ → σ) (operation : Nat → Action σ α) :
    Action σ α :=
  policy.retryFrom sleep operation (policy.maxAttempts - 1) 0

end RetryPolicy

end Keyspace
