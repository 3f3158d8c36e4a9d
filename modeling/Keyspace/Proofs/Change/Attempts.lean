import Keyspace.Change.Retry
import Mathlib.Data.List.Range

/-!
# Attempts and the pauses between them

Under a retry policy an operation is called with the numbers of its attempts, from zero on and
without gaps. The last call is the first whose outcome is no conflict with another writer, or
the last one the policy allows, and its outcome is the outcome of the whole run. Between two
calls there is one pause. To see this, the operation and the pauses are made to keep a record.
-/
namespace Keyspace

theorem Error.isTransient_iff {e : Error} : e.isTransient = true ↔
    (∃ model key, e = .alreadyExists model key) ∨
      ∃ model key expected, e = .optimisticLocking model key expected := by
  cases e <;> simp [isTransient, kind, Kind.isTransient]

namespace RetryPolicy

variable {α σ : Type}

/-- How many calls a policy allows: at least one. -/
def limit (policy : RetryPolicy) : Nat := max 1 policy.maxAttempts

/-- The pause after an attempt, in nanoseconds: a multiple of the base delay. -/
def pause (policy : RetryPolicy) (attempt : Nat) : Nat :=
  policy.baseDelay * min (policy.multiplier * (attempt + 1)) maxFactor

/-- The number of attempts has 32 bits, and every pause the policy may ask for is short enough. -/
structure IsAdmissible (policy : RetryPolicy) : Prop where
  attempts : policy.maxAttempts ≤ maxFactor
  pauses : ∀ attempt, attempt + 1 < policy.limit → isTooLong (policy.pause attempt) = false

/-- Another writer was there first: the record exists already, or it has changed since. -/
def IsConflict (outcome : Result α) : Prop :=
  (∃ model key, outcome = .error (.alreadyExists model key)) ∨
    ∃ model key expected, outcome = .error (.optimisticLocking model key expected)

variable {policy : RetryPolicy} {sleep : Nat → σ → σ} {operation : Nat → Action σ α}

@[simp] theorem isConflict_error {e : Error} :
    IsConflict (.error e : Result α) ↔ e.isTransient = true := by
  simp [IsConflict, Error.isTransient_iff]

@[simp] theorem not_isConflict_ok {a : α} : ¬IsConflict (.ok a : Result α) := by
  simp [IsConflict]

theorem IsAdmissible.limit_le (h : policy.IsAdmissible) : policy.limit ≤ maxFactor := by
  have hattempts := h.attempts
  simp only [limit, maxFactor] at *
  omega

theorem IsAdmissible.delay_eq (h : policy.IsAdmissible) {attempt : Nat}
    (hattempt : attempt + 1 < policy.limit) :
    policy.delay attempt = .ok (policy.pause attempt) := by
  have hlimit := h.limit_le
  have hshort := h.pauses attempt hattempt
  have hrange : ¬attempt + 1 > maxFactor := by omega
  simp only [pause] at hshort
  simp [delay, pause, hrange, hshort]

/-- An attempt without a conflict ends the run, whatever is left. -/
theorem retryFrom_of_settled {left attempt : Nat} {s : σ}
    (h : ¬IsConflict (operation attempt s).1) :
    policy.retryFrom sleep operation left attempt s = operation attempt s := by
  cases left with
  | zero => rfl
  | succ left =>
    unfold retryFrom
    cases hrun : operation attempt s with
    | mk outcome s' =>
      rw [hrun] at h
      cases outcome with
      | ok a => rfl
      | error e => simp [isConflict_error.not.mp h]

/-- After a conflict the next attempt follows a pause. -/
theorem retryFrom_of_conflict {left attempt nanos : Nat} {s : σ}
    (h : IsConflict (operation attempt s).1) (hdelay : policy.delay attempt = .ok nanos) :
    policy.retryFrom sleep operation (left + 1) attempt s =
      policy.retryFrom sleep operation left (attempt + 1)
        (sleep nanos (operation attempt s).2) := by
  conv_lhs => unfold retryFrom
  cases hrun : operation attempt s with
  | mk outcome s' =>
    rw [hrun] at h
    cases outcome with
    | ok a => exact absurd h not_isConflict_ok
    | error e => simp [isConflict_error.mp h, hdelay]

end RetryPolicy

/-- An operation that is run under a retry policy, and the state it starts from. -/
structure RetryRun (σ α : Type) where
  policy : RetryPolicy
  sleep : Nat → σ → σ
  operation : Nat → Action σ α
  start : σ

namespace RetryRun

open RetryPolicy

variable {σ α : Type}

/-- The outcome of the run and the state it ends in. -/
def result (run : RetryRun σ α) : Result α × σ :=
  run.policy.retry run.sleep run.operation run.start

/-- The state in which an attempt starts, all attempts before it having met conflicts. -/
def before (run : RetryRun σ α) : Nat → σ
  | 0 => run.start
  | attempt + 1 =>
    run.sleep (run.policy.pause attempt) (run.operation attempt (run.before attempt)).2

/-- What an attempt gives: its outcome, and the state it leaves. -/
def attempted (run : RetryRun σ α) (attempt : Nat) : Result α × σ :=
  run.operation attempt (run.before attempt)

/-- The attempt that ends the run. -/
structure IsLast (run : RetryRun σ α) (last : Nat) : Prop where
  allowed : last < run.policy.limit
  conflicts : ∀ attempt < last, IsConflict (run.attempted attempt).1
  settled : ¬IsConflict (run.attempted last).1 ∨ last + 1 = run.policy.limit

/-- No other attempt ends the run. -/
theorem IsLast.unique {run : RetryRun σ α} {last last' : Nat} (h : run.IsLast last)
    (h' : run.IsLast last') : last = last' := by
  rcases Nat.lt_trichotomy last last' with hlt | heq | hlt
  · rcases h.settled with hsettled | hlimit
    · exact absurd (h'.conflicts last hlt) hsettled
    · have := h'.allowed
      omega
  · exact heq
  · rcases h'.settled with hsettled | hlimit
    · exact absurd (h.conflicts last' hlt) hsettled
    · have := h.allowed
      omega

/-- Wherever the run has come to, it ends with the attempt that is told by the outcomes. -/
theorem retryFrom_before (run : RetryRun σ α) (h : run.policy.IsAdmissible) {left attempt : Nat}
    (hleft : attempt + left + 1 = run.policy.limit)
    (hconflicts : ∀ earlier < attempt, IsConflict (run.attempted earlier).1) :
    ∃ last, run.IsLast last ∧
      run.policy.retryFrom run.sleep run.operation left attempt (run.before attempt) =
        run.attempted last := by
  induction left generalizing attempt with
  | zero => exact ⟨attempt, ⟨by omega, hconflicts, Or.inr (by omega)⟩, rfl⟩
  | succ left ih =>
    by_cases hconflict : IsConflict (run.attempted attempt).1
    · have hdelay := h.delay_eq (show attempt + 1 < run.policy.limit by omega)
      have hnext : ∀ earlier < attempt + 1, IsConflict (run.attempted earlier).1 := by
        intro earlier hearlier
        rcases Nat.lt_succ_iff_lt_or_eq.mp hearlier with hlt | rfl
        · exact hconflicts earlier hlt
        · exact hconflict
      obtain ⟨last, hlast, hrun⟩ := ih (by omega) hnext
      refine ⟨last, hlast, ?_⟩
      rw [retryFrom_of_conflict hconflict hdelay]
      exact hrun
    · refine ⟨attempt, ⟨by omega, hconflicts, Or.inl hconflict⟩, ?_⟩
      exact retryFrom_of_settled hconflict

theorem exists_isLast (run : RetryRun σ α) (h : run.policy.IsAdmissible) :
    ∃ last, run.IsLast last ∧ run.result = run.attempted last := by
  have hleft : 0 + (run.policy.maxAttempts - 1) + 1 = run.policy.limit := by
    simp only [limit]
    omega
  exact run.retryFrom_before h hleft fun earlier hearlier => absurd hearlier (Nat.not_lt_zero _)

/-! ## The record of a run -/

/-- What can be seen of a run. -/
inductive Event (α : Type) where
  | call (attempt : Nat) (outcome : Result α)
  | pause (nanos : Nat)

/-- The run as it is, with a record of every call and every pause. -/
def recorded (run : RetryRun σ α) : RetryRun (σ × List (Event α)) α where
  policy := run.policy
  sleep nanos state := (run.sleep nanos state.1, state.2 ++ [.pause nanos])
  operation attempt := fun state =>
    let attempted := run.operation attempt state.1
    (attempted.1, attempted.2, state.2 ++ [.call attempt attempted.1])
  start := (run.start, [])

/-- The calls before an attempt, each with the pause after it. -/
def eventsBefore (run : RetryRun σ α) (attempt : Nat) : List (Event α) :=
  (List.range attempt).flatMap fun earlier =>
    [.call earlier (run.attempted earlier).1, .pause (run.policy.pause earlier)]

theorem eventsBefore_succ (run : RetryRun σ α) (attempt : Nat) :
    run.eventsBefore (attempt + 1) = run.eventsBefore attempt ++
      [.call attempt (run.attempted attempt).1, .pause (run.policy.pause attempt)] := by
  simp [eventsBefore, List.range_succ]

theorem before_recorded (run : RetryRun σ α) (attempt : Nat) :
    run.recorded.before attempt = (run.before attempt, run.eventsBefore attempt) := by
  induction attempt with
  | zero => rfl
  | succ attempt ih =>
    rw [before, ih, eventsBefore_succ]
    simp [recorded, before, attempted]

theorem attempted_recorded (run : RetryRun σ α) (attempt : Nat) :
    run.recorded.attempted attempt = ((run.attempted attempt).1, (run.attempted attempt).2,
      run.eventsBefore attempt ++ [.call attempt (run.attempted attempt).1]) := by
  rw [attempted, before_recorded]
  rfl

theorem isLast_recorded {run : RetryRun σ α} {last : Nat} :
    run.recorded.IsLast last ↔ run.IsLast last := by
  constructor <;> rintro ⟨hallowed, hconflicts, hsettled⟩
  · simp only [attempted_recorded] at hconflicts hsettled
    exact ⟨hallowed, hconflicts, hsettled⟩
  · refine ⟨hallowed, ?_, ?_⟩ <;> simpa only [attempted_recorded]

/-- A run calls its operation up to the first outcome that is no conflict, as long as its policy
allows, with one pause between each two calls and none after the last. It ends as its last call
does, and the numbers of the attempts keep to their 32 bits. -/
theorem result_eq_attempted (run : RetryRun σ α) (h : run.policy.IsAdmissible) :
    ∃ last, run.IsLast last ∧ last + 1 ≤ maxFactor ∧ run.result = run.attempted last ∧
      run.recorded.result = ((run.attempted last).1, (run.attempted last).2,
        run.eventsBefore last ++ [.call last (run.attempted last).1]) := by
  obtain ⟨last, hlast, hresult⟩ := run.exists_isLast h
  obtain ⟨last', hlast', hrecorded⟩ := run.recorded.exists_isLast h
  have hsame : last' = last := (isLast_recorded.mp hlast').unique hlast
  subst hsame
  rw [attempted_recorded] at hrecorded
  have hlimit := h.limit_le
  have hallowed := hlast.allowed
  exact ⟨last', hlast, by omega, hresult, hrecorded⟩

/-- Two conflicts, one of each kind, and then a success. -/
def settling : RetryRun Unit Nat where
  policy := .default
  sleep _ s := s
  operation attempt := fun s =>
    match attempt with
    | 0 => (.error (.alreadyExists "Note" "pk=1"), s)
    | 1 => (.error (.optimisticLocking "Note" "pk=1" 3), s)
    | n => (.ok n, s)
  start := ()

theorem default_isAdmissible : RetryPolicy.default.IsAdmissible := by
  constructor
  case attempts => decide
  case pauses =>
    intro attempt hattempt
    have hshort : ∀ attempt < 4, isTooLong (RetryPolicy.default.pause attempt) = false := by decide
    refine hshort attempt ?_
    simp only [limit, RetryPolicy.default] at hattempt
    omega

theorem settling_takes_three_attempts : RetryPolicy.default.IsAdmissible ∧
    settling.recorded.result = (.ok 2, (), [
      .call 0 (.error (.alreadyExists "Note" "pk=1")), .pause 2000000000,
      .call 1 (.error (.optimisticLocking "Note" "pk=1" 3)), .pause 4000000000,
      .call 2 (.ok 2)]) := by
  have hlast : settling.IsLast 2 := by
    refine ⟨by decide, fun attempt hattempt => ?_, Or.inl not_isConflict_ok⟩
    match attempt, hattempt with
    | 0, _ => exact isConflict_error.mpr rfl
    | 1, _ => exact isConflict_error.mpr rfl
  obtain ⟨last, hlast', -, -, hrecorded⟩ := settling.result_eq_attempted default_isAdmissible
  rw [hlast'.unique hlast] at hrecorded
  exact ⟨default_isAdmissible, hrecorded⟩

end RetryRun

end Keyspace
