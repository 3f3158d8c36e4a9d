import Keyspace.Change.Consumer
import Keyspace.Proofs.Action
import Keyspace.Storage.Memory
import Mathlib.Logic.Function.Iterate

/-!
# Reducer runs in steps

A run of a reducer goes through attempts, and an attempt through two steps: the summary is
loaded, and then the change is folded in and the summary saved. Between two steps of one run
others may take theirs. Left alone, the steps of a run do what `HandlerContext.reduce` does.
-/
namespace Keyspace

/-- The images of a change are what was read of the images in its event. -/
theorem Change.ofEvent_eq_ok {t : RecordType} {e : BrokerEvent} {c : Change}
    (h : Change.ofEvent t e = .ok c) :
    e.detail.payload.newImage.mapM t.unmarshal = .ok c.new ∧
      e.detail.payload.oldImage.mapM t.unmarshal = .ok c.old := by
  unfold ofEvent at h
  obtain ⟨new, hnew, h⟩ := Result.bind_eq_ok.mp h
  obtain ⟨old, hold, h⟩ := Result.bind_eq_ok.mp h
  suffices hc : c = ⟨e.detail.mutation, e.source, old, new⟩ by
    subst hc
    exact ⟨hnew, hold⟩
  dsimp only at h
  split at h <;>
  · split at h
    · obtain ⟨_, hthrow, -⟩ := Result.bind_eq_ok.mp h
      exact absurd hthrow Result.throw_ne_ok
    · exact (Result.pure_eq_ok.mp h).symm

/-- A run of a reducer: what it runs in, and the event that started it. -/
structure ReducerRun where
  context : HandlerContext MemoryStorage
  event : BrokerEvent

namespace ReducerRun

/-- How far a run is. Up to `left` attempts follow the attempt it is in. -/
inductive Progress where
  | loading (change : Change) (left attempt : Nat)
  | saving (change : Change) (left attempt : Nat) (current : Record)
  | finished (result : Result Unit)
deriving Inhabited

variable (h : Reducer) (run : ReducerRun)

/-- Where a run begins; an event without its image ends it at once. -/
def start : Progress :=
  match Change.ofEvent h.source run.event with
  | .ok change => .loading change (run.context.policy.maxAttempts - 1) 0
  | .error err => .finished (.error err)

/-- After a failed attempt: a conflict is tried again, if an attempt is left. -/
def afterFailure (change : Change) (left attempt : Nat) (err : Error) (s : MemoryStorage) :
    Progress × MemoryStorage :=
  match left with
  | 0 => (.finished (.error err), s)
  | left + 1 =>
    if err.isTransient then
      match run.context.policy.delay attempt with
      | .ok nanos => (.loading change left (attempt + 1), run.context.sleep nanos s)
      | .error fault => (.finished (.error fault), s)
    else (.finished (.error err), s)

/-- One step of a run. -/
def step : Progress → MemoryStorage → Progress × MemoryStorage
  | .loading change left attempt, s =>
    match run.context.loadSummary h change s with
    | (.ok current, s) => (.saving change left attempt current, s)
    | (.error err, s) => run.afterFailure change left attempt err s
  | .saving change left attempt current, s =>
    match run.context.saveSummary h change (run.context.clock attempt) current s with
    | (.ok (), s) => (.finished (.ok ()), s)
    | (.error err, s) => run.afterFailure change left attempt err s
  | .finished result, s => (.finished result, s)

/-- Whether the next step of a run puts a summary into the storage. -/
def commits : Progress → MemoryStorage → Bool
  | .saving change _ attempt current, s =>
    let after := (run.context.saveSummary h change (run.context.clock attempt) current s).2
    after.writes != s.writes
  | _, _ => false

/-- One attempt, as a run makes it when left alone. -/
def attemptOnce (change : Change) (attempt : Nat) : Action MemoryStorage Unit := do
  run.context.saveSummary h change (run.context.clock attempt)
    (← run.context.loadSummary h change)

variable {h run}

theorem attemptOnce_apply (change : Change) (attempt : Nat) (s : MemoryStorage) :
    run.attemptOnce h change attempt s =
      match run.context.loadSummary h change s with
      | (.ok current, s) =>
        run.context.saveSummary h change (run.context.clock attempt) current s
      | (.error err, s) => (.error err, s) := by
  unfold attemptOnce
  rw [Action.bind_apply]
  cases run.context.loadSummary h change s with
  | mk loaded s' => cases loaded <;> rfl

/-- The steps of an attempt end where the attempt ends. -/
theorem iterate_step_attempt (change : Change) (left attempt : Nat) (s : MemoryStorage) :
    ∃ n, (fun at_ : Progress × MemoryStorage => run.step h at_.1 at_.2)^[n]
        (.loading change left attempt, s) =
      match run.attemptOnce h change attempt s with
      | (.ok (), s) => (.finished (.ok ()), s)
      | (.error err, s) => run.afterFailure change left attempt err s := by
  rw [attemptOnce_apply]
  cases hload : run.context.loadSummary h change s with
  | mk loaded s₁ =>
    cases loaded with
    | error err =>
      refine ⟨1, ?_⟩
      simp only [Function.iterate_one, step, hload]
    | ok current =>
      refine ⟨2, ?_⟩
      simp only [Function.iterate_succ, Function.iterate_zero, Function.comp_apply, id_eq, step,
        hload]

/-- Left alone, a run takes as many attempts as `RetryPolicy.retryFrom` and ends the same. -/
theorem iterate_step_retryFrom (change : Change) (left attempt : Nat) (s : MemoryStorage) :
    ∃ n, (fun at_ : Progress × MemoryStorage => run.step h at_.1 at_.2)^[n]
        (.loading change left attempt, s) =
      (.finished (run.context.policy.retryFrom run.context.sleep (run.attemptOnce h change)
          left attempt s).1,
        (run.context.policy.retryFrom run.context.sleep (run.attemptOnce h change)
          left attempt s).2) := by
  induction left generalizing attempt s with
  | zero =>
    obtain ⟨n, hn⟩ := @iterate_step_attempt h run change 0 attempt s
    refine ⟨n, hn.trans ?_⟩
    unfold RetryPolicy.retryFrom
    cases run.attemptOnce h change attempt s with
    | mk outcome s' => cases outcome <;> rfl
  | succ left ih =>
    obtain ⟨n, hn⟩ := @iterate_step_attempt h run change (left + 1) attempt s
    unfold RetryPolicy.retryFrom
    cases houtcome : run.attemptOnce h change attempt s with
    | mk outcome s' =>
      rw [houtcome] at hn
      cases outcome with
      | ok done => exact ⟨n, hn⟩
      | error err =>
        simp only [afterFailure] at hn
        by_cases htransient : err.isTransient = true
        · rw [if_pos htransient] at hn
          simp only [htransient, if_true]
          cases hdelay : run.context.policy.delay attempt with
          | error fault =>
            rw [hdelay] at hn
            exact ⟨n, hn⟩
          | ok nanos =>
            rw [hdelay] at hn
            obtain ⟨m, hm⟩ := ih (attempt + 1) (run.context.sleep nanos s')
            refine ⟨m + n, ?_⟩
            rw [Function.iterate_add_apply, hn]
            exact hm
        · rw [if_neg htransient] at hn
          simp only [htransient, if_false, Bool.false_eq_true]
          exact ⟨n, hn⟩

/-- Left alone, a run does what `HandlerContext.reduce` does. -/
theorem iterate_step_start (s : MemoryStorage) :
    ∃ n, (fun at_ : Progress × MemoryStorage => run.step h at_.1 at_.2)^[n] (run.start h, s) =
      (.finished (run.context.reduce h run.event s).1, (run.context.reduce h run.event s).2) := by
  unfold start HandlerContext.reduce
  simp only [Action.bind_apply, Action.lift_apply]
  cases Change.ofEvent h.source run.event with
  | error err => exact ⟨0, rfl⟩
  | ok change => exact iterate_step_retryFrom change _ 0 s

end ReducerRun

end Keyspace
