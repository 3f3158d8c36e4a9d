import Keyspace.Change.Event
import Keyspace.Store

/-!
# Change handlers

A handler receives a change with its images as records. It reacts to the change, derives a
record from it, or folds it into a summary. What meets a conflict with another writer is
tried again as a whole.
-/
namespace Keyspace

/-- A change of a record. -/
structure Change where
  mutation : Mutation
  source : String
  old : Option Record
  new : Option Record
deriving Inhabited

namespace Change

def missingImage (t : RecordType) (mutation : Mutation) (image : String) : Error :=
  .dataIntegrity t.model.name image s!"{mutation.name} change record has no {image}"

/-- The change that an event tells of. The image that the mutation is about must be there. -/
def ofEvent (t : RecordType) (e : BrokerEvent) : Result Change := do
  let mutation := e.detail.mutation
  let new ← e.detail.payload.newImage.mapM t.unmarshal
  let old ← e.detail.payload.oldImage.mapM t.unmarshal
  match mutation with
  | .remove => if old.isNone then throw (missingImage t mutation "OldImage")
  | _ => if new.isNone then throw (missingImage t mutation "NewImage")
  pure ⟨mutation, e.source, old, new⟩

/-- The record after the change, or as it was before it was removed. -/
def current (c : Change) : Option Record := c.new.orElse fun _ => c.old

end Change

/-- What a handler runs in: a store, a clock and a way to pause. The clock is read once in
every attempt, and its readings are counted from zero. -/
structure HandlerContext (σ : Type) where
  store : Store σ
  clock : Nat → Timestamp
  policy : RetryPolicy
  sleep : Nat → σ → σ

/-- A handler that acts on a change. -/
structure Reactor (σ : Type) where
  source : RecordType
  react : Change → Action σ Unit

/-- A handler that derives a record from a change, or none. -/
structure Enricher (σ : Type) where
  source : RecordType
  target : RecordType
  enrich : Change → Action σ (Option Record)

/-- A handler that folds changes into a summary. The key of the initial summary tells
which one. -/
structure Reducer where
  source : RecordType
  target : RecordType
  initial : Change → Result Record
  reduce : Record → Change → Result Record

namespace HandlerContext

variable {σ : Type}

def retry (ctx : HandlerContext σ) (operation : Nat → Action σ α) : Action σ α :=
  ctx.policy.retry ctx.sleep operation

/-- Runs a reactor on an event. -/
def react (ctx : HandlerContext σ) (h : Reactor σ) (e : BrokerEvent) : Action σ Unit := do
  let change ← Change.ofEvent h.source e
  ctx.retry fun _ => h.react change

/-- One attempt to derive a record and to create or update it. -/
def enrichOnce (ctx : HandlerContext σ) (h : Enricher σ) (change : Change) (now : Timestamp) :
    Action σ Unit := do
  let some derived ← h.enrich change | return
  match ← ctx.store.find h.target (h.target.key derived) with
  | some existing =>
    discard (ctx.store.update h.target now { derived with revision := existing.revision })
  | none => discard (ctx.store.create h.target now derived)

def enrich (ctx : HandlerContext σ) (h : Enricher σ) (e : BrokerEvent) : Action σ Unit := do
  let change ← Change.ofEvent h.source e
  ctx.retry fun attempt => ctx.enrichOnce h change (ctx.clock attempt)

/-- The first half of an attempt to fold a change in: the summary to start from. -/
def loadSummary (ctx : HandlerContext σ) (h : Reducer) (change : Change) : Action σ Record := do
  let seed ← h.initial change
  pure ((← ctx.store.find h.target (h.target.key seed)).getD seed)

/-- The second half: the change is folded in and the summary saved. -/
def saveSummary (ctx : HandlerContext σ) (h : Reducer) (change : Change) (now : Timestamp)
    (current : Record) : Action σ Unit := do
  let reduced ← h.reduce current change
  discard (ctx.store.save h.target now reduced)

def reduce (ctx : HandlerContext σ) (h : Reducer) (e : BrokerEvent) : Action σ Unit := do
  let change ← Change.ofEvent h.source e
  ctx.retry fun attempt => do
    ctx.saveSummary h change (ctx.clock attempt) (← ctx.loadSummary h change)

end HandlerContext

end Keyspace
