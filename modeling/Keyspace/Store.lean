import Keyspace.Change.Retry
import Keyspace.Environment
import Keyspace.Record.Marshal
import Keyspace.Storage.Service

/-!
# The record store

Typed access to records over any storage service. Every operation makes one request at
most. Writes are conditional: a record is created only where none is, and updated only at
the version it was read at, so of several writers one wins and the others learn of it.
-/
namespace Keyspace

/-- A storage service with the environment that names its tables. -/
structure Store (σ : Type) where
  service : StorageService σ
  environment : Environment

namespace Store

variable {σ : Type}

def table (store : Store σ) (t : RecordType) : Result String :=
  store.environment.tableName (tableVariable t.model.table)

def serviceError (detail : String) : Error := .serviceFailure "storage" detail

/-- The error that a failed write stands for; `conflict` is what a failed condition means. -/
def writeError (conflict : Error) : StorageError → Error
  | .conditionFailed => conflict
  | .provider detail => serviceError detail

def readError : StorageError → Error := writeError (serviceError "unexpected conditional failure")

def notFound (t : RecordType) (key : Item) : Error := .notFound t.model.name (describeKey key)

/-- Makes a request, and explains a storage error. -/
def request (send : σ → Except StorageError α × σ) (explain : StorageError → Error) :
    Action σ α := fun s =>
  let (answer, s) := send s
  (answer.mapError explain, s)

/-- Inserts a new record. -/
def create (store : Store σ) (t : RecordType) (now : Timestamp) (r : Record) : Action σ Record := do
  let prepared ← t.beforeCreate now r
  let created := { prepared with revision := ⟨1, some now, some now⟩ }
  let key := t.key created
  let table ← store.table t
  let condition := Condition.absent t.model.primaryKey.partitionKey.attributeName
  request (store.service.put ⟨table, key, t.toItem created, some condition⟩)
    (writeError (.alreadyExists t.model.name (describeKey key)))
  pure created

/-- The record under a key, if there is one. -/
def find (store : Store σ) (t : RecordType) (key : Item) : Action σ (Option Record) := do
  let table ← store.table t
  let item ← request (store.service.get ⟨table, key, t.model.isConsistent⟩) readError
  item.mapM fun item => t.unmarshal item

/-- The record under a key. -/
def get (store : Store σ) (t : RecordType) (key : Item) : Action σ Record := do
  match ← store.find t key with
  | some r => pure r
  | none => throw (notFound t key)

/-- Writes a changed record back, if the stored one is still at the version it was read at. -/
def update (store : Store σ) (t : RecordType) (now : Timestamp) (r : Record) : Action σ Record := do
  if t.model.isLedger then
    throw (.unexpected s!"{t.model.name} is a ledger model and cannot be updated")
  let expected := r.revision.version
  -- A build without overflow checks wraps instead, and stores the least version.
  if !fitsInt64 (expected + 1) then throw (.fault "version out of range")
  let changed := { r with
    revision := { r.revision with version := expected + 1, updatedAt := some now } }
  let key := t.key changed
  let table ← store.table t
  let condition := Condition.version expected
  request (store.service.put ⟨table, key, t.toItem changed, some condition⟩)
    (writeError (.optimisticLocking t.model.name (describeKey key) expected))
  pure changed

/-- Creates a record that was never written, and updates any other. -/
def save (store : Store σ) (t : RecordType) (now : Timestamp) (r : Record) : Action σ Record :=
  if r.revision.isPersisted then store.update t now r else store.create t now r

/-- Removes a record and gives what was stored. -/
def delete (store : Store σ) (t : RecordType) (key : Item) : Action σ Record := do
  let table ← store.table t
  let condition := Condition.present t.model.primaryKey.partitionKey.attributeName
  match ← request (store.service.delete ⟨table, key, some condition⟩) (writeError (notFound t key)) with
  | some item => t.unmarshal item
  | none => throw (notFound t key)

end Store

end Keyspace
