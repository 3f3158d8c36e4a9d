import Keyspace.Storage.Service

/-!
# Storage that fails on demand

Failures can be planned for a service, to see what happens to those who use it. A request
with a failure planned for its kind fails without reaching the service, the failures planned
first coming first.
-/
namespace Keyspace

inductive RequestKind where
  | get
  | put
  | delete
deriving DecidableEq, Inhabited, Repr

namespace RequestKind

def name : RequestKind → String
  | get => "get"
  | put => "put"
  | delete => "delete"

def all : List RequestKind := [get, put, delete]

def ofName? (name : String) : Option RequestKind := all.find? fun kind => kind.name = name

end RequestKind

/-- A service's state with the failures planned for it. -/
structure Faulty (σ : Type) where
  inner : σ
  planned : List (RequestKind × StorageError)
deriving Inhabited

namespace Faulty

variable {σ : Type}

/-- Plans a number of failures. -/
def plan (s : Faulty σ) (kind : RequestKind) (e : StorageError) (times : Nat) : Faulty σ :=
  { s with planned := s.planned ++ List.replicate times (kind, e) }

/-- Makes a request fail as planned, or passes it on. -/
def request (kind : RequestKind) (send : σ → Except StorageError α × σ) (s : Faulty σ) :
    Except StorageError α × Faulty σ :=
  match s.planned.find? fun failure => failure.1 = kind with
  | some (_, e) =>
    (.error e, { s with planned := s.planned.eraseP fun failure => failure.1 = kind })
  | none =>
    let (answer, inner) := send s.inner
    (answer, { s with inner := inner })

def service (inner : StorageService σ) : StorageService (Faulty σ) where
  get r := request .get (inner.get r)
  put r := request .put (inner.put r)
  delete r := request .delete (inner.delete r)

end Faulty

end Keyspace
