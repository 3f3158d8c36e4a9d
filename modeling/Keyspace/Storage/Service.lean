import Keyspace.Storage.Condition

/-!
# Storage services

A storage service keeps items in tables and answers three kinds of requests. Its state is a
value: a request takes a state to an answer and the state after it. A write whose condition
does not hold fails and changes nothing.
-/
namespace Keyspace

inductive StorageError where
  | conditionFailed
  /-- The service itself failed. -/
  | provider (detail : String)
deriving DecidableEq, Inhabited, Repr

def StorageError.message : StorageError → String
  | conditionFailed => "conditional check failed"
  | provider detail => detail

structure GetRequest where
  table : String
  key : Item
  /-- Whether the answer must show every write before it. -/
  isConsistent : Bool
deriving DecidableEq, Inhabited

structure PutRequest where
  table : String
  key : Item
  item : Item
  condition : Option Condition
deriving Inhabited

structure DeleteRequest where
  table : String
  key : Item
  condition : Option Condition
deriving Inhabited

/-- A storage service with states in `σ`. -/
structure StorageService (σ : Type) where
  get : GetRequest → σ → Except StorageError (Option Item) × σ
  put : PutRequest → σ → Except StorageError Unit × σ
  /-- Gives the item removed, if there was one. -/
  delete : DeleteRequest → σ → Except StorageError (Option Item) × σ

end Keyspace
