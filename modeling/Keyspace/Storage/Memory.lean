import Keyspace.Storage.Service
import Keyspace.Wire.Key

/-!
# Storage in memory

Tables of items under the texts of their keys. `writes` counts the puts and deletes that
changed something.
-/
namespace Keyspace

structure MemoryStorage where
  tables : Dict (Dict Item)
  writes : Nat
deriving DecidableEq, Inhabited

namespace MemoryStorage

def empty : MemoryStorage := ⟨.empty, 0⟩

def table (s : MemoryStorage) (name : String) : Dict Item := (s.tables.get? name).getD .empty

/-- The item under a key. -/
def find? (s : MemoryStorage) (table : String) (key : Item) : Option Item :=
  (s.table table).get? (describeKey key)

/-- Every item of a table, in the order of the key texts. -/
def scan (s : MemoryStorage) (table : String) : List Item := (s.table table).values

/-- Whether a write with this condition may go ahead. -/
def admits (s : MemoryStorage) (table : String) (key : Item) (condition : Option Condition) :
    Bool :=
  condition.all (·.holds (s.find? table key))

def get (request : GetRequest) (s : MemoryStorage) :
    Except StorageError (Option Item) × MemoryStorage :=
  (.ok (s.find? request.table request.key), s)

def put (request : PutRequest) (s : MemoryStorage) :
    Except StorageError Unit × MemoryStorage :=
  if s.admits request.table request.key request.condition then
    let items := (s.table request.table).insert (describeKey request.key) request.item
    (.ok (), ⟨s.tables.insert request.table items, s.writes + 1⟩)
  else (.error .conditionFailed, s)

def delete (request : DeleteRequest) (s : MemoryStorage) :
    Except StorageError (Option Item) × MemoryStorage :=
  if s.admits request.table request.key request.condition then
    match s.find? request.table request.key with
    | some item =>
      let items := (s.table request.table).erase (describeKey request.key)
      (.ok (some item), ⟨s.tables.insert request.table items, s.writes + 1⟩)
    | none => (.ok none, s)
  else (.error .conditionFailed, s)

/-- The service that keeps its items in memory. -/
def service : StorageService MemoryStorage := ⟨get, put, delete⟩

end MemoryStorage

end Keyspace
