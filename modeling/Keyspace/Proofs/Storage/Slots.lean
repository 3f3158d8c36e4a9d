import Keyspace.Proofs.Dict
import Keyspace.Storage.Memory

/-!
# Slots of the storage in memory

A slot is a table together with the text of a key, and a storage is read as what each slot
holds. A put that is admitted changes its own slot and no other, and so does a removal; a
request whose condition fails changes nothing. Removal relies on the key order inside the
tables, which every request keeps.
-/
namespace Keyspace

/-- The place of one item. -/
structure Slot where
  table : String
  key : String
deriving DecidableEq, Inhabited, Repr

namespace MemoryStorage

/-- What a slot holds. -/
def itemAt? (s : MemoryStorage) (slot : Slot) : Option Item := (s.table slot.table).get? slot.key

/-- The storage after an item was put into a slot. -/
def write (s : MemoryStorage) (slot : Slot) (item : Item) : MemoryStorage :=
  ⟨s.tables.insert slot.table ((s.table slot.table).insert slot.key item), s.writes + 1⟩

/-- The storage after a slot was emptied. -/
def remove (s : MemoryStorage) (slot : Slot) : MemoryStorage :=
  ⟨s.tables.insert slot.table ((s.table slot.table).erase slot.key), s.writes + 1⟩

/-- The items of every table are in key order. -/
def Sorted (s : MemoryStorage) : Prop := ∀ name, Dict.Ordered (s.table name)

theorem find?_eq (s : MemoryStorage) (table : String) (key : Item) :
    s.find? table key = s.itemAt? ⟨table, describeKey key⟩ := rfl

@[simp] theorem itemAt?_empty (slot : Slot) : empty.itemAt? slot = none := rfl

theorem sorted_empty : Sorted empty := fun _ => Dict.ordered_nil

theorem table_write (s : MemoryStorage) (slot : Slot) (item : Item) (name : String) :
    (s.write slot item).table name =
      if name = slot.table then (s.table slot.table).insert slot.key item else s.table name := by
  unfold write table
  rw [Dict.get?_insert]
  by_cases h : name = slot.table
  · rw [if_pos h, if_pos h]; rfl
  · rw [if_neg h, if_neg h]

theorem table_remove (s : MemoryStorage) (slot : Slot) (name : String) :
    (s.remove slot).table name =
      if name = slot.table then (s.table slot.table).erase slot.key else s.table name := by
  unfold remove table
  rw [Dict.get?_insert]
  by_cases h : name = slot.table
  · rw [if_pos h, if_pos h]; rfl
  · rw [if_neg h, if_neg h]

@[simp] theorem writes_write (s : MemoryStorage) (slot : Slot) (item : Item) :
    (s.write slot item).writes = s.writes + 1 := rfl

@[simp] theorem writes_remove (s : MemoryStorage) (slot : Slot) :
    (s.remove slot).writes = s.writes + 1 := rfl

theorem itemAt?_write (s : MemoryStorage) (slot other : Slot) (item : Item) :
    (s.write slot item).itemAt? other = if other = slot then some item else s.itemAt? other := by
  obtain ⟨table, key⟩ := slot
  obtain ⟨table', key'⟩ := other
  unfold itemAt?
  rw [table_write]
  by_cases ht : table' = table
  · subst ht
    simp [Dict.get?_insert]
  · simp [ht]

theorem itemAt?_remove {s : MemoryStorage} (h : s.Sorted) (slot other : Slot) :
    (s.remove slot).itemAt? other = if other = slot then none else s.itemAt? other := by
  obtain ⟨table, key⟩ := slot
  obtain ⟨table', key'⟩ := other
  unfold itemAt?
  rw [table_remove]
  by_cases ht : table' = table
  · subst ht
    simp [Dict.get?_erase (h table')]
  · simp [ht]

theorem Sorted.write {s : MemoryStorage} (h : s.Sorted) (slot : Slot) (item : Item) :
    (s.write slot item).Sorted := by
  intro name
  rw [table_write]
  split
  · exact (h _).insert _ _
  · exact h name

theorem Sorted.remove {s : MemoryStorage} (h : s.Sorted) (slot : Slot) :
    (s.remove slot).Sorted := by
  intro name
  rw [table_remove]
  split
  · exact (h _).erase _
  · exact h name

/-- A put either fills its slot or fails and changes nothing. -/
theorem put_eq (request : PutRequest) (s : MemoryStorage) :
    put request s =
      if request.condition.all (·.holds (s.itemAt? ⟨request.table, describeKey request.key⟩)) then
        (.ok (), s.write ⟨request.table, describeKey request.key⟩ request.item)
      else (.error .conditionFailed, s) := rfl

/-- A removal empties its slot, finds nothing to remove, or fails. -/
theorem delete_eq (request : DeleteRequest) (s : MemoryStorage) :
    delete request s =
      if request.condition.all (·.holds (s.itemAt? ⟨request.table, describeKey request.key⟩)) then
        match s.itemAt? ⟨request.table, describeKey request.key⟩ with
        | some item => (.ok (some item), s.remove ⟨request.table, describeKey request.key⟩)
        | none => (.ok none, s)
      else (.error .conditionFailed, s) := rfl

end MemoryStorage

end Keyspace
