import Keyspace.Proofs.Action
import Keyspace.Proofs.Record.Image
import Keyspace.Proofs.Storage.Slots
import Keyspace.Store

/-!
# The store over the storage in memory

What each operation of the store answers and leaves behind, in terms of the one slot it
looks at. Everything later cites these equations and never opens an operation again.
-/
namespace Keyspace

/-- The record that a creation stores. -/
def Record.created (r : Record) (now : Timestamp) : Record :=
  { r with revision := ⟨1, some now, some now⟩ }

/-- The record that an update stores. -/
def Record.updated (r : Record) (now : Timestamp) : Record :=
  { r with revision := { r.revision with version := r.revision.version + 1, updatedAt := some now } }

namespace Store

/-- The store over the storage in memory. -/
def inMemory (e : Environment) : Store MemoryStorage := ⟨MemoryStorage.service, e⟩

/-- The physical table of a record type; a table that is not bound has the empty name. -/
def physicalTable (e : Environment) (t : RecordType) : String :=
  (e.tables.get? (tableVariable t.model.table)).getD ""

/-- The slot of a key. -/
def slotOf (e : Environment) (t : RecordType) (key : Item) : Slot :=
  ⟨physicalTable e t, describeKey key⟩

/-- Whether the environment binds the table of a record type. -/
def IsBound (e : Environment) (t : RecordType) : Prop :=
  (e.tables.get? (tableVariable t.model.table)).isSome

variable {e : Environment} {t : RecordType} {now : Timestamp} {r : Record} {s : MemoryStorage}

theorem table_inMemory (h : IsBound e t) : (inMemory e).table t = .ok (physicalTable e t) := by
  unfold IsBound at h
  obtain ⟨name, hname⟩ := Option.isSome_iff_exists.mp h
  show e.tableName (tableVariable t.model.table) = _
  unfold Environment.tableName physicalTable
  rw [hname]
  rfl

theorem table_unbound (h : ¬IsBound e t) : ∃ err, (inMemory e).table t = .error err := by
  have hnone : e.tables.get? (tableVariable t.model.table) = none :=
    Option.not_isSome_iff_eq_none.mp h
  refine ⟨.config
    s!"no table bound to {tableVariable t.model.table} in {Environment.tableNamesVariable}", ?_⟩
  show e.tableName (tableVariable t.model.table) = _
  unfold Environment.tableName
  rw [hnone]

theorem request_put (table : String) (key item : Item) (c : Condition)
    (explain : StorageError → Error) :
    request ((inMemory e).service.put ⟨table, key, item, some c⟩) explain s =
      if c.holds (s.itemAt? ⟨table, describeKey key⟩) then
        (.ok (), s.write ⟨table, describeKey key⟩ item)
      else (.error (explain .conditionFailed), s) := by
  unfold request
  show (let (answer, s') := MemoryStorage.put _ s
        (answer.mapError explain, s')) = _
  rw [MemoryStorage.put_eq]
  simp only [Option.all_some]
  split <;> rfl

theorem request_delete (table : String) (key : Item) (attributeName : String)
    (explain : StorageError → Error) :
    request ((inMemory e).service.delete ⟨table, key, some (.present attributeName)⟩) explain s =
      match s.itemAt? ⟨table, describeKey key⟩ with
      | some item =>
        if item.contains attributeName then
          (.ok (some item), s.remove ⟨table, describeKey key⟩)
        else (.error (explain .conditionFailed), s)
      | none => (.error (explain .conditionFailed), s) := by
  unfold request
  show (let (answer, s') := MemoryStorage.delete ⟨table, key, some (.present attributeName)⟩ s
        (answer.mapError explain, s')) = _
  rw [MemoryStorage.delete_eq]
  simp only [Option.all_some, Condition.holds]
  cases s.itemAt? ⟨table, describeKey key⟩ with
  | none => rfl
  | some item =>
    by_cases h : item.contains attributeName = true
    · simp only [Option.any_some, h, if_true]
      rfl
    · simp only [Option.any_some, h, if_false, Bool.false_eq_true]
      rfl

/-- Writes a record as it is where no item has the partition attribute. -/
def insert {σ : Type} (store : Store σ) (t : RecordType) (r : Record) : Action σ Record := do
  let table ← store.table t
  let condition := Condition.absent t.model.primaryKey.partitionKey.attributeName
  request (store.service.put ⟨table, t.key r, t.toItem r, some condition⟩)
    (writeError (.alreadyExists t.model.name (describeKey (t.key r))))
  pure r

/-- A creation prepares a record and writes it in its first version. -/
theorem create_prepared {σ : Type} {store : Store σ} {prepared : Record}
    (h : t.beforeCreate now r = .ok prepared) :
    store.create t now r = store.insert t (prepared.created now) := by
  unfold create
  rw [h]
  rfl

/-- A creation that cannot give the expiry field its default makes no request. -/
theorem create_unprepared {σ : Type} {store : Store σ} {s : σ} {err : Error}
    (h : t.beforeCreate now r = .error err) : store.create t now r s = (.error err, s) := by
  unfold create
  simp only [Action.bind_apply, Action.lift_apply, h]

theorem insert_apply (hbound : IsBound e t) :
    (inMemory e).insert t r s =
      if (s.itemAt? (slotOf e t (t.key r))).any
          (·.contains t.model.primaryKey.partitionKey.attributeName) then
        (.error (.alreadyExists t.model.name (slotOf e t (t.key r)).key), s)
      else (.ok r, s.write (slotOf e t (t.key r)) (t.toItem r)) := by
  unfold insert
  simp only [Action.bind_apply, Action.lift_apply, table_inMemory hbound, request_put,
    Condition.holds]
  unfold slotOf
  by_cases hany : (s.itemAt? ⟨physicalTable e t, describeKey (t.key r)⟩).any
      (·.contains t.model.primaryKey.partitionKey.attributeName) = true
  · simp only [hany, Bool.not_true, Bool.false_eq_true, if_false, if_true]
    rfl
  · simp only [hany, Bool.not_false, if_true, Bool.false_eq_true, if_false]
    rfl

theorem create_apply {prepared : Record} (hbound : IsBound e t)
    (hprepared : t.beforeCreate now r = .ok prepared) :
    (inMemory e).create t now r s =
      if (s.itemAt? (slotOf e t (t.key prepared))).any
          (·.contains t.model.primaryKey.partitionKey.attributeName) then
        (.error (.alreadyExists t.model.name (slotOf e t (t.key prepared)).key), s)
      else (.ok (prepared.created now),
        s.write (slotOf e t (t.key prepared)) (t.toItem (prepared.created now))) := by
  rw [create_prepared hprepared, insert_apply hbound]
  rfl

theorem update_ledger (h : t.model.isLedger = true) :
    (inMemory e).update t now r s =
      (.error (.unexpected s!"{t.model.name} is a ledger model and cannot be updated"), s) := by
  unfold update
  rw [if_pos h]
  simp only [Action.bind_apply, Action.throw_apply]

theorem update_last_version (hledger : t.model.isLedger = false)
    (h : fitsInt64 (r.revision.version + 1) = false) :
    (inMemory e).update t now r s = (.error (.fault "version out of range"), s) := by
  unfold update
  rw [if_neg (by simp [hledger])]
  simp only [Action.bind_apply, h, Bool.not_false, if_true, Action.throw_apply]

theorem update_apply (hbound : IsBound e t) (hledger : t.model.isLedger = false)
    (hfits : fitsInt64 (r.revision.version + 1) = true) :
    (inMemory e).update t now r s =
      if Condition.storedVersion? (s.itemAt? (slotOf e t (t.key r))) = some r.revision.version then
        (.ok (r.updated now), s.write (slotOf e t (t.key r)) (t.toItem (r.updated now)))
      else (.error (.optimisticLocking t.model.name (slotOf e t (t.key r)).key r.revision.version),
        s) := by
  unfold update
  rw [if_neg (by simp [hledger])]
  simp only [Action.bind_apply, Action.pure_apply, hfits, Bool.not_true, Bool.false_eq_true,
    if_false, Action.lift_apply, table_inMemory hbound, request_put, Condition.holds, beq_iff_eq]
  have hkey : t.key { r with revision := { r.revision with
      version := r.revision.version + 1, updatedAt := some now } } = t.key r := rfl
  unfold slotOf
  rw [hkey]
  by_cases hversion : Condition.storedVersion?
      (s.itemAt? ⟨physicalTable e t, describeKey (t.key r)⟩) = some r.revision.version
  · simp only [hversion, if_true]
    rfl
  · simp only [hversion, if_false]
    rfl

theorem save_apply (r : Record) :
    (inMemory e).save t now r s =
      if r.revision.isPersisted then (inMemory e).update t now r s
      else (inMemory e).create t now r s := by
  unfold save
  split <;> rfl

theorem delete_apply (hbound : IsBound e t) (key : Item) :
    (inMemory e).delete t key s =
      match s.itemAt? (slotOf e t key) with
      | some item =>
        if item.contains t.model.primaryKey.partitionKey.attributeName then
          (t.unmarshal item, s.remove (slotOf e t key))
        else (.error (notFound t key), s)
      | none => (.error (notFound t key), s) := by
  unfold delete
  simp only [Action.bind_apply, Action.lift_apply, table_inMemory hbound, request_delete]
  unfold slotOf
  cases s.itemAt? ⟨physicalTable e t, describeKey key⟩ with
  | none => rfl
  | some item =>
    by_cases h : item.contains t.model.primaryKey.partitionKey.attributeName = true
    · simp only [h, if_true, Action.lift_apply]
    · simp only [h, if_false, Bool.false_eq_true]
      rfl

theorem find_apply (hbound : IsBound e t) (key : Item) :
    (inMemory e).find t key s = ((s.itemAt? (slotOf e t key)).mapM t.unmarshal, s) := by
  unfold find
  simp only [Action.bind_apply, Action.lift_apply, table_inMemory hbound, request]
  unfold slotOf
  show (s.itemAt? ⟨physicalTable e t, describeKey key⟩).mapM
    (fun item => (liftM (t.unmarshal item) : Action MemoryStorage Record)) s = _
  cases s.itemAt? ⟨physicalTable e t, describeKey key⟩ with
  | none => rfl
  | some item =>
    simp only [Option.mapM_some, map_eq_pure_bind, Action.bind_apply, Action.lift_apply]
    cases t.unmarshal item <;> rfl

/-! ## Without a table

Where the table of a record type is not bound, every operation fails, and with the same error
over every storage. -/

theorem create_unbound (h : ¬IsBound e t) (now : Timestamp) (r : Record) :
    ∃ err, ∀ s, (inMemory e).create t now r s = (.error err, s) := by
  obtain ⟨err, htable⟩ := table_unbound h
  cases hprepared : t.beforeCreate now r with
  | error unprepared => exact ⟨unprepared, fun s => create_unprepared hprepared⟩
  | ok prepared =>
    refine ⟨err, fun s => ?_⟩
    unfold create
    simp only [Action.bind_apply, Action.lift_apply, hprepared, htable]

theorem update_unbound (h : ¬IsBound e t) (now : Timestamp) (r : Record) :
    ∃ err, ∀ s, (inMemory e).update t now r s = (.error err, s) := by
  obtain ⟨err, htable⟩ := table_unbound h
  cases hledger : t.model.isLedger with
  | true => exact ⟨_, fun s => update_ledger hledger⟩
  | false =>
    cases hfits : fitsInt64 (r.revision.version + 1) with
    | false => exact ⟨_, fun s => update_last_version hledger hfits⟩
    | true =>
      refine ⟨err, fun s => ?_⟩
      unfold update
      rw [if_neg (by simp [hledger])]
      simp only [Action.bind_apply, hfits, Bool.not_true, Bool.false_eq_true, if_false,
        Action.lift_apply, htable]

theorem delete_unbound (h : ¬IsBound e t) (key : Item) :
    ∃ err, ∀ s, (inMemory e).delete t key s = (.error err, s) := by
  obtain ⟨err, htable⟩ := table_unbound h
  refine ⟨err, fun s => ?_⟩
  unfold delete
  simp only [Action.bind_apply, Action.lift_apply, htable]

theorem find_unbound (h : ¬IsBound e t) (key : Item) :
    ∃ err, ∀ s, (inMemory e).find t key s = (.error err, s) := by
  obtain ⟨err, htable⟩ := table_unbound h
  refine ⟨err, fun s => ?_⟩
  unfold find
  simp only [Action.bind_apply, Action.lift_apply, htable]

end Store

end Keyspace
