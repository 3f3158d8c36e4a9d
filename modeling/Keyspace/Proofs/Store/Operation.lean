import Keyspace.Proofs.Blueprint.Accepted
import Keyspace.Proofs.Store.ExpiryDefaults

/-!
# Operations on slots

An operation of a client addresses one slot. While every image in the storage carries the
partition attribute of each record type of its table, an operation has one of four effects:
it creates an item where none was, updates one at the expected version, removes what it
addresses, or changes nothing.
-/
namespace Keyspace

/-- Every table of the blueprint has a physical name, and each its own. -/
structure Environment.Binds (e : Environment) (b : Blueprint) : Prop where
  bound : ∀ t ∈ b.tables, (e.tables.get? (tableVariable t.name)).isSome
  distinct : ∀ t ∈ b.tables, ∀ u ∈ b.tables,
    e.tables.get? (tableVariable t.name) = e.tables.get? (tableVariable u.name) → t.name = u.name

namespace RecordType

/-- The default of the expiry field, if there is one, is a time the clock can show. -/
def HasExpiryInRange (t : RecordType) (now : Timestamp) : Prop :=
  ∀ field seconds, t.model.expiryDefault? = some (field, seconds) →
    (now.plusSeconds? seconds).isSome

/-- An expiry field that gets a default is optional, hence no part of the key. -/
theorem key_beforeCreate {t : RecordType} (ht : Blueprint.KeyFieldsRequired t.model)
    {now : Timestamp} {r prepared : Record} (h : t.beforeCreate now r = .ok prepared) :
    t.key prepared = t.key r := by
  unfold beforeCreate at h
  split at h
  · cases h; rfl
  · next field seconds hdefault =>
    split at h
    · cases h; rfl
    · split at h
      · cases h
        refine t.key_congr fun part hpart name hname => ?_
        obtain ⟨f, hfound, hrequired⟩ := ht part hpart name hname
        have hne : name ≠ field := by
          rintro rfl
          have hoptional := Model.expiryDefault?_optional hdefault hfound
          rw [hrequired] at hoptional
          cases hoptional
        exact Dict.get?_insert_ne _ _ hne
      · cases h

/-- The record with its expiry field, where it is unset and the model gives it a default, set to the
time of the clock and the default. -/
def withExpiry (t : RecordType) (now : Timestamp) (r : Record) : Record :=
  match t.model.expiryDefault? with
  | none => r
  | some (field, seconds) =>
    if (r.get? field).isSome then r else r.set field (.timestamp (now.after seconds))

/-- Preparing a record is setting its expiry, if the clock can show it. -/
theorem beforeCreate_eq_withExpiry {t : RecordType} {now : Timestamp} (h : t.HasExpiryInRange now)
    (r : Record) : t.beforeCreate now r = .ok (t.withExpiry now r) := by
  unfold withExpiry
  cases hdefault : t.model.expiryDefault? with
  | none => exact beforeCreate_of_none hdefault
  | some default =>
    obtain ⟨field, seconds⟩ := default
    have hrange : Timestamp.inRange (now.seconds + seconds) = true := by
      have hlater := h field seconds hdefault
      rw [Timestamp.plusSeconds?_eq] at hlater
      by_contra hbeyond
      rw [if_neg hbeyond] at hlater
      cases hlater
    dsimp only
    split
    · next hset =>
      unfold beforeCreate
      rw [hdefault]
      exact if_pos hset
    · next hunset =>
      rw [beforeCreate_of_unset hdefault (Option.not_isSome_iff_eq_none.mp hunset), if_pos hrange]

end RecordType

namespace Store

/-- What a client asks the store to do. -/
inductive Operation where
  | create (t : RecordType) (now : Timestamp) (r : Record)
  | update (t : RecordType) (now : Timestamp) (r : Record)
  | save (t : RecordType) (now : Timestamp) (r : Record)
  | delete (t : RecordType) (key : Item)

namespace Operation

def type : Operation → RecordType
  | create t _ _ => t
  | update t _ _ => t
  | save t _ _ => t
  | delete t _ => t

/-- The key that an operation addresses. -/
def key : Operation → Item
  | create t _ r => t.key r
  | update t _ r => t.key r
  | save t _ r => t.key r
  | delete _ key => key

def slot (e : Environment) (op : Operation) : Slot := slotOf e op.type op.key

/-- Whether an operation is a creation, as saving a record never written is. -/
def isCreation : Operation → Bool
  | create _ _ _ => true
  | save _ _ r => !r.revision.isPersisted
  | _ => false

/-- Whether an operation is an update, as saving a record written before is. -/
def isUpdate : Operation → Bool
  | update _ _ _ => true
  | save _ _ r => r.revision.isPersisted
  | _ => false

/-- No operation creates and updates at once. -/
theorem isCreation_of_isUpdate {op : Operation} (h : op.isUpdate = true) :
    op.isCreation = false := by
  cases op with
  | create _ _ _ => cases h
  | update _ _ _ => rfl
  | save _ _ r => simpa [isCreation, isUpdate] using h
  | delete _ _ => rfl

/-- The version of the record an operation comes with. -/
def version : Operation → Int
  | create _ _ r => r.revision.version
  | update _ _ r => r.revision.version
  | save _ _ r => r.revision.version
  | delete _ _ => 0

/-- Carries out an operation over the storage in memory. -/
def run (e : Environment) : Operation → Action MemoryStorage Record
  | create t now r => (inMemory e).create t now r
  | update t now r => (inMemory e).update t now r
  | save t now r => (inMemory e).save t now r
  | delete t key => (inMemory e).delete t key

end Operation

/-- Every item in the table of a record type of the blueprint has the type's partition
attribute. -/
def CarriesPartition (b : Blueprint) (e : Environment) (s : MemoryStorage) : Prop :=
  ∀ t : RecordType, t.model ∈ b.models → ∀ key item, s.itemAt? ⟨physicalTable e t, key⟩ = some item →
    item.contains t.model.primaryKey.partitionKey.attributeName = true

variable {b : Blueprint} {e : Environment} {s : MemoryStorage} {t : RecordType} {now : Timestamp}
  {r : Record}

theorem isBound_of_binds (hb : b.IsSound) (he : e.Binds b) (ht : t.model ∈ b.models) :
    IsBound e t := by
  obtain ⟨table, htable, hname, -⟩ := hb.tableOf t.model ht
  have hbound := he.bound table htable
  rw [hname] at hbound
  exact hbound

/-- Record types that share a physical table share its partition attribute. -/
theorem partitionKey_of_physicalTable (hb : b.IsSound) (he : e.Binds b) {t' : RecordType}
    (ht : t.model ∈ b.models) (ht' : t'.model ∈ b.models)
    (h : physicalTable e t = physicalTable e t') :
    t.model.primaryKey.partitionKey.attributeName =
      t'.model.primaryKey.partitionKey.attributeName := by
  obtain ⟨table, htable, hname, -⟩ := hb.tableOf t.model ht
  obtain ⟨table', htable', hname', -⟩ := hb.tableOf t'.model ht'
  obtain ⟨name, hbound⟩ := Option.isSome_iff_exists.mp (he.bound table htable)
  obtain ⟨name', hbound'⟩ := Option.isSome_iff_exists.mp (he.bound table' htable')
  unfold physicalTable at h
  rw [← hname, ← hname', hbound, hbound', Option.getD_some, Option.getD_some] at h
  refine hb.partitionKey_eq ht ht' ?_
  rw [← hname, ← hname']
  exact he.distinct table htable table' htable' (by rw [hbound, hbound', h])

/-- With the partition attribute everywhere, a creation is refused by any item at all. -/
theorem any_contains_iff (hs : CarriesPartition b e s) (ht : t.model ∈ b.models) (key : Item) :
    (s.itemAt? (slotOf e t key)).any
        (·.contains t.model.primaryKey.partitionKey.attributeName) = true ↔
      (s.itemAt? (slotOf e t key)).isSome = true := by
  cases hitem : s.itemAt? (slotOf e t key) with
  | none => simp
  | some item =>
    have hcontains := hs t ht (describeKey key) item hitem
    simp [hcontains]

theorem create_effect (hb : b.IsSound) (he : e.Binds b) (hs : CarriesPartition b e s)
    (ht : t.model ∈ b.models) {prepared : Record} (hprepared : t.beforeCreate now r = .ok prepared) :
    (inMemory e).create t now r s =
      if (s.itemAt? (slotOf e t (t.key r))).isSome then
        (.error (.alreadyExists t.model.name (slotOf e t (t.key r)).key), s)
      else (.ok (prepared.created now),
        s.write (slotOf e t (t.key r)) (t.toItem (prepared.created now))) := by
  have hkey := RecordType.key_beforeCreate (hb.keyFieldsRequired _ ht) hprepared
  rw [create_apply (isBound_of_binds hb he ht) hprepared, hkey]
  simp only [any_contains_iff hs ht]

/-- All that a creation can do. -/
theorem create_cases (hb : b.IsSound) (he : e.Binds b) (hs : CarriesPartition b e s)
    (ht : t.model ∈ b.models) (now : Timestamp) (r : Record) :
    (∃ created : Record, created.revision.version = 1 ∧ s.itemAt? (slotOf e t (t.key r)) = none ∧
      (inMemory e).create t now r s =
        (.ok created, s.write (slotOf e t (t.key r)) (t.toItem created))) ∨
    (∃ err, (inMemory e).create t now r s = (.error err, s)) := by
  cases hprepared : t.beforeCreate now r with
  | error err => exact Or.inr ⟨err, create_unprepared hprepared⟩
  | ok prepared =>
    rw [create_effect hb he hs ht hprepared]
    cases hitem : s.itemAt? (slotOf e t (t.key r)) with
    | some item => exact Or.inr ⟨_, rfl⟩
    | none => exact Or.inl ⟨prepared.created now, rfl, rfl, rfl⟩

/-- All that an update can do. -/
theorem update_cases (hb : b.IsSound) (he : e.Binds b) (ht : t.model ∈ b.models)
    (now : Timestamp) (r : Record) :
    (fitsInt64 (r.revision.version + 1) = true ∧
      Condition.storedVersion? (s.itemAt? (slotOf e t (t.key r))) = some r.revision.version ∧
      (inMemory e).update t now r s =
        (.ok (r.updated now), s.write (slotOf e t (t.key r)) (t.toItem (r.updated now)))) ∨
    (∃ err, (inMemory e).update t now r s = (.error err, s)) := by
  cases hledger : t.model.isLedger with
  | true => exact Or.inr ⟨_, update_ledger hledger⟩
  | false =>
    cases hfits : fitsInt64 (r.revision.version + 1) with
    | false => exact Or.inr ⟨_, update_last_version hledger hfits⟩
    | true =>
      rw [update_apply (isBound_of_binds hb he ht) hledger hfits]
      split
      · next hversion => exact Or.inl ⟨rfl, hversion, rfl⟩
      · exact Or.inr ⟨_, rfl⟩

/-- All that a removal can do. -/
theorem delete_cases (hb : b.IsSound) (he : e.Binds b) (ht : t.model ∈ b.models) (key : Item) :
    ((inMemory e).delete t key s).2 = s.remove (slotOf e t key) ∨
      ((inMemory e).delete t key s).2 = s := by
  rw [delete_apply (isBound_of_binds hb he ht)]
  split
  · split
    · exact Or.inl rfl
    · exact Or.inr rfl
  · exact Or.inr rfl

namespace Operation

/-- What an operation did, and to which state it led. -/
inductive Effect (e : Environment) (op : Operation) (s : MemoryStorage) :
    Result Record → MemoryStorage → Prop
  | created (r : Record) (isCreation : op.isCreation = true) (isNew : s.itemAt? (op.slot e) = none)
      (first : r.revision.version = 1) :
      Effect e op s (.ok r) (s.write (op.slot e) (op.type.toItem r))
  | updated (r : Record) (isUpdate : op.isUpdate = true)
      (expected : Condition.storedVersion? (s.itemAt? (op.slot e)) = some op.version)
      (next : r.revision.version = op.version + 1) (fits : fitsInt64 r.revision.version = true) :
      Effect e op s (.ok r) (s.write (op.slot e) (op.type.toItem r))
  | removed (answer : Result Record) (isOther : op.isCreation = false ∧ op.isUpdate = false) :
      Effect e op s answer (s.remove (op.slot e))
  | unchanged (answer : Result Record)
      (isOther : (op.isCreation = false ∧ op.isUpdate = false) ∨ ∃ err, answer = .error err) :
      Effect e op s answer s

theorem effect_of_create (hb : b.IsSound) (he : e.Binds b) (hs : CarriesPartition b e s)
    {op : Operation} (hop : op.type.model ∈ b.models) (hkind : op.isCreation = true)
    (now : Timestamp) {r : Record} (hkey : op.key = op.type.key r) :
    Effect e op s ((inMemory e).create op.type now r s).1
      ((inMemory e).create op.type now r s).2 := by
  have hslot : slotOf e op.type (op.type.key r) = op.slot e := by rw [slot, hkey]
  rcases create_cases hb he hs hop now r with ⟨created, hfirst, hnone, hrun⟩ | ⟨err, hrun⟩
  · rw [hrun, hslot]
    rw [hslot] at hnone
    exact Effect.created created hkind hnone hfirst
  · rw [hrun]
    exact Effect.unchanged _ (Or.inr ⟨err, rfl⟩)

theorem effect_of_update (hb : b.IsSound) (he : e.Binds b) {op : Operation}
    (hop : op.type.model ∈ b.models) (hkind : op.isUpdate = true) (now : Timestamp) {r : Record}
    (hkey : op.key = op.type.key r) (hversion : op.version = r.revision.version) :
    Effect e op s ((inMemory e).update op.type now r s).1
      ((inMemory e).update op.type now r s).2 := by
  have hslot : slotOf e op.type (op.type.key r) = op.slot e := by rw [slot, hkey]
  rcases update_cases (s := s) hb he hop now r with ⟨hfits, hstored, hrun⟩ | ⟨err, hrun⟩
  · rw [hrun, hslot]
    rw [hslot, ← hversion] at hstored
    exact Effect.updated _ hkind hstored (by rw [hversion]; rfl) hfits
  · rw [hrun]
    exact Effect.unchanged _ (Or.inr ⟨err, rfl⟩)

theorem run_effect (hb : b.IsSound) (he : e.Binds b) (hs : CarriesPartition b e s)
    (op : Operation) (hop : op.type.model ∈ b.models) :
    Effect e op s (op.run e s).1 (op.run e s).2 := by
  cases op with
  | create t now r => exact effect_of_create hb he hs hop rfl now rfl
  | update t now r => exact effect_of_update hb he hop rfl now rfl rfl
  | save t now r =>
    show Effect e (save t now r) s ((inMemory e).save t now r s).1
      ((inMemory e).save t now r s).2
    rw [save_apply]
    cases hpersisted : r.revision.isPersisted with
    | true =>
      have hkind : (save t now r).isUpdate = true := hpersisted
      exact effect_of_update hb he hop hkind now rfl rfl
    | false =>
      have hkind : (save t now r).isCreation = true := by simp [isCreation, hpersisted]
      exact effect_of_create hb he hs hop hkind now rfl
  | delete t key =>
    show Effect e (delete t key) s ((inMemory e).delete t key s).1
      ((inMemory e).delete t key s).2
    rcases delete_cases (s := s) (t := t) hb he hop key with hstate | hstate
    · rw [hstate]
      exact Effect.removed _ ⟨rfl, rfl⟩
    · rw [hstate]
      exact Effect.unchanged _ (Or.inl ⟨rfl, rfl⟩)

end Operation

end Store

end Keyspace
