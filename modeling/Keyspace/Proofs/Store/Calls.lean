import Keyspace.Proofs.Store.Operation

/-!
# Calls of the store

A call is anything that a client can ask the store to do, reading included. It makes at most
one request, for one slot, and has one of six outcomes: it fails and changes nothing, it finds
nothing, it reads an item, it puts the image of a record where no item has the partition
attribute or where one has the expected version, or it takes an item away. A trace is any
interleaving of the calls of clients, from any storage on.
-/
namespace Keyspace

namespace RecordType

/-- The record that a creation stores, but for its revision. -/
def prepared (t : RecordType) (now : Timestamp) (r : Record) : Record :=
  (t.beforeCreate now r).toOption.getD r

theorem prepared_eq {t : RecordType} {now : Timestamp} {r prepared : Record}
    (h : t.beforeCreate now r = .ok prepared) : t.prepared now r = prepared := by
  rw [RecordType.prepared, h]
  rfl

end RecordType

namespace Store

/-- What a client asks the store to do. -/
inductive Call where
  | find (t : RecordType) (key : Item)
  | get (t : RecordType) (key : Item)
  | perform (op : Operation)

namespace Call

def type : Call → RecordType
  | find t _ => t
  | get t _ => t
  | perform op => op.type

/-- The key of the request that a call makes; a creation prepares its record first. -/
def key : Call → Item
  | find _ key => key
  | get _ key => key
  | perform (.create t now r) => t.key (t.prepared now r)
  | perform (.save t now r) =>
    if r.revision.isPersisted then t.key r else t.key (t.prepared now r)
  | perform op => op.key

def slot (e : Environment) (call : Call) : Slot := slotOf e call.type call.key

def isCreation : Call → Bool
  | perform op => op.isCreation
  | _ => false

def isUpdate : Call → Bool
  | perform op => op.isUpdate
  | _ => false

def isRemoval : Call → Bool
  | perform (.delete _ _) => true
  | _ => false

def isReading : Call → Bool
  | perform _ => false
  | _ => true

theorem isCreation_of_isUpdate {call : Call} (h : call.isUpdate = true) :
    call.isCreation = false := by
  cases call with
  | find _ _ => rfl
  | get _ _ => rfl
  | perform op => exact Operation.isCreation_of_isUpdate h

theorem isRemoval_other {call : Call} (h : call.isRemoval = true) :
    call.isCreation = false ∧ call.isUpdate = false := by
  cases call with
  | find _ _ => cases h
  | get _ _ => cases h
  | perform op => cases op <;> first | exact ⟨rfl, rfl⟩ | cases h

theorem isRemoval_eq_false {call : Call} (h : call.isCreation = true ∨ call.isUpdate = true) :
    call.isRemoval = false := by
  rw [Bool.eq_false_iff]
  intro hremoval
  obtain ⟨hcreation, hupdate⟩ := isRemoval_other hremoval
  rw [hcreation, hupdate] at h
  exact h.elim Bool.false_ne_true Bool.false_ne_true

/-- Carries out a call over the storage in memory. -/
def run (e : Environment) : Call → Action MemoryStorage (Option Record)
  | find t key => (inMemory e).find t key
  | get t key => some <$> (inMemory e).get t key
  | perform op => some <$> op.run e

/-- What a call answered, and which storage it left behind. -/
inductive Outcome (e : Environment) (s : MemoryStorage) (call : Call) :
    Result (Option Record) → MemoryStorage → Prop
  | failed (err : Error) : Outcome e s call (.error err) s
  | missed : Outcome e s call (.ok none) s
  | read {item : Item} {r : Record} (found : s.itemAt? (call.slot e) = some item)
      (reads : call.type.unmarshal item = .ok r) : Outcome e s call (.ok (some r)) s
  | created {r : Record} (isCreation : call.isCreation = true)
      (isFree : (s.itemAt? (call.slot e)).any
        (·.contains call.type.model.primaryKey.partitionKey.attributeName) = false)
      (first : r.revision.version = 1) :
      Outcome e s call (.ok (some r)) (s.write (call.slot e) (call.type.toItem r))
  | updated {r : Record} {version : Int} (isUpdate : call.isUpdate = true)
      (notLedger : call.type.model.isLedger = false)
      (expected : Condition.storedVersion? (s.itemAt? (call.slot e)) = some version)
      (next : r.revision.version = version + 1) (fits : fitsInt64 r.revision.version = true) :
      Outcome e s call (.ok (some r)) (s.write (call.slot e) (call.type.toItem r))
  | removed {item : Item} (isRemoval : call.isRemoval = true)
      (found : s.itemAt? (call.slot e) = some item)
      (contains : item.contains call.type.model.primaryKey.partitionKey.attributeName = true) :
      Outcome e s call ((call.type.unmarshal item).map some) (s.remove (call.slot e))

variable {e : Environment} {s : MemoryStorage}

theorem run_get (t : RecordType) (key : Item) (s : MemoryStorage) :
    (get t key).run e s = match (inMemory e).find t key s with
      | (.ok (some r), s) => (.ok (some r), s)
      | (.ok none, s) => (.error (notFound t key), s)
      | (.error err, s) => (.error err, s) := by
  show (some <$> (inMemory e).get t key : Action MemoryStorage (Option Record)) s = _
  rw [Action.map_apply, Store.get, Action.bind_apply]
  cases (inMemory e).find t key s with
  | mk answer s' =>
    cases answer with
    | error err => rfl
    | ok found => cases found <;> rfl

theorem run_perform (op : Operation) (s : MemoryStorage) :
    (perform op).run e s = ((op.run e s).1.map some, (op.run e s).2) :=
  Action.map_apply some (op.run e) s

theorem run_perform_of_eq {op : Operation} {answer : Result Record} {s' : MemoryStorage}
    (h : op.run e s = (answer, s')) : (perform op).run e s = (answer.map some, s') := by
  rw [run_perform, h]

/-- Without a table a call fails, and with the same error over every storage. -/
theorem run_unbound {call : Call} (h : ¬IsBound e call.type) :
    ∃ err, ∀ s, call.run e s = (.error err, s) := by
  cases call with
  | find t key => exact find_unbound h key
  | get t key =>
    obtain ⟨err, hrun⟩ := find_unbound (t := t) h key
    exact ⟨err, fun s => by rw [run_get, hrun]⟩
  | perform op =>
    have hop : ∃ err, ∀ s, op.run e s = (.error err, s) := by
      cases op with
      | create t now r => exact create_unbound h now r
      | update t now r => exact update_unbound h now r
      | save t now r =>
        show ∃ err, ∀ s, (inMemory e).save t now r s = (.error err, s)
        simp only [save_apply]
        split
        · exact update_unbound h now r
        · exact create_unbound h now r
      | delete t key => exact delete_unbound h key
    obtain ⟨err, hrun⟩ := hop
    exact ⟨err, fun s => run_perform_of_eq (hrun s)⟩

theorem isBound_of_run {call : Call} {answer : Option Record} {s' : MemoryStorage}
    (h : call.run e s = (.ok answer, s')) : IsBound e call.type := by
  by_contra hbound
  obtain ⟨err, hrun⟩ := run_unbound hbound
  rw [hrun] at h
  cases h

theorem outcome_of_eq {call : Call} {answer : Result (Option Record)} {s' : MemoryStorage}
    (h : call.run e s = (answer, s')) (ho : Outcome e s call answer s') :
    Outcome e s call (call.run e s).1 (call.run e s).2 := by
  rw [h]
  exact ho

/-- All that finding can do, and so getting, which takes nothing for a failure. -/
theorem outcome_of_find {t : RecordType} (hbound : IsBound e t) (key : Item) :
    Outcome e s (find t key) ((find t key).run e s).1 ((find t key).run e s).2 ∧
      Outcome e s (get t key) ((get t key).run e s).1 ((get t key).run e s).2 := by
  have hget := run_get (e := e) t key s
  have hrun := find_apply (s := s) hbound key
  cases hitem : s.itemAt? (slotOf e t key) with
  | none =>
    rw [hitem] at hrun
    rw [hrun] at hget
    exact ⟨outcome_of_eq hrun .missed, outcome_of_eq hget (.failed _)⟩
  | some item =>
    rw [hitem, Option.mapM_some] at hrun
    cases hread : t.unmarshal item with
    | error err =>
      rw [hread] at hrun
      rw [hrun] at hget
      exact ⟨outcome_of_eq hrun (.failed err), outcome_of_eq hget (.failed err)⟩
    | ok r =>
      rw [hread] at hrun
      rw [hrun] at hget
      exact ⟨outcome_of_eq hrun (.read hitem hread), outcome_of_eq hget (.read hitem hread)⟩

theorem outcome_of_create (call : Call) {now : Timestamp} {r : Record}
    (hbound : IsBound e call.type) (hkind : call.isCreation = true)
    (hkey : call.key = call.type.key (call.type.prepared now r)) :
    Outcome e s call (((inMemory e).create call.type now r s).1.map some)
      ((inMemory e).create call.type now r s).2 := by
  cases hprepared : call.type.beforeCreate now r with
  | error err =>
    rw [create_unprepared hprepared]
    exact .failed err
  | ok prepared =>
    have hslot : slotOf e call.type (call.type.key prepared) = call.slot e := by
      rw [slot, hkey, RecordType.prepared_eq hprepared]
    rw [create_apply hbound hprepared, hslot]
    split
    · exact .failed _
    · next hfree => exact .created hkind (Bool.not_eq_true _ ▸ hfree) rfl

theorem outcome_of_update (call : Call) {now : Timestamp} {r : Record}
    (hbound : IsBound e call.type) (hkind : call.isUpdate = true)
    (hkey : call.key = call.type.key r) :
    Outcome e s call (((inMemory e).update call.type now r s).1.map some)
      ((inMemory e).update call.type now r s).2 := by
  have hslot : slotOf e call.type (call.type.key r) = call.slot e := by rw [slot, hkey]
  cases hledger : call.type.model.isLedger with
  | true =>
    rw [update_ledger hledger]
    exact .failed _
  | false =>
    cases hfits : fitsInt64 (r.revision.version + 1) with
    | false =>
      rw [update_last_version hledger hfits]
      exact .failed _
    | true =>
      rw [update_apply hbound hledger hfits, hslot]
      split
      · next hversion => exact .updated hkind hledger hversion rfl hfits
      · exact .failed _

/-- A removal that finds an item with the partition attribute takes it away, and reads it. -/
theorem run_removal {call : Call} {item : Item} (hbound : IsBound e call.type)
    (hkind : call.isRemoval = true) (hfound : s.itemAt? (call.slot e) = some item)
    (hcontains : item.contains call.type.model.primaryKey.partitionKey.attributeName = true) :
    call.run e s = ((call.type.unmarshal item).map some, s.remove (call.slot e)) := by
  cases call with
  | find _ _ => cases hkind
  | get _ _ => cases hkind
  | perform op =>
    cases op with
    | create _ _ _ => cases hkind
    | update _ _ _ => cases hkind
    | save _ _ _ => cases hkind
    | delete t key =>
      have hdelete := delete_apply (s := s) (t := t) hbound key
      rw [show s.itemAt? (slotOf e t key) = some item from hfound] at hdelete
      exact run_perform_of_eq (hdelete.trans (if_pos hcontains))

theorem outcome_of_delete {t : RecordType} (hbound : IsBound e t) (key : Item) :
    Outcome e s (perform (.delete t key)) (((inMemory e).delete t key s).1.map some)
      ((inMemory e).delete t key s).2 := by
  rw [delete_apply hbound]
  cases hitem : s.itemAt? (slotOf e t key) with
  | none => exact .failed _
  | some item =>
    dsimp only
    split
    · next hcontains => exact .removed rfl hitem hcontains
    · exact .failed _

/-- Whatever is stored, a call has one of the six outcomes. -/
theorem run_outcome (call : Call) (e : Environment) (s : MemoryStorage) :
    Outcome e s call (call.run e s).1 (call.run e s).2 := by
  by_cases hbound : IsBound e call.type
  · cases call with
    | find t key => exact (outcome_of_find hbound key).1
    | get t key => exact (outcome_of_find hbound key).2
    | perform op =>
      rw [run_perform]
      cases op with
      | create t now r => exact outcome_of_create (perform (.create t now r)) hbound rfl rfl
      | update t now r => exact outcome_of_update (perform (.update t now r)) hbound rfl rfl
      | save t now r =>
        show Outcome e s _ (((inMemory e).save t now r s).1.map some)
          ((inMemory e).save t now r s).2
        rw [save_apply]
        split
        · next hpersisted =>
          exact outcome_of_update (perform (.save t now r)) hbound hpersisted
            (if_pos hpersisted)
        · next hnew =>
          exact outcome_of_create (perform (.save t now r)) hbound
            (by simpa [isCreation, Operation.isCreation] using hnew) (if_neg hnew)
      | delete t key => exact outcome_of_delete hbound key
  · obtain ⟨err, hrun⟩ := run_unbound hbound
    exact outcome_of_eq (hrun s) (.failed err)

/-! ## What a call leaves alone -/

theorem sorted_run (call : Call) (hs : s.Sorted) : (call.run e s).2.Sorted := by
  have houtcome := call.run_outcome e s
  generalize call.run e s = outcome at houtcome ⊢
  obtain ⟨answer, s'⟩ := outcome
  cases houtcome with
  | failed err => exact hs
  | missed => exact hs
  | read found reads => exact hs
  | created _ _ _ => exact hs.write _ _
  | updated _ _ _ _ _ => exact hs.write _ _
  | removed _ _ _ => exact hs.remove _

/-- A call changes nothing outside its own slot. -/
theorem itemAt?_run (call : Call) (hs : s.Sorted) {other : Slot} (h : other ≠ call.slot e) :
    (call.run e s).2.itemAt? other = s.itemAt? other := by
  have houtcome := call.run_outcome e s
  generalize call.run e s = outcome at houtcome ⊢
  obtain ⟨answer, s'⟩ := outcome
  cases houtcome with
  | failed err => rfl
  | missed => rfl
  | read found reads => rfl
  | created _ _ _ => exact (s.itemAt?_write _ _ _).trans (if_neg h)
  | updated _ _ _ _ _ => exact (s.itemAt?_write _ _ _).trans (if_neg h)
  | removed _ _ _ => exact (MemoryStorage.itemAt?_remove hs _ _).trans (if_neg h)

/-! ## What a call looks at -/

section Answers

variable {s' : MemoryStorage} {t : RecordType}

theorem create_congr (hbound : IsBound e t) {now : Timestamp} {r : Record}
    (h : s.itemAt? (slotOf e t (t.key (t.prepared now r))) =
      s'.itemAt? (slotOf e t (t.key (t.prepared now r)))) :
    ((inMemory e).create t now r s).1 = ((inMemory e).create t now r s').1 := by
  cases hprepared : t.beforeCreate now r with
  | error err => rw [create_unprepared hprepared, create_unprepared hprepared]
  | ok prepared =>
    rw [RecordType.prepared_eq hprepared] at h
    rw [create_apply hbound hprepared, create_apply hbound hprepared, h]
    split <;> rfl

theorem update_congr (hbound : IsBound e t) {now : Timestamp} {r : Record}
    (h : s.itemAt? (slotOf e t (t.key r)) = s'.itemAt? (slotOf e t (t.key r))) :
    ((inMemory e).update t now r s).1 = ((inMemory e).update t now r s').1 := by
  cases hledger : t.model.isLedger with
  | true => rw [update_ledger hledger, update_ledger hledger]
  | false =>
    cases hfits : fitsInt64 (r.revision.version + 1) with
    | false => rw [update_last_version hledger hfits, update_last_version hledger hfits]
    | true =>
      rw [update_apply hbound hledger hfits, update_apply hbound hledger hfits, h]
      split <;> rfl

theorem delete_congr (hbound : IsBound e t) {key : Item}
    (h : s.itemAt? (slotOf e t key) = s'.itemAt? (slotOf e t key)) :
    ((inMemory e).delete t key s).1 = ((inMemory e).delete t key s').1 := by
  rw [delete_apply hbound, delete_apply hbound, h]
  cases s'.itemAt? (slotOf e t key) with
  | none => rfl
  | some item => dsimp only; split <;> rfl

end Answers

/-- The answer to a call depends on its own slot alone. -/
theorem answer_congr (call : Call) {s' : MemoryStorage}
    (h : s.itemAt? (call.slot e) = s'.itemAt? (call.slot e)) :
    (call.run e s).1 = (call.run e s').1 := by
  by_cases hbound : IsBound e call.type
  · cases call with
    | find t key =>
      show ((inMemory e).find t key s).1 = ((inMemory e).find t key s').1
      have hbound : IsBound e t := hbound
      have hsame : s.itemAt? (slotOf e t key) = s'.itemAt? (slotOf e t key) := h
      rw [find_apply hbound, find_apply hbound, hsame]
    | get t key =>
      have hbound : IsBound e t := hbound
      have hsame : s.itemAt? (slotOf e t key) = s'.itemAt? (slotOf e t key) := h
      rw [run_get, run_get, find_apply hbound, find_apply hbound, hsame]
      cases (s'.itemAt? (slotOf e t key)).mapM t.unmarshal with
      | error err => rfl
      | ok found => cases found <;> rfl
    | perform op =>
      rw [run_perform, run_perform]
      refine congrArg (Except.map some) ?_
      cases op with
      | create t now r => exact create_congr hbound h
      | update t now r => exact update_congr hbound h
      | save t now r =>
        show ((inMemory e).save t now r s).1 = ((inMemory e).save t now r s').1
        rw [save_apply, save_apply]
        rw [slot, key] at h
        split
        · next hpersisted =>
          rw [if_pos hpersisted] at h
          exact update_congr hbound h
        · next hnew =>
          rw [if_neg hnew] at h
          exact create_congr hbound h
      | delete t key => exact delete_congr hbound h
  · obtain ⟨err, hrun⟩ := run_unbound hbound
    rw [hrun, hrun]

/-! ## What a call does to a slot -/

/-- What a slot holds before and after a call, and whether the call changed it. -/
inductive SlotStep (call : Call) : Bool → Option Item → Option Item → Prop
  | kept {current : Option Item} : SlotStep call false current current
  | created {current : Option Item} {r : Record} (isCreation : call.isCreation = true)
      (isFree : current.any
        (·.contains call.type.model.primaryKey.partitionKey.attributeName) = false)
      (first : r.revision.version = 1) : SlotStep call true current (some (call.type.toItem r))
  | updated {current : Option Item} {r : Record} {version : Int} (isUpdate : call.isUpdate = true)
      (notLedger : call.type.model.isLedger = false)
      (expected : Condition.storedVersion? current = some version)
      (next : r.revision.version = version + 1) (fits : fitsInt64 r.revision.version = true) :
      SlotStep call true current (some (call.type.toItem r))
  | removed {item : Item} (isRemoval : call.isRemoval = true) :
      SlotStep call true (some item) none

end Call

/-! ## Traces -/

variable {e : Environment} {s : MemoryStorage}

/-- A call that a client made. -/
structure Turn where
  client : Nat
  call : Call
  answer : Result (Option Record)
  /-- Whether the call took effect, as the count of writes tells. -/
  tookEffect : Bool

/-- Whether a turn changed what a slot holds. -/
def Turn.changes (e : Environment) (slot : Slot) (turn : Turn) : Bool :=
  turn.tookEffect && turn.call.slot e = slot

/-- The turn of a client that calls over a storage. -/
def turn (e : Environment) (client : Nat) (call : Call) (s : MemoryStorage) : Turn :=
  ⟨client, call, (call.run e s).1, (call.run e s).2.writes != s.writes⟩

/-- The logs and storages that calls with a property lead to, with the newest call first. -/
inductive Trace (P : Call → Prop) (e : Environment) (start : MemoryStorage) :
    List Turn → MemoryStorage → Prop
  | start : Trace P e start [] start
  | next {log : List Turn} {s : MemoryStorage} (before : Trace P e start log s) (client : Nat)
      (call : Call) (isAllowed : P call) :
      Trace P e start (turn e client call s :: log) (call.run e s).2

/-- A turn does to a slot what its call can do, and says whether it did anything. -/
theorem slotStep_turn (hs : s.Sorted) (client : Nat) (call : Call) (slot : Slot) :
    call.SlotStep ((turn e client call s).changes e slot) (s.itemAt? slot)
      ((call.run e s).2.itemAt? slot) := by
  by_cases hslot : call.slot e = slot
  · subst hslot
    have hchanges : (turn e client call s).changes e (call.slot e) =
        ((call.run e s).2.writes != s.writes) := by simp [Turn.changes, turn]
    rw [hchanges]
    have houtcome := call.run_outcome e s
    generalize call.run e s = outcome at houtcome ⊢
    obtain ⟨answer, s'⟩ := outcome
    have hquiet : (s.writes != s.writes) = false := bne_self_eq_false _
    have hcounted : (s.writes + 1 != s.writes) = true := by simp
    dsimp only at houtcome ⊢
    cases houtcome with
    | failed err => exact hquiet ▸ .kept
    | missed => exact hquiet ▸ .kept
    | read _ _ => exact hquiet ▸ .kept
    | created hkind hfree hfirst =>
      rw [MemoryStorage.writes_write, hcounted, MemoryStorage.itemAt?_write, if_pos rfl]
      exact .created hkind hfree hfirst
    | updated hkind hledger hexpected hnext hfits =>
      rw [MemoryStorage.writes_write, hcounted, MemoryStorage.itemAt?_write, if_pos rfl]
      exact .updated hkind hledger hexpected hnext hfits
    | removed hkind hfound _ =>
      rw [MemoryStorage.writes_remove, hcounted, hfound, MemoryStorage.itemAt?_remove hs, if_pos rfl]
      exact .removed hkind
  · have hchanges : (turn e client call s).changes e slot = false := by
      simp [Turn.changes, turn, hslot]
    rw [hchanges, call.itemAt?_run hs (Ne.symm hslot)]
    exact .kept

namespace Trace

variable {P : Call → Prop} {start : MemoryStorage} {log : List Turn}

theorem sorted (h : Trace P e start log s) (hstart : start.Sorted) : s.Sorted := by
  induction h with
  | start => exact hstart
  | next _ _ call _ ih => exact call.sorted_run ih

/-- A trace is a trace up to any turn and one from there on. -/
theorem split {newer older : List Turn} (h : Trace P e start (newer ++ older) s) :
    ∃ mid, Trace P e start older mid ∧ Trace P e mid newer s := by
  induction newer generalizing s with
  | nil => exact ⟨s, h, .start⟩
  | cons last newer ih =>
    cases h with
    | next before client call isAllowed =>
      obtain ⟨mid, holder, hnewer⟩ := ih before
      exact ⟨mid, holder, hnewer.next client call isAllowed⟩

end Trace

end Store

end Keyspace
