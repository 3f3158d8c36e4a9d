import Keyspace.Proofs.Store.Operation

/-!
# Histories of a store

A history is any sequence of creations, updates, saves and removals that clients ask for,
from an empty storage on; its log keeps the operations with the newest first. The version of
a stored item counts the updates of its slot since the creation that put it there, whatever
else happened in between, and so two updates from one version need a creation between them.
-/
namespace Keyspace.Store

/-- An operation that was carried out, and whether it succeeded. -/
structure Done where
  operation : Operation
  succeeded : Bool

namespace Done

variable (e : Environment) (slot : Slot)

/-- A successful creation in the slot. -/
def isCreationOf (d : Done) : Bool :=
  d.succeeded && d.operation.isCreation && d.operation.slot e = slot

/-- A successful update of the slot. -/
def isUpdateOf (d : Done) : Bool :=
  d.succeeded && d.operation.isUpdate && d.operation.slot e = slot

end Done

/-- How often a slot was updated since the last creation in it. -/
def updatesSince (e : Environment) (slot : Slot) : List Done → Nat
  | [] => 0
  | d :: earlier =>
    if d.isCreationOf e slot then 0
    else if d.isUpdateOf e slot then updatesSince e slot earlier + 1
    else updatesSince e slot earlier

/-- The logs and storages that operations on the models of a blueprint lead to. -/
inductive History (b : Blueprint) (e : Environment) : List Done → MemoryStorage → Prop
  | start : History b e [] .empty
  | next {log : List Done} {s : MemoryStorage} (before : History b e log s) (op : Operation)
      (isKnown : op.type.model ∈ b.models) :
      History b e (⟨op, (op.run e s).1.isOk⟩ :: log) (op.run e s).2

section Counting

variable {e : Environment} {slot : Slot} {d : Done} {log : List Done}

theorem updatesSince_creation (h : d.isCreationOf e slot = true) :
    updatesSince e slot (d :: log) = 0 := by
  rw [updatesSince, if_pos h]

theorem updatesSince_update (hcreation : d.isCreationOf e slot = false)
    (h : d.isUpdateOf e slot = true) :
    updatesSince e slot (d :: log) = updatesSince e slot log + 1 := by
  rw [updatesSince, if_neg (by simp [hcreation]), if_pos h]

theorem updatesSince_other (hcreation : d.isCreationOf e slot = false)
    (h : d.isUpdateOf e slot = false) :
    updatesSince e slot (d :: log) = updatesSince e slot log := by
  rw [updatesSince, if_neg (by simp [hcreation]), if_neg (by simp [h])]

/-- An operation elsewhere counts for nothing here. -/
theorem updatesSince_elsewhere (h : d.operation.slot e ≠ slot) :
    updatesSince e slot (d :: log) = updatesSince e slot log := by
  refine updatesSince_other ?_ ?_
  · simp [Done.isCreationOf, h]
  · simp [Done.isUpdateOf, h]

/-- Without a creation in between, the count does not go down. -/
theorem updatesSince_append_le {between older : List Done}
    (h : ∀ d ∈ between, d.isCreationOf e slot = false) :
    updatesSince e slot older ≤ updatesSince e slot (between ++ older) := by
  induction between with
  | nil => exact Nat.le_refl _
  | cons d between ih =>
    have hrest := ih fun d' hd' => h d' (List.mem_cons_of_mem _ hd')
    have hd := h d (List.mem_cons_self ..)
    rw [List.cons_append]
    cases hupdate : d.isUpdateOf e slot with
    | true => rw [updatesSince_update hd hupdate]; omega
    | false => rw [updatesSince_other hd hupdate]; exact hrest

end Counting

/-- What every history keeps. -/
structure Consistent (b : Blueprint) (e : Environment) (log : List Done) (s : MemoryStorage) :
    Prop where
  sorted : s.Sorted
  carriesPartition : CarriesPartition b e s
  /-- A stored version is one more than the updates counted. -/
  counted : ∀ slot item, s.itemAt? slot = some item →
    Condition.storedVersion? (some item) = some (1 + (updatesSince e slot log : Int))
  /-- So was the version that each successful update came with, at its time. -/
  expected : ∀ newer d older slot, log = newer ++ d :: older → d.isUpdateOf e slot = true →
    d.operation.version = 1 + (updatesSince e slot older : Int)

variable {b : Blueprint} {e : Environment} {log : List Done} {s : MemoryStorage}

theorem consistent_start : Consistent b e [] .empty where
  sorted := MemoryStorage.sorted_empty
  carriesPartition := by
    intro t _ key item h
    cases h
  counted := by
    intro slot item h
    cases h
  expected := by
    intro newer d older slot h
    cases newer <;> cases h

/-- The image of a record of the blueprint carries the attribute its whole table needs. -/
theorem CarriesPartition.write (hb : b.IsSound) (he : e.Binds b) (h : CarriesPartition b e s)
    {t : RecordType} (ht : t.model ∈ b.models) (key : Item) (r : Record) :
    CarriesPartition b e (s.write (slotOf e t key) (t.toItem r)) := by
  intro t' ht' key' item hitem
  rw [MemoryStorage.itemAt?_write] at hitem
  split at hitem
  · next hslot =>
    cases hitem
    have htable : physicalTable e t' = physicalTable e t := congrArg Slot.table hslot
    rw [partitionKey_of_physicalTable hb he ht' ht htable]
    exact t.toItem_contains_partition r
  · exact h t' ht' key' item hitem

theorem CarriesPartition.remove (hs : s.Sorted) (h : CarriesPartition b e s) (slot : Slot) :
    CarriesPartition b e (s.remove slot) := by
  intro t ht key item hitem
  rw [MemoryStorage.itemAt?_remove hs] at hitem
  split at hitem
  · cases hitem
  · exact h t ht key item hitem

/-- Adding an operation to the log keeps what earlier updates came with; the new one has to
fit if it is a successful update. -/
theorem Consistent.expected_cons (h : Consistent b e log s) {op : Operation} {succeeded : Bool}
    (hnew : succeeded = true → op.isUpdate = true →
      op.version = 1 + (updatesSince e (op.slot e) log : Int)) :
    ∀ newer d older slot, (⟨op, succeeded⟩ :: log : List Done) = newer ++ d :: older →
      d.isUpdateOf e slot = true →
      d.operation.version = 1 + (updatesSince e slot older : Int) := by
  intro newer d older slot hlog hd
  cases newer with
  | nil =>
    obtain ⟨rfl, rfl⟩ := List.cons.inj hlog
    simp only [Done.isUpdateOf, Bool.and_eq_true, decide_eq_true_eq] at hd
    obtain ⟨⟨hsucceeded, hupdate⟩, rfl⟩ := hd
    exact hnew hsucceeded hupdate
  | cons _ newer =>
    obtain ⟨-, hrest⟩ := List.cons.inj hlog
    exact h.expected newer d older slot hrest hd

/-- A write keeps the versions counted if the item written has the version counted. -/
theorem Consistent.counted_write (h : Consistent b e log s) {d : Done} {new : Item}
    (hnew : Condition.storedVersion? (some new) =
      some (1 + (updatesSince e (d.operation.slot e) (d :: log) : Int))) :
    ∀ slot item, (s.write (d.operation.slot e) new).itemAt? slot = some item →
      Condition.storedVersion? (some item) = some (1 + (updatesSince e slot (d :: log) : Int)) := by
  intro slot item hitem
  rw [MemoryStorage.itemAt?_write] at hitem
  split at hitem
  · next hslot =>
    cases hitem
    rw [hslot]
    exact hnew
  · next hslot =>
    rw [updatesSince_elsewhere (Ne.symm hslot)]
    exact h.counted slot item hitem

theorem Consistent.created (hb : b.IsSound) (he : e.Binds b) (h : Consistent b e log s)
    {op : Operation} (hop : op.type.model ∈ b.models) (hcreation : op.isCreation = true)
    {r : Record} (hfirst : r.revision.version = 1) :
    Consistent b e (⟨op, true⟩ :: log) (s.write (op.slot e) (op.type.toItem r)) := by
  have hfits : fitsInt64 r.revision.version = true := by rw [hfirst]; decide
  have hcounted : updatesSince e (op.slot e) (⟨op, true⟩ :: log) = 0 :=
    updatesSince_creation (by simp [Done.isCreationOf, hcreation])
  have hnew : Condition.storedVersion? (some (op.type.toItem r)) =
      some (1 + (updatesSince e (op.slot e) (⟨op, true⟩ :: log) : Int)) := by
    rw [RecordType.storedVersion?_toItem _ _ hfits, hfirst, hcounted]
    rfl
  refine ⟨h.sorted.write _ _, h.carriesPartition.write hb he hop op.key r,
    h.counted_write (d := ⟨op, true⟩) hnew, ?_⟩
  refine h.expected_cons fun _ hupdate => ?_
  rw [Operation.isCreation_of_isUpdate hupdate] at hcreation
  cases hcreation

theorem Consistent.updated (hb : b.IsSound) (he : e.Binds b) (h : Consistent b e log s)
    {op : Operation} (hop : op.type.model ∈ b.models) (hupdate : op.isUpdate = true)
    (hexpected : Condition.storedVersion? (s.itemAt? (op.slot e)) = some op.version)
    {r : Record} (hnext : r.revision.version = op.version + 1)
    (hfits : fitsInt64 r.revision.version = true) :
    Consistent b e (⟨op, true⟩ :: log) (s.write (op.slot e) (op.type.toItem r)) := by
  have hcreation := Operation.isCreation_of_isUpdate hupdate
  have hversion : op.version = 1 + (updatesSince e (op.slot e) log : Int) := by
    cases hitem : s.itemAt? (op.slot e) with
    | none => rw [hitem] at hexpected; cases hexpected
    | some item =>
      rw [hitem, h.counted _ _ hitem] at hexpected
      exact (Option.some.inj hexpected).symm
  have hcounted : updatesSince e (op.slot e) (⟨op, true⟩ :: log) =
      updatesSince e (op.slot e) log + 1 :=
    updatesSince_update (by simp [Done.isCreationOf, hcreation])
      (by simp [Done.isUpdateOf, hupdate])
  have hnew : Condition.storedVersion? (some (op.type.toItem r)) =
      some (1 + (updatesSince e (op.slot e) (⟨op, true⟩ :: log) : Int)) := by
    have hsum : (1 + (updatesSince e (op.slot e) log : Int)) + 1 =
        1 + ((updatesSince e (op.slot e) log + 1 : Nat) : Int) := by omega
    rw [RecordType.storedVersion?_toItem _ _ hfits, hnext, hversion, hcounted, hsum]
  exact ⟨h.sorted.write _ _, h.carriesPartition.write hb he hop op.key r,
    h.counted_write (d := ⟨op, true⟩) hnew, h.expected_cons fun _ _ => hversion⟩

theorem Consistent.removed (h : Consistent b e log s) {op : Operation} {succeeded : Bool}
    (hother : op.isCreation = false ∧ op.isUpdate = false) :
    Consistent b e (⟨op, succeeded⟩ :: log) (s.remove (op.slot e)) := by
  refine ⟨h.sorted.remove _, h.carriesPartition.remove h.sorted _, ?_, ?_⟩
  · intro slot item hitem
    rw [MemoryStorage.itemAt?_remove h.sorted] at hitem
    by_cases hslot : slot = op.slot e
    · rw [if_pos hslot] at hitem
      cases hitem
    · rw [if_neg hslot] at hitem
      rw [updatesSince_elsewhere (d := ⟨op, succeeded⟩) (Ne.symm hslot)]
      exact h.counted slot item hitem
  · refine h.expected_cons fun _ hupdate => ?_
    rw [hother.2] at hupdate
    cases hupdate

theorem Consistent.unchanged (h : Consistent b e log s) {op : Operation} {succeeded : Bool}
    (hother : (op.isCreation = false ∧ op.isUpdate = false) ∨ succeeded = false) :
    Consistent b e (⟨op, succeeded⟩ :: log) s := by
  have hcreation (slot : Slot) : Done.isCreationOf e slot ⟨op, succeeded⟩ = false := by
    rcases hother with ⟨hcreation, -⟩ | hfailed
    · simp [Done.isCreationOf, hcreation]
    · simp [Done.isCreationOf, hfailed]
  have hupdate (slot : Slot) : Done.isUpdateOf e slot ⟨op, succeeded⟩ = false := by
    rcases hother with ⟨-, hupdate⟩ | hfailed
    · simp [Done.isUpdateOf, hupdate]
    · simp [Done.isUpdateOf, hfailed]
  refine ⟨h.sorted, h.carriesPartition, ?_, ?_⟩
  · intro slot item hitem
    rw [updatesSince_other (hcreation slot) (hupdate slot)]
    exact h.counted slot item hitem
  · refine h.expected_cons fun hsucceeded hop => ?_
    have hself := hupdate (op.slot e)
    simp [Done.isUpdateOf, hsucceeded, hop] at hself

/-- One operation keeps a history consistent. -/
theorem Consistent.next (hb : b.IsSound) (he : e.Binds b) (h : Consistent b e log s)
    (op : Operation) (hop : op.type.model ∈ b.models) :
    Consistent b e (⟨op, (op.run e s).1.isOk⟩ :: log) (op.run e s).2 := by
  have heffect := op.run_effect hb he h.carriesPartition hop
  generalize op.run e s = outcome at heffect ⊢
  obtain ⟨answer, s'⟩ := outcome
  dsimp only at heffect ⊢
  cases heffect with
  | created r hcreation hnone hfirst => exact h.created hb he hop hcreation hfirst
  | updated r hupdate hexpected hnext hfits =>
    exact h.updated hb he hop hupdate hexpected hnext hfits
  | removed _ hother => exact h.removed hother
  | unchanged _ hother =>
    refine h.unchanged (hother.imp_right ?_)
    rintro ⟨err, rfl⟩
    rfl

/-- Every history is consistent. -/
theorem History.consistent (hb : b.IsSound) (he : e.Binds b) (h : History b e log s) :
    Consistent b e log s := by
  induction h with
  | start => exact consistent_start
  | next _ op hop ih => exact ih.next hb he op hop

/-- Carries out operations one after another, from an empty storage on. -/
def runAll (e : Environment) (ops : List Operation) : List Done × MemoryStorage :=
  ops.foldl (fun (log, s) op => (⟨op, (op.run e s).1.isOk⟩ :: log, (op.run e s).2)) ([], .empty)

theorem history_foldl (b : Blueprint) (e : Environment) {ops : List Operation}
    (hops : ∀ op ∈ ops, op.type.model ∈ b.models) {done : List Done × MemoryStorage}
    (h : History b e done.1 done.2) :
    let result := ops.foldl
      (fun (log, s) op => (⟨op, (op.run e s).1.isOk⟩ :: log, (op.run e s).2)) done
    History b e result.1 result.2 := by
  induction ops generalizing done with
  | nil => exact h
  | cons op ops ih =>
    have hop := hops op (List.mem_cons_self ..)
    exact ih (fun op' hop' => hops op' (List.mem_cons_of_mem _ hop')) (h.next op hop)

theorem history_runAll {b : Blueprint} (e : Environment) {ops : List Operation}
    (hops : ∀ op ∈ ops, op.type.model ∈ b.models) :
    History b e (runAll e ops).1 (runAll e ops).2 :=
  history_foldl b e hops History.start

/-- A creation is answered by whether its slot is empty. -/
theorem create_isOk_iff (hb : b.IsSound) (he : e.Binds b) (h : Consistent b e log s)
    {t : RecordType} (ht : t.model ∈ b.models) {now : Timestamp} (hrange : t.HasExpiryInRange now)
    (r : Record) :
    (((inMemory e).create t now r s).1.isOk = true ↔ s.itemAt? (slotOf e t (t.key r)) = none) ∧
    (s.itemAt? (slotOf e t (t.key r)) ≠ none → ((inMemory e).create t now r s).1 =
      .error (.alreadyExists t.model.name (describeKey (t.key r)))) := by
  rw [create_effect hb he h.carriesPartition ht (RecordType.beforeCreate_eq_withExpiry hrange r)]
  cases s.itemAt? (slotOf e t (t.key r)) with
  | none => simp [Except.isOk, Except.toBool]
  | some item => simp [Except.isOk, Except.toBool, slotOf]

/-- An update is answered by whether its slot holds the version that the record was read at. -/
theorem update_isOk_iff (hb : b.IsSound) (he : e.Binds b) {t : RecordType}
    (ht : t.model ∈ b.models) (hledger : t.model.isLedger = false) (now : Timestamp) {r : Record}
    (hlow : int64Min ≤ r.revision.version) (hhigh : r.revision.version < int64Max) :
    (((inMemory e).update t now r s).1.isOk = true ↔
      ∃ item, s.itemAt? (slotOf e t (t.key r)) = some item ∧
        Condition.storedVersion? (some item) = some r.revision.version) ∧
    (((inMemory e).update t now r s).1.isOk = false → ((inMemory e).update t now r s).1 =
      .error (.optimisticLocking t.model.name (describeKey (t.key r)) r.revision.version)) := by
  have hfits : fitsInt64 (r.revision.version + 1) = true := by
    simp only [fitsInt64, Bool.and_eq_true, decide_eq_true_eq]
    omega
  have hstored : Condition.storedVersion? (s.itemAt? (slotOf e t (t.key r))) =
      some r.revision.version ↔ ∃ item, s.itemAt? (slotOf e t (t.key r)) = some item ∧
        Condition.storedVersion? (some item) = some r.revision.version := by
    cases s.itemAt? (slotOf e t (t.key r)) with
    | none => simp [Condition.storedVersion?]
    | some item => simp
  rw [update_apply (isBound_of_binds hb he ht) hledger hfits, ← hstored]
  by_cases hversion : Condition.storedVersion? (s.itemAt? (slotOf e t (t.key r))) =
      some r.revision.version
  · rw [if_pos hversion]
    exact ⟨iff_of_true rfl hversion, fun h => by cases h⟩
  · rw [if_neg hversion]
    exact ⟨iff_of_false (by simp [Except.isOk, Except.toBool]) hversion, fun _ => rfl⟩

/-- Of two updates from one version, the slot was created anew in between. -/
theorem Consistent.creation_between (h : Consistent b e log s) {slot : Slot}
    {newer between older : List Done} {later earlier : Done}
    (hlog : log = newer ++ later :: (between ++ earlier :: older))
    (hlater : later.isUpdateOf e slot = true) (hearlier : earlier.isUpdateOf e slot = true)
    (hversion : later.operation.version = earlier.operation.version) :
    ∃ d ∈ between, d.isCreationOf e slot = true := by
  by_contra hnone
  have hquiet : ∀ d ∈ between, d.isCreationOf e slot = false := by
    intro d hd
    by_contra hcreation
    exact hnone ⟨d, hd, by simpa using hcreation⟩
  have hat := h.expected newer later _ slot hlog hlater
  have hbefore := h.expected (newer ++ later :: between) earlier older slot (by simp [hlog]) hearlier
  have hcreation : earlier.isCreationOf e slot = false := by
    simp only [Done.isUpdateOf, Bool.and_eq_true] at hearlier
    simp [Done.isCreationOf, Operation.isCreation_of_isUpdate hearlier.1.2]
  have hle : updatesSince e slot (earlier :: older) ≤
      updatesSince e slot (between ++ earlier :: older) := updatesSince_append_le hquiet
  rw [updatesSince_update hcreation hearlier] at hle
  omega

/-- In every state that a history of operations on an accepted schema leads to, creations
succeed exactly in empty slots, updates exactly at the stored version, a stored version
counts the updates since the creation, and no version is updated twice between creations. -/
theorem history_versions {config : Config} {text : String}
    (hb : Blueprint.ofSchema config text = .ok b) (he : e.Binds b) (h : History b e log s) :
    (∀ (t : RecordType) (now : Timestamp) (r : Record), t.model ∈ b.models →
      t.HasExpiryInRange now →
      (((inMemory e).create t now r s).1.isOk = true ↔ s.itemAt? (slotOf e t (t.key r)) = none) ∧
      (s.itemAt? (slotOf e t (t.key r)) ≠ none → ((inMemory e).create t now r s).1 =
        .error (.alreadyExists t.model.name (describeKey (t.key r))))) ∧
    (∀ (t : RecordType) (now : Timestamp) (r : Record), t.model ∈ b.models →
      t.model.isLedger = false → int64Min ≤ r.revision.version → r.revision.version < int64Max →
      (((inMemory e).update t now r s).1.isOk = true ↔
        ∃ item, s.itemAt? (slotOf e t (t.key r)) = some item ∧
          Condition.storedVersion? (some item) = some r.revision.version) ∧
      (((inMemory e).update t now r s).1.isOk = false → ((inMemory e).update t now r s).1 =
        .error (.optimisticLocking t.model.name (describeKey (t.key r)) r.revision.version))) ∧
    (∀ (slot : Slot) (item : Item), s.itemAt? slot = some item →
      Condition.storedVersion? (some item) = some (1 + (updatesSince e slot log : Int))) ∧
    (∀ (slot : Slot) (newer between older : List Done) (later earlier : Done),
      log = newer ++ later :: (between ++ earlier :: older) →
      later.isUpdateOf e slot = true → earlier.isUpdateOf e slot = true →
      later.operation.version = earlier.operation.version →
      ∃ d ∈ between, d.isCreationOf e slot = true) := by
  have hsound := Blueprint.ofSchema_isSound hb
  have hconsistent := h.consistent hsound he
  refine ⟨?_, ?_, hconsistent.counted, ?_⟩
  · intro t now r ht hrange
    exact create_isOk_iff hsound he hconsistent ht hrange r
  · intro t now r ht hledger hlow hhigh
    exact update_isOk_iff hsound he ht hledger now hlow hhigh
  · intro slot newer between older later earlier hlog hlater hearlier hversion
    exact hconsistent.creation_between hlog hlater hearlier hversion

namespace NoteExample

def schema : String := "type Note @partitionKey(pkFields: [\"id\"]) \x7b id: ID! body: String \x7d"

def partition : PrimaryKey := .simple ⟨"id", ["id"], none, true⟩

/-- The type of notes. -/
def note : RecordType :=
  ⟨⟨"Note", "Note", [.scalar "id" "ID" true, .scalar "body" "String" false], partition, [], none,
    false, false, false, []⟩, [], .empty, Code.functionPath?⟩

def blueprint : Blueprint := ⟨[note.model], [⟨"Note", partition, [], false, false, none, none⟩], []⟩

theorem ofSchema_schema : Blueprint.ofSchema .default schema = .ok blueprint := by
  decide +kernel

def bindings : Environment := .detached [("TABLE_NOTE", "notes")]

theorem note_mem : note.model ∈ blueprint.models := List.mem_singleton_self _

theorem bindings_bind : bindings.Binds blueprint :=
  ⟨by decide, by decide +kernel⟩

/-- A note at a version. -/
def draft (version : Int) : Record := ⟨[("id", .text "1")], ⟨version, none, none⟩⟩

/-- A creation and an update that succeed, each tried again by another client. -/
def operations : List Operation :=
  [.create note .epoch (draft 0), .save note .epoch (draft 0), .update note .epoch (draft 1),
    .save note .epoch (draft 1)]

theorem operations_known : ∀ op ∈ operations, op.type.model ∈ blueprint.models := by
  intro op hop
  simp only [operations, List.mem_cons, List.not_mem_nil, or_false] at hop
  rcases hop with rfl | rfl | rfl | rfl <;> exact note_mem

end NoteExample

open NoteExample in
theorem note_versions :
    Blueprint.ofSchema .default schema = .ok blueprint ∧ bindings.Binds blueprint ∧
    History blueprint bindings (runAll bindings operations).1
      (runAll bindings operations).2 ∧
    (runAll bindings operations).1.map (·.succeeded) = [false, true, false, true] ∧
    ((inMemory bindings).create note .epoch (draft 0) (runAll bindings operations).2).1 =
      .error (.alreadyExists "Note" "id=1") ∧
    ((inMemory bindings).update note .epoch (draft 2)
      (runAll bindings operations).2).1.isOk = true := by
  have hhistory := history_runAll bindings operations_known
  obtain ⟨hcreate, hupdate, hcounted, -⟩ :=
    history_versions ofSchema_schema bindings_bind hhistory
  have hsome : ((runAll bindings operations).2.itemAt?
      (slotOf bindings note (note.key (draft 2)))).isSome = true := by decide +kernel
  obtain ⟨item, hitem⟩ := Option.isSome_iff_exists.mp hsome
  have hcount : updatesSince bindings (slotOf bindings note (note.key (draft 2)))
      (runAll bindings operations).1 = 1 := by decide +kernel
  have hversion := hcounted _ item hitem
  rw [hcount] at hversion
  refine ⟨ofSchema_schema, bindings_bind, hhistory, by decide +kernel, ?_, ?_⟩
  · have hrange : note.HasExpiryInRange .epoch := by
      have hnone : note.model.expiryDefault? = none := by decide
      intro field seconds hdefault
      rw [hnone] at hdefault
      cases hdefault
    have hkey : describeKey (note.key (draft 0)) = "id=1" := by decide +kernel
    have hname : note.model.name = "Note" := by decide
    have htaken : (runAll bindings operations).2.itemAt?
        (slotOf bindings note (note.key (draft 0))) ≠ none := Option.ne_none_iff_exists'.mpr
      ⟨item, hitem⟩
    rw [(hcreate note .epoch (draft 0) note_mem hrange).2 htaken, hkey, hname]
  · have hledger : note.model.isLedger = false := by decide
    exact (hupdate note .epoch (draft 2) note_mem hledger (by decide) (by decide)).1.mpr
      ⟨item, hitem, hversion⟩

end Keyspace.Store
