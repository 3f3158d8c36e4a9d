import Keyspace.Proofs.Example.OrderTotals
import Keyspace.Proofs.Record.Reading
import Keyspace.Proofs.Store.Calls

/-!
# Calls that fail

A call that fails leaves the storage as it was, with one exception. A removal takes the item
away in the request that gives it, and reads it only then: an item that cannot be read is gone
all the same, and the error tells about its contents.
-/
namespace Keyspace.Store

/-- The call removes an item that it cannot read. -/
structure Call.RemovesUnreadable (e : Environment) (s : MemoryStorage) (call : Call)
    (err : Error) : Prop where
  isRemoval : call.isRemoval = true
  isBound : IsBound e call.type
  unreadable : ∃ item, s.itemAt? (call.slot e) = some item ∧
    item.contains call.type.model.primaryKey.partitionKey.attributeName = true ∧
    call.type.unmarshal item = .error err

variable {e : Environment} {s s' : MemoryStorage} {call : Call} {err : Error}

/-- A call that fails without removing an item it cannot read has changed nothing; otherwise
that one item is gone, and the error is about the integrity of its data. -/
theorem failed_call (h : call.run e s = (.error err, s')) :
    (¬call.RemovesUnreadable e s err → s' = s) ∧
    (call.RemovesUnreadable e s err → s' = s.remove (call.slot e) ∧
      ∃ column detail, err = .dataIntegrity call.type.model.name column detail) := by
  constructor
  · intro hother
    by_cases hbound : IsBound e call.type
    · have houtcome := call.run_outcome e s
      rw [h] at houtcome
      generalize hanswer : (Except.error err : Result (Option Record)) = answer at houtcome
      cases houtcome with
      | failed _ => rfl
      | missed => cases hanswer
      | read _ _ => cases hanswer
      | created _ _ _ => cases hanswer
      | updated _ _ _ _ _ => cases hanswer
      | @removed item hkind hfound hcontains =>
        refine absurd ⟨hkind, hbound, item, hfound, hcontains, ?_⟩ hother
        cases hread : call.type.unmarshal item with
        | ok _ => rw [hread] at hanswer; cases hanswer
        | error _ => rw [hread] at hanswer; cases hanswer; rfl
    · obtain ⟨_, hrun⟩ := Call.run_unbound hbound
      rw [hrun] at h
      exact (Prod.mk.inj h).2.symm
  · intro hremoves
    obtain ⟨item, hfound, hcontains, hread⟩ := hremoves.unreadable
    rw [Call.run_removal hremoves.isBound hremoves.isRemoval hfound hcontains] at h
    exact ⟨(Prod.mk.inj h).2.symm, RecordType.unmarshal_error hread⟩

namespace UnreadableExample

open Example.Orders

/-- An item that only has a key and a version. -/
def image : Item :=
  [("_et", .text "CustomerTotals"), ("_v", .number "1"), ("pk", .text "CUSTOMER#c1"),
    ("sk", .text "TOTALS#c1")]

/-- The storage with nothing but that item. -/
def stored : MemoryStorage :=
  (MemoryStorage.service.put ⟨"Orders", totals.key (draft 1), image, none⟩ .empty).2

end UnreadableExample

open UnreadableExample Example.Orders in
theorem unread_totals_stay : ∃ err,
    (Call.get totals (totals.key (draft 1))).run bindings stored = (.error err, stored) := by
  have hfails : ((Call.get totals (totals.key (draft 1))).run bindings stored).1.isOk = false := by
    decide +kernel
  cases hrun : (Call.get totals (totals.key (draft 1))).run bindings stored with
  | mk answer s' =>
    cases answer with
    | ok _ => rw [hrun] at hfails; cases hfails
    | error err =>
      have hother : ¬(Call.get totals (totals.key (draft 1))).RemovesUnreadable bindings stored err :=
        fun h => by cases h.isRemoval
      exact ⟨err, by rw [(failed_call hrun).1 hother]⟩

open UnreadableExample Example.Orders in
/-- A removal fails for the contents of an item, and the item is gone. -/
theorem unread_totals_are_lost :
    (removing.run bindings stored).1.isOk = false ∧
    stored.scan "Orders" = [image] ∧ stored.writes = 1 ∧
    (removing.run bindings stored).2.scan "Orders" = [] ∧
    (removing.run bindings stored).2.writes = 2 :=
  ⟨by decide +kernel, by decide +kernel, by decide +kernel, by decide +kernel, by decide +kernel⟩

end Keyspace.Store
