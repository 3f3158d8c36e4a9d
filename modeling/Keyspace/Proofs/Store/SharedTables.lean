import Keyspace.Proofs.Example.OrderTotals
import Keyspace.Proofs.Record.Writing
import Keyspace.Proofs.Storage.KeyedItems
import Keyspace.Proofs.Store.Calls

/-!
# Models that share a table

The models of a table share its slots, and nothing but the key tells whose item a slot holds:
the store never looks at the type that an item names. So a call on one model leaves the items
of another alone where no key of the one is a key of the other, which different leads of a key
attribute make sure of; where it comes with the key of such an item, it takes the item for one
of its own model. A ledger keeps its own calls from changing an item in place, not those on
other models.
-/
namespace Keyspace

namespace Model

/-- No attributes of key fields make the same key for both models. -/
def KeysApart (m n : Model) : Prop :=
  ∀ argument argument', m.keyOf argument ≠ n.keyOf argument'

/-- A joined attribute starts with its lead and the mark after it. -/
theorem lead_isPrefix {part : KeyPart} {lead : String} (hjoined : part.isSingleField = false)
    (hlead : part.lead = some lead) (hfields : part.fields ≠ [])
    (argument : String → AttributeValue) :
    ∃ content, keyAttribute part argument = .text content ∧
      (lead.toList ++ ['#']) <+: content.toList := by
  obtain ⟨field, fields, hcons⟩ := List.exists_cons_of_ne_nil hfields
  refine ⟨_, by rw [keyAttribute, hjoined]; rfl, ?_⟩
  rw [hlead, hcons, String.toList_intercalate, Option.toList_some, List.map_cons, List.map_cons,
    List.singleton_append, List.map_cons, List.map_cons, List.intercalate_cons_cons]
  exact List.prefix_append _ _

/-- An attribute of both keys whose leads no text can both start with keeps the keys apart. -/
theorem keysApart_of_leads {m n : Model} (hm : m.ColumnsApart) (hn : n.ColumnsApart)
    {part part' : KeyPart} (hpart : part ∈ m.primaryKey.parts) (hpart' : part' ∈ n.primaryKey.parts)
    (hname : part.attributeName = part'.attributeName) {lead lead' : String}
    (hjoined : part.isSingleField = false) (hlead : part.lead = some lead)
    (hfields : part.fields ≠ []) (hjoined' : part'.isSingleField = false)
    (hlead' : part'.lead = some lead') (hfields' : part'.fields ≠ [])
    (hleft : ¬(lead.toList ++ ['#']) <+: (lead'.toList ++ ['#']))
    (hright : ¬(lead'.toList ++ ['#']) <+: (lead.toList ++ ['#'])) : m.KeysApart n := by
  intro argument argument' hsame
  have hvalue := get?_keyOf hm hpart argument
  rw [hsame, hname, get?_keyOf hn hpart' argument'] at hvalue
  obtain ⟨content, hcontent, hstarts⟩ := lead_isPrefix hjoined hlead hfields argument
  obtain ⟨content', hcontent', hstarts'⟩ := lead_isPrefix hjoined' hlead' hfields' argument'
  rw [hcontent, hcontent'] at hvalue
  cases hvalue
  exact (List.prefix_or_prefix_of_prefix hstarts hstarts').elim hleft hright

end Model

namespace Store

/-- The call that put what a slot holds there. -/
def writer (e : Environment) (slot : Slot) : List Turn → Option Call
  | [] => none
  | turn :: older =>
    if turn.changes e slot then if turn.call.isRemoval then none else some turn.call
    else writer e slot older

variable {b : Blueprint} {e : Environment} {K : Set Item} {s : MemoryStorage} {log : List Turn}
  {slot : Slot}

/-- A slot holds the image of a record of its writer, or nothing. -/
inductive WrittenBy (P : Call → Prop) (e : Environment) (slot : Slot) :
    Option Call → Option Item → Prop
  | nobody : WrittenBy P e slot none none
  | call {origin : Call} {r : Record} (isAllowed : P origin) (slot_eq : origin.slot e = slot) :
      WrittenBy P e slot (some origin) (some (origin.type.toItem r))

/-- In a trace from the empty storage, every item is there for its writer. -/
theorem Trace.writtenBy {P : Call → Prop} (h : Trace P e .empty log s) (slot : Slot) :
    WrittenBy P e slot (writer e slot log) (s.itemAt? slot) := by
  induction h with
  | start => exact .nobody
  | @next log s before client call hcall ih =>
    have hstep := slotStep_turn (e := e) (before.sorted MemoryStorage.sorted_empty) client call slot
    have hslot : (turn e client call s).changes e slot = true → call.slot e = slot := fun h =>
      of_decide_eq_true (Bool.and_eq_true_iff.mp h).2
    have hcons : writer e slot (turn e client call s :: log) =
        if (turn e client call s).changes e slot then if call.isRemoval then none else some call
        else writer e slot log := rfl
    rw [hcons]
    generalize (turn e client call s).changes e slot = changed at hstep hslot ⊢
    generalize (call.run e s).2.itemAt? slot = after at hstep ⊢
    generalize s.itemAt? slot = current at hstep ih
    cases hstep with
    | kept => exact ih
    | created hkind _ _ =>
      rw [if_pos rfl, Call.isRemoval_eq_false (Or.inl hkind)]
      exact .call hcall (hslot rfl)
    | updated hkind _ _ _ _ =>
      rw [if_pos rfl, Call.isRemoval_eq_false (Or.inr hkind)]
      exact .call hcall (hslot rfl)
    | removed hkind =>
      rw [if_pos rfl, if_pos hkind]
      exact .nobody

/-- The call is one on a model of the blueprint, with a key made from the key fields of the
model; `K` holds the keys of all calls. -/
structure Call.IsProper (b : Blueprint) (K : Set Item) (call : Call) : Prop where
  isKnown : call.type.model ∈ b.models
  key_mem : call.key ∈ K
  isOwn : ∃ argument, call.key = call.type.model.keyOf argument

/-- The call keeps what a slot holds, and answers as if the slot were empty. -/
structure Call.LeavesAlone (e : Environment) (s : MemoryStorage) (slot : Slot) (call : Call) :
    Prop where
  kept : (call.run e s).2.itemAt? slot = s.itemAt? slot
  unseen : (call.run e s).1 = (call.run e (s.remove slot)).1

theorem Call.leavesAlone {call : Call} (hs : s.Sorted) (h : slot ≠ call.slot e) :
    call.LeavesAlone e s slot where
  kept := call.itemAt?_run hs h
  unseen := call.answer_congr (by rw [MemoryStorage.itemAt?_remove hs, if_neg (Ne.symm h)])

/-- The call takes the item in its slot for one of its own model: it reads or removes it as
such, updates it at its version, and creates nothing in its place. -/
structure Call.TakesForOwn (e : Environment) (s : MemoryStorage) (call : Call) (item : Item) :
    Prop where
  reads : call.isReading = true → call.run e s = ((call.type.unmarshal item).map some, s)
  removes : call.isRemoval = true →
    call.run e s = ((call.type.unmarshal item).map some, s.remove (call.slot e))
  refuses : call.isCreation = true → ∃ err, call.run e s = (.error err, s)
  overwrites : ∀ t now r, (call = .perform (.update t now r) ∨
      call = .perform (.save t now r) ∧ r.revision.isPersisted = true) →
    t.model.isLedger = false → fitsInt64 (r.revision.version + 1) = true →
    Condition.storedVersion? (some item) = some r.revision.version →
    call.run e s = (.ok (some (r.updated now)), s.write (call.slot e) (t.toItem (r.updated now)))

section OnItem

variable {item : Item} {t : RecordType} {now : Timestamp} {r : Record} (hbound : IsBound e t)

include hbound

theorem find_found {key : Item} (hfound : s.itemAt? (slotOf e t key) = some item) :
    (inMemory e).find t key s = ((t.unmarshal item).map some, s) := by
  rw [find_apply hbound, hfound]
  rfl

theorem create_taken
    (hfound : s.itemAt? (slotOf e t (t.key (t.prepared now r))) = some item)
    (hcontains : item.contains t.model.primaryKey.partitionKey.attributeName = true) :
    ∃ err, (inMemory e).create t now r s = (.error err, s) := by
  cases hprepared : t.beforeCreate now r with
  | error err => exact ⟨err, create_unprepared hprepared⟩
  | ok prepared =>
    rw [RecordType.prepared_eq hprepared] at hfound
    rw [create_apply hbound hprepared, hfound, Option.any_some, if_pos hcontains]
    exact ⟨_, rfl⟩

end OnItem

theorem Call.takesForOwn {call : Call} {item : Item} (hbound : IsBound e call.type)
    (hfound : s.itemAt? (call.slot e) = some item)
    (hcontains : item.contains call.type.model.primaryKey.partitionKey.attributeName = true) :
    call.TakesForOwn e s item where
  reads := by
    intro hkind
    cases call with
    | find t key => exact find_found hbound hfound
    | get t key =>
      have hfind : (inMemory e).find t key s = ((t.unmarshal item).map some, s) :=
        find_found hbound hfound
      rw [Call.run_get, hfind]
      show _ = ((t.unmarshal item).map some, s)
      cases t.unmarshal item <;> rfl
    | perform _ => cases hkind
  removes := fun hkind => Call.run_removal hbound hkind hfound hcontains
  refuses := by
    intro hkind
    cases call with
    | find _ _ => cases hkind
    | get _ _ => cases hkind
    | perform op =>
      have hrefused : ∃ err, op.run e s = (.error err, s) := by
        cases op with
        | create t now r => exact create_taken hbound hfound hcontains
        | update _ _ _ => cases hkind
        | save t now r =>
          have hnew : ¬r.revision.isPersisted = true := by
            simpa [Call.isCreation, Operation.isCreation] using hkind
          show ∃ err, (inMemory e).save t now r s = (.error err, s)
          rw [Call.slot, Call.key, if_neg hnew] at hfound
          rw [save_apply, if_neg hnew]
          exact create_taken hbound hfound hcontains
        | delete _ _ => cases hkind
      obtain ⟨err, hrun⟩ := hrefused
      exact ⟨err, Call.run_perform_of_eq hrun⟩
  overwrites := by
    intro t now r hcall hledger hfits hversion
    have hupdate (hbound : IsBound e t) (hfound : s.itemAt? (slotOf e t (t.key r)) = some item) :
        (Operation.update t now r).run e s =
          (.ok (r.updated now), s.write (slotOf e t (t.key r)) (t.toItem (r.updated now))) := by
      show (inMemory e).update t now r s = _
      rw [update_apply hbound hledger hfits, hfound, if_pos hversion]
    rcases hcall with rfl | ⟨rfl, hpersisted⟩
    · exact Call.run_perform_of_eq (hupdate hbound hfound)
    · have hslot : (Call.perform (.save t now r)).slot e = slotOf e t (t.key r) := by
        rw [Call.slot, Call.key, if_pos hpersisted]
        rfl
      have hsave : (Operation.save t now r).run e s = (Operation.update t now r).run e s :=
        (save_apply r).trans (if_pos hpersisted)
      rw [hslot] at hfound ⊢
      exact Call.run_perform_of_eq (hsave.trans (hupdate hbound hfound))

/-- Whoever wrote an item, a call on a model whose keys are apart leaves it alone; a call with
its very key takes it for its own; and if the writer's model is a ledger, the calls on that
model and on those apart from it never change it in place. -/
theorem calls_on_written_items {config : Config} {text : String}
    (hb : Blueprint.ofSchema config text = .ok b) (he : e.Binds b) (hK : Set.InjOn describeKey K)
    (h : Trace (Call.IsProper b K) e .empty log s) {origin : Call}
    (horigin : writer e slot log = some origin) {call : Call} (hcall : call.IsProper b K) :
    (origin.type.model.KeysApart call.type.model → call.LeavesAlone e s slot) ∧
    (call.slot e = slot → ∃ item, s.itemAt? slot = some item ∧ call.TakesForOwn e s item) ∧
    (origin.type.model.isLedger = true →
      origin.type.model = call.type.model ∨ origin.type.model.KeysApart call.type.model →
      (call.run e s).2.itemAt? slot = s.itemAt? slot ∨ (call.run e s).2.itemAt? slot = none) := by
  have hsound := Blueprint.ofSchema_isSound hb
  have hsorted := h.sorted MemoryStorage.sorted_empty
  have hwritten := h.writtenBy slot
  rw [horigin] at hwritten
  generalize hitem : s.itemAt? slot = current at hwritten
  cases hwritten with
  | @call _ r hproper hslot =>
    have hapart : origin.type.model.KeysApart call.type.model → call.LeavesAlone e s slot := by
      intro hkeys
      refine Call.leavesAlone hsorted fun hsame => ?_
      obtain ⟨argument, hown⟩ := hproper.isOwn
      obtain ⟨argument', hown'⟩ := hcall.isOwn
      have hkey : origin.key = call.key :=
        hK hproper.key_mem hcall.key_mem (congrArg Slot.key (hslot.trans hsame))
      exact hkeys argument argument' (by rw [← hown, ← hown', hkey])
    refine ⟨hapart, ?_, ?_⟩
    · intro hsame
      have htable : physicalTable e origin.type = physicalTable e call.type :=
        congrArg Slot.table (hslot.trans hsame.symm)
      have hcontains : (origin.type.toItem r).contains
          call.type.model.primaryKey.partitionKey.attributeName = true := by
        rw [← partitionKey_of_physicalTable hsound he hproper.isKnown hcall.isKnown htable]
        exact origin.type.toItem_contains_partition r
      exact ⟨_, rfl, Call.takesForOwn (isBound_of_binds hsound he hcall.isKnown)
        (hsame ▸ hitem) hcontains⟩
    · intro hledger hmodel
      rcases hmodel with hsame | hkeys
      -- A creation is refused by the partition attribute of the item, an update by the ledger.
      · have hstep := slotStep_turn (e := e) hsorted 0 call slot
        rw [hitem] at hstep
        generalize (turn e 0 call s).changes e slot = changed at hstep
        generalize (call.run e s).2.itemAt? slot = after at hstep ⊢
        cases hstep with
        | kept => exact Or.inl rfl
        | created _ hfree _ =>
          rw [← hsame, Option.any_some, origin.type.toItem_contains_partition] at hfree
          cases hfree
        | updated _ hother _ _ _ =>
          rw [← hsame, hledger] at hother
          cases hother
        | removed _ => exact Or.inr rfl
      · exact Or.inl ((hapart hkeys).kept.trans hitem)

namespace SharedExample

open Example.Orders

/-! Orders and totals lie in one table, and their sort attributes have different leads. -/

def orderService : Blueprint := ⟨[totalsModel, orderModel], [ordersTable], [statuses]⟩

/-- The record type of orders. -/
def orders : RecordType := typeOf orderModel

def order : Record where
  values := [("customerId", .text "c1"), ("orderId", .text "o1"), ("placedAt", .timestamp .epoch),
    ("status", .text "PENDING"), ("total", .float (.zero false))]
  revision := .unwritten

def orderSlot : Slot := ⟨"Orders", "pk=CUSTOMER#c1, sk=ORDER#o1"⟩

def ordering : Call := .perform (.create orders .epoch order)

/-- Keys of orders and totals whose texts have no comma. -/
def keys : Set Item := {key | Dict.keys key = ["pk", "sk"] ∧ ∀ entry ∈ key, IsPlainEntry entry}

theorem mem_keys {customer suffix : String} (hcustomer : ',' ∉ customer.toList)
    (hsuffix : ',' ∉ suffix.toList) : [("pk", .text customer), ("sk", .text suffix)] ∈ keys := by
  refine ⟨rfl, fun entry hentry => ?_⟩
  rcases List.mem_pair.mp hentry with rfl | rfl
  · exact ⟨customer, rfl, hcustomer⟩
  · exact ⟨suffix, rfl, hsuffix⟩

/-- The storage after the order was placed. -/
def ordered : MemoryStorage := (ordering.run bindings .empty).2

theorem orderModel_keysApart : orderModel.KeysApart totalsModel := by
  have hcolumns : ∀ m ∈ orderService.models, m.ColumnsApart := fun m hm =>
    Blueprint.ofSchema_columnsApart blueprint_eq hm
  have horder : textKey "sk" "ORDER" "orderId" ∈ orderModel.primaryKey.parts := by decide
  have htotals : textKey "sk" "TOTALS" "customerId" ∈ totalsModel.primaryKey.parts := by decide
  exact Model.keysApart_of_leads (hcolumns _ (by decide)) (hcolumns _ (by decide)) horder htotals
    rfl rfl rfl (List.cons_ne_nil _ _) rfl rfl (List.cons_ne_nil _ _) (by decide) (by decide)

theorem bindings_bind : bindings.Binds orderService := ⟨by decide, by decide +kernel⟩

/-! Entries and notes lie in one table, and each note has the key of an entry. -/

def bookSchema : String :=
  "type Entry @table(name: \"Book\") @partitionKey(pkFields: [\"id\"]) @ledger \x7b id: ID! \x7d " ++
  "type Note @table(name: \"Book\") @partitionKey(pkFields: [\"id\"]) \x7b id: ID! \x7d"

def bookKey : PrimaryKey := .simple ⟨"id", ["id"], none, true⟩

/-- The record type of a model of the book. -/
def bookType (name : String) (isLedger : Bool) : RecordType :=
  ⟨⟨name, "Book", [.scalar "id" "ID" true], bookKey, [], none, false, isLedger, false, []⟩, [],
    .empty, Code.functionPath?⟩

def entry : RecordType := bookType "Entry" true

def note : RecordType := bookType "Note" false

def book : Blueprint :=
  ⟨[entry.model, note.model], [⟨"Book", bookKey, [], false, false, none, none⟩], []⟩

def bookBindings : Environment := .detached [("TABLE_BOOK", "Book")]

def bookSlot : Slot := ⟨"Book", "id=1"⟩

def page (version : Int) : Record := ⟨[("id", .text "1")], ⟨version, none, none⟩⟩

def entering : Call := .perform (.create entry .epoch (page 0))

/-- The storage after the entry was made. -/
def entered : MemoryStorage := (entering.run bookBindings .empty).2

end SharedExample

open SharedExample Example.Orders in
theorem totals_leave_orders_alone :
    Trace (Call.IsProper orderService keys) bindings .empty [turn bindings 1 ordering .empty]
      ordered ∧
    removing.LeavesAlone bindings ordered orderSlot := by
  have horderKey : ordering.key = [("pk", .text "CUSTOMER#c1"), ("sk", .text "ORDER#o1")] := by
    decide +kernel
  have htotalsKey : removing.key = [("pk", .text "CUSTOMER#c1"), ("sk", .text "TOTALS#c1")] := by
    decide +kernel
  have hordering : ordering.IsProper orderService keys :=
    ⟨by decide, horderKey ▸ mem_keys (by decide) (by decide), _, rfl⟩
  have hremoving : removing.IsProper orderService keys :=
    ⟨by decide, htotalsKey ▸ mem_keys (by decide) (by decide), _, rfl⟩
  have htrace : Trace (Call.IsProper orderService keys) bindings .empty
      [turn bindings 1 ordering .empty] ordered := Trace.start.next 1 ordering hordering
  have hchanges : (turn bindings 1 ordering .empty).changes bindings orderSlot = true := by
    decide +kernel
  have hwriter : writer bindings orderSlot [turn bindings 1 ordering .empty] = some ordering := by
    rw [writer, if_pos hchanges]
    rfl
  exact ⟨htrace, (calls_on_written_items blueprint_eq bindings_bind (injOn_describeKey _) htrace hwriter
    hremoving).1 orderModel_keysApart⟩

open SharedExample Example.Orders in
/-- With the key of an order, a removal of totals takes the order away; with the same key
fields, an update of a note replaces an entry of a ledger. -/
theorem shared_items_are_taken :
    (Blueprint.ofSchema .default schema = .ok orderService ∧
      Trace (fun call => call.type.model ∈ orderService.models) bindings .empty
        [turn bindings 1 ordering .empty] ordered ∧
      writer bindings orderSlot [turn bindings 1 ordering .empty] = some ordering ∧
      (ordered.itemAt? orderSlot).isSome = true ∧
      ((Call.perform (.delete totals (orders.key order))).run bindings ordered).2.itemAt? orderSlot =
        none) ∧
    (Blueprint.ofSchema .default bookSchema = .ok book ∧ entry.model.isLedger = true ∧
      Trace (fun call => call.type.model ∈ book.models) bookBindings .empty
        [turn bookBindings 1 entering .empty] entered ∧
      writer bookBindings bookSlot [turn bookBindings 1 entering .empty] = some entering ∧
      (entered.itemAt? bookSlot).bind (Dict.get? · entityTypeAttribute) = some (.text "Entry") ∧
      (((Call.perform (.update note .epoch (page 1))).run bookBindings entered).2.itemAt?
        bookSlot).bind (Dict.get? · entityTypeAttribute) = some (.text "Note")) := by
  have hordered : (turn bindings 1 ordering .empty).changes bindings orderSlot = true := by
    decide +kernel
  have hentered : (turn bookBindings 1 entering .empty).changes bookBindings bookSlot = true := by
    decide +kernel
  refine ⟨⟨blueprint_eq, Trace.start.next 1 ordering (by decide), ?_, by decide +kernel,
    by decide +kernel⟩, ⟨by decide +kernel, rfl, Trace.start.next 1 entering (by decide), ?_,
    by decide +kernel, by decide +kernel⟩⟩
  · rw [writer, if_pos hordered]
    rfl
  · rw [writer, if_pos hentered]
    rfl

end Store

end Keyspace
