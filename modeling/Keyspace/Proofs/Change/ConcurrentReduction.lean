import Keyspace.Proofs.Example.OrderTotals

/-!
# Concurrent reductions fold every commit once

Whatever the order of the steps of runs that share a summary, the summary stored is the fold
of the committed changes in the order of their commits, and its version is their number. No
run commits twice, and those that end well are those that have committed.
-/
namespace Keyspace

open Result

/-- A reducer whose results do not depend on the revision of what it reduces. -/
def Reducer.IgnoresRevision (h : Reducer) : Prop :=
  ∀ r r' c reduced, r'.values = r.values → h.reduce r c = .ok reduced →
    ∃ reduced', h.reduce r' c = .ok reduced' ∧ reduced'.values = reduced.values

/-- Without the revision, folding through the store is folding at once. -/
theorem Reducer.FoldsFrom.foldlM {h : Reducer} (hignores : h.IgnoresRevision) {seed r : Record}
    {cs : List Change} (hfolds : h.FoldsFrom seed cs r) :
    ∃ folded, cs.foldlM h.reduce seed = .ok folded ∧ r.values = folded.values := by
  induction hfolds with
  | nil same => exact ⟨seed, rfl, same⟩
  | @next cs r reduced r' c before reduced_eq same ih =>
    obtain ⟨folded, hfolded, hvalues⟩ := ih
    obtain ⟨next, hnext, hsame⟩ := hignores r folded c reduced hvalues.symm reduced_eq
    refine ⟨next, ?_, same.trans hsame.symm⟩
    rw [List.foldlM_append, bind_eq_ok]
    refine ⟨folded, hfolded, ?_⟩
    rw [List.foldlM_cons, bind_eq_ok]
    exact ⟨next, hnext, rfl⟩

namespace Reductions

variable {ι : Type} [DecidableEq ι] {h : Reducer} {runs : ι → ReducerRun} {key : Item}
  {admits : Dict Value → Prop} {table : String}

omit [DecidableEq ι] in
theorem mem_changesOf {is : List ι} {cs : List Change} (hcs : changesOf h runs is = .ok cs) :
    ∀ c ∈ cs, ∃ e, Change.ofEvent h.source e = .ok c := by
  intro c hc
  obtain ⟨i, -, hi⟩ := exists_of_mem_mapM hcs hc
  exact ⟨_, hi⟩

/-- In every reachable state of runs that share a summary, the stored item is the fold of the
committed changes from the seed of the first, its version is the number of commits, no run
has committed twice, and a run that has finished has committed if and only if it ended well.
The tally of orders counts the committed changes with a new image. The steps are those of
`HandlerContext.reduce`: any run that takes all of its steps with no other in between ends with
the result of `reduce` and leaves the storage that `reduce` leaves. -/
theorem reachable_folds (hshare : ReducerRun.Share h runs ⟨table, describeKey key⟩)
    (hacc : h.Accumulates runs key admits) {st : Reductions ι}
    (hst : Reachable h runs ⟨table, describeKey key⟩ st) :
    (st.storage.itemAt? ⟨table, describeKey key⟩ = none → st.committed = []) ∧
    (∀ item, st.storage.itemAt? ⟨table, describeKey key⟩ = some item →
      ∃ c cs seed r, changesOf h runs st.committed = .ok (c :: cs) ∧ h.initial c = .ok seed ∧
        h.FoldsFrom seed (c :: cs) r ∧ item = h.target.toItem r ∧
        Condition.storedVersion? (some item) = some (st.committed.length : Int) ∧
        (h.IgnoresRevision → ∃ folded, (c :: cs).foldlM h.reduce seed = .ok folded ∧
          r.values = folded.values) ∧
        (Example.Orders.tallyOrders? = some h → Dict.get? item "orderCount" =
          some (.number (toString (((c :: cs).countP (·.new.isSome) : Nat) : Int))))) ∧
    st.committed.Nodup ∧
    (∀ i result, st.progress i = .finished result → (i ∈ st.committed ↔ result = .ok ())) ∧
    ∀ (run : ReducerRun) (s : MemoryStorage), ∃ n,
      (fun at_ : ReducerRun.Progress × MemoryStorage => run.step h at_.1 at_.2)^[n]
          (run.start h, s) =
        (.finished (run.context.reduce h run.event s).1, (run.context.reduce h run.event s).2) := by
  have hconsistent := hst.consistent hshare hacc
  have hholds := hconsistent.holds
  refine ⟨fun hnone => ?_, fun item hitem => ?_, hconsistent.nodup, fun i result hresult => ?_,
    fun _ s => ReducerRun.iterate_step_start s⟩
  · rw [hnone] at hholds
    exact hholds
  · rw [hitem] at hholds
    obtain ⟨c, cs, seed, r, hcs, hseed, hfolds, -, -, rfl, hversion, hfits⟩ := hholds
    refine ⟨c, cs, seed, r, hcs, hseed, hfolds, rfl, ?_, fun hignores => hfolds.foldlM hignores, ?_⟩
    · rw [RecordType.storedVersion?_toItem _ _ hfits, hversion]
    · intro htally
      rw [Example.Orders.tallyOrders?_eq] at htally
      cases htally
      have hcounts := Example.Orders.counts_foldsFrom (mem_changesOf hcs)
        (Example.Orders.counts_initial hseed) hfolds
      exact Example.Orders.orderCount_toItem hcounts
  · have hfits := hconsistent.fits i
    rw [hresult] at hfits
    exact hfits

end Reductions

namespace Example.Orders.FreeOrder

def image : Item :=
  [("_v", .number "1"), ("customerId", .text "1"), ("orderId", .text "7"),
    ("placedAt", .text "2024-01-01T00:00:00Z"), ("status", .text "PENDING"), ("total", .number "0")]

/-- An order that costs nothing is placed, and removed. -/
def event (placed : Bool) : BrokerEvent where
  id := none
  detailType := if placed then "INSERT" else "REMOVE"
  source := "Orders.Order"
  time := none
  detail := {
    id := none
    mutation := if placed then .insert else .remove
    source := "arn:aws:dynamodb:eu:1:table/Orders/stream/1"
    payload := ⟨none, [], if placed then some image else none,
      if placed then none else some image, none, none⟩ }

def environment : Environment := .detached [("TABLE_ORDERS", "orders")]

def run (placed : Bool) : ReducerRun :=
  ⟨⟨Store.inMemory environment, fun _ => .epoch, .default, fun _ s => s⟩, event placed⟩

def key : Item := [("pk", .text "CUSTOMER#1"), ("sk", .text "TOTALS#1")]

def slot : Slot := ⟨"orders", describeKey key⟩

/-- Totals of the customer with nothing to pay. -/
def Admits (values : Dict Value) : Prop := ∃ n : Int, fitsInt64 n = true ∧
  values = [("amount", .float (.zero false)), ("customerId", .text "1"), ("orderCount", .int n)]

theorem order_of_image {order : Record} (h : tally.source.unmarshal image = .ok order) :
    order.get? "customerId" = some (.text "1") ∧
      order.get? "total" = some (.float (.zero false)) := by
  have hcomputed : (typeOf orderModel).model.computedOnRead Code.functionPath? = [] := by decide
  have hdistinct : ((typeOf orderModel).model.fields.map (·.name)).Nodup := by decide
  have hcustomer : Field.scalar "customerId" "ID" true ∈ (typeOf orderModel).model.fields := by
    decide
  have htotal : { Field.scalar "total" "Float" true with legacyColumns := ["amount"] } ∈
      (typeOf orderModel).model.fields := by decide
  have hfree : Double.read? "0" = some (.zero false) := by decide +kernel
  obtain ⟨v, hv, hgetv⟩ := RecordType.get?_unmarshal h hcomputed hdistinct hcustomer rfl
  obtain ⟨w, hw, hgetw⟩ := RecordType.get?_unmarshal h hcomputed hdistinct htotal rfl
  have hcustomerAt : Dict.get? image "customerId" = some (.text "1") := rfl
  have htotalAt : Dict.get? image "total" = some (.number "0") := rfl
  have hreadv : image.readRequired .text (typeOf orderModel).model.name ["customerId"] =
      .ok (.text "1") := Item.readRequired_of_get? hcustomerAt rfl rfl
  have hreadw : image.readRequired .float (typeOf orderModel).model.name ["total", "amount"] =
      .ok (.float (.zero false)) :=
    Item.readRequired_of_get? htotalAt rfl (Item.ofAttribute_float hfree)
  have hv' := hreadv.symm.trans hv
  have hw' := hreadw.symm.trans hw
  cases hv'
  cases hw'
  exact ⟨hgetv, hgetw⟩

theorem order_of_change {placed : Bool} {c : Change}
    (h : Change.ofEvent tally.source (event placed) = .ok c) :
    (∃ order, c.current = some order ∧ order.get? "customerId" = some (.text "1")) ∧
      ∀ order, c.new = some order → order.get? "total" = some (.float (.zero false)) := by
  obtain ⟨hnew, hold⟩ := Change.ofEvent_eq_ok h
  cases placed with
  | true =>
    obtain ⟨order, hread, hsome⟩ := map_eq_ok.mp hnew
    obtain ⟨hcustomer, htotal⟩ := order_of_image hread
    refine ⟨⟨order, ?_, hcustomer⟩, fun order' horder' => ?_⟩
    · unfold Change.current
      rw [← hsome]
      rfl
    · rw [← hsome] at horder'
      cases horder'
      exact htotal
  | false =>
    have hnone : c.new = none := (pure_eq_ok.mp hnew).symm
    obtain ⟨order, hread, hsome⟩ := map_eq_ok.mp hold
    refine ⟨⟨order, ?_, (order_of_image hread).1⟩, fun order' horder' => ?_⟩
    · unfold Change.current
      rw [hnone, ← hsome]
      rfl
    · rw [hnone] at horder'
      cases horder'

theorem key_of_admits {r : Record} (h : Admits r.values) : tally.target.key r = key := by
  obtain ⟨n, -, hr⟩ := h
  have hcustomer : r.get? "customerId" = some (.text "1") := by
    rw [Record.get?, hr]
    rfl
  show totalsModel.keyOf _ = key
  have hcongr : totalsModel.keyOf (fun field => keyComponent (r.attribute? field)) =
      totalsModel.keyOf fun _ => .text "1" := by
    refine Model.keyOf_congr fun part hpart field hfield => ?_
    have hname : field = "customerId" := by
      simp only [totalsModel, PrimaryKey.parts, PrimaryKey.partitionKey, PrimaryKey.sortKey?,
        Option.toList, List.mem_cons, List.not_mem_nil, or_false] at hpart
      rcases hpart with rfl | rfl <;> simpa [textKey] using hfield
    rw [hname, Record.attribute?, hcustomer]
    rfl
  rw [hcongr]
  decide

theorem share : ReducerRun.Share tally run slot := by
  refine ⟨fun placed => ⟨environment, rfl, ?_, ?_⟩, fun _ _ _ => rfl⟩
  · have hbound : (environment.tables.get? (tableVariable totalsModel.table)).isSome = true := by
      decide
    exact hbound
  · have htable : (environment.tables.get? (tableVariable totalsModel.table)).getD "" =
        "orders" := by
      decide
    exact htable

theorem amount_lt : "amount" < "customerId" := by decide

theorem initial_eq {c : Change} {seed order : Record} (hcurrent : c.current = some order)
    (hcustomer : order.get? "customerId" = some (.text "1")) (h : tally.initial c = .ok seed) :
    seed.revision = .unwritten ∧ Admits seed.values := by
  change startTotals (typeOf totalsModel) c = .ok seed at h
  unfold startTotals at h
  rw [hcurrent] at h
  dsimp only at h
  rw [hcustomer] at h
  cases h
  have hblank : (typeOf totalsModel).blank.values =
      [("amount", .float (.zero false)), ("customerId", .text ""), ("orderCount", .int 0)] :=
    ofList_totals _ _ _
  refine ⟨rfl, 0, by decide, ?_⟩
  rw [Record.assign, Record.set, hblank, Dict.insert_cons_of_gt amount_lt, Dict.insert_cons_self]

theorem reduce_eq {c : Change} {r r' : Record} (hr : Admits r.values)
    (htotal : ∀ order, c.new = some order → order.get? "total" = some (.float (.zero false)))
    (h : tally.reduce r c = .ok r') : r'.revision = r.revision ∧ Admits r'.values := by
  change addOrder r c = .ok r' at h
  unfold addOrder at h
  cases hnew : c.new with
  | none =>
    rw [hnew] at h
    cases h
    exact ⟨rfl, hr⟩
  | some order =>
    obtain ⟨n, hn, hvalues⟩ := hr
    have hcount : r.get? "orderCount" = some (.int n) := by rw [Record.get?, hvalues]; rfl
    have hamount : r.get? "amount" = some (.float (.zero false)) := by
      rw [Record.get?, hvalues]; rfl
    rw [hnew] at h
    simp only [hcount, hamount, htotal order hnew] at h
    split at h
    · next hfits =>
      cases h
      refine ⟨rfl, n + 1, hfits, ?_⟩
      have hfree : (Double.zero false).add (.zero false) = .zero false := by decide +kernel
      have hlast : "customerId" < "orderCount" := by decide
      rw [Record.set, Record.set, hvalues, Dict.insert_cons_of_gt (amount_lt.trans hlast),
        Dict.insert_cons_of_gt hlast, Dict.insert_cons_self, Dict.insert_cons_self, hfree]
    · cases h

theorem accumulates : tally.Accumulates run key Admits := by
  refine ⟨?_, ?_, ?_, ?_, ?_⟩
  · decide
  · decide
  · intro placed c seed hchange hseed
    obtain ⟨⟨order, hcurrent, hcustomer⟩, -⟩ := order_of_change hchange
    obtain ⟨hrevision, hadmits⟩ := initial_eq hcurrent hcustomer hseed
    exact ⟨key_of_admits hadmits, by rw [hrevision]; rfl, hadmits⟩
  · intro placed c r r' hchange hr _ hreduce
    obtain ⟨hrevision, hadmits⟩ := reduce_eq hr (order_of_change hchange).2 hreduce
    exact ⟨key_of_admits hadmits, hrevision, hadmits⟩
  · rintro r r' ⟨n, hn, hvalues⟩ _ hread
    exact unmarshal_totals hvalues hn (by decide +kernel) hread

/-- Both runs look for the totals before either saves. The first save creates them; the second
run finds them created, loads them and saves again. -/
def interleaved : Reductions Bool :=
  [true, false, true, false, false, false].foldl (Reductions.advance tally run)
    (.start tally run .empty)

theorem reachable_interleaved : Reductions.Reachable tally run slot interleaved :=
  ((((((Reductions.Reachable.start .empty rfl).advance true).advance false).advance true).advance
    false).advance false).advance false

/-- Both runs have ended well, and the totals count the order that was placed. Each of them alone
would do what `HandlerContext.reduce` does. -/
theorem free_orders_folded :
    ReducerRun.Share tally run slot ∧ tally.Accumulates run key Admits ∧
    Reductions.Reachable tally run slot interleaved ∧ interleaved.committed = [true, false] ∧
    (∀ i, interleaved.progress i = .finished (.ok ())) ∧
    (∀ placed s, ∃ n, (fun at_ : ReducerRun.Progress × MemoryStorage =>
        (run placed).step tally at_.1 at_.2)^[n] ((run placed).start tally, s) =
      (.finished ((run placed).context.reduce tally (event placed) s).1,
        ((run placed).context.reduce tally (event placed) s).2)) ∧
    ∃ item, interleaved.storage.itemAt? slot = some item ∧
      Condition.storedVersion? (some item) = some 2 ∧
      Dict.get? item "orderCount" = some (.number "1") := by
  have hcommitted : interleaved.committed = [true, false] := by decide +kernel
  have hcount : (interleaved.storage.itemAt? slot).bind (Dict.get? · "orderCount") =
      some (.number "1") := by decide +kernel
  have hfinished : ∀ i, interleaved.progress i matches .finished _ := by decide +kernel
  obtain ⟨-, hfolded, -, hresult, halone⟩ :=
    Reductions.reachable_folds share accumulates reachable_interleaved
  refine ⟨share, accumulates, reachable_interleaved, hcommitted, fun i => ?_,
    fun placed => halone (run placed), ?_⟩
  · have hi := hfinished i
    cases hprogress : interleaved.progress i with
    | finished result =>
      have hmem : i ∈ interleaved.committed := by rw [hcommitted]; cases i <;> decide
      rw [(hresult i result hprogress).mp hmem]
    | loading c left attempt => rw [hprogress] at hi; cases hi
    | saving c left attempt current => rw [hprogress] at hi; cases hi
  · cases hitem : interleaved.storage.itemAt? slot with
    | none => rw [hitem] at hcount; cases hcount
    | some item =>
      obtain ⟨_, _, _, _, _, _, _, _, hversion, _⟩ := hfolded item hitem
      rw [hcommitted] at hversion
      rw [hitem] at hcount
      exact ⟨item, rfl, hversion, hcount⟩

end Example.Orders.FreeOrder

end Keyspace
