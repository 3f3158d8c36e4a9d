import Keyspace.Example.Orders
import Keyspace.Proofs.Blueprint.Accepted
import Keyspace.Proofs.Change.SharedSummary
import Keyspace.Proofs.Record.Reading
import Keyspace.Proofs.Store.Calls
import Mathlib.Data.String.Basic

/-!
# The totals of the order example

The blueprint of the order schema, written out, and what folding orders into the totals of a
customer does to the order count.
-/
namespace Keyspace

namespace Schema

/-- Scanning a text looks at its characters only. -/
theorem scan_eq (text : String) :
    scan text = scanFrom (text.toList.length + 1) .start 50 text.toList := by
  rw [String.length_toList]
  rfl

/-- A text is read from its tokens. -/
theorem parse_of_scan {text : String} {tokens rest : List Token} {stop : Position}
    {document : Document} (hscan : scan text = ⟨tokens, stop, true⟩)
    (hread : Parser.definitions (tokens.length + 2) tokens = .ok (document, rest)) :
    parse text = .ok document := by
  unfold parse
  rw [hscan]
  dsimp only
  rw [hread]
  rfl

deriving instance DecidableEq for Scan

end Schema

namespace Example.Orders

open Schema Result

def mark (column : Nat) (text : String) (line : Nat) : Token :=
  ⟨.punctuator, text, ⟨line, column⟩⟩

def name (column : Nat) (text : String) (line : Nat) : Token := ⟨.name, text, ⟨line, column⟩⟩

def string (column : Nat) (text : String) (line : Nat) : Token := ⟨.string, text, ⟨line, column⟩⟩

def onLine (line : Nat) (tokens : List (Nat → Token)) : List Token := tokens.map fun t => t line

/-- The tokens of the schema. -/
def tokens : List Token :=
  onLine 1 [name 1 "enum", name 6 "OrderStatus", mark 18 "\x7b"] ++
  onLine 2 [name 3 "PENDING"] ++
  onLine 3 [name 3 "SHIPPED"] ++
  onLine 4 [name 3 "DELIVERED"] ++
  onLine 5 [mark 1 "\x7d"] ++
  onLine 7 [name 1 "type", name 6 "Order"] ++
  onLine 8 [mark 3 "@", name 4 "table", mark 9 "(", name 10 "name", mark 14 ":",
    string 16 "Orders", name 26 "enablePointInTimeRecovery", mark 51 ":", name 53 "true",
    mark 57 ")"] ++
  onLine 9 [mark 3 "@", name 4 "compositeKey", mark 16 "(", name 17 "pkFields", mark 25 ":",
    mark 27 "[", string 28 "customerId", mark 40 "]", name 43 "pkPrefix", mark 51 ":",
    string 53 "CUSTOMER", name 65 "skFields", mark 73 ":", mark 75 "[", string 76 "orderId",
    mark 85 "]", name 88 "skPrefix", mark 96 ":", string 98 "ORDER", mark 105 ")"] ++
  onLine 10 [mark 3 "@", name 4 "secondaryIndex", mark 18 "(", name 19 "name", mark 23 ":",
    string 25 "byStatus", name 37 "pkFields", mark 45 ":", mark 47 "[", string 48 "status",
    mark 56 "]", name 59 "pkPrefix", mark 67 ":", string 69 "STATUS", name 79 "skFields",
    mark 87 ":", mark 89 "[", string 90 "placedAt", mark 100 "]", mark 101 ")"] ++
  onLine 11 [mark 3 "@", name 4 "reacts", mark 10 "(", name 11 "event", mark 16 ":",
    name 18 "INSERT", name 26 "handler", mark 33 ":", string 35 "notifyCustomer", mark 51 ")"] ++
  onLine 12 [mark 3 "@", name 4 "reduces", mark 11 "(", name 12 "event", mark 17 ":",
    name 19 "INSERT", name 27 "targetModel", mark 38 ":", string 40 "CustomerTotals",
    name 58 "handler", mark 65 ":", string 67 "tallyOrders", mark 80 ")", mark 82 "\x7b"] ++
  onLine 13 [name 3 "customerId", mark 13 ":", name 15 "ID", mark 17 "!"] ++
  onLine 14 [name 3 "orderId", mark 10 ":", name 12 "ID", mark 14 "!"] ++
  onLine 15 [name 3 "status", mark 9 ":", name 11 "OrderStatus", mark 22 "!"] ++
  onLine 16 [name 3 "total", mark 8 ":", name 10 "Float", mark 15 "!", mark 17 "@",
    name 18 "column", mark 24 "(", name 25 "name", mark 29 ":", string 31 "total",
    name 40 "legacyNames", mark 51 ":", mark 53 "[", string 54 "amount", mark 62 "]",
    mark 63 ")"] ++
  onLine 17 [name 3 "placedAt", mark 11 ":", name 13 "DateTime", mark 21 "!"] ++
  onLine 18 [name 3 "note", mark 7 ":", name 9 "String"] ++
  onLine 19 [mark 1 "\x7d"] ++
  onLine 21 [name 1 "type", name 6 "CustomerTotals"] ++
  onLine 22 [mark 3 "@", name 4 "table", mark 9 "(", name 10 "name", mark 14 ":",
    string 16 "Orders", mark 24 ")"] ++
  onLine 23 [mark 3 "@", name 4 "compositeKey", mark 16 "(", name 17 "pkFields", mark 25 ":",
    mark 27 "[", string 28 "customerId", mark 40 "]", name 43 "pkPrefix", mark 51 ":",
    string 53 "CUSTOMER", name 65 "skFields", mark 73 ":", mark 75 "[", string 76 "customerId",
    mark 88 "]", name 91 "skPrefix", mark 99 ":", string 101 "TOTALS", mark 109 ")",
    mark 111 "\x7b"] ++
  onLine 24 [name 3 "customerId", mark 13 ":", name 15 "ID", mark 17 "!"] ++
  onLine 25 [name 3 "orderCount", mark 13 ":", name 15 "Int", mark 18 "!"] ++
  onLine 26 [name 3 "amount", mark 9 ":", name 11 "Float", mark 16 "!"] ++
  onLine 27 [mark 1 "\x7d"]

theorem scan_schema : scan schema = ⟨tokens, ⟨27, 2⟩, true⟩ := by
  rw [scan_eq]
  -- The lines are taken apart here: the kernel is slow at reading the characters of a text.
  unfold schema schemaText
  rw [String.toList_intercalate]
  simp only [List.map_cons, List.map_nil]
  repeat rw [String.toList_ofList]
  decide +kernel

def document : Document :=
  match Parser.definitions (tokens.length + 2) tokens with
  | .ok (document, _) => document
  | .error _ => []

theorem parse_schema : Schema.parse schema = .ok document := by
  have hread : (Parser.definitions 164 tokens).isOk = true := by decide
  have hlength : tokens.length + 2 = 164 := rfl
  rw [← hlength] at hread
  have hdocument : ∃ rest,
      Parser.definitions (tokens.length + 2) tokens = .ok (document, rest) := by
    unfold document
    generalize Parser.definitions (tokens.length + 2) tokens = outcome at hread
    cases outcome with
    | error _ => cases hread
    | ok outcome => exact ⟨outcome.2, rfl⟩
  obtain ⟨rest, hrest⟩ := hdocument
  exact parse_of_scan scan_schema hrest

def textKey (attributeName lead field : String) : KeyPart :=
  ⟨attributeName, [field], some lead, false⟩

def totalsModel : Model where
  name := "CustomerTotals"
  table := "Orders"
  fields := [.scalar "customerId" "ID" true, .scalar "orderCount" "Int" true,
    .scalar "amount" "Float" true]
  primaryKey := .composite (textKey "pk" "CUSTOMER" "customerId")
    (textKey "sk" "TOTALS" "customerId")
  indexes := []
  ttl := none
  isConsistent := false
  isLedger := false
  isPublic := false
  handlers := []

/-- The index of orders by their status. -/
def byStatus : SecondaryIndex :=
  .global "byStatus" (textKey "byStatuspk" "STATUS" "status")
    (some ⟨"placedAt", ["placedAt"], none, true⟩) .all

def notifyHandler : ChangeHandler :=
  ⟨.reactor, .insert, "Order", none, "notifyCustomer", "FnNotifyCustomer", ["Orders"], [],
    ⟨256, 30⟩⟩

def tallyHandler : ChangeHandler :=
  ⟨.reducer, .insert, "Order", some "CustomerTotals", "tallyOrders", "FnTallyOrders", ["Orders"],
    ["Orders"], ⟨256, 30⟩⟩

def orderModel : Model where
  name := "Order"
  table := "Orders"
  fields := [.scalar "customerId" "ID" true, .scalar "orderId" "ID" true,
    { Field.scalar "status" "OrderStatus" true with kind := .enum },
    { Field.scalar "total" "Float" true with legacyColumns := ["amount"] },
    { Field.scalar "placedAt" "DateTime" true with isDateType := true },
    .scalar "note" "String" false]
  primaryKey := .composite (textKey "pk" "CUSTOMER" "customerId") (textKey "sk" "ORDER" "orderId")
  indexes := [byStatus]
  ttl := none
  isConsistent := false
  isLedger := false
  isPublic := false
  handlers := [notifyHandler, tallyHandler]

def ordersTable : Table :=
  ⟨"Orders", totalsModel.primaryKey, [byStatus], true, true, none,
    some ⟨10, 3, ⟨384, 60⟩, "DispatcherOrders"⟩⟩

def statuses : EnumType := ⟨"OrderStatus", ["PENDING", "SHIPPED", "DELIVERED"]⟩

theorem ofDocument_document : Blueprint.ofDocument .default document =
    .ok ⟨[totalsModel, orderModel], [ordersTable], [statuses]⟩ := by
  decide +kernel

theorem blueprint_eq :
    blueprint = .ok ⟨[totalsModel, orderModel], [ordersTable], [statuses]⟩ :=
  bind_eq_ok.mpr ⟨document, parse_schema, ofDocument_document⟩

/-- The record type of a model of the schema. -/
def typeOf (m : Model) : RecordType := ⟨m, [statuses], .empty, Code.functionPath?⟩

/-- The tally of orders, with its record types written out. -/
def tally : Reducer :=
  ⟨typeOf orderModel, typeOf totalsModel, startTotals (typeOf totalsModel), addOrder⟩

theorem tallyOrders?_eq : tallyOrders? = some tally := by
  have htype (model : String) : recordType? model = recordTypeIn?
      ⟨[totalsModel, orderModel], [ordersTable], [statuses]⟩ .empty model := by
    unfold recordType?
    rw [blueprint_eq]
    rfl
  unfold tallyOrders?
  rw [htype, htype]
  rfl

/-- An order that was read has a total. -/
theorem total_unmarshal {item : Item} {order : Record}
    (h : (typeOf orderModel).unmarshal item = .ok order) :
    ∃ x, order.get? "total" = some (.float x) := by
  have hcomputed : (typeOf orderModel).model.computedOnRead Code.functionPath? = [] := by decide
  have hdistinct : ((typeOf orderModel).model.fields.map (·.name)).Nodup := by decide
  have hf : { Field.scalar "total" "Float" true with legacyColumns := ["amount"] } ∈
    (typeOf orderModel).model.fields := by decide
  have hrule : Field.readRule { Field.scalar "total" "Float" true with
      legacyColumns := ["amount"] } = .required ["total", "amount"] := by decide
  obtain ⟨value, hread, hget⟩ := RecordType.get?_unmarshal h hcomputed hdistinct hf hrule
  obtain ⟨x, rfl⟩ := Item.readRequired_float hread
  exact ⟨x, hget⟩

/-- The order count and the amount of totals. -/
def Counts (r : Record) (n : Nat) : Prop :=
  r.get? "orderCount" = some (.int n) ∧ ∃ x, r.get? "amount" = some (.float x)

theorem counts_congr {r r' : Record} {n : Nat} (h : Counts r n) (hsame : r'.values = r.values) :
    Counts r' n := by
  unfold Counts Record.get? at *
  rw [hsame]
  exact h

theorem counts_initial {c : Change} {seed : Record} (h : tally.initial c = .ok seed) :
    Counts seed 0 := by
  change startTotals (typeOf totalsModel) c = .ok seed at h
  unfold startTotals at h
  split at h
  · cases h
  · next order _ =>
    cases h
    have hblank : Counts (typeOf totalsModel).blank 0 := ⟨rfl, _, rfl⟩
    cases order.get? "customerId" with
    | none =>
      refine ⟨(Dict.get?_erase_ne _ (by decide)).trans hblank.1, ?_⟩
      obtain ⟨x, hamount⟩ := hblank.2
      exact ⟨x, (Dict.get?_erase_ne _ (by decide)).trans hamount⟩
    | some v =>
      refine ⟨(Dict.get?_insert_ne _ _ (by decide)).trans hblank.1, ?_⟩
      obtain ⟨x, hamount⟩ := hblank.2
      exact ⟨x, (Dict.get?_insert_ne _ _ (by decide)).trans hamount⟩

theorem counts_addOrder {r r' : Record} {c : Change} {n : Nat} (hr : Counts r n)
    (horder : ∀ order, c.new = some order → ∃ x, order.get? "total" = some (.float x))
    (h : addOrder r c = .ok r') : Counts r' (n + if c.new.isSome then 1 else 0) := by
  obtain ⟨hcount, x, hamount⟩ := hr
  unfold addOrder at h
  cases hnew : c.new with
  | none =>
    rw [hnew] at h
    cases h
    exact ⟨hcount, x, hamount⟩
  | some order =>
    obtain ⟨y, htotal⟩ := horder order hnew
    rw [hnew] at h
    simp only [hcount, hamount, htotal] at h
    split at h
    · cases h
      refine ⟨?_, x.add y, Dict.get?_insert_self _ _ _⟩
      show Dict.get? (Dict.insert _ "amount" _) "orderCount" = _
      rw [Dict.get?_insert_ne _ _ (by decide)]
      exact Dict.get?_insert_self _ _ _
    · cases h

/-- The new image of an order event, if it has one, is an order with a total. -/
theorem total_ofEvent {e : BrokerEvent} {c : Change}
    (h : Change.ofEvent tally.source e = .ok c) :
    ∀ order, c.new = some order → ∃ x, order.get? "total" = some (.float x) := by
  intro order horder
  obtain ⟨hnew, -⟩ := Change.ofEvent_eq_ok h
  rw [horder] at hnew
  cases himage : e.detail.payload.newImage with
  | none => rw [himage] at hnew; cases hnew
  | some item =>
    rw [himage, Option.mapM_some] at hnew
    obtain ⟨order', hread, hsome⟩ := map_eq_ok.mp hnew
    cases hsome
    exact total_unmarshal hread

/-- Folding order events counts those with a new image. -/
theorem counts_foldsFrom {seed r : Record} {cs : List Change}
    (hcs : ∀ c ∈ cs, ∃ e, Change.ofEvent tally.source e = .ok c) (hseed : Counts seed 0)
    (h : tally.FoldsFrom seed cs r) :
    Counts r (cs.countP (·.new.isSome)) := by
  induction h with
  | nil same => exact counts_congr hseed same
  | @next cs r reduced r' c before reduced_eq same ih =>
    have hbefore := ih fun c' hc' => hcs c' (List.mem_append_left _ hc')
    obtain ⟨e, he⟩ := hcs c (List.mem_append_right _ (List.mem_singleton_self c))
    have hafter := counts_addOrder hbefore (total_ofEvent he) reduced_eq
    rw [List.countP_append, List.countP_singleton]
    exact counts_congr hafter same

theorem writeSteps_totals : totalsModel.writeSteps Code.functionPath? =
    [.plain "customerId" "customerId",
    .plain "orderCount" "orderCount", .plain "amount" "amount"] := by
  decide

/-- The fields of totals stand in the image under their names. -/
theorem get?_toItem_totals {r : Record} {field : String} {value : Value}
    (hfield : field = "customerId" ∨ field = "orderCount" ∨ field = "amount")
    (h : r.get? field = some value) :
    Dict.get? ((typeOf totalsModel).toItem r) field = some value.toAttribute := by
  have hown : field ∉
      [entityTypeAttribute, versionAttribute, createdAtAttribute, updatedAtAttribute] := by
    rcases hfield with rfl | rfl | rfl <;> decide
  have hattribute : r.attribute? field = some value.toAttribute := by rw [Record.attribute?, h]; rfl
  have hmarshal : (typeOf totalsModel).marshal r =
      ((((typeOf totalsModel).key r).put "customerId" (r.attribute? "customerId")).put
        "orderCount" (r.attribute? "orderCount")).put "amount" (r.attribute? "amount") := by
    show (totalsModel.writeSteps Code.functionPath?).foldl _ _ = _
    rw [writeSteps_totals]
    rfl
  rw [RecordType.get?_toItem _ _ hown, hmarshal]
  rcases hfield with rfl | rfl | rfl
  · rw [Item.get?_put_ne (by decide), Item.get?_put_ne (by decide), hattribute]
    exact Item.get?_put_self _ _ _
  · rw [Item.get?_put_ne (by decide), hattribute]
    exact Item.get?_put_self _ _ _
  · rw [hattribute]
    exact Item.get?_put_self _ _ _

theorem orderCount_toItem {r : Record} {n : Nat} (h : Counts r n) :
    Dict.get? (tally.target.toItem r) "orderCount" = some (.number (toString (n : Int))) := by
  have hget := get?_toItem_totals (Or.inr (Or.inl rfl)) h.1
  rw [Value.toAttribute] at hget
  exact hget

/-- The fields of totals in the order of their names. -/
theorem ofList_totals (customer count amount : Value) :
    Dict.ofList [("customerId", customer), ("orderCount", count), ("amount", amount)] =
      [("amount", amount), ("customerId", customer), ("orderCount", count)] := by
  have hlater : "customerId" < "orderCount" := by decide
  have hfirst : "amount" < "customerId" := by decide
  rw [Dict.ofList, List.foldl_cons, List.foldl_cons, List.foldl_cons, List.foldl_nil, Dict.insert,
    Dict.insert_cons_of_gt hlater, Dict.insert_cons_of_lt hfirst]
  rfl

/-- Reading an image of totals gives back its count, its amount and its customer, if they are
read back from their own attributes. -/
theorem unmarshal_totals {r r' : Record} {customer : String} {n : Int} {x : Double}
    (hr : r.values = [("amount", .float x), ("customerId", .text customer), ("orderCount", .int n)])
    (hn : fitsInt64 n = true) (hx : Double.read? (NumberForm.plain.write x) = some x)
    (h : (typeOf totalsModel).unmarshal ((typeOf totalsModel).toItem r) = .ok r') :
    r'.values = r.values := by
  unfold RecordType.unmarshal at h
  obtain ⟨entries, hentries, h⟩ := bind_eq_ok.mp h
  obtain ⟨revision, -, h⟩ := bind_eq_ok.mp h
  have hcomputed : (typeOf totalsModel).model.computedOnRead Code.functionPath? = [] := by decide
  rw [RecordType.computeVirtual_eq_self hcomputed] at h
  have hfield (field : String) : r.get? field = Dict.get? [("amount", .float x),
      ("customerId", .text customer), ("orderCount", .int n)] field := by
    rw [Record.get?, hr]
  have hcustomer := get?_toItem_totals (Or.inl rfl) (hfield "customerId")
  have hcount := get?_toItem_totals (Or.inr (Or.inl rfl)) (hfield "orderCount")
  have hamount := get?_toItem_totals (Or.inr (Or.inr rfl)) (hfield "amount")
  have hread : totalsModel.fields.mapM (fun f => do
      pure ((← (typeOf totalsModel).readField ((typeOf totalsModel).toItem r) f).map
        fun v => (f.name, v))) =
      (.ok [some ("customerId", .text customer), some ("orderCount", .int n),
        some ("amount", .float x)] : Result _) := by
    rw [mapM_eq_ok]
    refine .cons ?_ (.cons ?_ (.cons ?_ .nil))
    · exact bind_eq_ok.mpr ⟨_, map_eq_ok.mpr
        ⟨_, Item.readRequired_of_get? hcustomer rfl rfl, rfl⟩, rfl⟩
    · have hread := Item.ofAttribute_int ((readInt64?_toString n).trans (if_pos hn))
      exact bind_eq_ok.mpr ⟨_, map_eq_ok.mpr
        ⟨_, Item.readRequired_of_get? hcount rfl hread, rfl⟩, rfl⟩
    · exact bind_eq_ok.mpr ⟨_, map_eq_ok.mpr
        ⟨_, Item.readRequired_of_get? hamount rfl (Item.ofAttribute_float hx), rfl⟩, rfl⟩
  have hsame := hread.symm.trans hentries
  cases hsame
  rw [← pure_eq_ok.mp h, hr]
  exact ofList_totals _ _ _

/-- The record type of the totals of a customer. -/
def totals : RecordType := typeOf totalsModel

/-- The environment of the order service. -/
def bindings : Environment := .detached [("TABLE_ORDERS", "Orders")]

/-- The totals of one customer, never written before. -/
def draft (count : Int) : Record where
  values := [("amount", .float (.zero false)), ("customerId", .text "c1"), ("orderCount", .int count)]
  revision := .unwritten

/-- The removal of the customer's totals. -/
def removing : Store.Call := .perform (.delete totals (totals.key (draft 1)))

end Example.Orders

end Keyspace
