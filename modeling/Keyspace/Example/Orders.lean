import Keyspace.Blueprint.Build
import Keyspace.Change.Consumer

/-!
# Example: orders

A small order service: customers place orders, and a summary of each customer's orders is
kept up to date by a reducer. Another handler would tell the customer about a new order.
-/
namespace Keyspace.Example

/-- The lines of a schema as one text. -/
def schemaText (lines : List String) : String := "\n".intercalate lines

/-- The record type of a model of a blueprint, with functions for its computed fields. -/
def recordTypeIn? (b : Blueprint) (functions : Dict Computation) (model : String) :
    Option RecordType := do
  pure ⟨← b.model? model, b.enums, functions, Code.functionPath?⟩

namespace Orders

def schema : String := schemaText [
  "enum OrderStatus \x7b",
  "  PENDING",
  "  SHIPPED",
  "  DELIVERED",
  "\x7d",
  "",
  "type Order",
  "  @table(name: \"Orders\", enablePointInTimeRecovery: true)",
  "  @compositeKey(pkFields: [\"customerId\"], pkPrefix: \"CUSTOMER\", skFields: [\"orderId\"], skPrefix: \"ORDER\")",
  "  @secondaryIndex(name: \"byStatus\", pkFields: [\"status\"], pkPrefix: \"STATUS\", skFields: [\"placedAt\"])",
  "  @reacts(event: INSERT, handler: \"notifyCustomer\")",
  "  @reduces(event: INSERT, targetModel: \"CustomerTotals\", handler: \"tallyOrders\") \x7b",
  "  customerId: ID!",
  "  orderId: ID!",
  "  status: OrderStatus!",
  "  total: Float! @column(name: \"total\", legacyNames: [\"amount\"])",
  "  placedAt: DateTime!",
  "  note: String",
  "\x7d",
  "",
  "type CustomerTotals",
  "  @table(name: \"Orders\")",
  "  @compositeKey(pkFields: [\"customerId\"], pkPrefix: \"CUSTOMER\", skFields: [\"customerId\"], skPrefix: \"TOTALS\") \x7b",
  "  customerId: ID!",
  "  orderCount: Int!",
  "  amount: Float!",
  "\x7d"]

def blueprint : Result Blueprint := Blueprint.ofSchema .default schema

def recordType? (model : String) : Option RecordType := do
  recordTypeIn? (← blueprint.toOption) .empty model

/-- Tells a customer about a placed order. Telling is left to the reader: nothing happens
to any record. -/
def notifyCustomer? : Option (Reactor σ) := do
  pure ⟨← recordType? "Order", fun _ => pure ()⟩

/-- The summary that an order counts for, with nothing counted yet. -/
def startTotals (totals : RecordType) (change : Change) : Result Record :=
  match change.current with
  | none => .error (.unexpected "order change without an image")
  | some order => .ok (totals.blank.assign "customerId" (order.get? "customerId"))

/-- Counts an order that is there after the change, and adds its total. -/
def addOrder (totals : Record) (change : Change) : Result Record :=
  match change.new with
  | none => .ok totals
  | some order =>
    match totals.get? "orderCount", totals.get? "amount", order.get? "total" with
    | some (.int count), some (.float amount), some (.float total) =>
      if fitsInt64 (count + 1) then
        .ok ((totals.set "orderCount" (.int (count + 1))).set "amount" (.float (amount.add total)))
      else .error (.fault "order count out of range")
    | _, _, _ => .ok totals

/-- Keeps the summary of each customer's orders. -/
def tallyOrders? : Option Reducer := do
  let totals ← recordType? "CustomerTotals"
  pure ⟨← recordType? "Order", totals, startTotals totals, addOrder⟩

end Orders

end Keyspace.Example
