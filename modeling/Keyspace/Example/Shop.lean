import Keyspace.Example.Orders

/-!
# Example: a shop

Models of every kind on several tables: accounts with indexes, legacy columns, computed
fields and an expiry field, cards derived from accounts, a ledger of payments, counters with
keys of several types, and tickets that expire.
-/
namespace Keyspace.Example.Shop

def schema : String := schemaText [
  "enum Tier \x7b FREE PRO IN_TRANSIT \x7d",
  "",
  "scalar Money",
  "",
  "interface Expiring \x7b",
  "  expiresAt: DateTime @ttl(duration: \"30d\") @column(name: \"exp\")",
  "\x7d",
  "",
  "type Address \x7b",
  "  street: String!",
  "  city: String",
  "\x7d",
  "",
  "type Account implements Expiring",
  "  @table(name: \"Shop\")",
  "  @compositeKey(pkFields: [\"tenantId\"], pkPrefix: \"TENANT\", skFields: [\"accountId\"], skPrefix: \"ACC\")",
  "  @secondaryIndex(name: \"byTier\", pkFields: [\"tier\"], pkPrefix: \"TIER\", skFields: [\"rank\", \"active\"])",
  "  @secondaryIndex(name: \"byRank\", type: LSI, skFields: [\"rank\"], projection: KEYS_ONLY)",
  "  @simpleIndex(field: \"email\")",
  "  @consistent \x7b",
  "  tenantId: ID!",
  "  accountId: ID!",
  "  tier: Tier!",
  "  rank: Int!",
  "  active: Boolean!",
  "  email: String",
  "  balance: Float @column(name: \"bal\", legacyNames: [\"balance\", \"amount\"])",
  "  joined: Date",
  "  seenAt: DateTime",
  "  labels: [String!]",
  "  scores: [Int!]!",
  "  tiers: [Tier]",
  "  address: Address",
  "  extra: JSONObject!",
  "  price: Money",
  "  type: String",
  "  display: String @computed(function: \"crate::compute::display\", virtual: true)",
  "  slug: String! @computed(function: \"crate::compute::slug\")",
  "  expiresAt: DateTime",
  "\x7d",
  "",
  "type Card",
  "  @table(name: \"Shop\")",
  "  @compositeKey(pkFields: [\"tenantId\"], pkPrefix: \"TENANT\", skFields: [\"accountId\"], skPrefix: \"CARD\") \x7b",
  "  tenantId: ID!",
  "  accountId: ID!",
  "  label: String!",
  "\x7d",
  "",
  "type Payment @ledger @partitionKey(pkFields: [\"paymentId\"]) \x7b",
  "  paymentId: ID!",
  "  amount: Float!",
  "\x7d",
  "",
  "type Counter",
  "  @table(name: \"page-counters\")",
  "  @compositeKey(pkFields: [\"slot\"], skFields: [\"day\", \"ratio\", \"on\"]) \x7b",
  "  slot: Int!",
  "  day: Date!",
  "  ratio: Float!",
  "  on: Boolean!",
  "  hits: Int",
  "\x7d",
  "",
  "type Ticket @table(name: \"Tickets2\") @partitionKey(pkFields: [\"ref\", \"seq\"]) \x7b",
  "  ref: String!",
  "  seq: Int!",
  "  diesAt: DateTime! @ttl(duration: \"1h\")",
  "\x7d"]

/-- The text of a value in a computed text. -/
def shown (r : Record) (field : String) : String :=
  match r.get? field with
  | some (.text content) => content
  | some (.int n) => toString n
  | _ => ""

/-- The name of an active account. -/
def display : Computation := fun r =>
  match r.get? "active" with
  | some (.bool true) => some (.text (shown r "tenantId" ++ "/" ++ shown r "accountId"))
  | _ => none

/-- The short name of an account. -/
def slug : Computation := fun r => some (.text (shown r "accountId" ++ "-" ++ shown r "rank"))

def functions : Dict Computation :=
  .ofList [("crate::compute::display", display), ("crate::compute::slug", slug)]

def blueprint : Result Blueprint := Blueprint.ofSchema .default schema

def recordType? (model : String) : Option RecordType := do
  recordTypeIn? (← blueprint.toOption) functions model

/-- The card of an account; only accounts of the paid tier have one. -/
def cardOf (card : RecordType) (change : Change) : Option Record := do
  let account ← change.current
  match account.get? "tier" with
  | some (.text "PRO") =>
    some (((card.blank.assign "tenantId" (account.get? "tenantId")).assign
      "accountId" (account.get? "accountId")).set
      "label" (.text (shown account "slug" ++ ":" ++ shown account "rank")))
  | _ => none

/-- Derives a card from each account. -/
def cardMaker? : Option (Enricher σ) := do
  let card ← recordType? "Card"
  pure ⟨← recordType? "Account", card, fun change => pure (cardOf card change)⟩

end Keyspace.Example.Shop
