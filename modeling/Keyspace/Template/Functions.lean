import Keyspace.Config.Basic
import Keyspace.Template.Stacks
import Keyspace.Template.Tables

/-!
# Function stacks

Every table with change handlers gets a nested stack with its dispatcher, and every handler
a nested stack with its function, the rule that triggers it and the access it needs.
-/
namespace Keyspace.Template

def eventBusParameter : String := "EventBusName"

def streamParameter : String := "StreamArn"

def deadLetterQueueId : String := "DeadLetterQueue"

/-- The members every function has. -/
def functionMembers (config : Config) (artifact : String) (sizing : Sizing) :
    List (String × Json) :=
  let uri := String.ofList ((config.code.uri.toList.reverse.dropWhile (· = '/')).reverse)
  [("CodeUri", .str s!"{uri}/{artifact}"),
   ("Handler", .str "bootstrap"),
   ("Runtime", .str config.code.runtime),
   ("Architectures", .arr [.str config.code.architecture]),
   ("MemorySize", .int sizing.memorySize),
   ("Timeout", .int sizing.timeout)]

def deadLetterQueue : Resource :=
  ⟨"AWS::SQS::Queue", .obj [("MessageRetentionPeriod", .int 1209600)]⟩

def dispatcherEvents (d : Dispatcher) : Json :=
  .object [("Stream", .object [
    ("Type", .str "DynamoDB"),
    ("Properties", .object [
      ("Stream", .ref streamParameter),
      ("StartingPosition", .str "TRIM_HORIZON"),
      ("BatchSize", .int d.batchSize),
      ("MaximumRetryAttempts", .int d.maximumRetryAttempts),
      ("BisectBatchOnFunctionError", .bool true),
      ("DestinationConfig", .object [
        ("OnFailure", .object [("Destination", .getAtt deadLetterQueueId "Arn")])])])])]

def dispatcherFunction (config : Config) (d : Dispatcher) : Resource where
  type := functionType
  properties := .object (functionMembers config "dispatcher" d.sizing ++ [
    ("Environment", .object [
      ("Variables", .object [("EVENT_BUS_NAME", .ref eventBusParameter)])]),
    ("Events", dispatcherEvents d),
    ("Policies", .arr [
      .object [("EventBridgePutEventsPolicy",
        .object [("EventBusName", .ref eventBusParameter)])],
      .object [("SQSSendMessagePolicy",
        .object [("QueueName", .getAtt deadLetterQueueId "QueueName")])]])])

def dispatcherTemplate (config : Config) (t : Table) (d : Dispatcher) : Template :=
  ((serverless s!"Publishes change events for table {t.name}").addResource deadLetterQueueId
    deadLetterQueue).addResource d.functionName (dispatcherFunction config d)

/-- Lets the event bus write to the dead letter queue. -/
def deadLetterPolicy : Resource where
  type := "AWS::SQS::QueuePolicy"
  properties := .object [
    ("Queues", .arr [.ref deadLetterQueueId]),
    ("PolicyDocument", .object [
      ("Version", .str "2012-10-17"),
      ("Statement", .arr [.object [
        ("Effect", .str "Allow"),
        ("Principal", .object [("Service", .str "events.amazonaws.com")]),
        ("Action", .str "sqs:SendMessage"),
        ("Resource", .getAtt deadLetterQueueId "Arn")]])])]

/-- The source of a model's events: the physical table and the model. -/
def eventSource (t : Table) (h : ChangeHandler) : Json :=
  .sub ("$\x7b" ++ tableParameter t.name ++ "\x7d." ++ h.source)

def handlerEvents (t : Table) (h : ChangeHandler) : Json :=
  .object [("Trigger", .object [
    ("Type", .str "EventBridgeRule"),
    ("Properties", .object [
      ("EventBusName", .ref eventBusParameter),
      ("Pattern", .object [
        ("source", .arr [eventSource t h]),
        ("detail-type", .ofStrings h.event.mutationNames)]),
      ("DeadLetterConfig", .object [("Arn", .getAtt deadLetterQueueId "Arn")])])])]

/-- A policy that names a table. -/
def tablePolicy (policy table : String) : Json :=
  .object [(policy, .object [("TableName", .ref (tableParameter table))])]

/-- Read access to the readable tables, full access to the writable ones. -/
def tablePolicies (h : ChangeHandler) : List Json :=
  let writable := sortedDistinct h.writableTables
  (h.readableTables.filter fun t => !writable.contains t).map (tablePolicy "DynamoDBReadPolicy")
    ++ writable.map (tablePolicy "DynamoDBCrudPolicy")

def handlerFunction (config : Config) (t : Table) (h : ChangeHandler) : Resource where
  type := functionType
  properties := .object (functionMembers config (artifactName h.name) h.sizing ++ [
    ("Events", handlerEvents t h),
    ("Policies", .arr (tablePolicies h))])

def handlerTemplate (config : Config) (t : Table) (h : ChangeHandler) : Template :=
  let description := s!"{h.kind.name.toLower} {h.name} for {h.source} {h.event.name} changes"
  (((serverless description).addResource deadLetterQueueId deadLetterQueue).addResource
    (deadLetterQueueId ++ "Policy") deadLetterPolicy).addResource h.functionName
    (handlerFunction config t h)

/-- The tables a handler of a table touches, sorted. -/
def handlerTables (t : Table) (h : ChangeHandler) : List String :=
  sortedDistinct (h.readableTables ++ h.writableTables ++ [t.name])

def addDispatcher (config : Config) (s : Stacks) (t : Table) (d : Dispatcher) : Stacks :=
  let name := stackName d.functionName
  let s := s.addNested name ⟨dispatcherTemplate config t d, [t.name]⟩
  let s := s.bindParameter name streamParameter (.getAtt (tableLogicalId t.name) "StreamArn")
  s.bindParameter name eventBusParameter (.ref eventBusId)

def addHandler (config : Config) (t : Table) (s : Stacks) (h : ChangeHandler) : Stacks :=
  let name := stackName h.functionName
  let s := s.addNested name ⟨handlerTemplate config t h, handlerTables t h⟩
  s.bindParameter name eventBusParameter (.ref eventBusId)

/-- Adds the dispatcher and the handlers of a table, if it has handlers. -/
def addTableFunctions (b : Blueprint) (config : Config) (s : Stacks) (t : Table) : Stacks :=
  match t.dispatcher with
  | none => s
  | some d =>
    ((b.modelsOn t).flatMap (·.handlers)).foldl (addHandler config t) (addDispatcher config s t d)

/-- Adds the function stacks of a blueprint. -/
def addFunctions (b : Blueprint) (config : Config) (s : Stacks) : Stacks :=
  b.tables.foldl (addTableFunctions b config) s

end Keyspace.Template
