import Keyspace.Blueprint.Basic
import Keyspace.Blueprint.Names
import Keyspace.Error
import Keyspace.Template.Basic

/-!
# Table resources

Every table of a blueprint becomes a table resource and the key that encrypts it. Where a
table has change handlers, the root also gets the bus their events travel on.
-/
namespace Keyspace.Template

def eventBusId : String := "EventBus"

def keyResource (t : Table) : Resource where
  type := "AWS::KMS::Key"
  properties := .object [
    ("Description", .str s!"Encrypts table {t.name}"),
    ("EnableKeyRotation", .bool true),
    ("KeyPolicy", .object [
      ("Version", .str "2012-10-17"),
      ("Statement", .arr [.object [
        ("Sid", .str "AccountAdministration"),
        ("Effect", .str "Allow"),
        ("Principal", .object [
          ("AWS", .sub
            "arn:$\x7bAWS::Partition\x7d:iam::$\x7bAWS::AccountId\x7d:root")]),
        ("Action", .str "kms:*"),
        ("Resource", .str "*")]])])]

/-- One entry of a key schema. -/
def keyElement (part : KeyPart) (role : String) : Json :=
  .object [("AttributeName", .str part.attributeName), ("KeyType", .str role)]

def keySchema (partitionKey : KeyPart) (sortKey : Option KeyPart) : Json :=
  .arr (keyElement partitionKey "HASH" ::
    (sortKey.map fun part => keyElement part "RANGE").toList)

/-- The type of every attribute that a key of the table or of an index uses, by name. Of the
models on the table the first to use an attribute decides. -/
def keyAttributeTypes (b : Blueprint) (t : Table) : Dict String :=
  let uses := (b.modelsOn t).flatMap fun m =>
    (m.primaryKey.parts ++ m.indexes.flatMap (·.parts)).map fun part =>
      (part.attributeName, keyAttributeType m part)
  uses.foldl (fun types (name, type) =>
    if Dict.contains types name then types else Dict.insert types name type) []

def attributeDefinitions (b : Blueprint) (t : Table) : Json :=
  .arr ((keyAttributeTypes b t).map fun (name, type) =>
    .object [("AttributeName", .str name), ("AttributeType", .str type)])

def indexProjection (index : SecondaryIndex) : Json :=
  .object [("ProjectionType", .str index.projection.name)]

def globalIndexJson? (index : SecondaryIndex) : Option Json :=
  match index with
  | .global name partitionKey sortKey _ => some (.object [
      ("IndexName", .str name), ("KeySchema", keySchema partitionKey sortKey),
      ("Projection", indexProjection index)])
  | .local _ _ _ => none

def localIndexJson? (t : Table) (index : SecondaryIndex) : Option Json :=
  match index with
  | .global _ _ _ _ => none
  | .local name sortKey _ => some (.object [
      ("IndexName", .str name),
      ("KeySchema", keySchema t.primaryKey.partitionKey (some sortKey)),
      ("Projection", indexProjection index)])

/-- A member that is left out when its list is empty. -/
def listUnlessEmpty (name : String) (elements : List Json) : List (String × Json) :=
  if elements.isEmpty then [] else [(name, .arr elements)]

def tableResource (b : Blueprint) (t : Table) : Resource where
  type := "AWS::DynamoDB::Table"
  properties := .object (
    [("BillingMode", .str "PAY_PER_REQUEST"),
     ("AttributeDefinitions", attributeDefinitions b t),
     ("KeySchema", keySchema t.primaryKey.partitionKey t.primaryKey.sortKey?),
     ("PointInTimeRecoverySpecification",
       .object [("PointInTimeRecoveryEnabled", .bool t.pointInTimeRecovery)]),
     ("SSESpecification", .object [
       ("SSEEnabled", .bool true), ("SSEType", .str "KMS"),
       ("KMSMasterKeyId", .ref (keyLogicalId t.name))])]
    ++ listUnlessEmpty "GlobalSecondaryIndexes" (t.indexes.filterMap globalIndexJson?)
    ++ listUnlessEmpty "LocalSecondaryIndexes" (t.indexes.filterMap (localIndexJson? t))
    ++ (if t.isStreaming then
          [("StreamSpecification", .object [("StreamViewType", .str "NEW_AND_OLD_IMAGES")])]
        else [])
    ++ (t.ttlAttribute.map fun name => ("TimeToLiveSpecification",
          Json.object [("AttributeName", .str name), ("Enabled", .bool true)])).toList)

/-- An output that gives a value. -/
def outputValue (value : Json) : Json := .obj [("Value", value)]

/-- Adds the resources and outputs of a table whose logical ids are free. -/
def addFreeTable (b : Blueprint) (root : Template) (t : Table) : Template :=
  let id := tableLogicalId t.name
  let root := root.addResource (keyLogicalId t.name) (keyResource t)
  let root := root.addResource id (tableResource b t)
  let root := root.addOutput (id ++ "TableName") (outputValue (.ref id))
  if t.isStreaming then root.addOutput (id ++ "StreamArn") (outputValue (.getAtt id "StreamArn"))
  else root

/-- The first of a table's logical ids that is taken. -/
def takenId? (root : Template) (t : Table) : Option String :=
  [tableLogicalId t.name, keyLogicalId t.name].find? root.resources.contains

/-- Adds tables in order, up to the first whose logical id is taken; gives the template as
far as it got, and the error. -/
def addTablesFrom (b : Blueprint) (root : Template) : List Table → Template × Option Error
  | [] => (root, none)
  | t :: rest =>
    match takenId? root t with
    | some id =>
      (root, some (.schema
        s!"Table `{t.name}` maps to logical id `{id}`, which is already in use"))
    | none => addTablesFrom b (addFreeTable b root t) rest

def addEventBus (root : Template) : Template :=
  let root := root.addResource eventBusId ⟨"AWS::Events::EventBus",
    .obj [("Name", .sub "$\x7bAWS::StackName\x7d-changes")]⟩
  root.addOutput "EventBusName" (outputValue (.ref eventBusId))

/-- Adds the tables of a blueprint and, where a table has handlers, the event bus; gives the
template as far as it got, and the error. -/
def addTables (b : Blueprint) (root : Template) : Template × Option Error :=
  match addTablesFrom b root b.tables with
  | (root, some e) => (root, some e)
  | (root, none) =>
    (if b.tables.any (·.hasHandlers) then addEventBus root else root, none)

end Keyspace.Template
