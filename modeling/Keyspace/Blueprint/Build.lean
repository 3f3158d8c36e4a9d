import Keyspace.Config.Basic
import Keyspace.Schema.Directive

/-!
# From schema to blueprint

`Blueprint.ofDocument` builds the blueprint of a schema document. Types are visited by
name and every reference is resolved against all declarations, so the order of the
definitions does not matter. The first rule that the document breaks is the error.
-/
namespace Keyspace.Blueprint

open Schema

/-- The scalars every schema knows. -/
def builtinScalars : List String :=
  ["ID", "String", "Int", "Float", "Boolean", "Date", "DateTime", "JSONObject"]

/-- Fields every model has without declaring them. -/
def systemFields : List String := ["version", "createdAt", "updatedAt"]

/-- Attributes the store writes on every item. -/
def reservedColumns : List String := ["pk", "sk", "_et", "_v", "_ct", "_md"]

/-- The declarations of a document, by kind and name. -/
structure Declarations where
  objects : Dict TypeDeclaration
  interfaces : Dict TypeDeclaration
  enums : Dict EnumDeclaration
  scalars : List String
  /-- The object types that declare a primary key, sorted. -/
  models : List String

/-- How many primary key directives a type carries. -/
def primaryKeyCount (type : TypeDeclaration) : Nat :=
  type.directives.countP fun use =>
    match Directive.Kind.ofName? use.name with
    | some kind => kind.isPrimaryKey
    | none => false

/-- The first name that stands twice in a list. -/
def repeated? : (seen : List String) → List String → Option String
  | _, [] => none
  | seen, name :: rest => if seen.contains name then some name else repeated? (name :: seen) rest

def objectsOf (document : Document) : Dict TypeDeclaration :=
  .ofList (document.filterMap fun
    | .object type => some (type.name, type)
    | _ => none)

def interfacesOf (document : Document) : Dict TypeDeclaration :=
  .ofList (document.filterMap fun
    | .interface type => some (type.name, type)
    | _ => none)

def enumsOf (document : Document) : Dict EnumDeclaration :=
  .ofList (document.filterMap fun
    | .enum type => some (type.name, type)
    | _ => none)

def scalarsOf (document : Document) : List String :=
  builtinScalars ++ document.filterMap fun
    | .scalar name => some name
    | _ => none

/-- Collects the declarations of a document. -/
def Declarations.ofDocument (document : Document) : Result Declarations := do
  match repeated? [] (document.filterMap Definition.typeName?) with
  | some name => throw (.schema s!"Type `{name}` is declared more than once")
  | none => pure ()
  let objects := objectsOf document
  match objects.find? fun entry => primaryKeyCount entry.2 > 1 with
  | some (name, _) =>
    throw (.schema s!"Type `{name}` declares more than one primary key directive")
  | none => pure ()
  let interfaces := interfacesOf document
  match interfaces.find? fun entry => primaryKeyCount entry.2 > 0 with
  | some (name, _) =>
    throw (.schema
      s!"Interface `{name}` cannot declare a primary key; put it on the implementing type")
  | none => pure ()
  let models := (objects.filter fun entry => primaryKeyCount entry.2 = 1).map (·.1)
  pure ⟨objects, interfaces, enumsOf document, scalarsOf document, models⟩

/-- What kind of type a field names. -/
def Declarations.fieldKind (ds : Declarations) (location typeName : String) : Result FieldKind :=
  if ds.scalars.contains typeName then .ok .scalar
  else if ds.enums.contains typeName then .ok .enum
  else if ds.models.contains typeName then
    .error (.schema
      s!"Field `{location}` references model `{typeName}`; store its key fields instead")
  else if ds.objects.contains typeName then .ok .embedded
  else .error (.schema s!"Field `{location}` has unknown type `{typeName}`")

/-- Adds the directives a field inherits from an interface: those of a kind it has none of. -/
def inheritFrom (ds : Declarations) (field : String) (directives : List Directive)
    (interface : String) : Result (List Directive) := do
  match (ds.interfaces.get? interface).bind fun type => type.fields.find? (·.name = field) with
  | none => pure directives
  | some inherited =>
    let more ← Directive.readAll s!"{interface}.{field}" .field inherited.directives
    pure (more.foldl
      (fun all d => if all.any (·.kind = d.kind) then all else all ++ [d]) directives)

/-- The directives of a field: its own, then those of the interfaces in their order. -/
def fieldDirectives (ds : Declarations) (type : TypeDeclaration) (field : FieldDeclaration) :
    Result (List Directive) := do
  let own ← Directive.readAll s!"{type.name}.{field.name}" .field field.directives
  type.interfaces.foldlM (inheritFrom ds field.name) own

/-- Claims columns for a field; a column already claimed is an error. -/
def claimColumns (type field : String) (owners : Dict String) (columns : List String) :
    Result (Dict String) :=
  columns.foldlM (fun owners column =>
    match owners.get? column with
    | some owner =>
      .error (.schema s!"Column `{column}` on `{type}` is used by both `{owner}` and `{field}`")
    | none => .ok (owners.insert column field)) owners

/-- The compute function of a field, if a directive names one. -/
def computeFunction? (directives : List Directive) : Result (Option ComputeFunction) :=
  match directives.find? (·.kind = .computed) with
  | none => .ok none
  | some d => do
    let function := Text.trimmed (← d.requiredString "function")
    if function.isEmpty then throw (d.error "function" "must not be empty")
    pure (some ⟨function, (d.boolean? "virtual").getD false⟩)

/-- Builds one field; `owners` holds the columns claimed by the fields before it. -/
def buildField (ds : Declarations) (type : TypeDeclaration) (owners : Dict String)
    (declared : FieldDeclaration) : Result (Dict String × Field) := do
  let directives ← fieldDirectives ds type declared
  let typeName := declared.type.base
  let kind ← ds.fieldKind s!"{type.name}.{declared.name}" typeName
  let columnDirective := directives.find? (·.kind = .column)
  let column ← match columnDirective with
    | some d => d.requiredString "name"
    | none => pure declared.name
  let legacy := (columnDirective.bind (·.stringList? "legacyNames")).getD []
  let owners ← claimColumns type.name declared.name owners (column :: legacy)
  let computed ← computeFunction? directives
  let isVirtual := match computed with
    | some c => c.isVirtual
    | none => false
  pure (owners,
    { name := declared.name
      column := column
      legacyColumns := legacy
      typeName := typeName
      kind := kind
      isList := declared.type.isList
      isRequired := declared.type.isRequired && !isVirtual
      isDateType := typeName = "Date" || typeName = "DateTime"
      computed := computed
      namePlaceholder := s!"#{declared.name}"
      valuePlaceholder := s!":{declared.name}" })

/-- Builds the fields of a type in their order, the system fields left out. -/
def buildFields (ds : Declarations) (type : TypeDeclaration) : Result (List Field) := do
  let declared := type.fields.filter fun f => !systemFields.contains f.name
  let built ← declared.foldlM
    (fun (owners, fields) f => do
      let (owners, field) ← buildField ds type owners f
      pure (owners, fields ++ [field]))
    (([], []) : Dict String × List Field)
  pure built.2

/-- Checks that a field may be part of a key. -/
def checkKeyField (d : Directive) (argument : String) (fields : List Field) (name : String) :
    Result Unit :=
  match fields.find? (·.name = name) with
  | none =>
    .error (d.error argument s!"references field `{name}` which is not declared on the model")
  | some f =>
    if f.isList || f.kind = .embedded || !f.isStored then
      .error (d.error argument s!"field `{name}` must be a stored scalar to be part of a key")
    else if !f.isRequired then
      .error (d.error argument s!"key field `{name}` must be non-null")
    else .ok ()

/-- Builds a key part from the arguments that name its fields and its lead text. A single
field without lead text is its own key; any other part is stored under `synthetic`. -/
def keyPart (d : Directive) (fieldsArgument leadArgument synthetic : String)
    (fields : List Field) : Result KeyPart := do
  let names ← d.requiredStringList fieldsArgument
  if names.isEmpty then throw (d.error fieldsArgument "must name at least one field")
  names.forM (checkKeyField d fieldsArgument fields)
  let lead := d.string? leadArgument
  match names, lead with
  | [name], none =>
    let column := (fields.find? (·.name = name)).map (·.column)
    pure ⟨column.getD synthetic, names, lead, true⟩
  | _, _ => pure ⟨synthetic, names, lead, false⟩

def primaryKey (type : String) (d : Directive) (fields : List Field) : Result PrimaryKey := do
  let partitionKey ← keyPart d "pkFields" "pkPrefix" "pk" fields
  match d.kind with
  | .partitionKey => pure (.simple partitionKey)
  | .compositeKey =>
    let sortKey ← keyPart d "skFields" "skPrefix" "sk" fields
    pure (.composite partitionKey sortKey)
  | other => throw (.schema s!"@{other.name} on `{type}` does not declare a primary key")

/-- A global index on one field as it is. -/
def simpleIndex (d : Directive) (fields : List Field) : Result SecondaryIndex := do
  let fieldName ← d.requiredString "field"
  match fields.find? (·.name = fieldName) with
  | none =>
    throw (d.error "field" s!"references field `{fieldName}` which is not declared on the model")
  | some f =>
    pure (.global ((d.string? "name").getD fieldName) ⟨f.column, [fieldName], none, true⟩ none
      .all)

def localIndex (d : Directive) (name : String) (projection : Projection) (fields : List Field)
    (key : PrimaryKey) : Result SecondaryIndex := do
  if (d.stringList? "pkFields").isSome then
    throw (d.error "pkFields" "a local index shares the table partition key")
  match key.sortKey? with
  | none => throw (d.error "type" "a local index requires a composite primary key")
  | some primarySort =>
    let sortKey ← keyPart d "skFields" "skPrefix" (name ++ "sk") fields
    if sortKey.fields = primarySort.fields ∧ sortKey.lead = primarySort.lead then
      throw (d.error "skFields" "a local index sort key must differ from the primary sort key")
    pure (.local name sortKey projection)

def globalIndex (d : Directive) (name : String) (projection : Projection)
    (fields : List Field) : Result SecondaryIndex := do
  if (d.stringList? "pkFields").isNone then
    throw (d.error "pkFields" "is required for a global index")
  let partitionKey ← keyPart d "pkFields" "pkPrefix" (name ++ "pk") fields
  let sortKey ← match d.stringList? "skFields" with
    | some _ => some <$> keyPart d "skFields" "skPrefix" (name ++ "sk") fields
    | none => pure none
  pure (.global name partitionKey sortKey projection)

def secondaryIndex (d : Directive) (fields : List Field) (key : PrimaryKey) :
    Result SecondaryIndex := do
  let name ← d.requiredString "name"
  let projection := if d.enum? "projection" = some "KEYS_ONLY" then .keysOnly else .all
  if d.enum? "type" = some "LSI" then localIndex d name projection fields key
  else globalIndex d name projection fields

/-- Adds the index a directive declares, if it declares one. -/
def addIndex (fields : List Field) (key : PrimaryKey) (indexes : List SecondaryIndex)
    (d : Directive) : Result (List SecondaryIndex) := do
  let built ← match d.kind with
    | .simpleIndex => some <$> simpleIndex d fields
    | .secondaryIndex => some <$> secondaryIndex d fields key
    | _ => pure none
  match built with
  | none => pure indexes
  | some index =>
    if indexes.any (·.name = index.name) then
      throw (d.error "name" s!"index `{index.name}` is declared twice")
    else pure (indexes ++ [index])

/-- Takes the TTL of one field into account. -/
def addTtl (ds : Declarations) (type : TypeDeclaration) (fields : List Field)
    (ttl : Option TimeToLive) (declared : FieldDeclaration) : Result (Option TimeToLive) := do
  match (← fieldDirectives ds type declared).find? (·.kind = .ttl) with
  | none => pure ttl
  | some d =>
    if ttl.isSome then throw (d.error "" "only one field per model may carry @ttl")
    match fields.find? (·.name = declared.name) with
    | none => throw (d.error "" "cannot be applied to a system field")
    | some f =>
      if !f.isDateType || f.isList then
        throw (d.error "" "must be applied to a Date or DateTime field")
      let seconds ← match d.string? "duration" with
        | none => pure none
        | some text => match parseDuration text with
          | some n => pure (some n)
          | none => throw (d.error "duration" s!"invalid duration `{text}`")
      pure (some ⟨f.name, f.column, seconds⟩)

/-- The kind of handler a directive declares. -/
def handlerKind? : Directive.Kind → Option HandlerKind
  | .reacts => some .reactor
  | .enriches => some .enricher
  | .reduces => some .reducer
  | _ => none

/-- Checks that all names are names of models. -/
def checkModels (ds : Declarations) (d : Directive) (argument : String) (names : List String) :
    Result Unit :=
  match names.find? fun name => !ds.models.contains name with
  | some name => .error (d.error argument s!"unknown model `{name}`")
  | none => .ok ()

/-- The model a handler of a kind writes to. -/
def handlerTarget (ds : Declarations) (kind : HandlerKind) (d : Directive) :
    Result (Option String) :=
  match kind with
  | .reactor => .ok none
  | _ => do
    let target ← d.requiredString "targetModel"
    checkModels ds d "targetModel" [target]
    pure (some target)

/-- Builds a handler. Its tables are still names of models. -/
def buildHandler (config : Config) (ds : Declarations) (type : String) (kind : HandlerKind)
    (d : Directive) : Result ChangeHandler := do
  let eventName ← match d.enum? "event" with
    | some name => pure name
    | none => throw (d.error "event" "is required")
  let event ← match ChangeEvent.ofName? eventName with
    | some event => pure event
    | none => throw (d.error "event" s!"unknown event {eventName}")
  let target ← handlerTarget ds kind d
  let reads := (d.stringList? "readsFrom").getD []
  let writes := (d.stringList? "writesTo").getD []
  checkModels ds d "readsFrom" reads
  checkModels ds d "writesTo" writes
  let name := match d.string? "handler" with
    | some name => Text.camelCase name
    | none => kind.verb ++ type ++ Text.pascalCase event.name
  let memorySize ← d.positiveInt "memorySize"
  let timeout ← d.positiveInt "timeout"
  pure {
    kind := kind
    event := event
    source := type
    target := target
    name := name
    functionName := "Fn" ++ Text.pascalCase name
    readableTables := type :: reads
    writableTables := writes ++ target.toList
    sizing := ⟨memorySize.getD config.handler.memorySize, timeout.getD config.handler.timeout⟩ }

/-- The attributes no column of a model may use: the reserved ones and those of its keys
that are no single field. -/
def keyAttributes (key : PrimaryKey) (indexes : List SecondaryIndex) : List String :=
  reservedColumns ++ ((key.parts ++ indexes.flatMap (·.parts)).filter (!·.isSingleField)).map
    (·.attributeName)

def checkReservedColumns (type : String) (fields : List Field) (key : PrimaryKey)
    (indexes : List SecondaryIndex) : Result Unit :=
  let taken := keyAttributes key indexes
  let clash := fields.findSome? fun f =>
    (f.readColumns.find? fun column => taken.contains column).map fun column => (f, column)
  match clash with
  | some (f, column) =>
    .error (.schema
      s!"Column `{column}` of `{type}.{f.name}` collides with a reserved key attribute")
  | none => .ok ()

/-- The table options a model may switch on. -/
structure TableOptions where
  streaming : Bool
  pointInTimeRecovery : Bool
deriving DecidableEq

/-- A model and the table options it asks for. -/
def buildModel (config : Config) (ds : Declarations) (type : TypeDeclaration) :
    Result (Model × TableOptions) := do
  let directives ← Directive.readAll type.name .type type.directives
  let fields ← buildFields ds type
  let keyDirective ← match directives.find? (·.kind.isPrimaryKey) with
    | some d => pure d
    | none => throw (.schema s!"Type `{type.name}` is missing a primary key directive")
  let key ← primaryKey type.name keyDirective fields
  let indexes ← directives.foldlM (addIndex fields key) []
  let table := directives.find? (·.kind = .table)
  let tableName ← match table with
    | some d => d.requiredString "name"
    | none => pure type.name
  let option (name : String) : Bool := (table.bind (·.boolean? name)).getD false
  let ttl ← type.fields.foldlM (addTtl ds type fields) none
  let handlers ← (directives.filterMap fun d => (handlerKind? d.kind).map (·, d)).mapM
    fun (kind, d) => buildHandler config ds type.name kind d
  checkReservedColumns type.name fields key indexes
  let has (kind : Directive.Kind) : Bool := directives.any (·.kind = kind)
  let model : Model := {
    name := type.name
    table := tableName
    fields := fields
    primaryKey := key
    indexes := indexes
    ttl := ttl
    isConsistent := has .consistent
    isLedger := has .ledger
    isPublic := has .publicModel
    handlers := handlers }
  pure (model, ⟨option "enableStreaming", option "enablePointInTimeRecovery"⟩)

/-- A type without a key may not carry directives of the catalog. -/
def checkNoModel (type : TypeDeclaration) : Result Unit := do
  match ← Directive.readAll type.name .type type.directives with
  | [] => pure ()
  | d :: _ =>
    throw (.schema (s!"Type `{type.name}` uses @{d.kind.name} but is missing a required "
      ++ "@partitionKey or @compositeKey directive"))

/-- Builds all models, in the order of their names. -/
def buildModels (config : Config) (ds : Declarations) : Result (List (Model × TableOptions)) := do
  let built ← (ds.objects : List _).mapM fun (name, type) =>
    if ds.models.contains name then some <$> buildModel config ds type
    else do
      checkNoModel type
      pure none
  pure (built.filterMap id)

/-- The tables of the models named, sorted. -/
def tablesOf (models : List Model) (names : List String) : Result (List String) := do
  let tables ← names.mapM fun name =>
    match models.find? (·.name = name) with
    | some m => .ok m.table
    | none => .error (.schema s!"Unknown model `{name}` in CDC config")
  pure (sortedDistinct tables)

/-- Replaces the model names in a handler by the names of their tables. -/
def resolveHandler (models : List Model) (h : ChangeHandler) : Result ChangeHandler := do
  let readable ← tablesOf models h.readableTables
  let writable ← tablesOf models h.writableTables
  pure { h with readableTables := readable, writableTables := writable }

def resolveHandlers (models : List Model) : Result (List Model) :=
  models.mapM fun m => do
    let handlers ← m.handlers.mapM (resolveHandler models)
    pure { m with handlers := handlers }

/-- What two declarations of one index have to agree on. -/
def indexShape (index : SecondaryIndex) : Bool × List String × Projection :=
  (index.isLocal, index.parts.map (·.attributeName), index.projection)

def keyShape (key : PrimaryKey) : List String := key.parts.map (·.attributeName)

/-- Adds an index of a model to those of its table. -/
def mergeIndex (table : String) (indexes : List SecondaryIndex) (index : SecondaryIndex) :
    Result (List SecondaryIndex) :=
  match indexes.find? (·.name = index.name) with
  | some known =>
    if indexShape known = indexShape index then .ok indexes
    else .error (.schema
      s!"Table `{table}`: index `{index.name}` is declared with different shapes")
  | none => .ok (indexes ++ [index])

def mergeTtl (table : String) (known : Option String) (ttl : Option TimeToLive) :
    Result (Option String) :=
  match ttl, known with
  | none, _ => .ok known
  | some t, none => .ok (some t.column)
  | some t, some column =>
    if column = t.column then .ok known
    else .error (.schema
      s!"Table `{table}`: models disagree on the TTL attribute (`{column}` vs `{t.column}`)")

/-- Adds a model to the indexes and the TTL attribute of its table. -/
def mergeModel (table : String) (first : Model)
    (merged : List SecondaryIndex × Option String) (m : Model) :
    Result (List SecondaryIndex × Option String) := do
  if m.primaryKey.isComposite ≠ first.primaryKey.isComposite then throw (.keyShape table m.name)
  if keyShape m.primaryKey ≠ keyShape first.primaryKey then
    throw (.schema (s!"Table `{table}`: `{first.name}` and `{m.name}` store their primary keys "
      ++ "under different attributes"))
  let indexes ← m.indexes.foldlM (mergeIndex table) merged.1
  let ttl ← mergeTtl table merged.2 m.ttl
  pure (indexes, ttl)

/-- Builds a table from its models and the options they ask for; `first` is one of them. -/
def buildTable (config : Config) (table : String) (first : Model × TableOptions)
    (members : List (Model × TableOptions)) : Result Table := do
  let (indexes, ttl) ← (members.map (·.1)).foldlM (mergeModel table first.1) ([], none)
  let hasHandlers := members.any fun member => !member.1.handlers.isEmpty
  let dispatcher : Dispatcher := {
    batchSize := config.dispatcher.batchSize
    maximumRetryAttempts := config.dispatcher.maximumRetryAttempts
    sizing := config.dispatcher.sizing
    functionName := "Dispatcher" ++ Text.pascalCase table }
  pure {
    name := table
    primaryKey := first.1.primaryKey
    indexes := indexes
    isStreaming := hasHandlers || members.any (·.2.streaming)
    pointInTimeRecovery := members.any (·.2.pointInTimeRecovery)
    ttlAttribute := ttl
    dispatcher := if hasHandlers then some dispatcher else none }

def buildTables (config : Config) (models : List (Model × TableOptions)) :
    Result (List Table) := do
  let built ← (sortedDistinct (models.map (·.1.table))).mapM fun table =>
    match models.filter (·.1.table = table) with
    | [] => .ok none
    | first :: rest => some <$> buildTable config table first (first :: rest)
  pure (built.filterMap id)

/-- The functions of all dispatchers and handlers, each with what owns it. -/
def functionOwners (models : List Model) (tables : List Table) : List (String × String) :=
  (tables.filterMap fun t =>
    t.dispatcher.map fun d => (d.functionName, s!"dispatcher for table `{t.name}`"))
  ++ models.flatMap fun m =>
    m.handlers.map fun h => (h.functionName, s!"{h.kind.name} on `{m.name}`")

/-- Checks that no two functions have one name. -/
def checkFunctionNames (seen : Dict String) : List (String × String) → Result Unit
  | [] => .ok ()
  | (name, owner) :: rest =>
    match seen.get? name with
    | some previous =>
      .error (.schema
        s!"Function name `{name}` is used by both the {previous} and the {owner}")
    | none => checkFunctionNames (seen.insert name owner) rest

/-- The enums that fields use, sorted by name. -/
def usedEnums (ds : Declarations) (models : List Model) : List EnumType :=
  let used := (models.flatMap (·.fields)).filter (·.kind = .enum)
  (sortedDistinct (used.map (·.typeName))).filterMap fun name =>
    (ds.enums.get? name).map fun e => ⟨e.name, e.values⟩

/-- The blueprint of a schema document. -/
def ofDocument (config : Config) (document : Document) : Result Blueprint := do
  let ds ← Declarations.ofDocument document
  let built ← buildModels config ds
  let models ← resolveHandlers (built.map (·.1))
  let tables ← buildTables config (models.zip (built.map (·.2)))
  checkFunctionNames [] (functionOwners models tables)
  pure ⟨models, tables, usedEnums ds models⟩

/-- The blueprint of a schema text. -/
def ofSchema (config : Config) (text : String) : Result Blueprint := do
  ofDocument config (← Schema.parse text)

end Keyspace.Blueprint
