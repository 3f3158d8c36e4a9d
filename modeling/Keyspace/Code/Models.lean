import Keyspace.Blueprint.Access

/-!
# Models in code

A model becomes a record type, a function that builds its key, and the methods that write
and read it. The methods follow the model's plan, one statement a step.
-/
namespace Keyspace.Code

def scalarType : String → String
  | "Int" => "i64"
  | "Float" => "f64"
  | "Boolean" => "bool"
  | "Date" => path ["chrono", "NaiveDate"]
  | "DateTime" => line [path ["chrono", "DateTime"], angles [path ["chrono", "Utc"]]]
  | "JSONObject" => path ["serde_json", "Value"]
  | _ => "String"

/-- The type of one value of a field. -/
def elementType (f : Field) : Result String :=
  match f.kind with
  | .enum => typeIdentifier f.typeName
  | .embedded => .ok (path ["serde_json", "Value"])
  | .scalar => .ok (scalarType f.typeName)

/-- The type of a field. Lists may be empty, so only a single value is ever optional. -/
def fieldType (f : Field) : Result String := do
  let element ← elementType f
  if f.isList then pure (line ["Vec", angles [element]])
  else if f.isRequired then pure element
  else pure (line ["Option", angles [element]])

/-- An identifier without the mark of a raw one. -/
def plainName (identifier : String) : String :=
  match identifier.toList with
  | 'r' :: '#' :: rest => String.ofList rest
  | _ => identifier

/-- Settings for the form in which a field is stored as JSON. -/
def serialAttribute (settings : List String) : String := attributeText (call "serde" settings)

/-- A field with its attributes: its own name where the identifier differs, and what stands
for it when it is left out. -/
def structField (f : Field) : Result String := do
  let name ← fieldIdentifier f.name
  let type ← fieldType f
  let rename :=
    if plainName name = f.name then "" else serialAttribute [line ["rename", "=", literal f.name]]
  let omission :=
    if f.isList then serialAttribute ["default"]
    else if f.isRequired then ""
    else serialAttribute ["default", line ["skip_serializing_if", "=", literal "Option::is_none"]]
  pure (line [rename, omission, "pub", name, ":", type])

def recordStruct (m : Model) : Result String := do
  let name ← typeIdentifier m.name
  let fields ← m.fields.mapM structField
  let metaField := line [serialAttribute ["default"], "pub meta :", path ["dynaform", "RecordMeta"]]
  pure (line [
    doc s!" A `{m.name}` record stored in table `{m.table}`.",
    attributeText (call "derive" ["Debug", "Clone", "Default", "PartialEq",
      path ["serde", "Serialize"], path ["serde", "Deserialize"]]),
    "pub struct", name, braces [commas (fields ++ [metaField])]])

/-- The parameters that stand for key fields. -/
def keyParameters (m : Model) : Result (List String) :=
  m.keyFields.mapM fun f => do
    pure (line [← fieldIdentifier f, ": & ( impl", wire "ToAttribute", "+ ? Sized )"])

def leadText : Option String → String
  | some lead => call "Some" [literal lead]
  | none => "None"

/-- The statement that puts a key part into the key. -/
def keyInsert (part : KeyPart) : Result String := do
  let components ← part.fields.mapM fun f => do
    pure (call (wire "key_attribute") [← fieldIdentifier f])
  let value :=
    if part.isSingleField then components
    else [call (wire "key_value") [leadText part.lead, line ["&", brackets components]]]
  pure (line [method "key" "insert" (method (literal part.attributeName) "to_string" [] :: value),
    ";"])

def keyBuilder (m : Model) : Result String := do
  let name ← typeIdentifier m.name
  let parameters ← keyParameters m
  let inserts ← m.primaryKey.parts.mapM keyInsert
  let body := [line ["let mut key =", call (path ["dynaform", "wire", "Item", "new"]) [], ";"]]
    ++ inserts ++ ["key"]
  pure (line ["impl", name, braces [
    "pub const TABLE : & ' static str =", literal m.table, ";",
    doc s!" Primary key of a `{m.name}`.",
    "pub", function "key_of" parameters (wire "Item") (some body)]])

/-- A field of the record itself. -/
def selfField (name : String) : Result String := do
  pure (line ["self .", ← fieldIdentifier name])

/-- The tokens of a function's path. -/
def functionText (paths : PathReader) (function : String) : String :=
  (paths function).elim "" (·.text)

/-- The statement of a step of writing. -/
def writeStatement (paths : PathReader) : WriteStep → Result String
  | .index attributeName lead fields => do
    let components ← fields.mapM fun f => do
      pure (call (path ["dynaform", "wire", "ToAttribute", "to_attribute"])
        [reference (← selfField f)])
    let value := call (wire "sparse_key_value") [leadText lead, line ["&", brackets components]]
    let insert :=
      method "item" "insert" [method (literal attributeName) "to_string" [], "value"]
    pure (line ["if let Some ( value ) =", value, braces [insert, ";"]])
  | .computed column function =>
    pure (line [call (wire "put_attribute") ["& mut item", literal column,
      reference (call (functionText paths function) ["self"])], ";"])
  | .expiry column field isRequired => do
    let value ← selfField field
    let insert (at_ : String) : String :=
      line [method "item" "insert" [method (literal column) "to_string" [],
        call (wire "epoch_seconds") [at_]], ";"]
    if isRequired then pure (insert (reference value))
    else pure (line ["if let Some ( at ) =", reference value, braces [insert "at"]])
  | .plain column field => do
    pure (line [call (wire "put_attribute") ["& mut item", literal column,
      reference (← selfField field)], ";"])

/-- The initializer that reads a field. -/
def readInitializer (m : Model) (f : Field) : Result String := do
  let name ← fieldIdentifier f.name
  let read (function : String) (columns : List String) : String :=
    line [call (wire function) ["item", literal m.name,
      line ["&", brackets (columns.map literal)]], "?"]
  let value := match f.readRule with
    | .virtual => call (path ["Default", "default"]) []
    | .list columns => method (read "read_optional" columns) "unwrap_or_default" []
    | .required columns => read "read_required" columns
    | .optional columns => read "read_optional" columns
  pure (line [name, ":", value])

/-- The statement that fills a virtual field. -/
def computeStatement (paths : PathReader) (f : Field) (c : ComputeFunction) : Result String := do
  let name ← fieldIdentifier f.name
  pure (line ["record .", name, "=", call (functionText paths c.function) ["& record"], ";"])

/-- The method that gives an unset expiry field its default. -/
def expiryMethod (m : Model) : Result String :=
  match m.expiryDefault? with
  | none => .ok ""
  | some (field, seconds) => do
    let value ← selfField field
    let fresh := call "Some" [line ["now +",
      call (path ["chrono", "Duration", "seconds"]) [s!"{seconds}i64"]]]
    pure (line ["fn before_create ( & mut self , now :", scalarType "DateTime", ")",
      braces ["if", method value "is_none" [], braces [value, "=", fresh, ";"]]])

def constant (name type value : String) : String := line ["const", name, ":", type, "=", value, ";"]

def modelImpl (paths : PathReader) (m : Model) : Result String := do
  let name ← typeIdentifier m.name
  let keyArguments ← m.keyFields.mapM fun f => do pure (reference (← selfField f))
  let key := call (path ["Self", "key_of"]) keyArguments
  let writes ← (m.writeSteps paths).mapM (writeStatement paths)
  let reads ← m.fields.mapM (readInitializer m)
  let computes ← (m.computedOnRead paths).mapM fun (f, c) => computeStatement paths f c
  let default ← expiryMethod m
  let metaRead := line ["meta :", call (path ["dynaform", "RecordMeta", "from_item"])
    ["item", literal m.name], "?"]
  let text := "& ' static str"
  pure (line ["impl", path ["dynaform", "Model"], "for", name, braces [
    constant "TYPE_NAME" text (literal m.name),
    constant "TABLE_ENV" text (literal (tableVariable m.table)),
    constant "PARTITION_ATTRIBUTE" text (literal m.primaryKey.partitionKey.attributeName),
    constant "LEDGER" "bool" (toString m.isLedger),
    constant "CONSISTENT" "bool" (toString m.isConsistent),
    function "key" ["& self"] (wire "Item") (some [key]),
    function "meta" ["& self"] (reference (path ["dynaform", "RecordMeta"])) (some ["& self . meta"]),
    function "meta_mut" ["& mut self"] (line ["& mut", path ["dynaform", "RecordMeta"]])
      (some ["& mut self . meta"]),
    function "marshal" ["& self"] (wire "Item")
      (some (["let mut item =", key, ";"] ++ writes ++ ["item"])),
    function "unmarshal" [line ["item : &", wire "Item"]]
      (line [path ["dynaform", "Result"], angles ["Self"]])
      (some ([if computes.isEmpty then "let record" else "let mut record", "= Self",
        braces [commas (reads ++ [metaRead])], ";"] ++ computes ++ ["Ok ( record )"])),
    default]])

/-- A model's record type and impls. -/
def modelCode (paths : PathReader) (m : Model) : Result String := do
  pure (line [← recordStruct m, ← keyBuilder m, ← modelImpl paths m])

end Keyspace.Code
