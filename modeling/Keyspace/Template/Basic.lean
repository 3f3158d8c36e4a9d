import Keyspace.Json.Decode

/-!
# Templates

A template declares resources of a stack, the parameters it takes and the outputs it gives.
Properties are JSON, in which single-member objects such as `Ref` stand for values known
only when the stack is deployed.
-/
namespace Keyspace

structure Resource where
  type : String
  properties : Json
deriving DecidableEq, Inhabited

structure Template where
  formatVersion : String
  transform : Option String
  description : Option String
  globals : Option Json
  parameters : Dict Json
  resources : Dict Resource
  outputs : Dict Json
deriving DecidableEq, Inhabited

def applicationType : String := "AWS::Serverless::Application"

def functionType : String := "AWS::Serverless::Function"

namespace Json

/-- The members of an object; any other value counts as an object without members. -/
def membersOrNone : Json → Dict Json
  | obj members => members
  | _ => []

/-- Sets a member. A value that is no object becomes one. -/
def setMember (value : Json) (key : String) (member : Json) : Json :=
  obj (Dict.insert value.membersOrNone key member)

/-- Changes a member, which is an object without members if it is not there. -/
def updateMember (value : Json) (key : String) (f : Json → Json) : Json :=
  value.setMember key (f ((Dict.get? value.membersOrNone key).getD (obj [])))

/-- A reference to a parameter or a resource. -/
def ref (name : String) : Json := obj [("Ref", str name)]

/-- An attribute of a resource. -/
def getAtt (resource attributeName : String) : Json :=
  obj [("Fn::GetAtt", arr [str resource, str attributeName])]

/-- A text with variables written `${Name}`. -/
def sub (text : String) : Json := obj [("Fn::Sub", str text)]

end Json

namespace Resource

/-- The parameters a nested stack's resource forwards to its template. -/
def forwarded (r : Resource) : Dict Json :=
  ((r.properties.get? "Parameters").bind Json.asObject?).getD []

/-- Forwards a value into a nested stack. -/
def forward (r : Resource) (name : String) (value : Json) : Resource :=
  { r with properties := r.properties.updateMember "Parameters" (·.setMember name value) }

def toJson (r : Resource) : Json :=
  .object (("Type", .str r.type) ::
    if r.properties.isNull then [] else [("Properties", r.properties)])

def ofJson? : Json.Decoder Resource := fun value => do
  let [type, properties] ← Json.members? [.listed "Type", .defaulted "Properties"] value | none
  pure ⟨← Json.required Json.decodeString type, properties.getD .null⟩

end Resource

namespace Template

/-- An empty template of the serverless transform. -/
def serverless (description : String) : Template where
  formatVersion := "2010-09-09"
  transform := some "AWS::Serverless-2016-10-31"
  description := some description
  globals := none
  parameters := []
  resources := []
  outputs := []

/-- Declares a string parameter unless one of that name exists. -/
def addStringParameter (t : Template) (name : String) : Template :=
  if t.parameters.contains name then t
  else { t with parameters := t.parameters.insert name (.obj [("Type", .str "String")]) }

def addResource (t : Template) (id : String) (r : Resource) : Template :=
  { t with resources := t.resources.insert id r }

def addOutput (t : Template) (name : String) (value : Json) : Template :=
  { t with outputs := t.outputs.insert name value }

/-- The resources of a type, with their properties. -/
def resourcesOfType (t : Template) (type : String) : List (String × Json) :=
  t.resources.filterMap fun (id, r) => if r.type = type then some (id, r.properties) else none

def functionIds (t : Template) : List String := (t.resourcesOfType functionType).map (·.1)

/-- Sets an environment variable on every function. -/
def setFunctionVariable (t : Template) (name : String) (value : Json) : Template :=
  let set (r : Resource) : Resource :=
    if r.type = functionType then
      { r with properties := r.properties.updateMember "Environment" fun environment =>
          environment.updateMember "Variables" fun vars => vars.setMember name value }
    else r
  { t with resources := t.resources.mapValues set }

/-- A section that is left out when it is empty. -/
def sectionUnlessEmpty (name : String) (entries : Dict Json) : List (String × Json) :=
  if entries.isEmpty then [] else [(name, .obj entries)]

/-- The sections of a template in the order they are written. -/
def sections (t : Template) (resource : Resource → Json) : List (String × Json) :=
  [("AWSTemplateFormatVersion", .str t.formatVersion)]
  ++ (t.transform.map fun text => ("Transform", Json.str text)).toList
  ++ (t.description.map fun text => ("Description", Json.str text)).toList
  ++ (t.globals.map fun value => ("Globals", value)).toList
  ++ sectionUnlessEmpty "Parameters" t.parameters
  ++ [("Resources", .obj (t.resources.mapValues resource))]
  ++ sectionUnlessEmpty "Outputs" t.outputs

def toJson (t : Template) : Json := .object (t.sections Resource.toJson)

def ofJson? : Json.Decoder Template := fun value => do
  let [version, transform, description, globals, parameters, resources, outputs] ←
    Json.members? [.listed "AWSTemplateFormatVersion", .defaulted "Transform",
      .defaulted "Description", .defaulted "Globals", .defaulted "Parameters",
      .listed "Resources", .defaulted "Outputs"] value | none
  pure {
    formatVersion := ← Json.required Json.decodeString version
    transform := ← Json.optional Json.decodeString transform
    description := ← Json.optional Json.decodeString description
    globals := ← Json.optional Json.decodeAny globals
    parameters := ← Json.orDefault [] (Json.decodeDict Json.decodeAny) parameters
    resources := ← Json.required (Json.decodeDict Resource.ofJson?) resources
    outputs := ← Json.orDefault [] (Json.decodeDict Json.decodeAny) outputs }

end Template

end Keyspace
