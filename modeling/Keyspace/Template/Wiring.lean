import Keyspace.Blueprint.Basic
import Keyspace.Config.Basic
import Keyspace.Json.Printer
import Keyspace.Template.Reference
import Keyspace.Template.Stacks

/-!
# Wiring

Three passes connect the nested stacks to the root: the root's globals are copied into
every nested template, the physical names of tables and the values of configured variables
are forwarded as parameters and published to the functions.
-/
namespace Keyspace.Stacks

/-- Replaces a mark everywhere in a text; `fuel` bounds the replacements. -/
def replaceMark (mark replacement : List Char) : (fuel : Nat) → List Char → List Char
  | 0, text => text
  | fuel + 1, text =>
    match Text.splitAtMark? mark text with
    | none => text
    | some (before, after) => before ++ replacement ++ replaceMark mark replacement fuel after

/-- How a variable is written in an `Fn::Sub` text. -/
def writtenVariable (name : String) : List Char := '$' :: '\x7b' :: name.toList ++ ['\x7d']

/-- Lets the attributes named in an `Fn::Sub` text be parameters. -/
def localizeText (text : String) : String :=
  (subVariables text).foldl
    (fun out name =>
      match Reference.ofVariable name with
      | .getAtt resource attributeName =>
        let parameter := (Reference.getAtt resource attributeName).parameterName
        String.ofList (replaceMark (writtenVariable name) (writtenVariable parameter)
          (out.length + 1) out.toList)
      | .ref _ => out)
    text

/-- Lets the text at the front of an `Fn::Sub` list be localized. -/
def localizeFirst : List Json → List Json
  | .str text :: rest => .str (localizeText text) :: rest
  | parts => parts

mutual

/-- Turns references to attributes into references to the parameters that carry them. -/
def localize : Json → Json
  | .arr elements => .arr (localizeAll elements)
  | .obj members =>
    match members with
    | [(key, argument)] =>
      let parameter? : Option Reference :=
        if key = "Fn::GetAtt" then
          match argument with
          | .arr _ => (Json.obj [(key, argument)]).references.head?
          | .str _ => (Json.obj [(key, argument)]).references.head?
          | _ => none
        else none
      match parameter? with
      | some reference => .ref reference.parameterName
      | none =>
        if key = "Fn::Sub" then
          match argument with
          | .str text => .sub (localizeText text)
          | .arr parts => .obj [(key, .arr (localizeFirst (localizeAll parts)))]
          | argument => .obj [(key, localize argument)]
        else .obj [(key, localize argument)]
    | members => .obj (localizeMembers members)
  | value => value

def localizeAll : List Json → List Json
  | [] => []
  | x :: xs => localize x :: localizeAll xs

def localizeMembers : List (String × Json) → List (String × Json)
  | [] => []
  | (k, x) :: xs => (k, localize x) :: localizeMembers xs

end

/-- Gives one nested stack globals, and forwards to it what they refer to. -/
def adoptGlobals (globals : Json) (references : List Reference) (s : Stacks) (name : String) :
    Stacks :=
  let s := s.updateNested name fun t => { t with globals := some globals }
  references.foldl (fun s r => s.bindParameter name r.parameterName r.toJson) s

/-- Copies the root's globals into every nested template. What they refer to becomes
parameters forwarded from the root. -/
def spreadGlobals (s : Stacks) : Stacks :=
  match s.root.globals with
  | none => s
  | some globals =>
    let references := globals.references.filter fun r => !r.isPseudo
    s.nested.keys.foldl (adoptGlobals (localize globals) references) s

/-- A variable that holds a JSON object of texts with variables in them. -/
def mapVariable (entries : List (String × String)) : Json :=
  .sub (Json.object (entries.map fun (key, parameter) =>
    (key, .str (String.ofList (writtenVariable parameter))))).compact

/-- Binds the tables a nested stack touches and publishes their physical names. -/
def nameTablesOf (s : Stacks) (name : String) (tables : List String) : Stacks :=
  let s := tables.foldl
    (fun s table => s.bindParameter name (tableParameter table) (.ref (tableLogicalId table))) s
  let published := mapVariable (tables.map fun table => (tableVariable table, tableParameter table))
  s.updateNested name (·.setFunctionVariable "TABLE_NAMES" published)

/-- Binds in every nested stack the tables it touches. -/
def nameTables (s : Stacks) : Stacks :=
  s.nested.foldl (fun result (name, stack) => nameTablesOf result name stack.tables) s

/-- Binds the parameters of variables in a nested stack and publishes their values. -/
def publishTo (parameters : List String) (published : Json) (s : Stacks) (name : String) :
    Stacks :=
  let s := parameters.foldl (fun s parameter => s.bindParameter name parameter (.ref parameter)) s
  s.updateNested name (·.setFunctionVariable "ENV" published)

/-- Declares the configured variables as root parameters and publishes them to every nested
stack. -/
def publishEnvironment (config : Config) (s : Stacks) : Stacks :=
  if config.environment.isEmpty then s
  else
    let parameters := config.environment.map environmentParameter
    let published := mapVariable (config.environment.zip parameters)
    let root := parameters.foldl Template.addStringParameter s.root
    s.nested.keys.foldl (publishTo parameters published) { s with root := root }

/-- The passes by name, in the order they run. -/
def passes : List (String × (Config → Stacks → Stacks)) :=
  [("globals", fun _ => spreadGlobals),
   ("table names", fun _ => nameTables),
   ("environment", publishEnvironment)]

/-- Runs every pass. -/
def wire (config : Config) (s : Stacks) : Stacks :=
  passes.foldl (fun s pass => pass.2 config s) s

end Keyspace.Stacks
