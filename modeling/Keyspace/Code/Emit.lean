import Keyspace.Code.Enums
import Keyspace.Code.Handlers
import Keyspace.Code.StoreMethods
import Keyspace.Dict

/-!
# The code of a blueprint

`Code.ofBlueprint` gives the module of models and the handler modules. Code that is no
valid program text is refused: a declared name may be no keyword, a key part that is a
single field has one field at most, and the path of a compute function can be called where the
code calls it.
-/
namespace Keyspace

/-- The code generated for a blueprint. -/
structure RuntimeCode where
  /-- The file of the module of enums, models and store methods. -/
  models : String
  /-- The handler modules by name. -/
  handlers : Dict String
deriving DecidableEq, Inhabited

namespace Code

def header : String := "// @generated by dynaform. Do not edit.\n\n"

/-- The names that the models module declares. -/
def declaredNames (b : Blueprint) : Result (List String) := do
  let enums ← b.enums.mapM fun e => do
    pure ((← typeIdentifier e.name) :: (← enumVariants e).map (·.2))
  let models ← b.models.mapM fun m => typeIdentifier m.name
  pure (enums.flatten ++ models)

/-- Whether the key of a model is written as valid code. -/
def hasValidKey (m : Model) : Bool :=
  m.primaryKey.parts.all fun part => !part.isSingleField || part.fields.length ≤ 1

def checkNames (names : List String) : Result Unit :=
  match names.find? keywords.contains with
  | some name => .error (.unexpected s!"generated code does not parse: `{name}` is a keyword")
  | none => .ok ()

/-- Whether the compute functions of a model are called as valid code. -/
def hasValidCalls (paths : PathReader) (m : Model) : Bool :=
  m.fields.all fun f => (f.computed.bind fun c => paths c.function).all fun path =>
    if f.isStored then path.isArgument else path.isValue

/-- Refuses code that is no valid program text. -/
def checkSyntax (isValid : Bool) (reason : String) : Result Unit :=
  if isValid then .ok () else .error (.unexpected s!"generated code does not parse: {reason}")

/-- Enums, models and store methods. -/
def modelsCode (paths : PathReader) (b : Blueprint) : Result String := do
  let enums ← b.enums.mapM enumCode
  let models ← b.models.mapM (modelCode paths)
  let store ← storeCode b.models
  checkNames (← declaredNames b)
  checkSyntax (b.models.all hasValidKey) "a key part has too many fields"
  checkSyntax (b.models.all (hasValidCalls paths)) "a function is called by no expression"
  pure (line (enums ++ models ++ [store]))

/-- A handler's module name and code. -/
def handlerModule (h : ChangeHandler) : Result (String × String) := do
  let code ← handlerCode h
  let used := h.source :: h.target.toList
  checkNames ((← used.mapM typeIdentifier) ++ [handlerStructName h.name])
  pure (handlerModuleName h.name, code)

/-- The code of a blueprint. -/
def ofBlueprint (b : Blueprint) (paths : PathReader := functionPath?) : Result RuntimeCode := do
  let models ← modelsCode paths b
  let handlers ← b.handlers.mapM handlerModule
  pure ⟨header ++ models, .ofList handlers⟩

/-- Whether a module may have a name. -/
def isModuleName (name : String) : Bool :=
  isIdentifier name && (!keywords.contains name || name = "try")

end Code

namespace RuntimeCode

/-- The module that declares every handler module. -/
def handlersModule (c : RuntimeCode) : String :=
  Code.header ++ String.join (c.handlers.keys.map fun name => s!"pub mod {name};\n")

end RuntimeCode

end Keyspace
