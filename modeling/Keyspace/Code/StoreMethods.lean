import Keyspace.Code.Models

/-!
# Store methods in code

Every model gets typed methods on the store. A ledger's records never change, so it gets no
method that updates one.
-/
namespace Keyspace.Code

/-- The name of a store method for a model. -/
def storeMethodName (verb : String) (m : Model) : Result String :=
  identifier (verb ++ "_" ++ Text.snakeCase m.name)

/-- A method of the store: its name, parameters, result, and what it does. -/
structure StoreMethod where
  name : String
  parameters : List String
  result : String
  body : String

/-- The declaration of a method in a trait. -/
def StoreMethod.declaration (s : StoreMethod) : String :=
  function s.name ("& self" :: s.parameters) s.result none

def StoreMethod.definition (s : StoreMethod) : String :=
  function s.name ("& self" :: s.parameters) s.result (some [s.body])

/-- The methods of a model. -/
def storeMethods (m : Model) : Result (List StoreMethod) := do
  let name ← typeIdentifier m.name
  let create ← storeMethodName "create" m
  let get ← storeMethodName "get" m
  let find ← storeMethodName "find" m
  let update ← storeMethodName "update" m
  let delete ← storeMethodName "delete" m
  let keyParameters ← keyParameters m
  let keyArguments ← m.keyFields.mapM fieldIdentifier
  let result (type : String) : String := line [path ["dynaform", "Result"], angles [type]]
  let byKey (verb : String) : String :=
    method "self" verb [reference (call (path [name, "key_of"]) keyArguments)]
  let ofRecord (verb : String) : String := method "self" verb ["record"]
  let record := [line ["record :", name]]
  let methods : List StoreMethod := [
    ⟨create, record, result name, ofRecord "create"⟩,
    ⟨get, keyParameters, result name, byKey "get"⟩,
    ⟨find, keyParameters, result (line ["Option", angles [name]]), byKey "find"⟩,
    ⟨delete, keyParameters, result name, byKey "delete"⟩]
  if m.isLedger then pure methods
  else pure (methods ++ [⟨update, record, result name, ofRecord "update"⟩])

/-- The trait of all store methods and its impl. -/
def storeCode (models : List Model) : Result String := do
  let methods := (← models.mapM storeMethods).flatten
  pure (line [
    doc " Typed CRUD for every model in the schema.",
    "pub trait StoreExt", braces (methods.map (·.declaration)),
    "impl StoreExt for", path ["dynaform", "Store"], braces (methods.map (·.definition))])

end Keyspace.Code
