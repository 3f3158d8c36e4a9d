import Keyspace.Code.Models

/-!
# Handler skeletons in code

Every change handler gets a module with a struct that implements what the handler can do,
and a function that passes broker events on to it.
-/
namespace Keyspace.Code

def changeParameter (source : String) : String :=
  line ["_change : &", "ChangeRecord", angles [source]]

def contextParameter : String := "_ctx : & RuntimeContext"

def resultOf (type : String) : String := line [path ["dynaform", "Result"], angles [type]]

def associatedType (name type : String) : String := line ["type", name, "=", type, ";"]

/-- The function that passes an event on. -/
def handleFunction (verb handler : String) : String :=
  line ["pub", function "handle" ["ctx : & RuntimeContext", "event : & BrokerEvent"]
    (resultOf "( )") (some [call (path ["consumer", verb]) ["ctx", reference handler, "event"]])]

def reactorCode (handler source : String) : String :=
  line ["impl Reactor for", handler, braces [
      associatedType "Source" source,
      function "react" ["& self", contextParameter, changeParameter source] (resultOf "( )")
        (some ["Ok ( ( ) )"])],
    handleFunction "react" handler]

def enricherCode (handler source target : String) : String :=
  line ["impl Enricher for", handler, braces [
      associatedType "Source" source,
      associatedType "Target" target,
      function "enrich" ["& self", contextParameter, changeParameter source]
        (resultOf (line ["Option", angles [target]])) (some ["Ok ( None )"])],
    handleFunction "enrich" handler]

def reducerCode (handler source target : String) : String :=
  line ["impl Reducer for", handler, braces [
      associatedType "Source" source,
      associatedType "Target" target,
      doc " TODO: copy the summary's key fields from `change`. They",
      doc " select which stored summary is loaded and folded into.",
      function "initial" ["& self", changeParameter source] (resultOf target)
        (some [call "Ok" [call (path [target, "default"]) []]]),
      function "reduce" ["& self", line ["current :", target], changeParameter source]
        (resultOf target) (some ["Ok ( current )"])],
    handleFunction "reduce" handler]

/-- The trait of a kind of handler. -/
def handlerTrait : HandlerKind → String
  | .reactor => "Reactor"
  | .enricher => "Enricher"
  | .reducer => "Reducer"

/-- What a handler can do; one that needs a target and has none can do nothing. -/
def capabilityCode (h : ChangeHandler) (handler source : String) (target : Option String) :
    String :=
  match h.kind, target with
  | .reactor, _ => reactorCode handler source
  | .enricher, some target => enricherCode handler source target
  | .reducer, some target => reducerCode handler source target
  | _, none => ""

def useModel (name : String) : String := line ["use", path ["crate", "models", name], ";"]

def handlerCode (h : ChangeHandler) : Result String := do
  let handler ← identifier (handlerStructName h.name)
  let source ← typeIdentifier h.source
  let target ← h.target.mapM typeIdentifier
  let targetUse := match target with
    | some name => if h.target = some h.source then "" else useModel name
    | none => ""
  pure (line [
    useModel source, targetUse,
    line ["use", path ["dynaform", "cdc", "consumer",
      braces [commas ["self", "BrokerEvent", "ChangeRecord"]]], ";"],
    line ["use", path ["dynaform", "cdc",
      braces [commas [handlerTrait h.kind, "RuntimeContext"]]], ";"],
    doc s!" {h.kind.name.toLower} for `{h.source}` {h.event.name} changes.",
    "pub struct", handler, ";",
    capabilityCode h handler source target])

end Keyspace.Code
