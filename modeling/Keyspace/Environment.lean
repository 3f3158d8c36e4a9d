import Keyspace.Error
import Keyspace.Json.Printer
import Keyspace.Json.Reader
import Keyspace.Text.Basic

/-!
# The environment of deployed functions

A function finds the physical names of its tables and its variables in two process
variables, each a JSON object of texts. They are unpacked at most once.
-/
namespace Keyspace

structure Environment where
  /-- Physical table names by the variables of their tables. -/
  tables : Dict String
  values : Dict String
  isUnpacked : Bool
deriving DecidableEq, Inhabited

namespace Environment

def tableNamesVariable : String := "TABLE_NAMES"

def variablesVariable : String := "ENV"

def new : Environment := ⟨.empty, .empty, false⟩

/-- An environment with fixed tables. -/
def detached (tables : Dict String) : Environment := ⟨tables, .empty, true⟩

def withVariable (e : Environment) (name value : String) : Environment :=
  { e with values := e.values.insert name value }

/-- Reads the texts of one process variable; a blank one has none. -/
def readTexts (variableName : String) (raw : Option String) : Result (Dict String) :=
  match raw.filter fun text => !(Text.trim text.toList).isEmpty with
  | none => .ok .empty
  | some text => match Json.parse text with
    | .error e => .error (.config s!"{variableName} is not valid JSON: {e}")
    | .ok (.obj members) => members.mapM fun (key, value) =>
      match value with
      | .str text => .ok (key, text)
      | other => .error
        (.config s!"{variableName}.{key} must be a string, found {other.compact}")
    | .ok _ => .error (.config s!"{variableName} must be a JSON object")

/-- Unpacks both process variables through `lookup`; false if that was done before. -/
def unpack (e : Environment) (lookup : String → Option String) : Result (Bool × Environment) :=
  if e.isUnpacked then .ok (false, e)
  else do
    let tables ← readTexts tableNamesVariable (lookup tableNamesVariable)
    let values ← readTexts variablesVariable (lookup variablesVariable)
    pure (true, ⟨Dict.union e.tables tables, Dict.union e.values values, true⟩)

/-- The physical name of a table by its variable. -/
def tableName (e : Environment) (tableVariable : String) : Result String :=
  match e.tables.get? tableVariable with
  | some name => .ok name
  | none => .error (.config s!"no table bound to {tableVariable} in {tableNamesVariable}")

def value (e : Environment) (name : String) : Result String :=
  match e.values.get? name with
  | some value => .ok value
  | none => .error (.config s!"{name} is not set in {variablesVariable}")

end Environment

end Keyspace
