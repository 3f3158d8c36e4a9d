/-!
# Errors

Every failure of the compiler and of the record store is an `Error`, one constructor a
cause. `message` is the text shown to people, and `kind` is what callers branch on.
-/
namespace Keyspace

inductive Error where
  /-- The schema text is no schema document. -/
  | parse (detail : String)
  /-- The schema document breaks a rule. -/
  | schema (detail : String)
  | directive (location name argument detail : String)
  /-- Models on one table disagree on whether keys have a sort part. -/
  | keyShape (table model : String)
  | assertion (detail : String)
  | config (detail : String)
  | alreadyExists (model key : String)
  | optimisticLocking (model key : String) (expected : Int)
  | dataIntegrity (model field detail : String)
  | notFound (model key : String)
  /-- A service the library talks to failed. -/
  | serviceFailure (provider detail : String)
  | unexpected (detail : String)
  | io (detail : String)
  | json (detail : String)
  | yaml (detail : String)
  /-- A panic, since nothing sensible can be done: a number left its range, or a name is no
  identifier. -/
  | fault (detail : String)
deriving DecidableEq, Repr

namespace Error

inductive Kind where
  | schema
  | directive
  | keyShape
  | assertion
  | config
  | alreadyExists
  | optimisticLocking
  | dataIntegrity
  | notFound
  | serviceFailure
  | unexpected
  | io
  | fault
deriving DecidableEq, Repr

def kind : Error → Kind
  | parse _ => .schema
  | schema _ => .schema
  | directive _ _ _ _ => .directive
  | keyShape _ _ => .keyShape
  | assertion _ => .assertion
  | config _ => .config
  | yaml _ => .config
  | alreadyExists _ _ => .alreadyExists
  | optimisticLocking _ _ _ => .optimisticLocking
  | dataIntegrity _ _ _ => .dataIntegrity
  | json _ => .dataIntegrity
  | notFound _ _ => .notFound
  | serviceFailure _ _ => .serviceFailure
  | unexpected _ => .unexpected
  | io _ => .io
  | fault _ => .fault

/-- Conflicts that usually settle once a concurrent writer finishes. -/
def Kind.isTransient : Kind → Bool
  | alreadyExists => true
  | optimisticLocking => true
  | _ => false

def isTransient (e : Error) : Bool := e.kind.isTransient

def message : Error → String
  | parse detail => s!"Schema parse error: {detail}"
  | schema detail => s!"Schema error: {detail}"
  | directive location name argument detail =>
    s!"Directive error on {location}: @{name}({argument}) {detail}"
  | keyShape table model =>
    s!"Table `{table}`: all models on a table must be composite (or not); `{model}` disagrees"
  | assertion detail => s!"Assertion failed: {detail}"
  | config detail => s!"Configuration error: {detail}"
  | alreadyExists model key => s!"{model} with key {key} already exists"
  | optimisticLocking model key expected =>
    s!"{model} with key {key} was modified since it was read (expected version {expected})"
  | dataIntegrity model field detail => s!"Data integrity error on {model}.{field}: {detail}"
  | notFound model key => s!"{model} with key {key} not found"
  | serviceFailure provider detail => s!"Unexpected error from {provider}: {detail}"
  | unexpected detail => s!"Unexpected error: {detail}"
  | io detail => s!"IO error: {detail}"
  | json detail => s!"JSON error: {detail}"
  | yaml detail => s!"YAML error: {detail}"
  | fault detail => s!"Fault: {detail}"

end Error

/-- The result of an operation that can fail. -/
abbrev Result (α : Type) := Except Error α

/-- A computation that changes a state and may fail; a failure keeps the changes. -/
abbrev Action (σ α : Type) := ExceptT Error (StateM σ) α

end Keyspace
