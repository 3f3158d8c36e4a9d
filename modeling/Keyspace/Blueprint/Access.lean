import Keyspace.Blueprint.Basic
import Keyspace.Code.FunctionPath

/-!
# How a model's fields are written and read

The generated code of a model and the records of the store follow one plan: the steps that
write a record after its key, the rule by which each field is read, the computed fields that
are filled in after a read, and the default of an expiry field. A field whose compute function is
read as no path is left out where its function would be called.
-/
namespace Keyspace

/-- One step of writing a record. -/
inductive WriteStep where
  /-- An attribute built for an index from fields; left out when one of them is unset. -/
  | index (attributeName : String) (lead : Option String) (fields : List String)
  /-- A column whose value a function computes. -/
  | computed (column function : String)
  /-- The expiry column, in epoch seconds. -/
  | expiry (column field : String) (isRequired : Bool)
  /-- A column that holds a field. -/
  | plain (column field : String)
deriving DecidableEq, Repr

/-- How a field is read. -/
inductive ReadRule where
  /-- From none of the columns: the field is computed afterwards. -/
  | virtual
  /-- A list, empty when no column is there. -/
  | list (columns : List String)
  | required (columns : List String)
  | optional (columns : List String)
deriving DecidableEq, Repr

namespace Model

/-- The fields of the primary key, in the order of their first use. -/
def keyFields (m : Model) : List String :=
  (m.primaryKey.parts.flatMap (·.fields)).foldl
    (fun fields name => if fields.contains name then fields else fields ++ [name]) []

def isExpiry (m : Model) (f : Field) : Bool :=
  match m.ttl with
  | some ttl => ttl.field = f.name
  | none => false

/-- The index parts that need an attribute of their own. -/
def indexSteps (m : Model) : List WriteStep :=
  ((m.indexes.flatMap (·.parts)).filter (!·.isSingleField)).map fun part =>
    .index part.attributeName part.lead part.fields

/-- The step that writes a field, if one does. -/
def fieldStep? (m : Model) (paths : Code.PathReader) (f : Field) : Option WriteStep :=
  if !f.isStored then none
  else match f.computed with
    | some c => if (paths c.function).isSome then some (.computed f.column c.function) else none
    | none =>
      if m.isExpiry f then some (.expiry f.column f.name f.isRequired)
      else some (.plain f.column f.name)

/-- The steps that write a record after its key. -/
def writeSteps (m : Model) (paths : Code.PathReader) : List WriteStep :=
  m.indexSteps ++ m.fields.filterMap (m.fieldStep? paths)

/-- The virtual fields with the functions that fill them after a read. -/
def computedOnRead (m : Model) (paths : Code.PathReader) : List (Field × ComputeFunction) :=
  m.fields.filterMap fun f =>
    if f.isStored then none
    else f.computed.bind fun c => if (paths c.function).isSome then some (f, c) else none

/-- The expiry field that gets a default on creation, and the seconds it adds to the clock. -/
def expiryDefault? (m : Model) : Option (String × Nat) := do
  let ttl ← m.ttl
  let seconds ← ttl.seconds
  let field ← m.field? ttl.field
  if seconds ≤ int64Max.toNat ∧ !field.isRequired then some (ttl.field, seconds) else none

end Model

/-- How a field is read. -/
def Field.readRule (f : Field) : ReadRule :=
  if !f.isStored then .virtual
  else if f.isList then .list f.readColumns
  else if f.isRequired then .required f.readColumns
  else .optional f.readColumns

end Keyspace
