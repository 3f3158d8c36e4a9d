import Keyspace.Error
import Keyspace.Template.Reference
import Keyspace.Template.Stacks

/-!
# Checks on a stack set

A stack set is consistent when every reference resolves and every nested stack is deployed
and receives exactly the parameters it declares. `Stacks.check` finds the first fault.
-/
namespace Keyspace

namespace Template

/-- The first parameter whose name is not made of ASCII letters and digits. -/
def badParameter? (t : Template) : Option String :=
  t.parameters.keys.find? fun name => name.isEmpty || !name.toList.all Char.isAlphanum

/-- The values that may hold references. -/
def referringValues (t : Template) : List Json :=
  t.resources.values.map (·.properties) ++ t.outputs.values ++ t.globals.toList

/-- Whether a reference names something of the template or something every template has. -/
def resolves (t : Template) : Reference → Bool
  | .ref name =>
    (Reference.ref name).isPseudo || t.parameters.contains name || t.resources.contains name
  | .getAtt resource _ => t.resources.contains resource

/-- The first reference that does not resolve. -/
def danglingReference? (t : Template) : Option Reference :=
  t.referringValues.findSome? fun value => value.references.find? fun r => !t.resolves r

def check (context : String) (t : Template) : Result Unit := do
  match t.badParameter? with
  | some name =>
    throw (.assertion s!"{context} declares parameter `{name}`, which is not alphanumeric")
  | none => pure ()
  match t.danglingReference? with
  | some r => throw (.assertion s!"{context} references {r.describe}, which it does not define")
  | none => pure ()

end Template

namespace Stacks

/-- The first of some names that is not among others. -/
def firstMissing? (names others : List String) : Option String :=
  names.find? fun name => !others.contains name

/-- Checks the root resource that deploys a nested stack. -/
def checkDeployment (name : String) (stack : NestedStack) (r : Resource) : Result Unit := do
  if r.type ≠ applicationType then
    throw (.assertion s!"root resource `{name}` is a {r.type}, not a nested stack")
  let location := (r.properties.get? "Location").bind Json.asString?
  if location ≠ some (nestedLocation name) then
    let shown := match location with
      | some text => "Some(" ++ Text.debugQuote text ++ ")"
      | none => "None"
    throw (.assertion
      s!"root resource `{name}` points at {shown}, expected {nestedLocation name}")
  let declared := stack.template.parameters.keys
  let forwarded := r.forwarded.keys
  match firstMissing? declared forwarded with
  | some missing => throw (.assertion
      s!"nested stack `{name}` declares parameter `{missing}` that the root does not forward")
  | none => pure ()
  match firstMissing? forwarded declared with
  | some extra => throw (.assertion
      s!"root forwards `{extra}` to nested stack `{name}`, which does not declare it")
  | none => pure ()

def checkNested (s : Stacks) (name : String) (stack : NestedStack) : Result Unit := do
  stack.template.check s!"nested stack `{name}`"
  match s.root.resources.get? name with
  | none => throw (.assertion s!"nested stack `{name}` has no root resource")
  | some r => checkDeployment name stack r

/-- Checks a stack set. -/
def check (s : Stacks) : Result Unit := do
  s.root.check "root template"
  s.nested.forM fun (name, stack) => s.checkNested name stack
  match (s.root.resourcesOfType applicationType).find? fun (id, _) => !s.nested.contains id with
  | some (id, _) => throw (.assertion
      s!"root resource `{id}` deploys a nested stack that was never generated")
  | none => pure ()

end Stacks

end Keyspace
