import Keyspace.Blueprint.Names
import Keyspace.Template.Basic

/-!
# Stacks

A stack set is the root template and the nested stacks, each deployed by a resource of the
root. Binding a parameter declares it on a nested stack and forwards a value to it.
-/
namespace Keyspace

/-- A nested stack and the tables its functions touch. -/
structure NestedStack where
  template : Template
  tables : List String
deriving DecidableEq, Inhabited

structure Stacks where
  root : Template
  nested : Dict NestedStack
deriving DecidableEq, Inhabited

namespace Stacks

def new (root : Template) : Stacks := ⟨root, []⟩

/-- Adds a nested stack and the root resource that deploys it. -/
def addNested (s : Stacks) (name : String) (stack : NestedStack) : Stacks :=
  { root := s.root.addResource name
      ⟨applicationType, .obj [("Location", .str (nestedLocation name))]⟩
    nested := s.nested.insert name stack }

/-- Declares a parameter on a nested stack. -/
def declare (s : Stacks) (stack name : String) : Stacks :=
  { s with nested := s.nested.modify stack fun n =>
      { n with template := n.template.addStringParameter name } }

/-- Forwards a value from the root to a nested stack. -/
def forward (s : Stacks) (stack name : String) (value : Json) : Stacks :=
  { s with root := { s.root with
      resources := s.root.resources.modify stack (·.forward name value) } }

/-- Declares a parameter on a nested stack and forwards a value to it. -/
def bindParameter (s : Stacks) (stack name : String) (value : Json) : Stacks :=
  (s.declare stack name).forward stack name value

/-- Changes the template of a nested stack. -/
def updateNested (s : Stacks) (stack : String) (f : Template → Template) : Stacks :=
  { s with nested := s.nested.modify stack fun n => { n with template := f n.template } }

end Stacks

end Keyspace
