import Keyspace.Template.Check
import Keyspace.Template.Functions
import Keyspace.Template.Wiring
import Keyspace.Yaml.Printer

/-!
# The infrastructure of a blueprint

`Stacks.ofBlueprint` builds, wires and checks the stack set; `render` writes it as files,
by their path relative to the output directory.
-/
namespace Keyspace

namespace Resource

/-- The resource with its type before its properties. -/
def document (r : Resource) : Json :=
  .obj (("Type", .str r.type) ::
    if r.properties.isNull then [] else [("Properties", r.properties)])

end Resource

namespace Template

/-- The YAML text of a template, its sections in their usual order. -/
def toYaml (t : Template) : String := Yaml.print (.obj (t.sections Resource.document))

end Template

namespace Stacks

/-- The root template before any stack is added to it. -/
def startingRoot (config : Config) : Template :=
  { Template.serverless "Tables and change-data-capture functions generated by dynaform" with
    globals := config.globals
    parameters := config.parameters }

/-- The stack set of a blueprint. -/
def ofBlueprint (config : Config) (b : Blueprint) : Result Stacks := do
  let root ← match Template.addTables b (startingRoot config) with
    | (_, some e) => throw e
    | (root, none) => pure root
  let wired := wire config (Template.addFunctions b config (.new root))
  wired.check
  pure wired

def header : String := "# @generated by dynaform. Do not edit.\n"

/-- The files of a stack set. -/
def render (s : Stacks) : Dict String :=
  s.nested.foldl
    (fun files (name, stack) =>
      Dict.insert files (nestedLocation name) (header ++ stack.template.toYaml))
    [("template.yml", header ++ s.root.toYaml)]

end Stacks

end Keyspace
