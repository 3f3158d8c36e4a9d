import Keyspace.Code.Emit
import Keyspace.Template.Emit

/-!
# Everything one compilation produces

`Artifacts.ofBlueprint` runs both backends over the same blueprint. The backends do not
depend on each other; where both fail, the error of the templates counts.
-/
namespace Keyspace

structure Artifacts where
  /-- Template files by their path in the infrastructure directory. -/
  infrastructure : Dict String
  code : RuntimeCode
deriving DecidableEq, Inhabited

namespace Artifacts

/-- A fault inside a backend ends that backend alone; its caller gets an error. -/
def contain (backend : String) : Result α → Result α
  | .error (.fault _) => .error (.unexpected (backend ++ " backend panicked"))
  | result => result

def ofBlueprint (config : Config) (b : Blueprint)
    (paths : Code.PathReader := Code.functionPath?) : Result Artifacts := do
  let templates ← contain "infrastructure" (Stacks.ofBlueprint config b)
  let code ← contain "runtime" (Code.ofBlueprint b paths)
  pure ⟨templates.render, code⟩

end Artifacts

end Keyspace
