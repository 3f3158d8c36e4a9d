import Keyspace.Files.Path
import Keyspace.Files.Pattern
import Keyspace.Files.System

/-!
# Searching for files

`Pattern.search` finds the paths in a file system that match a pattern. Names that a pattern
spells out are looked up, other names are found by listing directories.
-/
namespace Keyspace.Pattern

variable {m : Type → Type} [Monad m]

/-- A path one step on. -/
def stepTo (path name : String) : String := if path = "." then name else Path.join path name

/-- The paths at or below a path found under `name`, which its directory was listed for. -/
def searchEntry (fs : FileSystem m)
    (searchFrom : List (List Token) → String → ExceptT Error m (List String))
    (steps : List (List Token)) (path name : String) : ExceptT Error m (List String) := do
  match steps with
  | [.anyDepth] :: rest =>
    let rest := rest.dropWhile (· = [.anyDepth])
    let isDirectory ← fs.isDirectory path
    let below ← if isDirectory then searchFrom ([.anyDepth] :: rest) path else pure []
    match rest with
    | [] => pure (if isDirectory then path :: below else below)
    | step :: rest =>
      if accepts step name.toList then pure ((← searchFrom rest path) ++ below) else pure below
  | step :: rest => if accepts step name.toList then searchFrom rest path else pure []
  | [] => pure []

/-- The paths at or below a path that match steps. Every hop goes down a directory or uses up
a step. -/
def searchFrom (fs : FileSystem m) (directoriesOnly : Bool) :
    (hops : Nat) → (steps : List (List Token)) → (path : String) →
      ExceptT Error m (List String)
  | 0, _, _ => pure []
  | _ + 1, [], path => do
    if directoriesOnly && !(← fs.isDirectory path) then pure [] else pure [path]
  | hops + 1, step :: rest, path => do
    match literal? step with
    | some name =>
      let name := String.ofList name
      let next := stepTo path name
      let isThere ← if name = "." || name = ".." then fs.isDirectory path else fs.exists next
      if isThere then searchFrom fs directoriesOnly hops rest next else pure []
    | none =>
      if ← fs.isDirectory path then
        let named ← (← fs.entries path).mapM fun name =>
          searchEntry fs (searchFrom fs directoriesOnly hops) (step :: rest) (stepTo path name) name
        let dots := if step.head? = some (.char '.') then [".", ".."] else []
        let dotted ← (dots.filter fun name => accepts step name.toList).mapM fun name =>
          searchFrom fs directoriesOnly hops rest (Path.join path name)
        pure (named.flatten ++ dotted.flatten)
      else pure []

/-- No path is longer, and so no directory lies deeper. -/
def maxPathBytes : Nat := 4096

/-- The paths that match a pattern. -/
def search (fs : FileSystem m) (pattern : Pattern) : ExceptT Error m (List String) :=
  searchFrom fs pattern.directoriesOnly (maxPathBytes + pattern.steps.length) pattern.steps
    (if pattern.isAbsolute then "/" else ".")

/-- Paths in order, each once. -/
def inOrder (paths : List String) : List String :=
  let sorted := paths.mergeSort fun a b => !decide (Path.sortKey b < Path.sortKey a)
  sorted.foldr (fun path kept =>
    if kept.head?.any fun next => Path.sortKey next = Path.sortKey path then path :: kept.drop 1
    else path :: kept) []

end Keyspace.Pattern
