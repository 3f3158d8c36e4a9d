import Keyspace.Artifacts
import Keyspace.Files.Path
import Keyspace.Files.System

/-!
# Writing artifacts

All files are staged beside their places before the first of them is moved there, so a
failure while staging leaves no new file. A handler that is there already was edited by hand
and stays as it is.
-/
namespace Keyspace

/-- A file to write. -/
structure PendingFile where
  path : String
  contents : String
deriving DecidableEq, Inhabited, Repr

namespace PendingFile

/-- Where the contents wait for their move. -/
def stagedPath (file : PendingFile) : String := file.path ++ ".dynaform-tmp"

end PendingFile

/-- The paths that were written, and those of the handlers that were kept. -/
structure WriteReport where
  written : List String
  skipped : List String
deriving DecidableEq, Inhabited, Repr

namespace Artifacts

/-- The files that are written in any case. -/
def regenerated (a : Artifacts) (infraDir runtimeDir : String) : List PendingFile :=
  a.infrastructure.map (fun (path, text) => ⟨Path.join infraDir path, text⟩)
    ++ [⟨Path.join runtimeDir "models.rs", a.code.models⟩]
    ++ (if a.code.handlers.isEmpty then []
        else [⟨Path.join (Path.join runtimeDir "handlers") "mod.rs", a.code.handlersModule⟩])

/-- The files of the handlers, which are written where there are none. -/
def handlerFiles (a : Artifacts) (runtimeDir : String) : List PendingFile :=
  a.code.handlers.map fun (name, text) =>
    ⟨Path.join (Path.join runtimeDir "handlers") (name ++ ".rs"), text⟩

variable {m : Type → Type} [Monad m]

/-- Puts the contents of a file beside its place. -/
def stage (fs : FileSystem m) (file : PendingFile) : ExceptT Error m Unit := do
  match Path.parent? file.path with
  | some directory => fs.createDirectories directory
  | none => pure ()
  fs.write file.stagedPath file.contents

/-- Removes what was staged, as far as that is possible. -/
def unstage (fs : FileSystem m) : (staged : List PendingFile) → m Unit
  | [] => pure ()
  | file :: staged => do
    let _ ← (fs.remove file.stagedPath).run
    unstage fs staged

/-- Stages files after those that are staged; one that fails takes them all back. -/
def stageAll (fs : FileSystem m) :
    (staged files : List PendingFile) → ExceptT Error m Unit
  | _, [] => pure ()
  | staged, file :: files => do
    tryCatch (stage fs file) fun e => do
      ExceptT.lift (unstage fs staged)
      throw e
    stageAll fs (staged ++ [file]) files

/-- Moves staged files to their places. -/
def place (fs : FileSystem m) : (files : List PendingFile) → ExceptT Error m Unit
  | [] => pure ()
  | file :: files => do
    fs.rename file.stagedPath file.path
    place fs files

/-- The files of a list that are there, and those that are not. -/
def splitByPresence (fs : FileSystem m) :
    List PendingFile → m (List PendingFile × List PendingFile)
  | [] => pure ([], [])
  | file :: files => do
    let isThere ← fs.exists file.path
    let (there, missing) ← splitByPresence fs files
    pure (if isThere then (file :: there, missing) else (there, file :: missing))

/-- Writes artifacts below an infrastructure and a runtime directory. -/
def write (fs : FileSystem m) (a : Artifacts) (infraDir runtimeDir : String) :
    ExceptT Error m WriteReport := do
  let (kept, new) ← ExceptT.lift (splitByPresence fs (a.handlerFiles runtimeDir))
  let pending := a.regenerated infraDir runtimeDir ++ new
  stageAll fs [] pending
  place fs pending
  pure ⟨pending.map (·.path), kept.map (·.path)⟩

end Artifacts

end Keyspace
