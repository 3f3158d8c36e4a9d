import Keyspace.Error

/-!
# File systems

What the compiler asks of the place where schemas are kept and artifacts are written. The
operations run in a monad `m`: on a tree of files that is a value, or on a disk.
-/
namespace Keyspace

inductive FileKind where
  | file
  | directory
deriving DecidableEq, Inhabited, Repr

structure FileSystem (m : Type → Type) where
  /-- What a path names, if there is something. -/
  kind? : String → m (Option FileKind)
  read : String → ExceptT Error m String
  /-- The names of what a directory holds. -/
  entries : String → ExceptT Error m (List String)
  /-- Makes a directory, and those above it, unless they are there. -/
  createDirectories : String → ExceptT Error m Unit
  /-- Makes a file with a content, or gives the file that is there this content. -/
  write : (path contents : String) → ExceptT Error m Unit
  /-- Moves a file to another path, in the place of a file that is there. -/
  rename : (source target : String) → ExceptT Error m Unit
  remove : String → ExceptT Error m Unit

namespace FileSystem

variable {m : Type → Type} [Monad m]

def «exists» (fs : FileSystem m) (path : String) : m Bool := do
  pure (← fs.kind? path).isSome

def isDirectory (fs : FileSystem m) (path : String) : m Bool := do
  pure ((← fs.kind? path) = some .directory)

end FileSystem

end Keyspace
