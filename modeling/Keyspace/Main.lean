import Keyspace.CommandLine.Run

/-!
# The program

The file system of the disk, and the process around `CommandLine.execute`.
-/
namespace Keyspace

/-- The errors of the disk are errors of the compiler. -/
def onDisk (action : IO α) : ExceptT Error IO α :=
  ExceptT.mk do
    match ← action.toBaseIO with
    | .ok a => pure (.ok a)
    | .error e => pure (.error (.io (toString e)))

/-- What a path of the disk names. -/
def diskKind? (path : String) : IO (Option FileKind) := do
  if path.isEmpty then return none
  let place := (← IO.currentDir) / path
  if ← place.isDir then return some .directory
  if ← place.pathExists then return some .file
  return none

/-- The file system of the disk. -/
def disk : FileSystem IO where
  kind? := diskKind?
  read path := onDisk (IO.FS.readFile path)
  entries path := onDisk do
    pure ((← ((← IO.currentDir) / path).readDir).toList.map (·.fileName))
  createDirectories path := onDisk do
    if !path.isEmpty then IO.FS.createDirAll path
  write path contents := onDisk (IO.FS.writeFile path contents)
  rename source target := onDisk (IO.FS.rename source target)
  remove path := onDisk (IO.FS.removeFile path)

end Keyspace

def main (arguments : List String) : IO UInt32 := do
  let outcome ← Keyspace.CommandLine.execute Keyspace.disk arguments
  (← IO.getStdout).putStr outcome.stdout
  (← IO.getStderr).putStr outcome.stderr
  pure outcome.code.toUInt32
