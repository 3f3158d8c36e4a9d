import Keyspace.Files.Path
import Keyspace.Files.System

/-!
# Trees of files

`Files` is a file tree as a value: what is found at each place. A path is followed step by
step and leads on from directories only. `Files.system` is the file system on such trees.
-/
namespace Keyspace

/-- A place in a tree: the steps to it from the working directory, or from the root, which
is the step `/`. Steps up may come first. -/
abbrev Place := List String

inductive FileNode where
  | file (contents : String)
  | directory
deriving DecidableEq, Inhabited, Repr

def FileNode.kind : FileNode → FileKind
  | file _ => .file
  | directory => .directory

/-- A file tree, by the places where something is found. -/
structure Files where
  nodes : List (Place × FileNode)
deriving Inhabited

namespace Place

/-- The places that are there in every tree: the working directory, what is above it, and
the root. -/
def isFixed (place : Place) : Bool := place = ["/"] || place.all (· = "..")

def above (place : Place) : Place :=
  if place = ["/"] then place
  else if isFixed place then place ++ [".."]
  else place.dropLast

/-- The place one step on. -/
def next (place : Place) (step : String) : Place :=
  if step = "." then place
  else if step = ".." then place.above
  else place ++ [step]

/-- Where a path starts. -/
def start (path : String) : Place := if Path.isAbsolute path then ["/"] else []

end Place

/-- The size of the longest name of a file. -/
def maxNameBytes : Nat := 255

def isFileName (name : String) : Bool := name.utf8ByteSize ≤ maxNameBytes && !name.toList.contains '\x00'

namespace Files

def empty : Files := ⟨[]⟩

def node? (files : Files) (place : Place) : Option FileNode := files.nodes.lookup place

def put (files : Files) (place : Place) (node : FileNode) : Files :=
  ⟨(place, node) :: files.nodes.filter fun entry => entry.1 ≠ place⟩

def erase (files : Files) (place : Place) : Files :=
  ⟨files.nodes.filter fun entry => entry.1 ≠ place⟩

@[simp] theorem node?_empty (place : Place) : empty.node? place = none := rfl

@[simp] theorem node?_put_self (files : Files) (place : Place) (node : FileNode) :
    (files.put place node).node? place = some node := by
  simp [put, node?]

theorem lookup_filter_ne (nodes : List (Place × FileNode)) {place other : Place} (h : other ≠ place) :
    (nodes.filter fun entry => entry.1 ≠ place).lookup other = nodes.lookup other := by
  induction nodes with
  | nil => rfl
  | cons entry rest ih =>
    obtain ⟨k, v⟩ := entry
    have hp : (other == place) = false := by simpa using h
    by_cases hk : k = place
    · subst hk
      rw [List.filter_cons_of_neg (by simp), ih]
      simp [List.lookup_cons, hp]
    · rw [List.filter_cons_of_pos (by simpa using hk)]
      simp only [List.lookup_cons, ih]

theorem node?_put_ne (files : Files) {place other : Place} (node : FileNode) (h : other ≠ place) :
    (files.put place node).node? other = files.node? other := by
  have hp : (other == place) = false := by simpa using h
  simp only [put, node?, List.lookup_cons, hp]
  exact lookup_filter_ne files.nodes h

theorem node?_erase_ne (files : Files) {place other : Place} (h : other ≠ place) :
    (files.erase place).node? other = files.node? other :=
  lookup_filter_ne files.nodes h

@[simp] theorem node?_erase_self (files : Files) (place : Place) :
    (files.erase place).node? place = none := by
  simp only [erase, node?, List.lookup_eq_none_iff]
  intro entry h
  have hne : entry.1 ≠ place := by simpa using (List.mem_filter.1 h).2
  simpa using hne.symm

def isDirectory (files : Files) (place : Place) : Bool :=
  place.isFixed || files.node? place = some .directory

def kindAt? (files : Files) (place : Place) : Option FileKind :=
  if place.isFixed then some .directory else (files.node? place).map FileNode.kind

/-- Follows steps from a place on. -/
def follow? (files : Files) : (place : Place) → (steps : List String) → Option Place
  | place, [] => some place
  | place, step :: steps =>
    if files.isDirectory place && isFileName step then
      follow? files (place.next step) steps
    else none

/-- The place that a path names, whether or not there is something. -/
def locate? (files : Files) (path : String) : Option Place :=
  if path = "" then none else files.follow? (.start path) (Path.steps path)

def notFound (path : String) : Error := .io s!"{path}: no such file or directory"

def kind? (files : Files) (path : String) : Option FileKind :=
  (files.locate? path).bind files.kindAt?

def read (files : Files) (path : String) : Result String :=
  match (files.locate? path).bind files.node? with
  | some (.file contents) => .ok contents
  | some .directory => .error (.io s!"{path}: is a directory")
  | none => .error (notFound path)

/-- The names in the directory at a place. -/
def namesIn (files : Files) (place : Place) : List String :=
  files.nodes.filterMap fun entry =>
    if entry.1.dropLast = place then entry.1.getLast? else none

def entries (files : Files) (path : String) : Result (List String) :=
  match files.locate? path with
  | some place =>
    if files.isDirectory place then .ok (files.namesIn place)
    else .error (.io s!"{path}: is no directory")
  | none => .error (notFound path)

/-- Makes the directories that are missing on the way along some steps. -/
def makeWay (files : Files) : (place : Place) → (steps : List String) → Bool × Files
  | _, [] => (true, files)
  | place, step :: steps =>
    let place := place.next step
    if !isFileName step then (false, files)
    else if files.isDirectory place then makeWay files place steps
    else if (files.node? place).isSome then (false, files)
    else makeWay (files.put place .directory) place steps

def createDirectories (path : String) : Action Files Unit := fun files =>
  match files.makeWay (.start path) (Path.steps path) with
  | (true, files) => (.ok (), files)
  | (false, files) => (.error (.io s!"{path}: cannot be created"), files)

def write (path contents : String) : Action Files Unit := fun files =>
  match files.locate? path with
  | none => (.error (notFound path), files)
  | some place =>
    if files.isDirectory place then (.error (.io s!"{path}: is a directory"), files)
    else (.ok (), files.put place (.file contents))

def rename (source target : String) : Action Files Unit := fun files =>
  match (files.locate? source).map fun place => (place, files.node? place) with
  | some (place, some (.file contents)) =>
    match files.locate? target with
    | none => (.error (notFound target), files)
    | some goal =>
      if files.isDirectory goal then (.error (.io s!"{target}: is a directory"), files)
      else (.ok (), (files.erase place).put goal (.file contents))
  | _ => (.error (notFound source), files)

def remove (path : String) : Action Files Unit := fun files =>
  match (files.locate? path).map fun place => (place, files.node? place) with
  | some (place, some (.file _)) => (.ok (), files.erase place)
  | _ => (.error (notFound path), files)

/-- The file system on trees. -/
def system : FileSystem (StateM Files) where
  kind? path := fun files => (files.kind? path, files)
  read path := fun files => (files.read path, files)
  entries path := fun files => (files.entries path, files)
  createDirectories := createDirectories
  write := write
  rename := rename
  remove := remove

/-- The files of a tree with their contents. -/
def contents (files : Files) : List (Place × String) :=
  files.nodes.filterMap fun
    | (place, .file text) => some (place, text)
    | (_, .directory) => none

end Files

end Keyspace
