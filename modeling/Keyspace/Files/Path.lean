import Keyspace.Text.Basic

/-!
# Paths

A path is a text whose pieces stand between slashes. Paths are shown as they were given, so
joining and cutting keep every piece but the ones at the cut. Empty pieces, and dots after
the first piece, lead nowhere: `steps` leaves them out.
-/
namespace Keyspace.Path

def isAbsolute (path : String) : Bool := path.toList.head? = some '/'

/-- A path seen from the directory `base`. -/
def join (base path : String) : String :=
  if isAbsolute path then path
  else if base.toList.getLast?.all (· = '/') then base ++ path
  else base ++ "/" ++ path

def pieces (path : String) : List String :=
  (Text.splitWhere (· = '/') path.toList).map String.ofList

def ofPieces (pieces : List String) : String := "/".intercalate pieces

/-- Cuts off the pieces at the end, after the first one, that lead nowhere. -/
def trimEnd (pieces : List String) : List String :=
  match pieces with
  | [] => []
  | first :: rest => first :: (rest.reverse.dropWhile fun p => p = "" || p = ".").reverse

/-- The directory that holds what a path names; the empty text is the working directory. -/
def parent? (path : String) : Option String :=
  match trimEnd (pieces path) with
  | [] => none
  | [""] => none
  | [_] => some ""
  | named =>
    match trimEnd named.dropLast with
    | [""] => some "/"
    | rest => some (ofPieces rest)

/-- The pieces that lead somewhere. A slash at the end asks for a directory, as a dot does. -/
def steps (path : String) : List String :=
  let named := (pieces path).filter (· ≠ "")
  if path.toList.getLast? = some '/' then named ++ ["."] else named

/-- The rank of a piece among others: steps that stay or go up come before names. -/
def pieceKey (piece : String) : List Nat :=
  if piece = "." then [1]
  else if piece = ".." then [2]
  else 3 :: piece.toList.map Char.toNat

/-- What paths are compared by. The root comes first. -/
def sortKey (path : String) : List (List Nat) :=
  let named (ps : List String) := (ps.filter fun p => p ≠ "" && p ≠ ".").map pieceKey
  match pieces path with
  | "" :: rest => [0] :: named rest
  | first :: rest => pieceKey first :: named rest
  | [] => []

end Keyspace.Path
