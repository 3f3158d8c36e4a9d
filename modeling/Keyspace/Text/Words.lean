import Keyspace.Text.Basic
import Keyspace.Text.CharacterClass
import Keyspace.Text.Case

/-!
# Words and the ways to join them

A name is cut into words at every character that is neither letter nor number, between a
lower-case letter and an upper-case one, and before the last upper-case letter of a run
that a lower-case letter follows (`XMLHttp` is `XML`, `Http`). Numbers never cut. The
styles of identifiers are ways to join the words.
-/
namespace Keyspace.Text

/-- The case of the letters read so far in a word. -/
inductive WordCase where
  | open
  | lower
  | upper
deriving DecidableEq

/-- The words of a stretch of letters and numbers; `word` is what has been read of the
current one. -/
def wordsFrom (mode : WordCase) (word : List Char) : List Char → List (List Char)
  | [] => []
  | [c] => [word ++ [c]]
  | c :: next :: rest =>
    let following : WordCase :=
      if isLowercase c then .lower else if isUppercase c then .upper else mode
    if following = .lower ∧ isUppercase next then
      (word ++ [c]) :: wordsFrom .open [] (next :: rest)
    else if mode = .upper ∧ isUppercase c ∧ isLowercase next then
      word :: wordsFrom .open [c] (next :: rest)
    else wordsFrom following (word ++ [c]) (next :: rest)

/-- The words of a name. -/
def words (name : String) : List (List Char) :=
  (splitWhere (fun c => !isAlphanumeric c) name.toList).flatMap (wordsFrom .open [])

/-- A word in lower case. A sigma at the end of the word takes its final form. -/
def lowerWord : List Char → List Char
  | [] => []
  | [c] => if c = 'Σ' then ['ς'] else lower c
  | c :: rest => lower c ++ lowerWord rest

def upperWord (word : List Char) : List Char := word.flatMap upper

def capitalWord : List Char → List Char
  | [] => []
  | c :: rest => upper c ++ lowerWord rest

/-- `OrderTotals` -/
def pascalCase (name : String) : String :=
  String.ofList ((words name).flatMap capitalWord)

/-- `orderTotals` -/
def camelCase (name : String) : String :=
  match words name with
  | [] => ""
  | first :: rest => String.ofList (lowerWord first ++ rest.flatMap capitalWord)

/-- `order_totals` -/
def snakeCase (name : String) : String :=
  String.ofList (joinWith ['_'] ((words name).map lowerWord))

/-- `ORDER_TOTALS` -/
def screamingSnakeCase (name : String) : String :=
  String.ofList (joinWith ['_'] ((words name).map upperWord))

/-- `order-totals` -/
def kebabCase (name : String) : String :=
  String.ofList (joinWith ['-'] ((words name).map lowerWord))

end Keyspace.Text
