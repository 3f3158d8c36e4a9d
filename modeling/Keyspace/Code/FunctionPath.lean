import Keyspace.Code.Identifier
import Keyspace.Code.Text

/-!
# Paths of functions

A compute function is named by a text, and code can call it if the text is a path. Which texts are
paths is settled by the whole syntax of the language, since a path may have types and blocks of
statements for its arguments; so the generator is given a `PathReader`, and nothing else is taken
for granted about it. `functionPath?` is the reader for what paths of functions usually are: names,
arguments that are lifetimes, whole numbers, types named by paths and references to them, and
comments in between.
-/
namespace Keyspace.Code

/-- The path of a function, as it is put into code. -/
structure FunctionPath where
  text : String
  /-- Whether the path can be called in an argument of another call, -/
  isArgument : Bool
  /-- and whether it can be called for the value of an assignment. -/
  isValue : Bool
deriving DecidableEq, Repr

/-- Reads the text of a function as a path, if it is one. -/
abbrev PathReader := String → Option FunctionPath

/-! ## Tokens of paths -/

/-- The text after a comment that has `depth` comments around it. -/
def afterComment? : (depth : Nat) → List Char → Option (List Char)
  | _, [] => none
  | depth, '/' :: '*' :: rest => afterComment? (depth + 1) rest
  | 0, '*' :: '/' :: rest => some rest
  | depth + 1, '*' :: '/' :: rest => afterComment? depth rest
  | depth, _ :: rest => afterComment? depth rest

/-- Whether a comment is documentation, by what follows its opening `//` or `/*`. -/
def isDocComment (opening : Char) : List Char → Bool
  | '!' :: _ => true
  | c :: d :: _ => c = opening && d ≠ opening && d ≠ '/'
  | [c] => c = opening
  | [] => false

/-- The tokens of a path, `::` in one piece. Documentation stands for an attribute, which no path
has. -/
def pathTokens? : (fuel : Nat) → List Char → Option (List String)
  | 0, _ => none
  | _ + 1, [] => some []
  | fuel + 1, '/' :: '/' :: rest =>
    if isDocComment '/' rest then none else pathTokens? fuel (rest.dropWhile (· ≠ '\n'))
  | fuel + 1, '/' :: '*' :: rest =>
    if isDocComment '*' rest then none else (afterComment? 0 rest).bind (pathTokens? fuel)
  | fuel + 1, ':' :: ':' :: rest => (pathTokens? fuel rest).map ("::" :: ·)
  | fuel + 1, c :: rest =>
    let word := rest.takeWhile Text.isIdentifierContinue
    let after := rest.dropWhile Text.isIdentifierContinue
    if Text.isBlank c || c = '\u200e' || c = '\u200f' then pathTokens? fuel rest
    else if c = '\'' || Text.isIdentifierContinue c then
      match c, word, after with
      | 'r', [], '#' :: after =>
        let name := after.takeWhile Text.isIdentifierContinue
        (pathTokens? fuel (after.dropWhile Text.isIdentifierContinue)).map
          (String.ofList ('r' :: '#' :: name) :: ·)
      | '\'', _, '\'' :: _ => none
      | _, _, _ => (pathTokens? fuel after).map (String.ofList (c :: word) :: ·)
    else (pathTokens? fuel rest).map (String.singleton c :: ·)

/-! ## Segments and arguments -/

/-- Whether a token names a segment of a path. -/
def isPathSegment (token : String) : Bool :=
  match token.toList with
  | 'r' :: '#' :: rest =>
    let name := String.ofList rest
    isIdentifier name && name != "_" && !pathKeywords.contains name
  | _ =>
    isIdentifier token
      && (!keywords.contains token || pathKeywords.contains token || token = "try")

/-- Whether a segment may have arguments. -/
def takesArguments (name : String) : Bool := name ∉ ["super", "self", "crate", "try"]

/-- The name of a lifetime. -/
def lifetime? (token : String) : Option String :=
  match token.toList with
  | '\'' :: name => if isIdentifier (String.ofList name) then some (String.ofList name) else none
  | _ => none

/-- Whether an argument is a number or a truth value by itself. -/
def isLiteral (token : String) : Bool :=
  token = "true" || token = "false" || token.toList.all Char.isDigit

/-- A segment with its arguments, lifetimes before the others; a bare pair of angles is left out. -/
def segmentText (mark name : String) (arguments : List String) : String :=
  let (lifetimes, others) := arguments.partition fun argument => argument.toList.head? = some '\''
  if arguments.isEmpty then name else line [name, mark, angles (lifetimes ++ others)]

mutual

/-- The segments at the start of tokens, whether `::` stands before all their arguments, and the
tokens that follow. Where `::` stands before arguments, they are written with `mark`. -/
def segments? (mark : String) :
    (fuel : Nat) → List String → Option (List String × Bool × List String)
  | fuel + 1, name :: rest => do
    if !isPathSegment name then none
    let (arguments, isMarked, rest) ← match takesArguments name, rest with
      | true, "::" :: "<" :: rest => do
        let (arguments, rest) ← arguments? fuel rest
        pure (arguments, true, rest)
      | true, "<" :: rest => do
        let (arguments, rest) ← arguments? fuel rest
        pure (arguments, false, rest)
      | _, rest => pure ([], true, rest)
    let segment := segmentText (if isMarked then mark else "") name arguments
    match rest with
    | "::" :: rest => do
      let (segments, areMarked, rest) ← segments? mark fuel rest
      pure (segment :: segments, isMarked && areMarked, rest)
    | rest => pure ([segment], isMarked, rest)
  | _, _ => none

/-- The arguments up to the closing angle, and the tokens after it. -/
def arguments? : (fuel : Nat) → List String → Option (List String × List String)
  | 0, _ => none
  | _ + 1, ">" :: rest => some ([], rest)
  | fuel + 1, tokens => do
    let token ← tokens.head?
    let (argument, rest) ← match lifetime? token with
      | some name => pure (line ["'", name], tokens.tail)
      | none => if isLiteral token then pure (token, tokens.tail) else type? fuel tokens
    match rest with
    | "," :: rest => do
      let (arguments, rest) ← arguments? fuel rest
      pure (argument :: arguments, rest)
    | ">" :: rest => pure ([argument], rest)
    | _ => none

/-- The type at the start of tokens, and the tokens after it. -/
def type? : (fuel : Nat) → List String → Option (String × List String)
  | 0, _ => none
  | _ + 1, "_" :: rest => some ("_", rest)
  | fuel + 1, "&" :: rest => do
    let (lifetime, rest) := match rest.head?.bind lifetime? with
      | some name => (line ["'", name], rest.tail)
      | none => ("", rest)
    let (mutability, rest) := match rest with
      | "mut" :: rest => ("mut", rest)
      | rest => ("", rest)
    let (type, rest) ← type? fuel rest
    pure (line ["&", lifetime, mutability, type], rest)
  | fuel + 1, tokens => do
    let (leading, tokens) := match tokens with
      | "::" :: rest => (": :", rest)
      | tokens => ("", tokens)
    if leading.isEmpty && tokens.head? = some "try" then none
    let (segments, _, rest) ← segments? "" fuel tokens
    pure (line [leading, path segments], rest)

end

/-- The path that a text is, if it has only plain arguments. -/
def functionPath? : PathReader := fun text => do
  let tokens ← pathTokens? (text.length + 1) text.toList
  let (leading, tokens) := match tokens with
    | "::" :: rest => (": :", rest)
    | tokens => ("", tokens)
  -- No token is read more than three times: in a segment, its arguments and their types.
  let (segments, isMarked, []) ← segments? ": :" (3 * tokens.length + 3) tokens | none
  pure ⟨line [leading, path segments], isMarked, isMarked⟩

end Keyspace.Code
