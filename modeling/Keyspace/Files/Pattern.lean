import Keyspace.Text.Basic

/-!
# Patterns of paths

A pattern names many paths at once: `?` stands for any character, `*` for any text, brackets
for one character of a class, and the step `**` for any number of directories. Pattern steps
match whole names, names with a leading dot like any other.
-/
namespace Keyspace

/-- Why a text is no pattern, and where. -/
structure PatternError where
  position : Nat
  detail : String
deriving DecidableEq, Inhabited, Repr

def PatternError.message (e : PatternError) : String :=
  s!"Pattern syntax error near position {e.position}: {e.detail}"

namespace Pattern

inductive Token where
  | char (c : Char)
  | anyChar
  | anyText
  /-- Any number of directories. -/
  | anyDepth
  /-- One character of a class, given by its ranges. -/
  | within (ranges : List (Char × Char))
  | outside (ranges : List (Char × Char))
deriving DecidableEq, Inhabited, Repr

/-- A class between brackets: characters and ranges of them. -/
def readRanges : List Char → List (Char × Char)
  | low :: '-' :: high :: rest => (low, high) :: readRanges rest
  | c :: rest => (c, c) :: readRanges rest
  | [] => []

/-- The body of a class, whose first character is never its end, and the text after it. -/
def splitClass? (text : List Char) : Option (List Char × List Char) :=
  match text with
  | [] => none
  | first :: rest =>
    (Text.splitAtMark? [']'] rest).map fun (inside, after) => (first :: inside, after)

theorem splitClass?_length {text body after : List Char}
    (h : splitClass? text = some (body, after)) :
    text.length = body.length + after.length + 1 := by
  cases text with
  | nil => simp [splitClass?] at h
  | cons first rest =>
    simp only [splitClass?, Option.map_eq_some_iff, Prod.mk.injEq] at h
    obtain ⟨⟨inside, after'⟩, hs, rfl, rfl⟩ := h
    simp [Text.splitAtMark?_append hs]
    omega

/-- Reads a pattern from a position on, `previous` being the character before it. -/
def readTokens (position : Nat) (previous : Option Char) (text : List Char) :
    Except PatternError (List Token) :=
  match text with
  | [] => .ok []
  | '?' :: rest => do pure (.anyChar :: (← readTokens (position + 1) (some '?') rest))
  | '*' :: '*' :: '*' :: _ =>
    .error ⟨position + 2, "wildcards are either regular `*` or recursive `**`"⟩
  | '*' :: '*' :: rest =>
    let alone := "recursive wildcards must form a single path component"
    if previous.any (· ≠ '/') then .error ⟨position - 1, alone⟩
    else match rest with
      | [] => .ok [.anyDepth]
      | '/' :: rest => do pure (.anyDepth :: (← readTokens (position + 3) (some '/') rest))
      | _ => .error ⟨position + 2, alone⟩
  | '*' :: rest => do pure (.anyText :: (← readTokens (position + 1) (some '*') rest))
  | '[' :: '!' :: rest =>
    match h : splitClass? rest with
    | some (body, after) => do
      have := splitClass?_length h
      let tokens ← readTokens (position + body.length + 3) (some ']') after
      pure (.outside (readRanges body) :: tokens)
    | none => .error ⟨position, "invalid range pattern"⟩
  | '[' :: rest =>
    match h : splitClass? rest with
    | some (body, after) => do
      have := splitClass?_length h
      let tokens ← readTokens (position + body.length + 2) (some ']') after
      pure (.within (readRanges body) :: tokens)
    | none => .error ⟨position, "invalid range pattern"⟩
  | c :: rest => do pure (.char c :: (← readTokens (position + 1) (some c) rest))
termination_by text.length

def isIn (ranges : List (Char × Char)) (c : Char) : Bool :=
  ranges.any fun (low, high) => low ≤ c && c ≤ high

def Token.acceptsChar (c : Char) : Token → Bool
  | .char d => c = d
  | .anyChar => true
  | .within ranges => isIn ranges c
  | .outside ranges => !isIn ranges c
  | .anyText => false
  | .anyDepth => false

/-- Whether a name has the form that tokens give. -/
def accepts : (tokens : List Token) → (name : List Char) → Bool
  | [], name => name.isEmpty
  | .anyText :: tokens, [] => accepts tokens []
  | .anyText :: tokens, c :: name => accepts tokens (c :: name) || accepts (.anyText :: tokens) name
  | _ :: _, [] => false
  | token :: tokens, c :: name => token.acceptsChar c && accepts tokens name
termination_by tokens name => tokens.length + name.length

/-- The name that tokens spell out, if they leave nothing open. -/
def literal? : List Token → Option (List Char)
  | [] => some []
  | .char c :: tokens => (literal? tokens).map (c :: ·)
  | _ :: _ => none

end Pattern

/-- A pattern as the tokens of its steps. -/
structure Pattern where
  /-- Whether it starts at the root. -/
  isAbsolute : Bool
  steps : List (List Pattern.Token)
  /-- Whether a slash at its end asks for directories. -/
  directoriesOnly : Bool
deriving Inhabited

namespace Pattern

/-- The steps that a text is written in; a slash at the end begins no other step. -/
def stepTexts (text : List Char) : List (List Char) :=
  let steps := Text.splitWhere (· = '/') text
  if steps.getLast? = some [] then steps.dropLast else steps

/-- Reads a pattern. It is checked as a whole first, then step by step. -/
def read (text : String) : Except PatternError Pattern := do
  let _ ← readTokens 0 none text.toList
  let isAbsolute := text.toList.head? = some '/'
  let relative := if isAbsolute then text.toList.drop 1 else text.toList
  let steps ← (stepTexts relative).mapM (readTokens 0 none)
  let steps := if isAbsolute && relative.isEmpty then [[]] else steps
  pure ⟨isAbsolute, steps, text.toList.getLast? = some '/'⟩

end Pattern

end Keyspace
