import Keyspace.Json.Basic

/-!
# YAML nodes

A node is what a YAML text describes before anything decides on types. A scalar remembers
whether it was written plain, since only a plain scalar can be a null, a boolean or a
number; `Scalar.resolve` says which.
-/
namespace Keyspace.Yaml

def isBlank (c : Char) : Bool := c = ' ' || c = '\t'

/-- The breaks between lines; a text in which breaks are unified has no others. -/
def isBreak (c : Char) : Bool := c = '\n' || c = '\u2028' || c = '\u2029'

/-- Whether a text is over or begins with a blank or a break. -/
def blankFollows : List Char → Bool
  | [] => true
  | c :: _ => isBlank c || isBreak c

/-- A scalar: its text, whether it was written without quotes, and its tag. -/
structure Scalar where
  text : String
  isPlain : Bool
  tag : Option String
deriving DecidableEq, Inhabited, Repr

inductive Node where
  | scalar (value : Scalar)
  | sequence (tag : Option String) (items : List Node)
  | mapping (tag : Option String) (entries : List (Node × Node))
deriving Inhabited, Repr

/-- A tag of the core schema. -/
def coreTag (name : String) : String := "tag:yaml.org,2002:" ++ name

/-- The node of a value that is left out. -/
def Node.empty : Node := .scalar ⟨"", true, none⟩

def isNullText (text : String) : Bool := ["null", "Null", "NULL", "~"].contains text

def boolean? (text : String) : Option Bool :=
  if ["true", "True", "TRUE"].contains text then some true
  else if ["false", "False", "FALSE"].contains text then some false
  else none

/-- The value of a digit below a base. -/
def digitIn? (base : Nat) (c : Char) : Option Nat := do
  let d ← if c.isDigit then some (c.toNat - 48)
    else if 'a' ≤ c ∧ c ≤ 'z' then some (c.toNat - 87)
    else if 'A' ≤ c ∧ c ≤ 'Z' then some (c.toNat - 55)
    else none
  if d < base then some d else none

def naturalIn? (base : Nat) (text : List Char) : Option Nat := do
  if text = [] then none
  let digits ← text.mapM (digitIn? base)
  pure (digits.foldl (fun n d => n * base + d) 0)

/-- Digits after a needless zero make a text, not a number. -/
def hasLeadingZero (text : List Char) : Bool :=
  match text with
  | '-' :: '0' :: rest => !rest.isEmpty && rest.all Char.isDigit
  | '+' :: '0' :: rest => !rest.isEmpty && rest.all Char.isDigit
  | '0' :: rest => !rest.isEmpty && rest.all Char.isDigit
  | _ => false

/-- A whole number without sign: hexadecimal after `0x`, octal after `0o`, binary after `0b`,
else decimal. -/
def unsigned? (text : List Char) : Option Nat :=
  match text with
  | '0' :: 'x' :: rest => naturalIn? 16 rest
  | '0' :: 'o' :: rest => naturalIn? 8 rest
  | '0' :: 'b' :: rest => naturalIn? 2 rest
  | text => if hasLeadingZero text then none else readNat? text

/-- A whole number with an optional sign. -/
def integer? (text : String) : Option Int :=
  match text.toList with
  | '-' :: rest => (unsigned? rest).map fun n => -(n : Int)
  | '+' :: rest => (unsigned? rest).map fun n => (n : Int)
  | chars => (unsigned? chars).map fun n => (n : Int)

/-- A double: one of the names of infinities and of "not a number", or a finite decimal. -/
def double? (text : String) : Option Double :=
  let unsigned := match text.toList with
    | '+' :: rest => String.ofList rest
    | _ => text
  if text.startsWith "++" ∨ text.startsWith "+-" then none
  else if [".inf", ".Inf", ".INF"].contains unsigned then some (.infinity false)
  else if ["-.inf", "-.Inf", "-.INF"].contains text then some (.infinity true)
  else if [".nan", ".NaN", ".NAN"].contains text then some .nan
  else (Double.read? unsigned).filter (·.isFinite)

/-- The value of a whole number, which has to fit 64 bits. -/
def integerJson? (n : Int) : Option Json :=
  if int64Min ≤ n ∧ n ≤ uint64Max then some (.int n) else none

/-- Whether a whole number fits 128 bits. Larger ones are read as doubles. -/
def fitsInt128 (n : Int) : Bool := -(twoTo 127 : Int) ≤ n && n < twoTo 128

/-- The value a plain scalar stands for; a whole number too large for 64 bits is an error. -/
def plainJson? (text : String) : Option Json :=
  if text.isEmpty ∨ isNullText text then some .null
  else match boolean? text with
    | some b => some (.bool b)
    | none => match (integer? text).filter fitsInt128 with
      | some n => integerJson? n
      | none =>
        if hasLeadingZero text.toList then some (.str text)
        else match double? text with
          | some x => some (.ofDouble x)
          | none => some (.str text)

namespace Scalar

/-- Whether the scalar was left out. -/
def isAbsent (s : Scalar) : Bool := s.isPlain && s.text.isEmpty

/-- Whether the scalar is a null: without quotes, and left out or written, or tagged so. -/
def isNull (s : Scalar) : Bool :=
  s.isPlain && match s.tag with
    | none => s.text.isEmpty || isNullText s.text
    | some tag => tag = coreTag "null" && isNullText s.text

/-- The value of a scalar. A tag of the core schema fixes its type; an own tag is refused. -/
def resolve (s : Scalar) : Option Json :=
  match s.tag with
  | none => if s.isPlain then plainJson? s.text else some (.str s.text)
  | some tag =>
    if tag = coreTag "null" then (if isNullText s.text then some .null else none)
    else if tag = coreTag "bool" then (boolean? s.text).map .bool
    else if tag = coreTag "int" then (integer? s.text).bind integerJson?
    else if tag = coreTag "float" then (double? s.text).map .ofDouble
    else if tag.startsWith "!" then none
    else some (.str s.text)

end Scalar

mutual

/-- A node as JSON. Keys are texts however they are written; of equal keys the last wins. -/
def Node.toJson? : Node → Option Json
  | .scalar s => s.resolve
  | .sequence tag items =>
    if isOwnTag tag then none else (itemsToJson? items).map .arr
  | .mapping tag entries =>
    if isOwnTag tag then none else (entriesToJson? entries).map .object
where
  isOwnTag : Option String → Bool
    | none => false
    | some tag => tag.startsWith "!"

def itemsToJson? : List Node → Option (List Json)
  | [] => some []
  | x :: xs => do
    let v ← x.toJson?
    let vs ← itemsToJson? xs
    pure (v :: vs)

def entriesToJson? : List (Node × Node) → Option (List (String × Json))
  | [] => some []
  | (.scalar key, x) :: xs => do
    let v ← x.toJson?
    let vs ← entriesToJson? xs
    pure ((key.text, v) :: vs)
  | _ => none

end

end Keyspace.Yaml
