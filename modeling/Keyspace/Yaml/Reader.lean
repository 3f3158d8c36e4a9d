import Keyspace.Yaml.Token

/-!
# Reading YAML text

`parse?` takes a text with at most one document to its node. The node is built from the
tokens; what stands where a node is missing is an empty scalar. A reference stands for the
node its anchor was given last.
-/
namespace Keyspace.Yaml

/-- Where the reader stands: the tokens left, and the nodes anchored so far. -/
structure Progress where
  tokens : List Token
  anchors : List (String × Node)
  /-- What tag handles stand for. -/
  handles : List (String × String)

abbrev Reader (α : Type) := StateT Progress Option α

/-- The handles that need no directive. -/
def defaultHandles : List (String × String) := [("!", "!"), ("!!", coreTag "")]

/-- Anchor and tag of a node. -/
structure Properties where
  anchor : Option String
  tag : Option String

def Node.withTag (tag : Option String) : Node → Node
  | .scalar s => .scalar { s with tag := if tag = some "!" then none else tag }
  | .sequence _ items => .sequence tag items
  | .mapping _ entries => .mapping tag entries

namespace Reader

def failure : Reader α := fun _ => none

def peek : Reader (Option Token) := do pure (← get).tokens.head?

def skip : Reader Unit := modify fun s => { s with tokens := s.tokens.drop 1 }

/-- Skips a token if it comes next. -/
def skipIf (token : Token) : Reader Bool := do
  if (← peek) = some token then
    skip
    pure true
  else pure false

/-- Whether one of some tokens comes next. -/
def isNext (tokens : List Token) : Reader Bool := do
  match ← peek with
  | some token => pure (tokens.contains token)
  | none => pure false

/-- Skips the comma before an entry of a flow collection; the first one has none. -/
def mayBegin (isFirst : Bool) : Reader Bool := if isFirst then pure true else skipIf .flowEntry

def anchor? : Reader (Option String) := do
  match ← peek with
  | some (.anchor name) =>
    skip
    pure (some name)
  | _ => pure none

/-- The tag that comes next, its handle replaced by what it stands for. -/
def tag? : Reader (Option String) := do
  match ← peek with
  | some (.tag handle suffix) =>
    skip
    if handle = "" then pure (some suffix)
    else match (← get).handles.lookup handle with
      | some lead => pure (some (lead ++ suffix))
      | none => failure
  | _ => pure none

/-- An anchor and a tag, in either order. -/
def properties : Reader Properties := do
  match ← anchor? with
  | some name => pure ⟨some name, ← tag?⟩
  | none =>
    let tag ← tag?
    pure ⟨← anchor?, tag⟩

/-- Gives a node its tag and remembers it under its anchor. -/
def adorn (p : Properties) (node : Node) : Reader Node := do
  let node := if p.tag.isSome then node.withTag p.tag else node
  match p.anchor with
  | some name => modify fun s => { s with anchors := (name, node) :: s.anchors }
  | none => pure ()
  pure node

/-- The node that a reference stands for. -/
def anchored (name : String) : Reader Node := do
  match (← get).anchors.lookup name with
  | some node => pure node
  | none => failure

mutual

/-- A node. Block collections are read where `inBlock` holds; where a mapping's value may be
a sequence at the column of its key, `isValue` does. -/
def node : (fuel : Nat) → (inBlock isValue : Bool) → Reader Node
  | 0, _, _ => failure
  | fuel + 1, inBlock, isValue => do
    match ← peek with
    | some (.reference name) =>
      skip
      anchored name
    | _ =>
      let p ← properties
      adorn p (← content fuel inBlock isValue (p.anchor.isSome || p.tag.isSome))

/-- The content of a node, which may be missing after an anchor or a tag. -/
def content : (fuel : Nat) → (inBlock isValue mayMiss : Bool) → Reader Node
  | 0, _, _, _ => failure
  | fuel + 1, inBlock, isValue, mayMiss => do
    match ← peek with
    | some (.scalar text isPlain) =>
      skip
      pure (.scalar ⟨text, isPlain, none⟩)
    | some .flowSequenceStart =>
      skip
      Node.sequence none <$> flowItems fuel true
    | some .flowMappingStart =>
      skip
      Node.mapping none <$> flowEntries fuel true
    | some .blockEntry =>
      if isValue then Node.sequence none <$> plainItems fuel
      else if mayMiss then pure Node.empty else failure
    | some .blockSequenceStart =>
      if inBlock then
        skip
        Node.sequence none <$> blockItems fuel
      else if mayMiss then pure Node.empty else failure
    | some .blockMappingStart =>
      if inBlock then
        skip
        Node.mapping none <$> blockEntries fuel
      else if mayMiss then pure Node.empty else failure
    | _ => if mayMiss then pure Node.empty else failure

/-- A node, or an empty scalar before one of some tokens. -/
def nodeUnless : (fuel : Nat) → (ends : List Token) → (inBlock isValue : Bool) → Reader Node
  | 0, _, _, _ => failure
  | fuel + 1, ends, inBlock, isValue => do
    if ← isNext ends then pure Node.empty else node fuel inBlock isValue

/-- The items of a block sequence. -/
def blockItems : (fuel : Nat) → Reader (List Node)
  | 0 => failure
  | fuel + 1 => do
    if ← skipIf .blockEntry then
      let item ← nodeUnless fuel [.blockEntry, .blockEnd] true false
      pure (item :: (← blockItems fuel))
    else if ← skipIf .blockEnd then pure []
    else failure

/-- The items of a sequence at the column of its key, which no token ends. -/
def plainItems : (fuel : Nat) → Reader (List Node)
  | 0 => failure
  | fuel + 1 => do
    if ← skipIf .blockEntry then
      let item ← nodeUnless fuel [.blockEntry, .key, .value, .blockEnd] true false
      pure (item :: (← plainItems fuel))
    else pure []

/-- The entries of a block mapping. -/
def blockEntries : (fuel : Nat) → Reader (List (Node × Node))
  | 0 => failure
  | fuel + 1 => do
    let ends := [.key, .value, .blockEnd]
    if ← isNext [.key, .value] then
      let key ← if ← skipIf .key then nodeUnless fuel ends true true else failure
      let value ← if ← skipIf .value then nodeUnless fuel ends true true else pure Node.empty
      pure ((key, value) :: (← blockEntries fuel))
    else if ← skipIf .blockEnd then pure []
    else failure

/-- The value of an entry in a flow collection. -/
def flowValue : (fuel : Nat) → (close : Token) → Reader Node
  | 0, _ => failure
  | fuel + 1, close => do
    if ← skipIf .value then nodeUnless fuel [.flowEntry, close] false false else pure Node.empty

/-- The items of a flow sequence; an item after the first follows a comma. -/
def flowItems : (fuel : Nat) → (isFirst : Bool) → Reader (List Node)
  | 0, _ => failure
  | fuel + 1, isFirst => do
    if ← skipIf .flowSequenceEnd then pure []
    else if !(← mayBegin isFirst) then failure
    else if ← skipIf .key then
      let item ← pairItem fuel
      pure (item :: (← flowItems fuel false))
    else if ← skipIf .flowSequenceEnd then pure []
    else
      let item ← node fuel false false
      pure (item :: (← flowItems fuel false))

/-- An entry that stands among the items of a sequence: a mapping of its own. A token that
is no key goes unread. -/
def pairItem : (fuel : Nat) → Reader Node
  | 0 => failure
  | fuel + 1 => do
    let isMissing ← isNext [.value, .flowEntry, .flowSequenceEnd]
    let key ← if isMissing then
        skip
        pure Node.empty
      else node fuel false false
    pure (.mapping none [(key, ← flowValue fuel .flowSequenceEnd)])

/-- The entries of a flow mapping; an entry after the first follows a comma. -/
def flowEntries : (fuel : Nat) → (isFirst : Bool) → Reader (List (Node × Node))
  | 0, _ => failure
  | fuel + 1, isFirst => do
    if ← skipIf .flowMappingEnd then pure []
    else if !(← mayBegin isFirst) then failure
    else if ← skipIf .key then
      let key ← nodeUnless fuel [.value, .flowEntry, .flowMappingEnd] false false
      let value ← flowValue fuel .flowMappingEnd
      pure ((key, value) :: (← flowEntries fuel false))
    else if ← skipIf .flowMappingEnd then pure []
    else
      let key ← node fuel false false
      pure ((key, Node.empty) :: (← flowEntries fuel false))

end

/-- Reads the directives before a document; each may stand once. -/
def directives : (fuel : Nat) → (hasVersion : Bool) → (own : List (String × String)) →
    Reader Unit
  | 0, _, _ => failure
  | fuel + 1, hasVersion, own => do
    match ← peek with
    | some (.versionDirective major minor) =>
      if hasVersion || major ≠ 1 || (minor ≠ 1 && minor ≠ 2) then failure
      else
        skip
        directives fuel true own
    | some (.tagDirective handle lead) =>
      if (own.lookup handle).isSome then failure
      else
        skip
        directives fuel hasVersion ((handle, lead) :: own)
    | _ => modify fun s => { s with handles := own ++ s.handles }

/-- Skips the marks of ends of documents. -/
def skipEnds : (fuel : Nat) → Reader Unit
  | 0 => pure ()
  | fuel + 1 => do
    if ← skipIf .documentEnd then skipEnds fuel else pure ()

/-- The document of a text; none at all is an empty scalar. Nothing may follow it. -/
def document (fuel : Nat) : Reader Node := do
  let isExplicit ← match ← peek with
    | some (.versionDirective _ _) => pure true
    | some (.tagDirective _ _) => pure true
    | some .documentStart => pure true
    | _ => pure false
  let root ← if (← peek).isNone then pure Node.empty
    else if isExplicit then do
      directives fuel false []
      if ← skipIf .documentStart then
        let isMissing := (← peek).isNone || (← isNext [.documentStart, .documentEnd])
        if isMissing then pure Node.empty else node fuel true false
      else failure
    else node fuel true false
  skipEnds fuel
  if (← peek).isSome then failure else pure root

end Reader

/-- Reads a text with at most one document. No document is an empty scalar. -/
def parse? (text : String) : Option Node := do
  let tokens ← Scan.tokens? text
  ((Reader.document (4 * tokens.length + 8)).run ⟨tokens, [], defaultHandles⟩).map (·.1)

end Keyspace.Yaml
