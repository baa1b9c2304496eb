import TableShell.Yaml.Node
import TableShell.Yaml.Tokens

/-!
# Documents of a text

The tokens of a text are read as the tree of its only document. A node that lacks is an empty plain
scalar.
-/

namespace TableShell.Yaml

structure Reader where
  tokens : List Token
  anchors : List (List Char × Nat) := []
  handles : List (List Char × List Char) := []

abbrev Read := StateT Reader Option

namespace Read

def peek : Read (Option Token) := return (← get).tokens.head?

def advance : Read Unit := modify fun r => { r with tokens := r.tokens.tail }

def expect (t : Token) : Read Unit := do
  if (← peek) = some t then advance else failure

def sees (ts : List Token) : Read Bool :=
  return (← peek).any (ts.contains ·)

/-- Numbers a new anchor by the count of the names that are known. A name that is anchored again
counts once, so its new number is also that of the next new name. -/
def declare (name : List Char) : Read Nat := do
  let r ← get
  let number := r.anchors.length
  set { r with anchors := (name, number) :: r.anchors.filter (·.1 != name) }
  return number

def known (name : List Char) : Read Nat := do
  match (← get).anchors.lookup name with
  | some number => return number
  | none => failure

def uriOf : Tag → Read (List Char)
  | .verbatim uri => return uri
  | .shorthand handle suffix => do
    match (← get).handles.lookup handle with
    | some start => return start ++ suffix
    | none => failure

def properties : Read (Option Nat × Option (List Char)) := do
  let anchor : Read (Option (List Char)) := do
    match ← peek with
    | some (.anchor name) => advance; return some name
    | _ => return none
  let tag : Read (Option Tag) := do
    match ← peek with
    | some (.tag t) => advance; return some t
    | _ => return none
  let first ← anchor
  let tag ← tag
  let name ← if first.isSome then pure first else if tag.isSome then anchor else pure none
  let uri ← tag.mapM uriOf
  return (← name.mapM declare, uri)

inductive Place where
  | block
  | field
  | flow
  deriving DecidableEq

mutual

def node : Nat → Place → Read Node
  | 0, _ => failure
  | fuel + 1, place => do
    if let some (.alias name) ← peek then
      advance
      return .alias (← known name)
    let (anchor, tag) ← properties
    match ← peek, place with
    | some .blockEntry, .field => return .sequence anchor (← fieldItems fuel)
    | some (.scalar s), _ =>
      advance
      return .scalar anchor tag s
    | some .flowSequenceStart, _ =>
      advance
      return .sequence anchor (← flowItems fuel true)
    | some .flowMappingStart, _ =>
      advance
      return .mapping anchor (← flowPairs fuel true)
    | t, place =>
      if t = some .blockSequenceStart ∧ place ≠ .flow then
        advance
        return .sequence anchor (← blockItems fuel)
      else if t = some .blockMappingStart ∧ place ≠ .flow then
        advance
        return .mapping anchor (← blockPairs fuel)
      else if anchor.isSome || tag.isSome then return .scalar anchor tag ⟨true, []⟩
      else failure

/-- A node, or an empty one where one of the tokens `ends` comes at once. -/
def nodeBefore : Nat → Place → List Token → Read Node
  | 0, _, _ => failure
  | fuel + 1, place, ends => do
    if ← sees ends then return .empty else node fuel place

def blockItems : Nat → Read (List Node)
  | 0 => failure
  | fuel + 1 => do
    if (← peek) = some .blockEnd then
      advance
      return []
    expect .blockEntry
    let item ← nodeBefore fuel .block [.blockEntry, .blockEnd]
    return item :: (← blockItems fuel)

def fieldItems : Nat → Read (List Node)
  | 0 => failure
  | fuel + 1 => do
    if (← peek) ≠ some .blockEntry then return []
    advance
    let item ← nodeBefore fuel .block [.blockEntry, .key, .value, .blockEnd]
    return item :: (← fieldItems fuel)

def blockPairs : Nat → Read (List (Node × Node))
  | 0 => failure
  | fuel + 1 => do
    if (← peek) = some .blockEnd then
      advance
      return []
    expect .key
    let key ← nodeBefore fuel .field [.key, .value, .blockEnd]
    let value ← valueBefore fuel .field [.key, .value, .blockEnd]
    return (key, value) :: (← blockPairs fuel)

def valueBefore : Nat → Place → List Token → Read Node
  | 0, _, _ => failure
  | fuel + 1, place, ends => do
    if (← peek) = some .value then
      advance
      nodeBefore fuel place ends
    else return .empty

/-- The items of a flow sequence; an item may be a single pair. An explicit key without a node loses
the token that follows it. -/
def flowItems : Nat → Bool → Read (List Node)
  | 0, _ => failure
  | fuel + 1, first => do
    if !first && (← peek) != some .flowSequenceEnd then expect .flowEntry
    match ← peek with
    | some .flowSequenceEnd =>
      advance
      return []
    | some .key =>
      advance
      let key ← if ← sees [.value, .flowEntry, .flowSequenceEnd] then
          advance
          pure .empty
        else node fuel .flow
      let value ← valueBefore fuel .flow [.flowEntry, .flowSequenceEnd]
      return .mapping none [(key, value)] :: (← flowItems fuel false)
    | _ =>
      let item ← node fuel .flow
      return item :: (← flowItems fuel false)

def flowPairs : Nat → Bool → Read (List (Node × Node))
  | 0, _ => failure
  | fuel + 1, first => do
    if !first && (← peek) != some .flowMappingEnd then expect .flowEntry
    match ← peek with
    | some .flowMappingEnd =>
      advance
      return []
    | some .key =>
      advance
      let key ← nodeBefore fuel .flow [.value, .flowEntry, .flowMappingEnd]
      let value ← valueBefore fuel .flow [.flowEntry, .flowMappingEnd]
      return (key, value) :: (← flowPairs fuel false)
    | _ =>
      let key ← node fuel .flow
      return (key, .empty) :: (← flowPairs fuel false)

end

def standardHandles : List (List Char × List Char) :=
  [(['!'], ['!']), (['!', '!'], "tag:yaml.org,2002:".toList)]

/-- Reads the directives. At most one gives the version, which is 1.1 or 1.2, and none declares a
handle again. -/
def directives (versioned : Bool) : List Token → Read Unit
  | .versionDirective major minor :: ts => do
    if versioned || major != 1 || (minor != 1 && minor != 2) then failure
    advance
    directives true ts
  | .tagDirective handle uri :: ts => do
    let r ← get
    if (r.handles.lookup handle).isSome then failure
    set { r with handles := r.handles ++ [(handle, uri)] }
    advance
    directives versioned ts
  | _ => modify fun r => { r with handles := r.handles ++ standardHandles }

def isExplicit : Token → Bool
  | .versionDirective _ _ | .tagDirective _ _ | .documentStart => true
  | _ => false

/-- The root of the document, if there is one, up to the end of the tokens. After its mark a
document may be empty. -/
def document : Read Document := do
  let tokens := (← get).tokens
  let fuel := 4 * tokens.length + 4
  match tokens with
  | [] => return ⟨none⟩
  | t :: _ =>
    directives false tokens
    let root ← if isExplicit t then do
        expect .documentStart
        match ← peek with
        | none | some .documentEnd => pure .empty
        | some t => if isExplicit t then failure else node fuel .block
      else node fuel .block
    if (← get).tokens.all (· == .documentEnd) then return ⟨some root⟩ else failure

end Read

def Document.ofText? (text : String) : Option Document := do
  let tokens ← Token.ofText? text
  (·.1) <$> Read.document.run { tokens }

end TableShell.Yaml
