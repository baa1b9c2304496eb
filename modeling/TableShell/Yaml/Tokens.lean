import TableShell.Yaml.Block
import TableShell.Yaml.Plain
import TableShell.Yaml.Property
import TableShell.Yaml.Quoted

/-!
# Tokens of a text

A text is cut into tokens from left to right. Two things make this more than a split. Indentation
opens and closes block collections. And a node turns out to be a key only when a colon follows it on
its line: the tokens that say so are then put in front of it.
-/

namespace TableShell.Yaml

/-- A node that becomes a key if a colon follows, no later than the column `reach`. -/
structure KeyCandidate where
  slot : Nat
  line : Nat
  column : Nat
  reach : Nat
  required : Bool

/-- The tokens so far, and what decides how the text goes on. The margin is the least column of a
continuation line: one past the column of the innermost block collection, zero outside of all. -/
structure Scan where
  source : Source
  tokens : Array Token := #[]
  margin : Nat := 0
  margins : List Nat := []
  candidate : Option KeyCandidate := none
  outer : List (Option KeyCandidate) := []
  keyAllowed : Bool := true

namespace Scan

def inFlow (s : Scan) : Bool := !s.outer.isEmpty

def emit (s : Scan) (t : Token) : Scan := { s with tokens := s.tokens.push t }

def insert (s : Scan) (slot : Nat) (t : Token) : Scan :=
  { s with tokens := s.tokens.insertIdxIfInBounds slot t }

/-- The position after blanks, comments and breaks, and whether a key may start there. Where a key
may start, a tab is no blank outside of flow collections. Each line may start with a byte order
mark, which takes a column like any other character. -/
def gapFrom (inFlow keyAllowed inComment : Bool) (line column : Nat) :
    List Char → Source × Bool
  | [] => (⟨[], line, column⟩, keyAllowed)
  | c :: cs =>
    if isBreak c then gapFrom inFlow (keyAllowed || !inFlow) false (line + 1) 0 cs
    else if inComment || c == ' ' || (c == '\t' && (inFlow || !keyAllowed)) then
      gapFrom inFlow keyAllowed inComment line (column + 1) cs
    else if c == '#' then gapFrom inFlow keyAllowed true line (column + 1) cs
    else if c == byteOrderMark && column == 0 then gapFrom inFlow keyAllowed false line 1 cs
    else (⟨c :: cs, line, column⟩, keyAllowed)

def skipGap (s : Scan) : Scan :=
  let (source, keyAllowed) :=
    gapFrom s.inFlow s.keyAllowed false s.source.line s.source.column s.source.rest
  { s with source, keyAllowed }

def fitting : Nat → List Char → Nat
  | _, [] => 0
  | room, c :: cs => if c.utf8Size ≤ room then fitting (room - c.utf8Size) cs + 1 else 0

/-- The candidate for a node at a position. A key starts at most 1024 bytes before its colon. -/
def candidateAt (source : Source) (slot : Nat) (required : Bool) : KeyCandidate :=
  ⟨slot, source.line, source.column, source.column + fitting 1024 source.rest, required⟩

def isStale (source : Source) (k : KeyCandidate) : Bool :=
  k.line < source.line || k.reach < source.column

def refresh? (source : Source) : Option KeyCandidate → Option (Option KeyCandidate)
  | none => some none
  | some k =>
    if isStale source k then if k.required then none else some none
    else some (some k)

def dropStale? (s : Scan) : Option Scan := do
  let candidate ← refresh? s.source s.candidate
  let outer ← s.outer.mapM (refresh? s.source)
  some { s with candidate, outer }

def dropCandidate? (s : Scan) : Option Scan :=
  match s.candidate with
  | none => some s
  | some k => if k.required then none else some { s with candidate := none }

def saveCandidate? (s : Scan) : Option Scan :=
  if s.keyAllowed then do
    let s ← s.dropCandidate?
    let required := !s.inFlow && s.margin == s.source.column + 1
    some { s with candidate := some (candidateAt s.source s.tokens.size required) }
  else some s

/-- Opens a block collection at a column, unless one is open there already. Its first token comes
after `slot` tokens. -/
def indent (s : Scan) (column slot : Nat) (t : Token) : Scan :=
  if !s.inFlow && s.margin ≤ column then
    { s.insert slot t with margin := column + 1, margins := s.margin :: s.margins }
  else s

def closeBlocks (margin : Nat) (s : Scan) : Scan :=
  if s.inFlow then s
  else
    let rec go (current : Nat) (tokens : Array Token) : List Nat → Scan
      | [] => { s with tokens, margin := current, margins := [] }
      | m :: ms =>
        if margin < current then go m (tokens.push .blockEnd) ms
        else { s with tokens, margin := current, margins := m :: ms }
    go s.margin s.tokens s.margins

def take (s : Scan) (n : Nat) (t : Token) : Scan :=
  { s.emit t with source := s.source.skip n }

def directive? (s : Scan) : Option Scan := do
  let s ← (s.closeBlocks 0).dropCandidate?
  let (t, source) ← Yaml.directive? s.source
  some { s.emit t with source, keyAllowed := false }

def documentMark? (s : Scan) (t : Token) : Option Scan := do
  let s ← (s.closeBlocks 0).dropCandidate?
  some { s.take 3 t with keyAllowed := false }

def openFlow? (s : Scan) (t : Token) : Option Scan := do
  let s ← s.saveCandidate?
  some { s.take 1 t with candidate := none, outer := s.candidate :: s.outer, keyAllowed := true }

/-- A closing bracket outside of every flow collection is a token like any other. -/
def closeFlow? (s : Scan) (t : Token) : Option Scan := do
  let s ← s.dropCandidate?
  let s := match s.outer with
    | [] => s
    | candidate :: outer => { s with candidate, outer }
  some { s.take 1 t with keyAllowed := false }

def flowEntry? (s : Scan) : Option Scan := do
  let s ← s.dropCandidate?
  some { s.take 1 .flowEntry with keyAllowed := true }

def indentHere? (s : Scan) (t : Token) : Option Scan :=
  if s.inFlow then some s
  else if s.keyAllowed then some (s.indent s.source.column s.tokens.size t)
  else none

def blockEntry? (s : Scan) : Option Scan := do
  let s ← s.indentHere? .blockSequenceStart
  let s ← s.dropCandidate?
  some { s.take 1 .blockEntry with keyAllowed := true }

def key? (s : Scan) : Option Scan := do
  let s ← s.indentHere? .blockMappingStart
  let s ← s.dropCandidate?
  some { s.take 1 .key with keyAllowed := !s.inFlow }

def value? (s : Scan) : Option Scan :=
  match s.candidate with
  | some k =>
    let s := (s.insert k.slot .key).indent k.column k.slot .blockMappingStart
    some { s.take 1 .value with candidate := none, keyAllowed := false }
  | none => do
    let s ← s.indentHere? .blockMappingStart
    some { s.take 1 .value with keyAllowed := !s.inFlow }

def node? (s : Scan) (read : Source → Option (Token × Source)) : Option Scan := do
  let s ← s.saveCandidate?
  let (t, source) ← read s.source
  some { s.emit t with source, keyAllowed := false }

def blockScalar? (s : Scan) (folded : Bool) : Option Scan := do
  let s ← s.dropCandidate?
  let (text, source) ← block? folded s.margin s.source
  some { s.emit (.scalar ⟨false, text⟩) with source, keyAllowed := true }

def quotedScalar? (s : Scan) (q : Quote) : Option Scan :=
  s.node? fun source => do
    let (text, source) ← quoted? q source
    some (.scalar ⟨false, text⟩, source)

/-- After a plain scalar behind which a line ended, a key may start. -/
def plainScalar? (s : Scan) : Option Scan := do
  let s ← s.saveCandidate?
  let (text, broken, source) ← plain? ⟨s.inFlow, s.margin⟩ s.source
  some { s.emit (.scalar ⟨true, text⟩) with source, keyAllowed := broken }

def startsPlain (inFlow : Bool) (c : Char) (cs : List Char) : Bool :=
  if c == '-' then !(cs.head?.any Text.isTabOrSpace)
  else if c == '?' || c == ':' then !inFlow && !endsWord cs
  else !isSpace c && !isFlowMark c && !"#&*!|>'\"%@\x60".toList.contains c

def step? (s : Scan) (c : Char) (cs : List Char) : Option Scan :=
  let atLineStart := s.source.column == 0
  if atLineStart && c == '%' then s.directive?
  else if atLineStart && isDocumentMark (c :: cs) then
    s.documentMark? (if c == '-' then .documentStart else .documentEnd)
  else if c == '[' then s.openFlow? .flowSequenceStart
  else if c == '\x7b' then s.openFlow? .flowMappingStart
  else if c == ']' then s.closeFlow? .flowSequenceEnd
  else if c == '\x7d' then s.closeFlow? .flowMappingEnd
  else if c == ',' then s.flowEntry?
  else if c == '-' && endsWord cs then s.blockEntry?
  else if c == '?' && (s.inFlow || endsWord cs) then s.key?
  else if c == ':' && (s.inFlow || endsWord cs) then s.value?
  else if c == '*' then
    s.node? fun source => (anchorName? source).map fun (name, source) => (.alias name, source)
  else if c == '&' then
    s.node? fun source => (anchorName? source).map fun (name, source) => (.anchor name, source)
  else if c == '!' then
    s.node? fun source => (tag? s.inFlow source).map fun (tag, source) => (.tag tag, source)
  else if !s.inFlow && c == '|' then s.blockScalar? false
  else if !s.inFlow && c == '>' then s.blockScalar? true
  else if c == '\'' then s.quotedScalar? .single
  else if c == '"' then s.quotedScalar? .double
  else if startsPlain s.inFlow c cs then s.plainScalar?
  else none

def run : Nat → Scan → Option (List Token)
  | 0, _ => none
  | fuel + 1, s => do
    let s ← s.skipGap.dropStale?
    let s := s.closeBlocks (s.source.column + 1)
    match s.source.rest with
    | [] => do
      let s ← (s.closeBlocks 0).dropCandidate?
      some s.tokens.toList
    | c :: cs => run fuel (← s.step? c cs)

end Scan

/-- The tokens of a text. Each takes at least one character. -/
def Token.ofText? (text : String) : Option (List Token) := do
  let source ← Source.ofText? text
  Scan.run (source.rest.length + 1) { source }

end TableShell.Yaml
