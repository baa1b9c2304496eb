import TableShell.Text.Numeral
import TableShell.Yaml.Folding

/-!
# Block scalars

A scalar whose lines are set apart by their indentation, after a header line. Literal ones keep
their line breaks, folded ones join lines that do not start with a blank.
-/

namespace TableShell.Yaml

inductive Chomp where
  | strip
  | clip
  | keep
  deriving DecidableEq, Repr

structure BlockHeader where
  chomp : Chomp := .clip
  increment : Option Nat := none
  deriving DecidableEq, Repr

namespace BlockHeader

def chomp? : Char → Option Chomp
  | '+' => some .keep
  | '-' => some .strip
  | _ => none

/-- The header without its style, and the number of its characters: a mark for the breaks and an
indentation from 1 to 9, in either order, each of which may lack. -/
def read? (cs : List Char) : Option (BlockHeader × Nat) :=
  let digit? (c : Char) : Option Nat := if c.isDigit then some (Text.digitValue c) else none
  let checked (h : BlockHeader) (n : Nat) := if h.increment = some 0 then none else some (h, n)
  let first := cs.head?
  let second := cs.tail.head?
  match first.bind chomp?, first.bind digit? with
  | some chomp, _ =>
    match second.bind digit? with
    | some n => checked ⟨chomp, some n⟩ 2
    | none => some (⟨chomp, none⟩, 1)
  | none, some n =>
    match second.bind chomp? with
    | some chomp => checked ⟨chomp, some n⟩ 2
    | none => checked ⟨.clip, some n⟩ 1
  | none, none => some ({}, 0)

end BlockHeader

/-- The empty lines before the first line: their breaks, the widest indentation seen, and the
position after the indentation of the first line. A tab cannot indent. -/
def openingLines (breaks : List Char) (widest line column : Nat) :
    List Char → Option (List Char × Nat × Source)
  | [] => some (breaks, widest, ⟨[], line, column⟩)
  | c :: cs =>
    if c = ' ' then openingLines breaks (max widest (column + 1)) line (column + 1) cs
    else if c = '\t' then none
    else if isBreak c then openingLines (breaks ++ [c]) widest (line + 1) 0 cs
    else some (breaks, widest, ⟨c :: cs, line, column⟩)

structure BlockLines where
  text : List Char := []
  lead : List Char := []
  more : List Char
  indented : Bool := false

namespace BlockLines

def startLine (folded : Bool) (b : BlockLines) (c : Char) : BlockLines :=
  let joins := folded && b.lead == ['\n'] && !b.indented && !Text.isTabOrSpace c
  let gap := if joins then foldBreaks (b.lead ++ b.more) else b.lead ++ b.more
  ⟨c :: gap.reverse ++ b.text, [], [], Text.isTabOrSpace c⟩

def close (chomp : Chomp) (b : BlockLines) : List Char :=
  b.text.reverse ++ match chomp with
    | .strip => []
    | .clip => b.lead
    | .keep => b.lead ++ b.more

end BlockLines

def blockFrom (folded : Bool) (indent : Nat) (inLine : Bool) (b : BlockLines) (line column : Nat) :
    List Char → Option (BlockLines × Source)
  | [] => some (b, ⟨[], line, column⟩)
  | c :: cs =>
    if isBreak c then
      let b := if inLine then { b with lead := [c] } else { b with more := b.more ++ [c] }
      blockFrom folded indent false b (line + 1) 0 cs
    else if inLine then
      blockFrom folded indent true { b with text := c :: b.text } line (column + 1) cs
    else if column < indent then
      if c = ' ' then blockFrom folded indent false b line (column + 1) cs
      else if c = '\t' then none
      else some (b, ⟨c :: cs, line, column⟩)
    else blockFrom folded indent true (b.startLine folded c) line (column + 1) cs

/-- The block scalar at a position, which is at its style. Without an indentation in the header that
of the widest opening line counts, but at least `margin`. -/
def block? (folded : Bool) (margin : Nat) (s : Source) : Option (List Char × Source) := do
  let s := s.skip 1
  let (header, n) ← BlockHeader.read? s.rest
  let s ← (s.skip n).endLine?
  let (indent, more, s) ← match header.increment with
    | some n => some (margin - 1 + n, [], s)
    | none => do
      let (breaks, widest, s) ← openingLines [] 0 s.line s.column s.rest
      some (max widest (max margin 1), breaks, s)
  let (b, s) ← blockFrom folded indent false { more } s.line s.column s.rest
  some (b.close header.chomp, s)

end TableShell.Yaml
