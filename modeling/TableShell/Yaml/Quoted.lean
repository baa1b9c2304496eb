import TableShell.Text.Numeral
import TableShell.Yaml.Folding

/-!
# Quoted scalars

Between single quotes only the quote itself is written twice. Between double quotes a backslash
starts an escape; before a line break it joins the lines.
-/

namespace TableShell.Yaml

def letterEscape? (c : Char) : Option Char :=
  match c with
  | '0' => some '\x00'
  | 'a' => some '\x07'
  | 'b' => some '\x08'
  | 't' | '\t' => some '\t'
  | 'n' => some '\n'
  | 'v' => some '\x0b'
  | 'f' => some '\x0c'
  | 'r' => some '\r'
  | 'e' => some '\x1b'
  | ' ' | '"' | '/' | '\\' => some c
  | 'N' => some '\x85'
  | '_' => some '\xa0'
  | 'L' => some '\u2028'
  | 'P' => some '\u2029'
  | _ => none

/-- The number of hexadecimal digits after an escape letter that takes a code point. -/
def codeLength? (c : Char) : Option Nat :=
  match c with
  | 'x' => some 2
  | 'u' => some 4
  | 'U' => some 8
  | _ => none

def escape? : List Char → Option (Char × Nat)
  | [] => none
  | c :: cs =>
    match codeLength? c with
    | some n => (Text.codePoint? n cs).map (·, n + 1)
    | none => (letterEscape? c).map (·, 1)

inductive Quote where
  | single
  | double
  deriving DecidableEq, Repr

def Quote.char : Quote → Char
  | .single => '\''
  | .double => '"'

/-- Reads on in a quoted scalar of which `text`, in reverse, and then `gap` are known, up to and
with its closing quote. A document mark inside is refused. -/
def quotedFrom (q : Quote) (text : List Char) (gap : Gap) (line column : Nat) :
    List Char → Option (List Char × Source)
  | [] => none
  | c :: cs =>
    if isBreak c then quotedFrom q text (gap.push c) (line + 1) 0 cs
    else if Text.isTabOrSpace c then quotedFrom q text (gap.push c) line (column + 1) cs
    else if column == 0 && isDocumentMark (c :: cs) then none
    else
      let before := gap.text.reverse ++ text
      if c = q.char then
        if q = .single ∧ cs.head? = some '\'' then
          quotedFrom q ('\'' :: before) .empty line (column + 2) (cs.drop 1)
        else some (before.reverse, ⟨cs, line, column + 1⟩)
      else if q = .double ∧ c = '\\' then
        if cs.head?.any isBreak then quotedFrom q before (.escaped []) (line + 1) 0 (cs.drop 1)
        else match escape? cs with
          | some (d, n) => quotedFrom q (d :: before) .empty line (column + 1 + n) (cs.drop n)
          | none => none
      else quotedFrom q (c :: before) .empty line (column + 1) cs
termination_by cs => cs.length
decreasing_by all_goals simp; try omega

def quoted? (q : Quote) (s : Source) : Option (List Char × Source) :=
  quotedFrom q [] .empty s.line (s.column + 1) (s.rest.drop 1)

end TableShell.Yaml
