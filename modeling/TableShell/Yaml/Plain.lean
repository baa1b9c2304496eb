import TableShell.Yaml.Folding

/-!
# Plain scalars

A scalar without quotes. It ends at a colon that a blank follows, at a comment, at a document mark,
at a line that is not indented enough, and in a flow collection also at its punctuation.
-/

namespace TableShell.Yaml

def isFlowMark (c : Char) : Bool :=
  c == ',' || c == '[' || c == ']' || c == '\x7b' || c == '\x7d'

def endsPlain (inFlow : Bool) (c : Char) (cs : List Char) : Bool :=
  (c == ':' && endsWord cs) || (inFlow && isFlowMark c)

def isStrayColon (inFlow : Bool) (c : Char) (cs : List Char) : Bool :=
  inFlow && c == ':' && cs.head?.any fun d => isFlowMark d || d == '?'

/-- Where plain scalars are read: inside a flow collection or not, and the least column that a
further line may start at. -/
structure PlainContext where
  inFlow : Bool
  margin : Nat

def PlainContext.endsAfterGap (ctx : PlainContext) (column : Nat) (cs : List Char) : Bool :=
  (!ctx.inFlow && column < ctx.margin) || (column == 0 && isDocumentMark cs) ||
    cs.head? == some '#'

/-- Reads on in a plain scalar of which `text`, in reverse, and then `gap` are known. Gives its
text, whether a line ended behind it, and the position after it. -/
def plainFrom (ctx : PlainContext) (text : List Char) (gap : Gap) (line column : Nat) :
    List Char → Option (List Char × Bool × Source)
  | [] => some (text.reverse, gap.isBroken, ⟨[], line, column⟩)
  | c :: cs =>
    if isBreak c then plainFrom ctx text (gap.push c) (line + 1) 0 cs
    else if Text.isTabOrSpace c then
      if gap.isBroken && column < ctx.margin && c == '\t' then none
      else plainFrom ctx text (gap.push c) line (column + 1) cs
    else if (gap != .empty && ctx.endsAfterGap column (c :: cs)) then
      some (text.reverse, gap.isBroken, ⟨c :: cs, line, column⟩)
    else if isStrayColon ctx.inFlow c cs then none
    else if endsPlain ctx.inFlow c cs then
      some (text.reverse, gap.isBroken, ⟨c :: cs, line, column⟩)
    else plainFrom ctx (c :: gap.text.reverse ++ text) .empty line (column + 1) cs

def plain? (ctx : PlainContext) (s : Source) : Option (List Char × Bool × Source) :=
  plainFrom ctx [] .empty s.line s.column s.rest

end TableShell.Yaml
