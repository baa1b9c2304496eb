import TableShell.Yaml.Source

/-!
# Folding of lines

A scalar that is written over several lines is one text. Between two of its words, blanks count as
they are; once the line ends they do not, one line break counts as a space, and further breaks count
as they are.
-/

namespace TableShell.Yaml

/-- A single line feed is a space; of several line feeds, the first does not count. -/
def foldBreaks : List Char → List Char
  | ['\n'] => [' ']
  | '\n' :: breaks => breaks
  | breaks => breaks

/-- What is between two words of a scalar. After an escaped line break the further ones count as they
are. -/
inductive Gap where
  | blanks (text : List Char)
  | breaks (text : List Char)
  | escaped (text : List Char)
  deriving DecidableEq, Repr

namespace Gap

def empty : Gap := .blanks []

def push (c : Char) : Gap → Gap
  | .blanks text => if isBreak c then .breaks [c] else .blanks (text ++ [c])
  | .breaks text => .breaks (if isBreak c then text ++ [c] else text)
  | .escaped text => .escaped (if isBreak c then text ++ [c] else text)

def isBroken : Gap → Bool
  | .blanks _ => false
  | _ => true

def text : Gap → List Char
  | .blanks text => text
  | .breaks text => foldBreaks text
  | .escaped text => text

end Gap

end TableShell.Yaml
