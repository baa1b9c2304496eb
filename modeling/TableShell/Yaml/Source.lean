import TableShell.Text.CharClass

/-!
# YAML source text

The characters that a YAML text may hold, its line breaks, and a position in it. Line ends of every
style are read as one line feed, so each later step meets three kinds of break only: the line feed
and the two Unicode separators.
-/

namespace TableShell.Yaml

def admissibleRanges : List (Nat × Nat) :=
  [(0x09, 0x0A), (0x0D, 0x0D), (0x20, 0x7E), (0x85, 0x85), (0xA0, 0xD7FF), (0xE000, 0xFFFD),
  (0x10000, 0x10FFFF)]

def isAdmissible (c : Char) : Bool := Text.inRanges admissibleRanges c.toNat

def byteOrderMark : Char := '\uFEFF'

def unifyBreaks : List Char → List Char
  | [] => []
  | '\r' :: '\n' :: cs => '\n' :: unifyBreaks cs
  | c :: cs => (if c = '\r' ∨ c = '\x85' then '\n' else c) :: unifyBreaks cs

def isBreak (c : Char) : Bool := c == '\n' || c == '\u2028' || c == '\u2029'

def isSpace (c : Char) : Bool := Text.isTabOrSpace c || isBreak c

def isNameChar (c : Char) : Bool := c.isAlphanum || c == '-' || c == '_'

def endsWord : List Char → Bool
  | [] => true
  | c :: _ => isSpace c

def isDocumentMark : List Char → Bool
  | '-' :: '-' :: '-' :: cs => endsWord cs
  | '.' :: '.' :: '.' :: cs => endsWord cs
  | _ => false

/-- What is left of a text, with the line and the column where it goes on. -/
structure Source where
  rest : List Char
  line : Nat
  column : Nat

namespace Source

/-- A text that holds an inadmissible character cannot be read. -/
def ofText? (text : String) : Option Source :=
  if text.toList.all isAdmissible then some ⟨unifyBreaks text.toList, 0, 0⟩ else none

def next (s : Source) : Source :=
  match s.rest with
  | [] => s
  | c :: cs => if isBreak c then ⟨cs, s.line + 1, 0⟩ else ⟨cs, s.line, s.column + 1⟩

def skip (s : Source) (n : Nat) : Source := { s with rest := s.rest.drop n, column := s.column + n }

/-- The characters that satisfy `p`, and the position after them; `p` holds of no break. -/
def span (s : Source) (p : Char → Bool) : List Char × Source :=
  let word := s.rest.takeWhile p
  (word, s.skip word.length)

/-- Past blanks, a comment and the break that ends the line; nothing else may be there. -/
def endLine? (s : Source) : Option Source :=
  let s := (s.span Text.isTabOrSpace).2
  let s := if s.rest.head? = some '#' then (s.span (!isBreak ·)).2 else s
  match s.rest with
  | [] => some s
  | c :: _ => if isBreak c then some s.next else none

end Source

end TableShell.Yaml
