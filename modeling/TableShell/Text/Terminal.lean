/-!
# Text for a terminal

A text for a terminal holds control characters and control sequences next to what it shows.
`visible` is what is left of it where no terminal reads it.
-/

namespace TableShell.Text

def bold (s : String) : String := "\x1b[1m" ++ s ++ "\x1b[0m"

def heading (s : String) : String := "\x1b[1m\x1b[4m" ++ s ++ "\x1b[0m"

/-- The control sequence that is under way at a place of a text, told apart by what ends it. -/
inductive ControlSequence where
  | none
  | escape
  | designation
  | parameters
  | command
  | string
  deriving DecidableEq, Repr

def isBlankControl (c : Char) : Bool := c == '\t' || c == '\n' || c == '\x0c' || c == '\r'

def holdsTerminator (c : Char) : Bool := (String.utf8EncodeChar c).contains 0x9C

namespace ControlSequence

def shows (s : ControlSequence) (c : Char) : Bool :=
  match s with
  | .none => isBlankControl c || (' ' ≤ c && c != '\x7f')
  | .escape | .designation | .parameters => isBlankControl c
  | .command | .string => false

/-- What goes on after a character that is not shown. Another escape takes over at once, and a
cancellation ends every sequence. -/
def next (s : ControlSequence) (c : Char) : ControlSequence :=
  if c == '\x1b' then .escape
  else if c == '\x18' || c == '\x1a' then .none
  else match s with
    | .none => .none
    | .escape =>
      if c < ' ' || '\x7f' ≤ c then .escape
      else if c < '0' then .designation
      else if c == '[' then .parameters
      else if c == ']' then .command
      else if c == 'P' || c == 'X' || c == '^' || c == '_' then .string
      else .none
    | .designation => if '0' ≤ c && c < '\x7f' then .none else .designation
    | .parameters => if '@' ≤ c && c < '\x7f' then .none else .parameters
    | .command => if c == '\x07' then .none else .command
    | .string => if holdsTerminator c then .none else .string

end ControlSequence

/-- What is shown of the rest of a text. A blank that is shown ends the sequence around it. -/
def visibleFrom (s : ControlSequence) : List Char → List Char
  | [] => []
  | c :: cs =>
    if s.shows c then c :: visibleFrom .none cs else visibleFrom (s.next c) cs

def visible (s : String) : String := String.ofList (visibleFrom .none s.toList)

end TableShell.Text
