import TableShell.Text.CharClass

/-!
# Reading of TOML text

A reader takes characters from the front of a text, or fails. The classes of characters and the
blank parts of a text are defined here.
-/

namespace TableShell.Toml

abbrev Scan := StateT (List Char) Option

def isTextChar (c : Char) : Bool := c == '\t' || (' ' ≤ c && c != '\x7f')

def afterNewline? : List Char → Option (List Char)
  | '\n' :: cs => some cs
  | '\r' :: '\n' :: cs => some cs
  | _ => none

/-- The text after blanks, comments and line ends; a comment needs its line end. -/
def afterSpace? (inComment : Bool) : List Char → Option (List Char)
  | [] => if inComment then none else some []
  | c :: cs =>
    if c = '\n' then afterSpace? false cs
    else if c = '\r' then
      if cs.head? = some '\n' then afterSpace? inComment cs else none
    else if inComment then
      if isTextChar c then afterSpace? true cs else none
    else if Text.isTabOrSpace c then afterSpace? false cs
    else if c = '#' then afterSpace? true cs
    else some (c :: cs)

namespace Scan

def rest : Scan (List Char) := get

def peek : Scan (Option Char) := return (← rest).head?

def drop (n : Nat) : Scan Unit := modify (·.drop n)

def takeWhile (p : Char → Bool) : Scan (List Char) :=
  modifyGet fun cs => (cs.takeWhile p, cs.dropWhile p)

def accept (text : String) : Scan Bool := do
  if text.toList.isPrefixOf (← rest) then
    drop text.length
    return true
  else return false

def expect (text : String) : Scan Unit := do
  if ← accept text then return () else failure

def of {α : Type} (read : List Char → Option (α × List Char)) : Scan α := read

/-- Runs a reader; where it fails, nothing is taken. -/
def attempt {α : Type} (read : Scan α) : Scan (Option α) := fun cs =>
  match read cs with
  | some (a, cs) => some (some a, cs)
  | none => some (none, cs)

def blanks : Scan Unit := do
  let _ ← takeWhile Text.isTabOrSpace

def lineEnd : Scan Unit := do
  if (← rest).isEmpty then return ()
  else set (← afterNewline? (← rest))

def comment : Scan Unit := do
  expect "#"
  let _ ← takeWhile isTextChar

def trailing : Scan Unit := do
  blanks
  if (← peek) = some '#' then comment
  lineEnd

def space : Scan Unit := do set (← afterSpace? false (← rest))

/-- Items with a separator between them, and whether a separator may come after the last one. Each
item takes at least one character. -/
def separated {α : Type} (separator : String) (final : Bool) (item : Scan α) : Nat → Scan (List α)
  | 0 => return []
  | fuel + 1 => do
    match ← attempt item with
    | none => return []
    | some a =>
      let before ← rest
      if ← accept separator then
        let as ← separated separator final item fuel
        if as.isEmpty && !final then set before
        return a :: as
      else return [a]

end Scan

end TableShell.Toml
