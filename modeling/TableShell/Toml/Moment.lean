import TableShell.Date

/-!
# TOML dates and times

A date, a time, or both with or without an offset. They are checked against the calendar and the
clock, and kept as they are written.
-/

namespace TableShell.Toml

def field? (n low high : Nat) (cs : List Char) : Option (Nat × List Char) :=
  let ds := cs.take n
  if ds.length = n ∧ ds.all Char.isDigit then
    let value := Text.digitsValue ds
    if low ≤ value ∧ value ≤ high then some (value, cs.drop n) else none
  else none

def after? (c : Char) : List Char → Option (List Char)
  | d :: cs => if d = c then some cs else none
  | [] => none

def afterDate? (cs : List Char) : Option (List Char) := do
  let (year, cs) ← field? 4 0 9999 cs
  let cs ← after? '-' cs
  let (month, cs) ← field? 2 1 12 cs
  let cs ← after? '-' cs
  let (_, cs) ← field? 2 1 (daysInMonth year month) cs
  some cs

def afterFraction (cs : List Char) : List Char :=
  match cs with
  | '.' :: d :: rest => if d.isDigit then rest.dropWhile Char.isDigit else cs
  | _ => cs

/-- The text after a time of the day; there may be a leap second. -/
def afterTime? (cs : List Char) : Option (List Char) := do
  let (_, cs) ← field? 2 0 23 cs
  let cs ← after? ':' cs
  let (_, cs) ← field? 2 0 59 cs
  let cs ← after? ':' cs
  let (_, cs) ← field? 2 0 60 cs
  some (afterFraction cs)

def afterOffset? : List Char → Option (List Char)
  | [] => none
  | c :: cs =>
    if c = 'Z' ∨ c = 'z' then some cs
    else if c = '+' ∨ c = '-' then do
      let (_, cs) ← field? 2 0 23 cs
      let cs ← after? ':' cs
      let (_, cs) ← field? 2 0 59 cs
      some cs
    else none

def afterDateTime (cs : List Char) : List Char :=
  match cs with
  | c :: rest =>
    if c = 'T' ∨ c = 't' ∨ c = ' ' then
      match afterTime? rest with
      | some rest => (afterOffset? rest).getD rest
      | none => cs
    else cs
  | [] => cs

/-- A date or a time as it is written. -/
def moment? (cs : List Char) : Option (String × List Char) :=
  let rest := match afterDate? cs with
    | some rest => some (afterDateTime rest)
    | none => afterTime? cs
  rest.map fun rest => (String.ofList (cs.take (cs.length - rest.length)), rest)

end TableShell.Toml
