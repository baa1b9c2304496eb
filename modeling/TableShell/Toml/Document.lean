import TableShell.Toml.Moment
import TableShell.Toml.Number
import TableShell.Toml.Text
import TableShell.Toml.Value

/-!
# TOML documents

A document is a list of key-value pairs under headers. Read as a whole, it is one table.
-/

namespace TableShell.Toml

/-- How deeply arrays and inline tables may be nested, and how long a dotted key may be: less than
this. -/
def depthLimit : Nat := 80

def isKeyChar (c : Char) : Bool := c.isAlphanum || c == '-' || c == '_'

namespace Scan

def simpleKey : Scan String := do
  match ← peek with
  | some '"' => of (lineText? '"')
  | some '\'' => of (lineText? '\'')
  | _ =>
    let word ← takeWhile isKeyChar
    if word.isEmpty then failure else return String.ofList word

def key : Scan (List String) := do
  let part := do
    blanks
    let k ← simpleKey
    blanks
    return k
  let path ← separated "." false part ((← rest).length + 1)
  if path.isEmpty || depthLimit ≤ path.length then failure else return path

def number : Scan Value := do
  if let some literal ← attempt (of moment?) then return .moment literal
  if let some literal ← attempt (of float?) then return .float literal
  return .integer (← of integer?)

def pair (value : Scan Value) : Scan (List String × Value) := do
  let path ← key
  expect "="
  blanks
  return (path, ← value)

def value (depth : Nat) : Scan Value := do
  match ← peek with
  | some '"' => return .string (← of (text? '"'))
  | some '\'' => return .string (← of (text? '\''))
  | some '[' =>
    match depth with
    | 0 => failure
    | depth + 1 =>
      drop 1
      let item := do
        space
        let v ← value depth
        space
        return v
      let items ← separated "," true item ((← rest).length + 1)
      space
      expect "]"
      return .array items
  | some '\x7b' =>
    match depth with
    | 0 => failure
    | depth + 1 =>
      drop 1
      let item := do
        let p ← pair (value depth)
        blanks
        return p
      let pairs ← separated "," false item ((← rest).length + 1)
      blanks
      expect "\x7d"
      return .table .inline (← Entries.putAll pairs [])
  | some 't' =>
    expect "true"
    return .boolean true
  | some 'f' =>
    expect "false"
    return .boolean false
  | some 'i' | some 'n' =>
    let word := (← rest).take 3
    set (← named? (← rest))
    return .float (String.ofList word)
  | some _ => number
  | none => failure

end Scan

structure Header where
  path : List String
  repeated : Bool

structure Section where
  header : Option Header
  pairs : List (List String × Value)

namespace Scan

def header : Scan Header := do
  if ← accept "[[" then
    let path ← key
    expect "]]"
    return ⟨path, true⟩
  else
    expect "["
    let path ← key
    expect "]"
    return ⟨path, false⟩

def sectionsFrom (fuel : Nat) (current : Option Header) (pairs : List (List String × Value)) :
    Scan (List Section) := do
  match fuel with
  | 0 => failure
  | fuel + 1 =>
    blanks
    match ← peek with
    | none => return [⟨current, pairs.reverse⟩]
    | some '#' | some '\n' | some '\r' =>
      trailing
      sectionsFrom fuel current pairs
    | some '[' =>
      let next ← header
      trailing
      return ⟨current, pairs.reverse⟩ :: (← sectionsFrom fuel (some next) [])
    | _ =>
      let p ← pair (value (depthLimit - 1))
      trailing
      sectionsFrom fuel current (p :: pairs)

end Scan

namespace Entries

/-- Adds a section to a document. A table has one header, but may have been on the path of others
before; the header of repeated tables adds one each time. -/
def addSection (es : Entries) (s : Section) : Option Entries :=
  match s.header with
  | none => putAll s.pairs es
  | some ⟨path, false⟩ => changeAt table path es
  | some ⟨path, true⟩ => changeAt row path es
where
  table : Option Value → Option Value
    | none => (putAll s.pairs []).map (.table .header)
    | some (.table .implicit sub) => (putAll s.pairs sub).map (.table .header)
    | some _ => none
  row : Option Value → Option Value
    | none => (putAll s.pairs []).map fun new => .tables [new]
    | some (.tables rows) => (putAll s.pairs []).map fun new => .tables (rows ++ [new])
    | some _ => none

end Entries

/-- The table that a document is. A byte order mark may come first. -/
def Entries.ofText? (text : String) : Option Entries := do
  let cs := match text.toList with
    | c :: cs => if c = '\uFEFF' then cs else c :: cs
    | [] => []
  let (sections, _) ← Scan.sectionsFrom (cs.length + 1) none [] cs
  sections.foldlM addSection []

end TableShell.Toml
