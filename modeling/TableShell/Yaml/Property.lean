import TableShell.Text.Numeral
import TableShell.Yaml.Source
import TableShell.Yaml.Token

/-!
# Anchors, tags and directives

The names that a YAML text gives to its nodes, and the directives before a document.
-/

namespace TableShell.Yaml

def endsAnchor : List Char → Bool
  | [] => true
  | c :: _ => isSpace c || "?:,]\x7d%@\x60".toList.contains c

def anchorName? (s : Source) : Option (List Char × Source) :=
  let (name, s) := (s.skip 1).span isNameChar
  if name ≠ [] ∧ endsAnchor s.rest then some (name, s) else none

def isUriChar (verbatim : Bool) (c : Char) : Bool :=
  isNameChar c || ";/?:@&=+$.!~*'()".toList.contains c ||
    (verbatim && (c == ',' || c == '[' || c == ']'))

def byteCount? (lead : Nat) : Option Nat :=
  if lead < 0x80 then some 1
  else if 0xC0 ≤ lead ∧ lead < 0xE0 then some 2
  else if 0xE0 ≤ lead ∧ lead < 0xF0 then some 3
  else if 0xF0 ≤ lead ∧ lead < 0xF8 then some 4
  else none

def escapedByte? : List Char → Option (Nat × List Char)
  | '%' :: a :: b :: cs => (Text.hex? [a, b]).map (·, cs)
  | _ => none

def escapedBytes? : (n code : Nat) → List Char → Option Nat
  | 0, code, _ => some code
  | n + 1, code, cs => do
    let (b, cs) ← escapedByte? cs
    if 0x80 ≤ b ∧ b < 0xC0 then escapedBytes? n (code * 64 + (b - 0x80)) cs else none

def uriEscape? (cs : List Char) : Option (Char × Nat) := do
  let (lead, rest) ← escapedByte? cs
  let n ← byteCount? lead
  let payload := if n = 1 then lead else lead % (0x80 >>> n)
  let code ← escapedBytes? (n - 1) payload rest
  some (Char.ofNat code, n)

def uriFrom (verbatim : Bool) : List Char → Option (List Char × Nat)
  | [] => some ([], 0)
  | c :: cs =>
    if isUriChar verbatim c then
      (uriFrom verbatim cs).map fun (uri, n) => (c :: uri, n + 1)
    else if c = '%' then
      match uriEscape? (c :: cs) with
      | some (d, n) =>
        (uriFrom verbatim (cs.drop (3 * n - 1))).map fun (uri, m) => (d :: uri, 3 * n + m)
      | none => none
    else some ([], 0)
termination_by cs => cs.length
decreasing_by all_goals simp; try omega

def uri? (verbatim : Bool) (s : Source) : Option (List Char × Source) :=
  (uriFrom verbatim s.rest).map fun (uri, n) => (uri, s.skip n)

/-- A tag handle, with its exclamation marks; the one at the end may lack. -/
def handle (s : Source) : List Char × Source :=
  let (name, s) := (s.skip 1).span isNameChar
  if s.rest.head? = some '!' then ('!' :: name ++ ['!'], s.skip 1) else ('!' :: name, s)

def isFullHandle (h : List Char) : Bool := 2 ≤ h.length && h.getLast? == some '!'

/-- The tag at a position. What does not start with a full handle belongs to the handle `!`. -/
def tag? (inFlow : Bool) (s : Source) : Option (Tag × Source) := do
  let (tag, s) ← if s.rest.tail.head? = some '<' then do
      let (uri, s) ← uri? true (s.skip 2)
      if uri ≠ [] ∧ s.rest.head? = some '>' then some (Tag.verbatim uri, s.skip 1) else none
    else do
      let (h, s) := handle s
      let (uri, s) ← uri? false s
      if isFullHandle h then
        if uri = [] then none else some (Tag.shorthand h uri, s)
      else if h.tail ++ uri = [] then some (Tag.verbatim ['!'], s)
      else some (Tag.shorthand ['!'] (h.tail ++ uri), s)
  if endsWord s.rest || (inFlow && s.rest.head? == some ',') then some (tag, s) else none

def versionNumber? (s : Source) : Option (Nat × Source) :=
  let (ds, s) := s.span Char.isDigit
  if ds ≠ [] ∧ ds.length ≤ 9 then
    some (Text.digitsValue ds, s)
  else none

def version? (s : Source) : Option (Token × Source) := do
  let (major, s) ← versionNumber? s
  if s.rest.head? = some '.' then
    let (minor, s) ← versionNumber? (s.skip 1)
    some (.versionDirective major minor, s)
  else none

/-- A full handle or the handle `!`, blanks, and the URI that it stands for. -/
def handleMeaning? (s : Source) : Option (Token × Source) := do
  if s.rest.head? ≠ some '!' then none
  let (h, s) := handle s
  if !isFullHandle h && h != ['!'] then none
  let (blanks, s) := s.span Text.isTabOrSpace
  if blanks = [] then none
  let (uri, s) ← uri? true s
  if uri ≠ [] ∧ endsWord s.rest then some (.tagDirective h uri, s) else none

/-- The directive at a position, up to the end of its line. Only the version of YAML and the meaning
of a tag handle can be declared. -/
def directive? (s : Source) : Option (Token × Source) := do
  let (name, s) := (s.skip 1).span isNameChar
  if !endsWord s.rest then none
  let arguments := (s.span Text.isTabOrSpace).2
  let (token, s) ←
    if name = "YAML".toList then version? arguments
    else if name = "TAG".toList then handleMeaning? arguments
    else none
  some (token, ← s.endLine?)

end TableShell.Yaml
