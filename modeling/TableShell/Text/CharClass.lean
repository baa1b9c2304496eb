import TableShell.Text.WordTable

/-!
# Classes of characters

A set of characters is a sorted list of disjoint closed intervals of code points. Blanks and the
characters of words are such sets.
-/

namespace TableShell.Text

/-- Membership; the search ends at the first interval that starts beyond the code point. -/
def inRanges : List (Nat × Nat) → Nat → Bool
  | [], _ => false
  | (first, last) :: rest, n =>
    if n < first then false
    else if n ≤ last then true
    else inRanges rest n

def isWordChar (c : Char) : Bool := inRanges wordRanges c.toNat

theorem inRanges_wordRanges_ascii : ∀ n < 128,
    inRanges wordRanges n =
      (48 ≤ n && n ≤ 57 || 65 ≤ n && n ≤ 90 || n == 95 || 97 ≤ n && n ≤ 122) := by
  decide +kernel

/-- Tab to carriage return, space, next line, and the separators beyond ASCII. -/
def blankRanges : List (Nat × Nat) :=
  [(0x09, 0x0D), (0x20, 0x20), (0x85, 0x85), (0xA0, 0xA0), (0x1680, 0x1680), (0x2000, 0x200A),
  (0x2028, 0x2029), (0x202F, 0x202F), (0x205F, 0x205F), (0x3000, 0x3000)]

def isBlank (c : Char) : Bool := inRanges blankRanges c.toNat

def isTabOrSpace (c : Char) : Bool := c == ' ' || c == '\t'

def trimEnd (cs : List Char) : List Char := (cs.reverse.dropWhile isBlank).reverse

def trim (cs : List Char) : List Char := trimEnd (cs.dropWhile isBlank)

end TableShell.Text
