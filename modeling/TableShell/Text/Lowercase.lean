import TableShell.Text.CharClass
import TableShell.Text.CasedTable
import TableShell.Text.LowercaseTable

/-!
# Lower case of a text

Every character is replaced by its lower case. Two rules go beyond the table: the dotted capital I
becomes an i and a combining dot, and a capital sigma at the end of a word becomes a final sigma.
-/

namespace TableShell.Text

def LowerRun.partner? (r : LowerRun) (n : Nat) : Option Nat :=
  if r.first ≤ n ∧ n ≤ r.last ∧ (n - r.first) % r.step = 0 then some (r.target + (n - r.first))
  else none

def lowerPartner? : List LowerRun → Nat → Option Nat
  | [], _ => none
  | r :: rest, n =>
    if n < r.first then none
    else match r.partner? n with
      | some m => some m
      | none => lowerPartner? rest n

def lowerChar (c : Char) : Char :=
  match lowerPartner? lowerRuns c.toNat with
  | some n => Char.ofNat n
  | none => c

def isCased (c : Char) : Bool := inRanges casedRanges c.toNat

def isCaseIgnorable (c : Char) : Bool := inRanges caseIgnorableRanges c.toNat

def meetsCased (cs : List Char) : Bool :=
  match cs.dropWhile isCaseIgnorable with
  | [] => false
  | c :: _ => isCased c

/-- A sigma ends a word when a cased character comes before it and none comes after it. -/
def isFinalSigma (before after : List Char) : Bool := meetsCased before && !meetsCased after

/-- The lower case of one character; `before` holds the characters to its left, nearest first. -/
def lowerAt (before : List Char) (c : Char) (after : List Char) : List Char :=
  if c = 'Σ' then [if isFinalSigma before after then 'ς' else 'σ']
  else if c = 'İ' then ['i', '\u0307']
  else [lowerChar c]

def lowerAfter (before : List Char) : List Char → List Char
  | [] => []
  | c :: after => lowerAt before c after ++ lowerAfter (c :: before) after

def lowercase (cs : List Char) : List Char := lowerAfter [] cs

end TableShell.Text
