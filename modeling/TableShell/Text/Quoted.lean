import TableShell.Text.CharClass
import TableShell.Text.UnprintableTable

/-!
# Quoted text in diagnostics

A text between double quotes in which every character can be told apart: controls, separators,
format characters, fillers and combining marks are written by their code point.
-/

namespace TableShell.Text

/-- The letters that fill an empty place of a Hangul syllable; nothing is drawn for them. -/
def isHangulFiller (c : Char) : Bool :=
  c == '\u115F' || c == '\u1160' || c == '\u3164' || c == '\uFFA0'

def isPrintable (c : Char) : Bool := !(inRanges unprintableRanges c.toNat || isHangulFiller c)

/-- The half-width voicing marks extend the letter before them, but have a cell of their own. -/
def isHalfwidthVoicing (c : Char) : Bool := c == '\uFF9E' || c == '\uFF9F'

def isCombining (c : Char) : Bool :=
  inRanges graphemeExtendRanges c.toNat && !isHalfwidthVoicing c

def hexDigits (n : Nat) : List Char := Nat.toDigits 16 n

def escapeChar (c : Char) : List Char :=
  match c with
  | '\x00' => ['\\', '0']
  | '\t' => ['\\', 't']
  | '\r' => ['\\', 'r']
  | '\n' => ['\\', 'n']
  | '"' => ['\\', '"']
  | '\\' => ['\\', '\\']
  | c =>
    if isCombining c || !isPrintable c then
      ['\\', 'u', '\x7b'] ++ hexDigits c.toNat ++ ['\x7d']
    else [c]

def quoted (s : String) : String :=
  String.ofList ('"' :: s.toList.flatMap escapeChar ++ ['"'])

end TableShell.Text
