/-!
# Words of a statement

A statement line is split into words at spaces; a text between double quotes is one word, without
its quotes and with its spaces. A small machine walks over the line and notes where words start and
end, as byte offsets; the words are then cut out of the line. A quote that is never closed gives no
word.
-/

namespace TableShell.Words

inductive Mode where
  | between
  | inRaw
  | inQuoted
  deriving DecidableEq, Repr

inductive Trigger where
  | space
  | quote
  | other
  deriving DecidableEq, Repr

def Trigger.of (c : Char) : Trigger :=
  if c = ' ' then .space else if c = '"' then .quote else .other

inductive Effect where
  | none
  | markHere
  | markNext
  | emit
  deriving DecidableEq, Repr

def transition : Mode → Trigger → Mode × Effect
  | .between, .space => (.between, .none)
  | .between, .quote => (.inQuoted, .markNext)
  | .between, .other => (.inRaw, .markHere)
  | .inRaw, .space => (.between, .emit)
  | .inRaw, _ => (.inRaw, .none)
  | .inQuoted, .quote => (.between, .emit)
  | .inQuoted, _ => (.inQuoted, .none)

/-- The byte offsets where a word starts and where it ends. -/
abbrev Span := Nat × Nat

/-- The spans from byte offset `pos` on; a word that is under way started at `start`. The end of the
line acts like a space. -/
def spansFrom (mode : Mode) (start pos : Nat) : List Char → List Span
  | [] => if (transition mode .space).2 = .emit then [(start, pos)] else []
  | c :: cs =>
    let next := pos + c.utf8Size
    match transition mode (Trigger.of c) with
    | (mode, .none) => spansFrom mode start next cs
    | (mode, .markHere) => spansFrom mode pos next cs
    | (mode, .markNext) => spansFrom mode next next cs
    | (mode, .emit) => (start, pos) :: spansFrom mode start next cs

def spans (line : String) : List Span := spansFrom .between 0 0 line.toList

def slice (line : String) (s : Span) : String :=
  String.Pos.Raw.extract line ⟨s.1⟩ ⟨s.2⟩

def split (line : String) : List String := (spans line).map (slice line)

end TableShell.Words
