/-!
# Bytes read as UTF-8

A byte sequence is cut into pieces: a well-formed character, or a maximal part of one that no
continuation can complete. The lenient reading puts one replacement character for each such part;
the strict reading refuses it.
-/

namespace TableShell.Text

/-- What a lead byte announces: its own payload, the bounds of the byte that follows it, and the
number of further continuation bytes. -/
structure Lead where
  payload : Nat
  low : Nat
  high : Nat
  more : Nat
  deriving DecidableEq, Repr

/-- The bounds on the second byte exclude overlong forms, surrogates and values past the last code
point. -/
def lead? (b : Nat) : Option Lead :=
  if 0xC2 ≤ b ∧ b ≤ 0xDF then some ⟨b - 0xC0, 0x80, 0xBF, 0⟩
  else if b = 0xE0 then some ⟨0, 0xA0, 0xBF, 1⟩
  else if b = 0xED then some ⟨0xD, 0x80, 0x9F, 1⟩
  else if 0xE1 ≤ b ∧ b ≤ 0xEF then some ⟨b - 0xE0, 0x80, 0xBF, 1⟩
  else if b = 0xF0 then some ⟨0, 0x90, 0xBF, 2⟩
  else if 0xF1 ≤ b ∧ b ≤ 0xF3 then some ⟨b - 0xF0, 0x80, 0xBF, 2⟩
  else if b = 0xF4 then some ⟨4, 0x80, 0x8F, 2⟩
  else none

def continuation : (n value taken : Nat) → List UInt8 → Option Nat × Nat
  | 0, value, taken, _ => (some value, taken)
  | n + 1, value, taken, b :: rest =>
    if 0x80 ≤ b.toNat ∧ b.toNat ≤ 0xBF then
      continuation n (value * 64 + (b.toNat - 0x80)) (taken + 1) rest
    else (none, taken)
  | _ + 1, _, taken, [] => (none, taken)

/-- The piece that starts with byte `b`: its character, if it is well formed, and the number of
bytes that it takes from `rest`. -/
def piece (b : UInt8) (rest : List UInt8) : Option Char × Nat :=
  if b.toNat < 0x80 then (some (Char.ofNat b.toNat), 0)
  else match lead? b.toNat, rest with
    | some l, c :: rest =>
      if l.low ≤ c.toNat ∧ c.toNat ≤ l.high then
        let (value, taken) := continuation l.more (l.payload * 64 + (c.toNat - 0x80)) 1 rest
        (value.map Char.ofNat, taken)
      else (none, 0)
    | _, _ => (none, 0)

def pieces : List UInt8 → List (Option Char)
  | [] => []
  | b :: rest => (piece b rest).1 :: pieces (rest.drop (piece b rest).2)
termination_by bs => bs.length
decreasing_by simp only [List.length_drop, List.length_cons]; omega

/-- The lenient reading: a replacement character for each part that is not well formed. -/
def decodeLossy (bs : List UInt8) : List Char := (pieces bs).map (·.getD '\uFFFD')

def decode? (bs : List UInt8) : Option (List Char) := (pieces bs).mapM id

end TableShell.Text
