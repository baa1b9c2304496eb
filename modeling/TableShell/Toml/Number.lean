import TableShell.Text.Numeral

/-!
# TOML numbers

Integers have 64 bits and may be written in four bases. A float is kept as it is written; one that
is too large is refused.
-/

namespace TableShell.Toml

def digitTail (p : Char → Bool) : List Char → List Char × List Char
  | '_' :: c :: cs =>
    if p c then
      let (ds, rest) := digitTail p cs
      (c :: ds, rest)
    else ([], '_' :: c :: cs)
  | c :: cs =>
    if p c then
      let (ds, rest) := digitTail p cs
      (c :: ds, rest)
    else ([], c :: cs)
  | [] => ([], [])

/-- A row of digits, between any two of which an underscore may stand. -/
def digits? (p : Char → Bool) : List Char → Option (List Char × List Char)
  | c :: cs =>
    if p c then
      let (ds, rest) := digitTail p cs
      some (c :: ds, rest)
    else none
  | [] => none

def sign : List Char → Bool × List Char
  | '+' :: cs => (false, cs)
  | '-' :: cs => (true, cs)
  | cs => (false, cs)

def wholePart? : List Char → Option (List Char × List Char)
  | '0' :: cs => some (['0'], cs)
  | cs => digits? Char.isDigit cs

def inBase (b : Nat) (ds : List Char) : Nat :=
  ds.foldl (fun n d => n * b + (Text.hexValue? d).getD 0) 0

def based? (b : Nat) (p : Char → Bool) (cs : List Char) : Option (Int64 × List Char) := do
  let (ds, rest) ← digits? p cs
  some (← Text.int64? (inBase b ds), rest)

def integer? : List Char → Option (Int64 × List Char)
  | '0' :: 'x' :: cs => based? 16 (fun c => (Text.hexValue? c).isSome) cs
  | '0' :: 'o' :: cs => based? 8 (fun c => '0' ≤ c ∧ c ≤ '7') cs
  | '0' :: 'b' :: cs => based? 2 (fun c => c = '0' ∨ c = '1') cs
  | cs => do
    let (negative, cs) := sign cs
    let (ds, rest) ← wholePart? cs
    let n : Int := Text.digitsValue ds
    some (← Text.int64? (if negative then -n else n), rest)

def fraction? : List Char → Option (List Char × List Char)
  | '.' :: cs => digits? Char.isDigit cs
  | _ => none

def exponent? : List Char → Option (Int × List Char)
  | c :: cs =>
    if c = 'e' ∨ c = 'E' then do
      let (negative, cs) := sign cs
      let (ds, rest) ← digits? Char.isDigit cs
      let n : Int := Text.digitsValue ds
      some (if negative then -n else n, rest)
    else none
  | [] => none

/-- The least number that is nearer to infinity than to the largest double. -/
def overflowLimit : Nat := (1 <<< 1024) - (1 <<< 970)

/-- Whether `n` times ten to the power `e` is beyond all doubles. The limit has 309 digits. -/
def overflows (n : Nat) (e : Int) : Bool :=
  if n = 0 then false
  else
    let size : Int := (Text.decimal n).length + e
    if size ≠ 309 then 309 < size
    else if 0 ≤ e then overflowLimit ≤ n * Nat.pow 10 e.toNat
    else overflowLimit * Nat.pow 10 (-e).toNat ≤ n

def named? (cs : List Char) : Option (List Char) :=
  if "inf".toList.isPrefixOf cs || "nan".toList.isPrefixOf cs then some (cs.drop 3) else none

/-- The text after a float that starts here: a whole part with a fraction, an exponent or both, or
one of the named floats. -/
def afterFloat? (cs : List Char) : Option (List Char) :=
  let (negative, cs) := sign cs
  match wholePart? cs with
  | none => named? cs
  | some (ds, cs) =>
    let (frac, cs, fractional) := match fraction? cs with
      | some (frac, cs) => (frac, cs, true)
      | none => ([], cs, false)
    let (exp, cs, scaled) := match exponent? cs with
      | some (exp, cs) => (exp, cs, true)
      | none => (0, cs, false)
    if !fractional && !scaled then none
    else if !negative && overflows (Text.digitsValue (ds ++ frac)) (exp - frac.length) then none
    else some cs

def float? (cs : List Char) : Option (String × List Char) :=
  (afterFloat? cs).map fun rest => (String.ofList (cs.take (cs.length - rest.length)), rest)

end TableShell.Toml
