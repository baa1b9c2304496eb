import TableShell.Text.CharClass
import TableShell.Text.Numeral

/-!
# Calendar dates

Days of the proleptic Gregorian calendar, their chronological order, and their written form
`YYYY-MM-DD`.
-/

namespace TableShell

def isLeapYear (year : Int) : Bool := year % 4 == 0 && (year % 100 != 0 || year % 400 == 0)

def daysInMonth (year : Int) (month : Nat) : Nat :=
  if month = 2 then if isLeapYear year then 29 else 28
  else if month = 4 ∨ month = 6 ∨ month = 9 ∨ month = 11 then 30
  else 31

def IsDay (year : Int) (month day : Nat) : Prop :=
  (-262143 ≤ year ∧ year ≤ 262142) ∧ (1 ≤ month ∧ month ≤ 12) ∧
    (1 ≤ day ∧ day ≤ daysInMonth year month)

instance (year : Int) (month day : Nat) : Decidable (IsDay year month day) :=
  inferInstanceAs (Decidable (_ ∧ _))

structure Date where
  year : Int
  month : Nat
  day : Nat
  isDay : IsDay year month day := by decide
  deriving DecidableEq

namespace Date

def ofDay? (year : Int) (month day : Nat) : Option Date :=
  if h : IsDay year month day then some ⟨year, month, day, h⟩ else none

instance : Ord Date where
  compare := compareLex (compareOn (·.year)) (compareLex (compareOn (·.month)) (compareOn (·.day)))

theorem compare_def : compare (α := Date) =
    compareLex (compareOn (·.year)) (compareLex (compareOn (·.month)) (compareOn (·.day))) := rfl

instance : Std.TransOrd Date := inferInstanceAs (Std.TransCmp (compareLex _ _))

instance : Std.LawfulEqOrd Date where
  eq_of_compare {a b} h := by
    simp only [compare_def, compareLex_eq_eq] at h
    have hy : a.year = b.year := Std.LawfulEqOrd.eq_of_compare h.1
    have hm : a.month = b.month := Std.LawfulEqOrd.eq_of_compare h.2.1
    have hd : a.day = b.day := Std.LawfulEqOrd.eq_of_compare h.2.2
    cases a; cases b; simp_all

open Text

def digitRun? (most : Nat) (cs : List Char) : Option (Nat × List Char) :=
  let ds := (cs.take most).takeWhile Char.isDigit
  (natural? ds).map fun n => (n, cs.drop ds.length)

/-- A year: up to four digits, or a sign and any number of digits. -/
def year? : List Char → Option (Int × List Char)
  | '+' :: cs => (digitRun? cs.length cs).map fun (n, rest) => ((n : Int), rest)
  | '-' :: cs => (digitRun? cs.length cs).map fun (n, rest) => (-(n : Int), rest)
  | cs => (digitRun? 4 cs).map fun (n, rest) => ((n : Int), rest)

def afterHyphen? : List Char → Option (List Char)
  | '-' :: rest => some rest
  | _ => none

/-- Reads `YYYY-MM-DD`. White space may come before each number, and nowhere else. -/
def parse? (cs : List Char) : Option Date := do
  let (year, cs) ← year? (cs.dropWhile isBlank)
  let cs ← afterHyphen? cs
  let (month, cs) ← digitRun? 2 (cs.dropWhile isBlank)
  let cs ← afterHyphen? cs
  let (day, cs) ← digitRun? 2 (cs.dropWhile isBlank)
  if cs = [] then ofDay? year month day else none

/-- Years 0 to 9999 have four digits; all others have a sign and at least four digits. -/
def yearText (year : Int) : List Char :=
  if 0 ≤ year ∧ year ≤ 9999 then decimalPadded 4 year.natAbs
  else (if year < 0 then '-' else '+') :: decimalPadded 4 year.natAbs

def render (d : Date) : List Char :=
  yearText d.year ++ '-' :: decimalPadded 2 d.month ++ '-' :: decimalPadded 2 d.day

end Date

end TableShell
