import TableShell.Date

/-!
# Typed values

A value is a 64-bit integer, a text or a date. Values are totally ordered: integers come before
texts and texts before dates, and within a kind the order is the natural one.
-/

namespace TableShell

inductive Value where
  | int (n : Int64)
  | text (s : String)
  | date (d : Date)
  deriving DecidableEq

namespace Value

/-- Texts compare code point by code point. -/
protected def cmp : Value → Value → Ordering
  | .int a, .int b => compare a b
  | .int _, _ => .lt
  | .text _, .int _ => .gt
  | .text a, .text b => compare a b
  | .text _, .date _ => .lt
  | .date a, .date b => compare a b
  | .date _, _ => .gt

instance : Ord Value := ⟨Value.cmp⟩

section Order

variable {m n : Int64} {s t : String} {d e : Date}

@[simp] theorem compare_int_int : compare (int m) (int n) = compare m n := rfl
@[simp] theorem compare_int_text : compare (int m) (text t) = .lt := rfl
@[simp] theorem compare_int_date : compare (int m) (date e) = .lt := rfl
@[simp] theorem compare_text_int : compare (text s) (int n) = .gt := rfl
@[simp] theorem compare_text_text : compare (text s) (text t) = compare s t := rfl
@[simp] theorem compare_text_date : compare (text s) (date e) = .lt := rfl
@[simp] theorem compare_date_int : compare (date d) (int n) = .gt := rfl
@[simp] theorem compare_date_text : compare (date d) (text t) = .gt := rfl
@[simp] theorem compare_date_date : compare (date d) (date e) = compare d e := rfl

end Order

instance : Std.TransOrd Value where
  eq_swap {a b} := by
    cases a <;> cases b <;> simp <;> exact Std.OrientedOrd.eq_swap
  isLE_trans {a b c} := by
    cases a <;> cases b <;> cases c <;> simp <;> exact Std.TransOrd.isLE_trans

instance : Std.LawfulEqOrd Value where
  eq_of_compare {a b} := by
    cases a <;> cases b <;> simp

def int? : Value → Option Int64
  | .int n => some n
  | _ => none

/-- The text that a user would type for the value. -/
def display : Value → String
  | .int n => String.ofList (Text.decimalInt n.toInt)
  | .text s => s
  | .date d => String.ofList d.render

end Value

end TableShell
