import Std.Data.ExtTreeMap
import TableShell.Error
import TableShell.Value

/-!
# Entries and rows

An entry maps field names to the texts that a user typed for them; a row maps them to typed values.
Both are finite maps in the code-point order of the names, so two of them are equal exactly when
they agree on every name.
-/

namespace TableShell

abbrev Entry := Std.ExtTreeMap String String

abbrev Row := Std.ExtTreeMap String Value

def firstRepeated? [BEq α] : (seen : List α) → List α → Option α
  | _, [] => none
  | seen, a :: as => if seen.contains a then some a else firstRepeated? (a :: seen) as

theorem firstRepeated?_eq_none_iff [BEq α] [LawfulBEq α] (seen as : List α) :
    firstRepeated? seen as = none ↔ as.Nodup ∧ ∀ a ∈ as, a ∉ seen := by
  induction as generalizing seen with
  | nil => simp [firstRepeated?]
  | cons a as ih =>
    by_cases h : a ∈ seen
    · simp [firstRepeated?, h]
    · simp only [firstRepeated?, List.contains_iff_mem, h, if_false, ih, List.nodup_cons,
        List.mem_cons, forall_eq_or_imp, not_or, not_false_eq_true, true_and]
      grind

theorem firstRepeated?_nil_eq_none_iff [BEq α] [LawfulBEq α] (as : List α) :
    firstRepeated? [] as = none ↔ as.Nodup := by
  simp [firstRepeated?_eq_none_iff]

/-- The entry that the pairs give; a key that comes twice is a conflict. -/
def Entry.ofPairs (pairs : List (String × String)) : Except Error Entry :=
  match firstRepeated? [] (pairs.map Prod.fst) with
  | some key => .error (.argumentConflict key)
  | none => .ok (Std.ExtTreeMap.ofList pairs)

end TableShell
