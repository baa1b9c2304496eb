import TableShell.Proofs.Writing

/-!
# Words typed as a line

A word without quotes can be typed between quotes, and a word without spaces that does not open with
a quote can be typed as it is. No other word comes out of a line, and any words of these two kinds
do, one after the other.
-/

namespace TableShell.Words

/-- The word can be typed, with quotes around it or as it is. -/
def Typable (word : String) : Prop :=
  '"' ∉ word.toList ∨ ' ' ∉ word.toList ∧ word.toList.head? ≠ some '"'

instance (word : String) : Decidable (Typable word) := inferInstanceAs (Decidable (_ ∨ _))

def typed (word : String) : String := if '"' ∈ word.toList then word else quote word

def typedLine (words : List String) : String := " ".intercalate (words.map typed)

variable {word : String} {words : List String} {cs w : List Char}

theorem typable_of_isKey (h : isKey word.toList) : Typable word :=
  Or.inl (notMem_of_isKey h (by decide) isWordChar_quote)

theorem read_typed (h : Typable word) (hcs : ∀ d ∈ cs.head?, d = ' ') :
    read ((typed word).toList ++ cs) = word.toList :: read cs := by
  unfold typed
  split_ifs with hquote
  · obtain ⟨hspace, hhead⟩ := h.resolve_left (not_not.mpr hquote)
    cases hchars : word.toList with
    | nil =>
      rw [hchars] at hquote
      cases hquote
    | cons c w =>
      rw [hchars] at hspace hhead
      exact read_raw (fun hc => hhead (congrArg some hc)) hspace hcs
  · exact read_quote hquote cs

theorem read_typedLine (h : ∀ word ∈ words, Typable word) :
    read (typedLine words).toList = words.map String.toList := by
  induction words with
  | nil => exact read_nil
  | cons word words ih =>
    rw [List.forall_mem_cons] at h
    cases words with
    | nil =>
      have hread : read ((typed word).toList ++ []) = word.toList :: read [] :=
        read_typed h.1 (by simp)
      rwa [List.append_nil, read_nil] at hread
    | cons word' words =>
      have hchars : (typedLine (word :: word' :: words)).toList =
          (typed word).toList ++ ' ' :: (typedLine (word' :: words)).toList := by
        simp [typedLine, String.toList_intercalate]
      rw [hchars, read_typed h.1 (by simp), read_space, ih h.2]
      rfl

theorem split_typedLine (h : ∀ word ∈ words, Typable word) : split (typedLine words) = words := by
  rw [split_eq_read, read_typedLine h, List.map_map]
  simp [Function.comp_def]

theorem notMem_takeWhile (d : Char) (cs : List Char) : d ∉ cs.takeWhile (· ≠ d) := fun hd =>
  of_decide_eq_true (List.all_eq_true.mp List.all_takeWhile d hd) rfl

theorem typable_of_mem_read (h : w ∈ read cs) : '"' ∉ w ∨ ' ' ∉ w ∧ w.head? ≠ some '"' := by
  fun_induction read cs with
  | case1 => cases h
  | case2 _ ih => exact ih h
  | case3 _ _ hmem ih =>
    rcases List.mem_cons.mp h with rfl | h
    · exact Or.inl (notMem_takeWhile '"' _)
    · exact ih h
  | case4 => cases h
  | case5 c cs hc hc' ih =>
    rcases List.mem_cons.mp h with rfl | h
    · have hspace : ' ' ∉ c :: cs.takeWhile (· ≠ ' ') :=
        List.not_mem_cons_of_ne_of_not_mem (Ne.symm hc) (notMem_takeWhile ' ' cs)
      exact Or.inr ⟨hspace, fun hhead => hc' (Option.some.inj hhead)⟩
    · exact ih h

theorem typable_of_mem_split {line : String} (h : word ∈ split line) : Typable word := by
  rw [split_eq_read, List.mem_map] at h
  obtain ⟨w, hw, rfl⟩ := h
  unfold Typable
  rw [String.toList_ofList]
  exact typable_of_mem_read hw

/-- Words come out of some line exactly if each of them can be typed, and then they come out of the
line on which each is typed between quotes if it can be. So the words of every line can be typed
again. -/
theorem exists_split_eq_iff (words : List String) :
    ((∃ line, split line = words) ↔ ∀ word ∈ words, Typable word) ∧
      (split (typedLine words) = words ↔ ∀ word ∈ words, Typable word) ∧
      ∀ line, split (typedLine (split line)) = split line := by
  have hwords (line : String) (hl : split line = words) : ∀ word ∈ words, Typable word := by
    rw [← hl]
    exact fun word hword => typable_of_mem_split hword
  refine ⟨⟨?_, ?_⟩, ⟨hwords (typedLine words), split_typedLine⟩, fun line => ?_⟩
  · rintro ⟨line, hl⟩
    exact hwords line hl
  · intro h
    exact ⟨typedLine words, split_typedLine h⟩
  · exact split_typedLine fun word hword => typable_of_mem_split hword

example : split (typedLine ["set\"", "", "a b", "c\"d"]) = ["set\"", "", "a b", "c\"d"] := by
  decide

end TableShell.Words
