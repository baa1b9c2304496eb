import Mathlib.Data.List.TakeWhile
import TableShell.Text.CharClass

/-!
# Pieces of a text

A text that is split at a character falls into the parts between one such character and the next.
What is left of a part when it is trimmed had blanks on both sides of it.
-/

namespace TableShell

@[elab_as_elim]
theorem cut_induction {α : Type} [DecidableEq α] (d : α) {P : List α → Prop} (nil : P [])
    (last : ∀ as, d ∉ as → as ≠ [] → P as)
    (cut : ∀ as bs, d ∉ as → P bs → P (as ++ d :: bs)) (as : List α) : P as := by
  induction hn : as.length using Nat.strongRecOn generalizing as with
  | ind n ih =>
    by_cases hmem : d ∈ as
    · obtain ⟨pre, rest, rfl, hpre⟩ := List.eq_append_cons_of_mem hmem
      rw [List.length_append, List.length_cons] at hn
      exact cut pre rest hpre (ih rest.length (by omega) rest rfl)
    · by_cases hnil : as = []
      · rw [hnil]
        exact nil
      · exact last as hmem hnil

namespace Text

variable {cs wanted piece text : List Char} {d : Char}

/-- The text is a part of another one from an end or a `d` to the next `d` or end. -/
def IsPiece (d : Char) (piece text : List Char) : Prop :=
  d ∉ piece ∧ ∃ before after, text = before ++ piece ++ after ∧
    (before = [] ∨ ∃ before', before = before' ++ [d]) ∧ (after = [] ∨ ∃ after', after = d :: after')

theorem IsPiece.append_cons (h : IsPiece d piece text) (head : List Char) :
    IsPiece d piece (head ++ d :: text) := by
  obtain ⟨hpiece, before, after, rfl, hbefore, hafter⟩ := h
  refine ⟨hpiece, head ++ d :: before, after, by simp, Or.inr ?_, hafter⟩
  rcases hbefore with rfl | ⟨before', rfl⟩
  · exact ⟨head, rfl⟩
  · exact ⟨head ++ d :: before', by simp⟩

theorem isPiece_of_mem_splitOn (h : piece ∈ text.splitOn d) : IsPiece d piece text := by
  induction text using cut_induction d with
  | nil =>
    rw [List.splitOn_nil, List.mem_singleton] at h
    subst h
    exact ⟨List.not_mem_nil, [], [], rfl, Or.inl rfl, Or.inl rfl⟩
  | last text hmem =>
    rw [List.splitOn_eq_singleton hmem, List.mem_singleton] at h
    subst h
    exact ⟨hmem, [], [], by simp, Or.inl rfl, Or.inl rfl⟩
  | cut head rest hmem ih =>
    rw [List.splitOn_append_cons_self_of_not_mem hmem, List.mem_cons] at h
    rcases h with rfl | h
    · exact ⟨hmem, [], d :: rest, rfl, Or.inl rfl, Or.inr ⟨rest, rfl⟩⟩
    · exact (ih h).append_cons head

theorem mem_splitOn_iff : piece ∈ text.splitOn d ↔ IsPiece d piece text := by
  refine ⟨isPiece_of_mem_splitOn, ?_⟩
  rintro ⟨hpiece, before, after, rfl, hbefore, hafter⟩
  have hfirst : piece ∈ (piece ++ after).splitOn d := by
    rcases hafter with rfl | ⟨after', rfl⟩
    · rw [List.append_nil, List.splitOn_eq_singleton hpiece]
      exact List.mem_singleton_self piece
    · rw [List.splitOn_append_cons_self_of_not_mem hpiece]
      exact List.mem_cons_self ..
  rcases hbefore with rfl | ⟨before', rfl⟩
  · exact hfirst
  · rw [List.append_assoc, List.append_assoc, List.singleton_append,
      List.splitOn_append_cons_self]
    exact List.mem_append_right _ hfirst

def Padded (wanted cs : List Char) : Prop :=
  ∃ left right, cs = left ++ wanted ++ right ∧ (∀ c ∈ left, isBlank c) ∧ ∀ c ∈ right, isBlank c

theorem padded_trim (cs : List Char) : Padded (trim cs) cs := by
  set ds := cs.dropWhile isBlank with hds
  have hend : trim cs ++ (ds.reverse.takeWhile isBlank).reverse = ds := by
    rw [trim, trimEnd, ← hds, ← List.reverse_append, List.takeWhile_append_dropWhile,
      List.reverse_reverse]
  refine ⟨cs.takeWhile isBlank, (ds.reverse.takeWhile isBlank).reverse, ?_, ?_, ?_⟩
  · rw [List.append_assoc, hend, List.takeWhile_append_dropWhile]
  · exact fun c hc => List.mem_takeWhile_imp hc
  · exact fun c hc => List.mem_takeWhile_imp (List.mem_reverse.mp hc)

/-- A text that starts and ends with characters that are no blanks is what is left of the texts that
have it between blanks. -/
theorem trim_eq_iff (hne : wanted ≠ []) (hstart : wanted.dropWhile isBlank = wanted)
    (hend : wanted.reverse.dropWhile isBlank = wanted.reverse) :
    trim cs = wanted ↔ Padded wanted cs := by
  constructor
  · rintro rfl
    exact padded_trim cs
  · rintro ⟨left, right, rfl, hleft, hright⟩
    have hdrop : (left ++ wanted ++ right).dropWhile isBlank = wanted ++ right := by
      rw [List.append_assoc, List.dropWhile_append_of_pos hleft, List.dropWhile_append, hstart,
        if_neg (by simpa using hne)]
    have hreverse : ∀ c ∈ right.reverse, isBlank c := fun c hc => hright c (List.mem_reverse.mp hc)
    rw [trim, hdrop, trimEnd, List.reverse_append,
      List.dropWhile_append_of_pos hreverse, hend, List.reverse_reverse]

end Text

end TableShell
