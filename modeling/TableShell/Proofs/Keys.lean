import TableShell.Grammar

/-!
# Keys

Which words are keys. A key has word characters only, but for a sign in front, so it can stand in a
line without quotes.
-/

namespace TableShell

/-- An optional sign, a letter of ASCII or an underscore, and word characters to the very end. -/
def LegalKey (cs : List Char) : Prop :=
  ∃ sign first rest, cs = sign ++ first :: rest ∧ (sign = [] ∨ sign = ['$']) ∧
    (first.isAlpha ∨ first = '_') ∧ ∀ c ∈ rest, Text.isWordChar c

variable {cs : List Char} {c : Char}

theorem isKey_cons (hc : c ≠ '$') (cs : List Char) :
    isKey (c :: cs) = ((c.isAlpha || c == '_') && cs.all Text.isWordChar) := by
  unfold isKey
  split
  · next heq => exact absurd (List.cons.inj heq).1 hc
  · rfl

theorem isKey_iff : isKey cs ↔ LegalKey cs := by
  have hname (first : Char) (rest : List Char) :
      ((first.isAlpha || first == '_') && rest.all Text.isWordChar) = true ↔
        (first.isAlpha ∨ first = '_') ∧ ∀ c ∈ rest, Text.isWordChar c := by
    simp only [Bool.and_eq_true, Bool.or_eq_true, beq_iff_eq, List.all_eq_true]
  constructor
  · intro h
    cases cs with
    | nil => cases h
    | cons first rest =>
      by_cases hsign : first = '$'
      · rw [hsign] at h ⊢
        cases rest with
        | nil => cases h
        | cons first rest => exact ⟨['$'], first, rest, rfl, Or.inr rfl, (hname first rest).mp h⟩
      · rw [isKey_cons hsign] at h
        exact ⟨[], first, rest, rfl, Or.inl rfl, (hname first rest).mp h⟩
  · rintro ⟨sign, first, rest, rfl, rfl | rfl, h⟩
    · have hsign : first ≠ '$' := by
        rintro rfl
        exact absurd h.1 (by decide)
      rw [List.nil_append, isKey_cons hsign]
      exact (hname first rest).mpr h
    · exact (hname first rest).mpr h

theorem isWordChar_of_isAlpha (hc : c.isAlpha) : Text.isWordChar c := by
  have hranges : 65 ≤ c.toNat ∧ c.toNat ≤ 90 ∨ 97 ≤ c.toNat ∧ c.toNat ≤ 122 := by
    rcases Bool.or_eq_true_iff.mp hc with hupper | hlower
    · obtain ⟨hlow, hhigh⟩ := of_decide_eq_true hupper
      exact Or.inl ⟨hlow, hhigh⟩
    · obtain ⟨hlow, hhigh⟩ := Bool.and_eq_true_iff.mp hlower
      exact Or.inr ⟨of_decide_eq_true hlow, of_decide_eq_true hhigh⟩
  have hascii := Text.inRanges_wordRanges_ascii c.toNat (by omega)
  rw [Text.isWordChar, hascii]
  rcases hranges with ⟨hlow, hhigh⟩ | ⟨hlow, hhigh⟩ <;> simp [hlow, hhigh]

theorem isWordChar_of_mem_key (h : isKey cs) (hc : c ∈ cs) : c = '$' ∨ Text.isWordChar c := by
  obtain ⟨sign, first, rest, rfl, hsign, hfirst, hrest⟩ := isKey_iff.mp h
  rcases List.mem_append.mp hc with hc | hc
  · rcases hsign with rfl | rfl
    · cases hc
    · exact Or.inl (List.mem_singleton.mp hc)
  · rcases List.mem_cons.mp hc with rfl | hc
    · rcases hfirst with hletter | rfl
      · exact Or.inr (isWordChar_of_isAlpha hletter)
      · exact Or.inr (by decide)
    · exact Or.inr (hrest c hc)

theorem isKey_of_isAlpha (hne : cs ≠ []) (h : cs.all Char.isAlpha) : isKey cs := by
  cases cs with
  | nil => exact absurd rfl hne
  | cons first rest =>
    rw [List.all_eq_true, List.forall_mem_cons] at h
    exact isKey_iff.mpr ⟨[], first, rest, rfl, Or.inl rfl, Or.inl h.1,
      fun c hc => isWordChar_of_isAlpha (h.2 c hc)⟩

theorem notMem_of_isKey (h : isKey cs) (hsign : c ≠ '$') (hword : Text.isWordChar c = false) :
    c ∉ cs := by
  intro hc
  rcases isWordChar_of_mem_key h hc with hc | hc
  · exact hsign hc
  · rw [hword] at hc
    cases hc

theorem isWordChar_space : Text.isWordChar ' ' = false :=
  Text.inRanges_wordRanges_ascii 32 (by decide)

theorem isWordChar_quote : Text.isWordChar '"' = false :=
  Text.inRanges_wordRanges_ascii 34 (by decide)

end TableShell
