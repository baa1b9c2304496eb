import Mathlib.Tactic.SplitIfs
import TableShell.Grammar

/-!
# Lower case is final

What stands in lower case has no other lower case, so lowercasing twice is lowercasing once. No
partner of a capital in the table has a partner itself.
-/

namespace TableShell

namespace Text

namespace LowerRun

/-- Whether no partner of a code point of the first run is a code point of the second one. Two runs
that meet must keep to odd and to even code points. -/
def spares (r r' : LowerRun) : Bool :=
  bif r.target.ble r'.last then
    bif r'.first.ble (r.target + (r.last - r.first)) then
      (r.first == r.last || r.step == 2) && r'.step == 2 && r.target % 2 != r'.first % 2
    else true
  else true

def Skips (r : LowerRun) (n : Nat) : Prop := r.target + (r.last - r.first) < n ∨ n < r.target

instance (r : LowerRun) (n : Nat) : Decidable (r.Skips n) := inferInstanceAs (Decidable (_ ∨ _))

variable {r r' : LowerRun} {n m m' : Nat}

theorem partner?_eq_some (h : r.partner? n = some m) :
    (r.first ≤ n ∧ n ≤ r.last ∧ (n - r.first) % r.step = 0) ∧ m = r.target + (n - r.first) := by
  unfold partner? at h
  split_ifs at h with hn
  exact ⟨hn, (Option.some.inj h).symm⟩

theorem Skips.ne (hs : r.Skips n) (h : r.partner? m = some m') : m' ≠ n := by
  obtain ⟨hm, rfl⟩ := partner?_eq_some h
  unfold Skips at hs
  omega

theorem partner?_eq_none_of_spares (hs : r.spares r') (h : r.partner? n = some m) :
    r'.partner? m = none := by
  obtain ⟨⟨hfirst, hlast, hstep⟩, rfl⟩ := partner?_eq_some h
  cases hm : r'.partner? (r.target + (n - r.first)) with
  | none => rfl
  | some m' =>
    obtain ⟨⟨hfirst', hlast', hstep'⟩, -⟩ := partner?_eq_some hm
    have hmeet : r.target ≤ r'.last ∧ r'.first ≤ r.target + (r.last - r.first) := by omega
    have hparity : ((r.first = r.last ∨ r.step = 2) ∧ r'.step = 2) ∧
        r.target % 2 ≠ r'.first % 2 := by
      simpa [spares, Nat.ble_eq_true_of_le hmeet.1, Nat.ble_eq_true_of_le hmeet.2] using hs
    obtain ⟨⟨hr, hr'⟩, hparity⟩ := hparity
    rw [hr'] at hstep'
    exfalso
    rcases hr with hr | hr
    · omega
    · rw [hr] at hstep
      omega

end LowerRun

theorem spares_lowerRuns : ∀ r ∈ lowerRuns, lowerRuns.all r.spares := by decide +kernel

theorem skips_lowerRuns : ∀ r ∈ lowerRuns, r.Skips 'Σ'.toNat ∧ r.Skips 'İ'.toNat := by
  decide +kernel

theorem target_lowerRuns : ∀ r ∈ lowerRuns, r.target + (r.last - r.first) < 0xD800 ∨
    0xE000 ≤ r.target ∧ r.target + (r.last - r.first) < 0x110000 := by
  decide +kernel

theorem lowerPartner?_eq_some {runs : List LowerRun} {n m : Nat}
    (h : lowerPartner? runs n = some m) : ∃ r ∈ runs, r.partner? n = some m := by
  induction runs with
  | nil => cases h
  | cons r runs ih =>
    unfold lowerPartner? at h
    split_ifs at h
    cases hr : r.partner? n with
    | some m' =>
      rw [hr] at h
      exact ⟨r, List.mem_cons_self .., hr.trans h⟩
    | none =>
      rw [hr] at h
      obtain ⟨r', hmem, hr'⟩ := ih h
      exact ⟨r', List.mem_cons_of_mem _ hmem, hr'⟩

theorem lowerPartner?_eq_none {runs : List LowerRun} {n : Nat}
    (h : ∀ r ∈ runs, r.partner? n = none) : lowerPartner? runs n = none := by
  cases hn : lowerPartner? runs n with
  | none => rfl
  | some m =>
    obtain ⟨r, hmem, hr⟩ := lowerPartner?_eq_some hn
    cases (h r hmem).symm.trans hr

structure IsLow (c : Char) : Prop where
  ne_sigma : c ≠ 'Σ'
  ne_dotted : c ≠ 'İ'
  partner_eq : lowerPartner? lowerRuns c.toNat = none

variable {c d : Char} {before after cs : List Char}

theorem isLow_lowerChar (hsigma : c ≠ 'Σ') (hdotted : c ≠ 'İ') : IsLow (lowerChar c) := by
  unfold lowerChar
  cases hn : lowerPartner? lowerRuns c.toNat with
  | none => exact ⟨hsigma, hdotted, hn⟩
  | some n =>
    obtain ⟨r, hmem, hr⟩ := lowerPartner?_eq_some hn
    have hvalid : n.isValidChar := by
      obtain ⟨hrange, rfl⟩ := LowerRun.partner?_eq_some hr
      have htarget := target_lowerRuns r hmem
      unfold Nat.isValidChar
      omega
    have htoNat : (Char.ofNat n).toNat = n := by
      rw [Char.ofNat, dif_pos hvalid]
      rfl
    obtain ⟨hskip, hskip'⟩ := skips_lowerRuns r hmem
    refine ⟨fun h => hskip.ne hr ?_, fun h => hskip'.ne hr ?_, ?_⟩
    · rw [← h, htoNat]
    · rw [← h, htoNat]
    · rw [htoNat]
      exact lowerPartner?_eq_none fun r' hmem' =>
        LowerRun.partner?_eq_none_of_spares
          (List.all_eq_true.mp (spares_lowerRuns r hmem) r' hmem') hr

theorem isLow_of_mem_lowerAt (h : d ∈ lowerAt before c after) : IsLow d := by
  unfold lowerAt at h
  split_ifs at h with hsigma hfinal hdotted
  · rw [List.mem_singleton.mp h]
    exact ⟨by decide, by decide, by decide +kernel⟩
  · rw [List.mem_singleton.mp h]
    exact ⟨by decide, by decide, by decide +kernel⟩
  · simp only [List.mem_cons, List.not_mem_nil, or_false] at h
    rcases h with rfl | rfl
    · exact ⟨by decide, by decide, by decide +kernel⟩
    · exact ⟨by decide, by decide, by decide +kernel⟩
  · rw [List.mem_singleton.mp h]
    exact isLow_lowerChar hsigma hdotted

theorem isLow_of_mem_lowerAfter (h : d ∈ lowerAfter before cs) : IsLow d := by
  induction cs generalizing before with
  | nil => cases h
  | cons c cs ih =>
    rcases List.mem_append.mp h with h | h
    · exact isLow_of_mem_lowerAt h
    · exact ih h

theorem IsLow.lowerAt_eq (h : IsLow c) : lowerAt before c after = [c] := by
  rw [lowerAt, if_neg h.ne_sigma, if_neg h.ne_dotted, lowerChar, h.partner_eq]

theorem lowerAfter_eq_self (h : ∀ c ∈ cs, IsLow c) : lowerAfter before cs = cs := by
  induction cs generalizing before with
  | nil => rfl
  | cons c cs ih =>
    rw [List.forall_mem_cons] at h
    rw [lowerAfter, h.1.lowerAt_eq, ih h.2]
    rfl

/-- A final sigma stays one, and the two characters of a dotted capital have no capitals. -/
theorem lowercase_lowercase (cs : List Char) : lowercase (lowercase cs) = lowercase cs :=
  lowerAfter_eq_self fun _ hc => isLow_of_mem_lowerAfter hc

end Text

theorem lowercaseWord_lowercaseWord (word : String) :
    lowercaseWord (lowercaseWord word) = lowercaseWord word := by
  unfold lowercaseWord
  rw [String.toList_ofList, Text.lowercase_lowercase]

end TableShell
