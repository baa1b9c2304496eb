import Mathlib.Data.Nat.Basic
import Mathlib.Tactic.SplitIfs
import TableShell.Shell

/-!
# Newlines among bytes

No character of several bytes, whole or broken, has a newline byte in it, and no such character is
a newline. So a newline byte stands for itself whatever is around it, and what is on either side of
it is decoded on its own.
-/

namespace TableShell.Text

open Script (newline)

variable {b : UInt8} {bs rest : List UInt8} {n value taken m : Nat}

/-- Whatever lead byte comes first, a newline is no second byte and the value is past the control
characters of the first row. -/
theorem lead?_bounds {l : Lead} (h : lead? n = some l) :
    0x80 ≤ l.low ∧ 0x10 ≤ l.payload * 64 + (l.low - 0x80) := by
  unfold lead? at h
  split_ifs at h
  all_goals
    obtain rfl := Option.some.inj h
    dsimp only
    omega

theorem continuation_append_newline :
    continuation n value taken (bs ++ newline :: rest) = continuation n value taken bs := by
  induction n generalizing value taken bs with
  | zero => rfl
  | succ n ih =>
    cases bs with
    | nil => rfl
    | cons c bs => rw [List.cons_append, continuation, continuation, ih]

theorem le_of_continuation (h : (continuation n value taken bs).1 = some m) : value ≤ m := by
  induction n generalizing value taken bs with
  | zero =>
    cases h
    exact le_rfl
  | succ n ih =>
    cases bs with
    | nil => cases h
    | cons c bs =>
      rw [continuation] at h
      split_ifs at h
      have hle := ih h
      omega

theorem continuation_snd_le : (continuation n value taken bs).2 ≤ taken + bs.length := by
  induction n generalizing value taken bs with
  | zero => exact Nat.le_add_right _ _
  | succ n ih =>
    cases bs with
    | nil => exact le_rfl
    | cons c bs =>
      rw [continuation]
      split_ifs
      · exact le_trans ih (by rw [List.length_cons]; omega)
      · exact Nat.le_add_right _ _

theorem piece_snd_le : (piece b bs).2 ≤ bs.length := by
  unfold piece
  split_ifs
  · exact Nat.zero_le _
  · split
    · split_ifs
      · exact le_trans continuation_snd_le (by rw [List.length_cons, Nat.add_comm])
      · exact Nat.zero_le _
    · exact Nat.zero_le _

theorem piece_append_newline : piece b (bs ++ newline :: rest) = piece b bs := by
  unfold piece
  split_ifs
  · rfl
  · cases hl : lead? b.toNat with
    | none => rfl
    | some l =>
      cases bs with
      | nil =>
        -- The newline would be the second byte, and it is below every lower bound.
        have hlow := (lead?_bounds hl).1
        have hnewline : ¬ (l.low ≤ newline.toNat ∧ newline.toNat ≤ l.high) := by
          change ¬ (l.low ≤ 10 ∧ 10 ≤ l.high)
          omega
        exact if_neg hnewline
      | cons c bs =>
        dsimp only [List.cons_append]
        rw [continuation_append_newline]

theorem piece_newline : piece newline rest = (some '\n', 0) := rfl

theorem ofNat_ne_newline {n : Nat} (h : n ≠ 10) : Char.ofNat n ≠ '\n' := by
  intro heq
  by_cases hvalid : n.isValidChar
  · rw [Char.ofNat, dif_pos hvalid] at heq
    exact h (congrArg Char.toNat heq)
  · rw [Char.ofNat, dif_neg hvalid] at heq
    exact absurd heq (by decide)

theorem piece_fst_ne_newline (hb : b ≠ newline) : (piece b bs).1 ≠ some '\n' := by
  unfold piece
  split_ifs with hascii
  · intro h
    refine ofNat_ne_newline (fun hn => hb ?_) (Option.some.inj h)
    exact UInt8.toNat_inj.mp hn
  · split
    · next l c rest hl =>
      split_ifs with hc
      · intro h
        obtain ⟨m, hm, hchar⟩ := Option.map_eq_some_iff.mp h
        have hbound := (lead?_bounds hl).2
        have hle := le_of_continuation hm
        exact ofNat_ne_newline (by omega) hchar
      · exact nofun
    · exact nofun

theorem pieces_append_newline (bs rest : List UInt8) :
    pieces (bs ++ newline :: rest) = pieces bs ++ some '\n' :: pieces rest := by
  fun_induction pieces bs with
  | case1 => rw [List.nil_append, pieces, piece_newline, List.drop_zero, List.nil_append]
  | case2 b bs ih =>
    rw [List.cons_append, pieces, piece_append_newline,
      List.drop_append_of_le_length piece_snd_le, ih]
    rfl

theorem newline_notMem_pieces (h : newline ∉ bs) : some '\n' ∉ pieces bs := by
  fun_induction pieces bs with
  | case1 => exact List.not_mem_nil
  | case2 b bs ih =>
    obtain ⟨hb, hbs⟩ := List.ne_and_not_mem_of_not_mem_cons h
    refine List.not_mem_cons_of_ne_of_not_mem (piece_fst_ne_newline hb.symm).symm (ih ?_)
    exact fun hmem => hbs (List.mem_of_mem_drop hmem)

/-- Decoding up to a newline byte and decoding from there on are two things apart. -/
theorem decodeLossy_append_newline (bs rest : List UInt8) :
    decodeLossy (bs ++ newline :: rest) = decodeLossy bs ++ '\n' :: decodeLossy rest := by
  rw [decodeLossy, pieces_append_newline, List.map_append]
  rfl

theorem newline_notMem_decodeLossy (h : newline ∉ bs) : '\n' ∉ decodeLossy bs := by
  intro hmem
  obtain ⟨c, hc, hchar⟩ := List.mem_map.mp hmem
  cases c with
  | none => exact absurd hchar (by decide)
  | some c =>
    cases hchar
    exact newline_notMem_pieces h hc

@[simp] theorem decodeLossy_nil : decodeLossy [] = [] := by rw [decodeLossy, pieces, List.map_nil]

theorem decodeLossy_ne_nil (h : bs ≠ []) : decodeLossy bs ≠ [] := by
  cases bs with
  | nil => exact absurd rfl h
  | cons b bs =>
    rw [decodeLossy, pieces, List.map_cons]
    exact List.cons_ne_nil _ _

end TableShell.Text
