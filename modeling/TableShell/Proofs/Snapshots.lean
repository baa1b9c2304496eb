import Mathlib.Logic.Function.Iterate
import TableShell.Proofs.Ledger

/-!
# Cursors over a store that changes

A cursor has its keys from the time when it was taken, and it reads the rows as they are now.
Calls on other keys do not change what is read under a key, so a row that has been created again is
found at the place that its key has in the snapshot.
-/

namespace TableShell

def Call.target? : Call → Option Value
  | .create key _ | .update key _ | .delete key => some key
  | .read _ | .cursor => none

namespace Ledger

variable {L : Ledger} {key : Value} {fields row : Row}

theorem fields?_call_of_ne {c : Call} (hc : c.target? ≠ some key) :
    (L.call c).2.fields? key = L.fields? key := by
  apply Option.ext
  intro fields
  rw [fields?_eq_some_iff, fields?_eq_some_iff]
  cases c with
  | read _ => rfl
  | cursor => rfl
  | create key' new =>
    have hne : key ≠ key' := fun h => hc (congrArg some h.symm)
    simp only [call, create, Prod.map_snd, id]
    split_ifs with hk
    · rfl
    · simp [hne]
  | update key' new =>
    have hne : key ≠ key' := fun h => hc (congrArg some h.symm)
    simp only [call, update, Prod.map_snd, id]
    split
    · rfl
    · simp only [List.mem_map, Prod.mk.injEq]
      constructor
      · rintro ⟨e, he, rfl, rfl⟩
        rwa [if_neg hne]
      · intro he
        exact ⟨_, he, rfl, if_neg hne⟩
  | delete key' =>
    have hne : key ≠ key' := fun h => hc (congrArg some h.symm)
    simp only [call, delete, Prod.map_snd, id]
    split
    · rfl
    · simp [hne]

theorem read_call_of_ne {c : Call} (hc : c.target? ≠ some key) :
    (L.call c).2.read key = L.read key := by
  have hname : (L.call c).2.keyName = L.keyName := L.keyName_call c rfl
  unfold read row
  rw [fields?_call_of_ne hc, hname]

theorem read_run_of_ne {calls : List Call} (hcalls : ∀ c ∈ calls, c.target? ≠ some key) :
    (run call L calls).2.read key = L.read key := by
  induction calls generalizing L with
  | nil => rfl
  | cons c calls ih =>
    rw [List.forall_mem_cons] at hcalls
    rw [run_cons, ih hcalls.2, read_call_of_ne hcalls.1]

theorem read_of_mem (h : (key, fields) ∈ L.entries) : L.read key = .ok (L.row (key, fields)) := by
  unfold read
  rw [L.fields?_eq_some_iff.mpr h]

theorem read_create (h : (L.create key fields).1 = .ok row) :
    (L.create key fields).2.read key = .ok row := by
  unfold create at *
  split_ifs at * with hk
  rw [← h]
  exact read_of_mem (List.mem_append_right _ (List.mem_singleton_self _))

end Ledger

namespace Store

variable {s : Store} {p : String} {key : Value} {fields row : Row}

namespace Refines

variable {L : Ledger} (h : s.Refines L)
include h

theorem run (calls : List Call) :
    (TableShell.run Store.call s calls).2.Refines (TableShell.run Ledger.call L calls).2 := by
  have hrun := run_simulation id (R := Refines) (fun _ _ c h => h.call c) h calls
  rw [List.map_id] at hrun
  exact hrun.2

theorem read_run_of_ne {calls : List Call} (hcalls : ∀ c ∈ calls, c.target? ≠ some key) :
    (TableShell.run Store.call s calls).2.read key = s.read key := by
  rw [(h.run calls).read, h.read, Ledger.read_run_of_ne hcalls]

theorem read_create (hrow : (s.create key fields).1 = .ok row) :
    (s.create key fields).2.read key = .ok row := by
  obtain ⟨ha, hs⟩ := h.create key fields
  rw [hs.read, Ledger.read_create (ha.symm.trans hrow)]

end Refines

theorem iterate_advance (c : Cursor) (n : Nat) :
    Cursor.advance^[n] c = ⟨c.keys, c.position + n⟩ := by
  induction n with
  | zero => rfl
  | succ n ih =>
    rw [Function.iterate_succ_apply', ih]
    rfl

/-- What a cursor gives of a store: the rows that are there now under its keys, in the order of the
keys, up to the first key that is not there. -/
structure Gives (s : Store) (p : String) (c : Cursor) : Prop where
  scan_ok : (∀ key ∈ c.remaining, key ∈ s.cursor.keys) →
    ∃ rows, s.scan c = .ok rows ∧
      List.Forall₂ (fun key row => s.read key = .ok row) c.remaining rows
  scan_error : ∀ key, c.remaining.find? (· ∉ s.cursor.keys) = some key →
    s.scan c = .error (.entryNotFound p key.display)
  next_ok : ∀ key, c.keys[c.position]? = some key → key ∈ s.cursor.keys →
    ∃ row, s.read key = .ok row ∧ s.next c = .ok (⟨c.keys, c.position + 1⟩, row)
  next_error : ∀ key, c.keys[c.position]? = some key → key ∉ s.cursor.keys →
    s.next c = .error (.entryNotFound p key.display)
  ended : c.keys.size ≤ c.position →
    s.scan c = .ok [] ∧ s.next c = .error (.internal .cursorExhausted)

namespace Holds

variable {slots : List Slot} (h : s.Holds p slots)
include h

theorem mem_cursor_iff : key ∈ s.cursor.keys ↔ key ∈ slots.map Slot.key := by
  rw [h.cursor_eq, List.mem_toArray]

theorem exists_read (hk : key ∈ s.cursor.keys) : ∃ row, s.read key = .ok row := by
  obtain ⟨slot, hs, rfl⟩ := List.mem_map.mp (h.mem_cursor_iff.mp hk)
  exact ⟨_, h.read_ok hs⟩

theorem read_of_notMem (hk : key ∉ s.cursor.keys) :
    s.read key = .error (.entryNotFound p key.display) :=
  h.read_error (mt h.mem_cursor_iff.mpr hk)

theorem key_of_read (hread : s.read key = .ok row) : row[p]? = some key := by
  by_cases hk : key ∈ slots.map Slot.key
  · obtain ⟨slot, hs, rfl⟩ := List.mem_map.mp hk
    rw [h.read_ok hs] at hread
    cases hread
    exact slot.getElem?_row p
  · rw [h.read_error hk] at hread
    cases hread

theorem map_key_of_scan {c : Cursor} {rows : List Row} (hscan : s.scan c = .ok rows) :
    rows.map (·[p]?) = c.remaining.map some := by
  rw [scan_eq_mapM, mapM_eq_ok_iff] at hscan
  rw [← List.forall₂_eq_eq_eq, List.forall₂_map_left_iff, List.forall₂_map_right_iff]
  exact (hscan.imp fun _ _ hread => h.key_of_read hread).flip

theorem gives (c : Cursor) : s.Gives p c where
  scan_ok hall := by
    simp only [scan_eq_mapM, ← mapM_eq_ok_iff, and_self]
    exact exists_mapM_eq_ok_iff.mpr fun key hk => h.exists_read (hall key hk)
  scan_error key hfind := by
    obtain ⟨hk, ks, ks', hkeys, hks⟩ := List.find?_eq_some_iff_append.mp hfind
    rw [scan_eq_mapM, hkeys]
    refine mapM_eq_error_iff.mpr ⟨ks, key, ks', rfl, fun k hmem => ?_, ?_⟩
    · exact h.exists_read (by simpa using hks k hmem)
    · exact h.read_of_notMem (by simpa using hk)
  next_ok key hcurrent hk := by
    obtain ⟨row, hrow⟩ := h.exists_read hk
    refine ⟨row, hrow, ?_⟩
    rw [next, Cursor.current?, hcurrent]
    dsimp only
    rw [hrow]
    rfl
  next_error key hcurrent hk := by
    rw [next, Cursor.current?, hcurrent]
    dsimp only
    rw [h.read_of_notMem hk]
    rfl
  ended hc := by
    have hkeys : c.keys.toList.length ≤ c.position := by rwa [Array.length_toList]
    rw [scan_eq_mapM, Cursor.remaining, List.drop_eq_nil_of_le hkeys, next, Cursor.current?,
      Array.getElem?_eq_none hc]
    exact ⟨rfl, rfl⟩

end Holds

theorem getElem?_of_scan {c : Cursor} {rows : List Row} (hscan : s.scan c = .ok rows) {i : Nat}
    (hi : c.remaining[i]? = some key) (hread : s.read key = .ok row) : rows[i]? = some row := by
  rw [scan_eq_mapM, mapM_eq_ok_iff, List.forall₂_iff_get] at hscan
  obtain ⟨hlength, hget⟩ := hscan
  obtain ⟨hlt, rfl⟩ := List.getElem?_eq_some_iff.mp hi
  have hrow := hget i hlt (hlength ▸ hlt)
  cases hrow.symm.trans hread
  exact List.getElem?_eq_getElem _

/-- A cursor that was taken at some time, and any other cursor, reads a store after any further
calls as it is then. The rows that a snapshot gives have its keys in its order, whatever has been
created since. A row that was created again after the snapshot, and not touched from then on, is
given at the place that its key has in the snapshot. -/
theorem run_snapshot (p : String) (before after : List Call) (n : Nat) :
    let s₀ := (run call (empty p) before).2
    let s := (run call s₀ after).2
    let snapshot := Cursor.advance^[n] s₀.cursor
    let keys := s₀.cursor.keys.toList.drop n
    (∀ c, s.Gives p c) ∧
      snapshot.remaining = keys ∧
      (∀ key, key ∈ s.cursor.keys ↔ ∃ row, s.read key = .ok row) ∧
      ∀ rows, s.scan snapshot = .ok rows →
        rows.map (·[p]?) = keys.map some ∧
          (∀ row ∈ rows, ∀ key, row[p]? = some key → key ∈ s₀.cursor.keys) ∧
          ∀ between key fields row rest, after = between ++ .create key fields :: rest →
            ((run call s₀ between).2.create key fields).1 = .ok row →
            (∀ c ∈ rest, c.target? ≠ some key) →
            ∀ i : Nat, keys[i]? = some key → rows[i]? = some row := by
  intro s₀ s snapshot keys
  let L₀ := (run Ledger.call (.empty p) before).2
  let L := (run Ledger.call L₀ after).2
  have hname : L.keyName = p :=
    run_invariant Ledger.keyName_call (run_invariant Ledger.keyName_call rfl before) after
  have hs₀ : s₀.Refines L₀ := (refines_empty p).run before
  have h : s.Holds p L.slots := hname ▸ hs₀.run after
  have hkeys : snapshot.remaining = keys := by
    simp only [snapshot, keys, iterate_advance, Cursor.remaining]
    exact congrArg (List.drop · _) (Nat.zero_add n)
  refine ⟨h.gives, hkeys, fun key => ⟨h.exists_read, ?_⟩, fun rows hscan => ⟨?_, ?_, ?_⟩⟩
  · rintro ⟨row, hread⟩
    by_contra hk
    cases (h.read_of_notMem hk).symm.trans hread
  · rw [← hkeys]
    exact h.map_key_of_scan hscan
  · intro row hrow key hkey
    have hmem : some key ∈ keys.map some := by
      rw [← hkeys, ← h.map_key_of_scan hscan, ← hkey]
      exact List.mem_map_of_mem hrow
    obtain ⟨key', hkey', he⟩ := List.mem_map.mp hmem
    cases he
    exact Array.mem_toList_iff.mp (List.mem_of_mem_drop hkey')
  · intro between key fields row rest hafter hcreate hrest i hi
    have hbetween := hs₀.run between
    have hcreated := (hbetween.create key fields).2
    have hread : s.read key = .ok row := by
      simp only [s, hafter, run_append, run_cons]
      exact (hcreated.read_run_of_ne hrest).trans (hbetween.read_create hcreate)
    exact getElem?_of_scan hscan (hkeys ▸ hi) hread

/-- The first of two rows was deleted and created again after a third one that is gone by now. -/
theorem run_snapshot_recreated :
    let before : List Call := [.create (.int 1) ∅, .create (.int 2) ∅]
    let fields : Row := Std.ExtTreeMap.ofList [("name", Value.text "Ada")]
    let between : List Call := [.delete (.int 1), .create (.int 3) ∅]
    let rest : List Call := [.update (.int 2) fields, .delete (.int 3)]
    let s₀ := (run call (empty "id") before).2
    let s := (run call s₀ (between ++ .create (.int 1) fields :: rest)).2
    ∃ rows, s.scan s₀.cursor = .ok rows ∧
      rows.map (·["id"]?) = [some (.int 1), some (.int 2)] ∧
      rows[0]? = some (fields.insert "id" (.int 1)) := by
  intro before fields between rest s₀ s
  obtain ⟨hgives, -, -, hrows⟩ :=
    run_snapshot "id" before (between ++ .create (.int 1) fields :: rest) 0
  have hstored : ∀ key ∈ s₀.cursor.remaining, key ∈ s.cursor.keys := by decide +kernel
  have hcreate : ((run call s₀ between).2.create (.int 1) fields).1 =
      .ok (fields.insert "id" (.int 1)) := by decide +kernel
  have hrest : ∀ c ∈ rest, c.target? ≠ some (.int 1) := by decide
  have hkey : (s₀.cursor.keys.toList.drop 0)[0]? = some (.int 1) := by decide +kernel
  obtain ⟨rows, hscan, -⟩ := (hgives s₀.cursor).scan_ok hstored
  obtain ⟨hkeys, -, hnew⟩ := hrows rows hscan
  have hlist : (s₀.cursor.keys.toList.drop 0).map some = [some (.int 1), some (.int 2)] := by
    decide +kernel
  exact ⟨rows, hscan, hkeys.trans hlist,
    hnew between (.int 1) fields _ rest rfl hcreate hrest 0 hkey⟩

end Store

end TableShell
