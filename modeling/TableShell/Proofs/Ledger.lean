import TableShell.Proofs.Contents
import TableShell.Proofs.Run

/-!
# The store as an insertion-ordered map

A ledger is a list of keys with their fields, in the order in which they were created and without a
repeated key. It has no slots, no bitmap and no index, and it never reclaims anything. The store
answers every run of calls as the ledger does, whatever happens to its dead slots and when.
-/

namespace TableShell

structure Ledger where
  keyName : String
  entries : List (Value × Row)
  nodup_keys : (entries.map Prod.fst).Nodup

namespace Ledger

def empty (keyName : String) : Ledger := ⟨keyName, [], List.nodup_nil⟩

variable (L : Ledger)

def keys : List Value := L.entries.map Prod.fst

/-- The fields of an entry without the one of the key's name, and the key under that name. -/
def row (e : Value × Row) : Row := (e.2.erase L.keyName).insert L.keyName e.1

def rows : List Row := L.entries.map L.row

def fields? (key : Value) : Option Row := L.entries.lookup key

def create (key : Value) (fields : Row) : Except Error Row × Ledger :=
  if h : key ∈ L.keys then (.error (.duplicateEntry L.keyName key.display), L)
  else
    (.ok (L.row (key, fields)),
      { L with
        entries := L.entries ++ [(key, fields)]
        nodup_keys := by
          rw [List.map_append]
          exact L.nodup_keys.append (List.nodup_singleton key)
            (List.disjoint_singleton.mpr h) })

def read (key : Value) : Except Error Row :=
  match L.fields? key with
  | none => .error (.entryNotFound L.keyName key.display)
  | some fields => .ok (L.row (key, fields))

def update (key : Value) (fields : Row) : Except Error Row × Ledger :=
  match L.fields? key with
  | none => (.error (.entryNotFound L.keyName key.display), L)
  | some old =>
    (.ok (L.row (key, old ∪ fields)),
      { L with
        entries := L.entries.map fun e => (e.1, if e.1 = key then e.2 ∪ fields else e.2)
        nodup_keys := by
          rw [List.map_map]
          exact L.nodup_keys })

def delete (key : Value) : Except Error Row × Ledger :=
  match L.fields? key with
  | none => (.error (.entryNotFound L.keyName key.display), L)
  | some fields =>
    (.ok (L.row (key, fields)),
      { L with
        entries := L.entries.filter (·.1 ≠ key)
        nodup_keys := L.nodup_keys.sublist (List.filter_sublist.map Prod.fst) })

/-- The slots of a store that keeps the same rows. -/
def slots : List Slot := L.entries.map fun e => ⟨e.1, e.2.erase L.keyName⟩

theorem map_key_slots : L.slots.map Slot.key = L.keys := by
  rw [slots, List.map_map]
  rfl

theorem map_row_slots : L.slots.map (Slot.row L.keyName) = L.rows := by
  rw [slots, List.map_map]
  rfl

theorem fields?_eq_some_iff {key : Value} {fields : Row} :
    L.fields? key = some fields ↔ (key, fields) ∈ L.entries := by
  have hmem {fields : Row} (h : L.fields? key = some fields) : (key, fields) ∈ L.entries := by
    obtain ⟨l₁, l₂, he, -⟩ := List.lookup_eq_some_iff.mp h
    rw [he]
    exact List.mem_append_right _ (List.mem_cons_self ..)
  refine ⟨hmem, fun h => ?_⟩
  cases hf : L.fields? key with
  | none =>
    have hne := List.lookup_eq_none_iff.mp hf _ h
    simp at hne
  | some fields' =>
    have he : (key, fields') = (key, fields) :=
      List.inj_on_of_nodup_map L.nodup_keys (hmem hf) h rfl
    rw [(Prod.mk.inj he).2]

theorem mem_slots_of_fields? {key : Value} {fields : Row} (h : L.fields? key = some fields) :
    ⟨key, fields.erase L.keyName⟩ ∈ L.slots :=
  List.mem_map.mpr ⟨(key, fields), L.fields?_eq_some_iff.mp h, rfl⟩

theorem notMem_slots_of_fields? {key : Value} (h : L.fields? key = none) :
    key ∉ L.slots.map Slot.key := by
  intro hk
  rw [map_key_slots] at hk
  obtain ⟨e, he, rfl⟩ := List.mem_map.mp hk
  have hne := List.lookup_eq_none_iff.mp h e he
  simp at hne

end Ledger

inductive Call where
  | create (key : Value) (fields : Row)
  | read (key : Value)
  | update (key : Value) (fields : Row)
  | delete (key : Value)
  | cursor

inductive Answer where
  | row (result : Except Error Row)
  | cursor (c : Cursor)

def Ledger.call (L : Ledger) : Call → Answer × Ledger
  | .create key fields => (L.create key fields).map .row id
  | .read key => (.row (L.read key), L)
  | .update key fields => (L.update key fields).map .row id
  | .delete key => (L.delete key).map .row id
  | .cursor => (.cursor ⟨L.keys.toArray, 0⟩, L)

theorem Ledger.keyName_call {p : String} (L : Ledger) (c : Call) (h : L.keyName = p) :
    (L.call c).2.keyName = p := by
  cases c with
  | create key fields =>
    simp only [call, create, Prod.map_snd, id]
    split_ifs <;> exact h
  | update key fields =>
    simp only [call, update, Prod.map_snd, id]
    split <;> exact h
  | delete key =>
    simp only [call, delete, Prod.map_snd, id]
    split <;> exact h
  | read key => exact h
  | cursor => exact h

namespace Store

def call (s : Store) : Call → Answer × Store
  | .create key fields => (s.create key fields).map .row id
  | .read key => (.row (s.read key), s)
  | .update key fields => (s.update key fields).map .row id
  | .delete key => (s.delete key).map .row id
  | .cursor => (.cursor s.cursor, s)

/-- The call as it would go if deleting a row never dropped dead slots. -/
def callKeeping (s : Store) : Call → Answer × Store
  | .delete key =>
    match s.find? key with
    | none => (.row (.error (s.notFound key)), s)
    | some (i, slot) => (.row (.ok (s.attach key slot.fields)), s.strike i slot key)
  | c => s.call c

/-- A call with the decision whether the dead slots are dropped after it. -/
def scheduledCall (s : Store) (c : Call × Bool) : Answer × Store :=
  let (a, s') := s.callKeeping c.1
  (a, if c.2 then s'.reclaim else s')

def Refines (s : Store) (L : Ledger) : Prop := s.Holds L.keyName L.slots

theorem refines_empty (p : String) : (empty p).Refines (.empty p) := holds_empty p

namespace Refines

variable {s : Store} {L : Ledger} (h : s.Refines L)
include h

theorem cursor_eq : s.cursor = ⟨L.keys.toArray, 0⟩ := by
  rw [Holds.cursor_eq h, L.map_key_slots]

theorem size_eq : s.size = L.keys.length := by
  rw [Holds.size_eq h, ← L.map_key_slots, List.length_map]

theorem create (key : Value) (fields : Row) :
    (s.create key fields).1 = (L.create key fields).1 ∧
      (s.create key fields).2.Refines (L.create key fields).2 := by
  have hkeys := L.map_key_slots
  unfold Ledger.create
  split_ifs with hk
  · rw [Holds.create_error h fields (by rwa [hkeys])]
    exact ⟨rfl, h⟩
  · obtain ⟨ha, hs⟩ := Holds.create_ok h fields (by rwa [hkeys])
    refine ⟨ha, ?_⟩
    unfold Refines Ledger.slots
    rw [List.map_append]
    exact hs

theorem read (key : Value) : s.read key = L.read key := by
  unfold Ledger.read
  cases hf : L.fields? key with
  | none => exact Holds.read_error h (L.notMem_slots_of_fields? hf)
  | some fields => exact Holds.read_ok h (L.mem_slots_of_fields? hf)

theorem update (key : Value) (fields : Row) :
    (s.update key fields).1 = (L.update key fields).1 ∧
      (s.update key fields).2.Refines (L.update key fields).2 := by
  unfold Ledger.update
  cases hf : L.fields? key with
  | none =>
    rw [Holds.update_error h fields (L.notMem_slots_of_fields? hf)]
    exact ⟨rfl, h⟩
  | some old =>
    obtain ⟨ha, hs⟩ := Holds.update_ok h fields (L.mem_slots_of_fields? hf)
    -- The store drops the key's name before it joins the fields, the ledger afterwards.
    rw [← erase_union_row] at ha
    refine ⟨ha, ?_⟩
    unfold Refines
    convert hs using 1
    unfold Ledger.slots
    rw [List.map_map, List.map_map]
    apply List.map_congr_left
    intro e _
    by_cases hk : e.1 = key
    · simp only [Function.comp_apply, if_pos hk, erase_union_row]
    · simp only [Function.comp_apply, if_neg hk]

theorem delete (key : Value) :
    (s.delete key).1 = (L.delete key).1 ∧ (s.delete key).2.Refines (L.delete key).2 := by
  unfold Ledger.delete
  cases hf : L.fields? key with
  | none =>
    rw [Holds.delete_error h (L.notMem_slots_of_fields? hf)]
    exact ⟨rfl, h⟩
  | some fields =>
    obtain ⟨ha, hs⟩ := Holds.delete_ok h (L.mem_slots_of_fields? hf)
    refine ⟨ha, ?_⟩
    unfold Refines Ledger.slots at *
    rw [List.filter_map] at hs
    exact hs

theorem call (c : Call) :
    (s.call c).1 = (L.call c).1 ∧ (s.call c).2.Refines (L.call c).2 := by
  cases c with
  | create key fields =>
    obtain ⟨ha, hs⟩ := h.create key fields
    exact ⟨congrArg Answer.row ha, hs⟩
  | read key => exact ⟨congrArg Answer.row (h.read key), h⟩
  | update key fields =>
    obtain ⟨ha, hs⟩ := h.update key fields
    exact ⟨congrArg Answer.row ha, hs⟩
  | delete key =>
    obtain ⟨ha, hs⟩ := h.delete key
    exact ⟨congrArg Answer.row ha, hs⟩
  | cursor => exact ⟨congrArg Answer.cursor h.cursor_eq, h⟩

theorem callKeeping (c : Call) :
    (s.callKeeping c).1 = (L.call c).1 ∧ (s.callKeeping c).2.Refines (L.call c).2 := by
  cases c with
  | delete key =>
    simp only [Store.callKeeping, Ledger.call, Ledger.delete]
    cases hf : L.fields? key with
    | none =>
      have hk := L.notMem_slots_of_fields? hf
      rw [Holds.find?_eq_none h hk]
      exact ⟨congrArg (Answer.row <| .error <| Error.entryNotFound · _) (Holds.keyName_eq h), h⟩
    | some fields =>
      obtain ⟨i, hfind, hi⟩ := Holds.exists_find? h (L.mem_slots_of_fields? hf)
      have hs := Holds.strike h hi
      rw [hfind]
      refine ⟨congrArg (Answer.row <| .ok <| Slot.row · _) (Holds.keyName_eq h), ?_⟩
      unfold Refines Ledger.slots at *
      rw [List.filter_map] at hs
      exact hs
  | create key fields => exact h.call (.create key fields)
  | read key => exact h.call (.read key)
  | update key fields => exact h.call (.update key fields)
  | cursor => exact h.call .cursor

theorem scheduledCall (c : Call × Bool) :
    (s.scheduledCall c).1 = (L.call c.1).1 ∧ (s.scheduledCall c).2.Refines (L.call c.1).2 := by
  obtain ⟨ha, hs⟩ := h.callKeeping c.1
  refine ⟨ha, ?_⟩
  unfold Store.scheduledCall
  dsimp only
  split_ifs
  · exact Holds.reclaim hs
  · exact hs

end Refines

/-- A store that drops its dead slots when they are many, one that drops them after the calls for
which a schedule says so, and a ledger that has none answer every run of calls alike. After the run
the store has as many rows as the ledger, in the same order. -/
theorem run_eq_ledger (p : String) (schedule : List (Call × Bool)) :
    let calls := schedule.map Prod.fst
    let s := (run Store.call (empty p) calls).2
    let L := (run Ledger.call (.empty p) calls).2
    (run Store.call (empty p) calls).1 = (run Ledger.call (.empty p) calls).1 ∧
      (run Store.scheduledCall (empty p) schedule).1 = (run Ledger.call (.empty p) calls).1 ∧
      L.keyName = p ∧ L.keys.Nodup ∧
      s.size = L.entries.length ∧
      s.cursor = ⟨L.keys.toArray, 0⟩ ∧
      s.scan s.cursor = .ok L.rows := by
  intro calls s L
  have hcall := run_simulation id (R := Refines) (fun _ _ c h => h.call c) (refines_empty p) calls
  have hscheduled := run_simulation Prod.fst (R := Refines) (fun _ _ c h => h.scheduledCall c)
    (refines_empty p) schedule
  rw [List.map_id] at hcall
  obtain ⟨ha, h⟩ := hcall
  have hp : L.keyName = p := run_invariant Ledger.keyName_call rfl calls
  refine ⟨ha, hscheduled.1, hp, L.nodup_keys, ?_, h.cursor_eq, ?_⟩
  · rw [h.size_eq, Ledger.keys, List.length_map]
  · rw [Holds.scan_cursor h, L.map_row_slots]

end Store

end TableShell
