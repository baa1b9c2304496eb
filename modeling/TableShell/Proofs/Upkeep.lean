import TableShell.Proofs.Ledger

/-!
# Upkeep of the store

After every run of calls the bitmap is as long as the slots, the index finds exactly the live slots,
and dead slots are few or do not outnumber the live ones. So the number of dead slots is never
computed below zero, no slot is looked up out of range, and no key of a new cursor is missing.
-/

namespace TableShell.Store

variable {s : Store} {p : String} {key : Value} {fields : Row}

/-- The dead slots are too few to reclaim them, or they do not outnumber the live ones. -/
def Thrifty (s : Store) : Prop :=
  s.slots.size - s.size < reclaimLeast ∨ s.slots.size - s.size ≤ s.size

/-- What holds of the containers of a store with this key name, whatever has been done to it. -/
structure Kept (s : Store) (p : String) : Prop where
  keyName_eq : s.keyName = p
  size_live : s.live.size = s.slots.size
  getElem?_index : ∀ key i, s.index[key]? = some i ↔
    ∃ h : i < s.slots.size, s.live[i]? = some true ∧ s.slots[i].key = key
  eq_of_key_eq : ∀ i j (hi : i < s.slots.size) (hj : j < s.slots.size), s.live[i]? = some true →
    s.live[j]? = some true → s.slots[i].key = s.slots[j].key → i = j
  count_live : s.live.count true = s.index.size
  keyName_notMem : ∀ i (h : i < s.slots.size), s.live[i]? = some true → p ∉ s.slots[i].fields
  thrifty : s.Thrifty

theorem length_filterMap_zip {slots : List Slot} {live : List Bool}
    (h : live.length = slots.length) :
    ((slots.zip live).filterMap fun (slot, alive) => if alive then some slot else none).length =
      live.count true := by
  induction slots generalizing live with
  | nil => simp [List.length_eq_zero_iff.mp h]
  | cons slot slots ih =>
    cases live with
    | nil => cases h
    | cons alive live =>
      have hlength := ih (Nat.succ.inj h)
      rw [List.zip_cons_cons, List.filterMap_cons]
      cases alive with
      | true => simpa using hlength
      | false => simpa using hlength

namespace Linked

variable (h : s.Linked)
include h

theorem count_live : s.live.count true = s.index.size := by
  have hlength : s.live.toList.length = s.slots.toList.length := h.size_live
  rw [← Array.count_toList, ← length_filterMap_zip hlength]
  exact h.size_eq.symm

theorem size_le : s.size ≤ s.slots.size := by
  have hcount : s.live.count true ≤ s.live.size := Array.count_le_size
  have hsize : s.size = s.live.count true := h.count_live.symm
  rw [hsize, ← h.size_live]
  exact hcount

end Linked

theorem thrifty_empty (p : String) : (empty p).Thrifty := Or.inl (show 0 < reclaimLeast by decide)

theorem thrifty_create (ht : s.Thrifty) : (s.create key fields).2.Thrifty := by
  unfold create
  split_ifs with hk
  · exact ht
  · have hsize : (s.index.insert key s.slots.size).size = s.index.size + 1 := by
      rw [Std.ExtTreeMap.size_insert]
      exact if_neg hk
    unfold Thrifty size at *
    rw [Array.size_push, hsize]
    omega

theorem thrifty_update (ht : s.Thrifty) : (s.update key fields).2.Thrifty := by
  unfold update
  cases s.find? key with
  | none => exact ht
  | some found =>
    unfold Thrifty size at *
    rwa [Array.size_setIfInBounds]

theorem thrifty_reclaimIfWorthwhile (h : s.Linked) : s.reclaimIfWorthwhile.Thrifty := by
  unfold reclaimIfWorthwhile
  dsimp only
  split_ifs with hfew
  · exact hfew
  · have hslots : s.reclaim.slots.size = s.liveSlots.length := List.size_toArray
    have hsize : s.reclaim.size = s.liveSlots.length := by
      rw [h.reclaim.size_eq, liveSlots_reclaim]
    left
    rw [hslots, hsize, Nat.sub_self]
    decide

theorem thrifty_delete (h : s.Linked) (ht : s.Thrifty) : (s.delete key).2.Thrifty := by
  unfold delete
  cases hf : s.find? key with
  | none => exact ht
  | some found =>
    obtain ⟨i, slot⟩ := found
    obtain ⟨hi, rfl⟩ := h.find?_eq_some_iff.mp hf
    exact thrifty_reclaimIfWorthwhile (h.strike hi)

theorem thrifty_call (h : s.Linked) (ht : s.Thrifty) (c : Call) : (s.call c).2.Thrifty := by
  cases c with
  | create key fields => exact thrifty_create ht
  | read key => exact ht
  | update key fields => exact thrifty_update ht
  | delete key => exact thrifty_delete h ht
  | cursor => exact ht

theorem kept_of_linked (h : s.Linked) (hp : s.keyName = p) (ht : s.Thrifty) : s.Kept p where
  keyName_eq := hp
  size_live := h.size_live
  getElem?_index key i := by
    rw [h.getElem?_index, Option.map_eq_some_iff]
    simp only [liveAt_eq_some_iff]
    constructor
    · rintro ⟨slot, ⟨hlive, hslot⟩, hk⟩
      obtain ⟨hi, rfl⟩ := Array.getElem?_eq_some_iff.mp hslot
      exact ⟨hi, hlive, hk⟩
    · rintro ⟨hi, hlive, hk⟩
      exact ⟨s.slots[i], ⟨hlive, Array.getElem?_eq_getElem hi⟩, hk⟩
  eq_of_key_eq i j hi hj hlivei hlivej hk :=
    h.eq_of_key_eq (liveAt_eq_some_iff.mpr ⟨hlivei, Array.getElem?_eq_getElem hi⟩)
      (liveAt_eq_some_iff.mpr ⟨hlivej, Array.getElem?_eq_getElem hj⟩) hk
  count_live := h.count_live
  keyName_notMem i hi hlive :=
    hp ▸ h.keyName_notMem i _ (liveAt_eq_some_iff.mpr ⟨hlive, Array.getElem?_eq_getElem hi⟩)
  thrifty := ht

theorem Holds.next_cursor {slots : List Slot} (h : s.Holds p slots) {n : Nat}
    (hn : n < s.cursor.keys.size) :
    ∃ row, s.next ⟨s.cursor.keys, n⟩ = .ok (⟨s.cursor.keys, n + 1⟩, row) := by
  have hkeys : s.cursor.keys = (slots.map Slot.key).toArray := by rw [h.cursor_eq]
  have hslots : n < slots.length := by
    rw [hkeys, List.size_toArray, List.length_map] at hn
    exact hn
  have hcurrent : (Cursor.mk s.cursor.keys n).current? = some slots[n].key := by
    rw [Cursor.current?, hkeys, List.getElem?_toArray, List.getElem?_map,
      List.getElem?_eq_getElem hslots]
    rfl
  refine ⟨slots[n].row p, ?_⟩
  rw [next, hcurrent]
  dsimp only
  rw [h.read_ok (List.getElem_mem hslots)]
  rfl

/-- In every state that calls lead to, the containers are in step and dead slots are few. The
difference that decides on reclaiming is between a number and a smaller one, each number of a slot
that is looked up is the number of one, and a new cursor is read to its end without an error. -/
theorem run_kept (p : String) (calls : List Call) :
    let s := (run call (empty p) calls).2
    s.Kept p ∧ s.size ≤ s.slots.size ∧
      (∀ key i slot, s.find? key = some (i, slot) →
        (s.strike i slot key).size ≤ (s.strike i slot key).slots.size) ∧
      (∀ (key : Value) i, s.index[key]? = some i → i < s.slots.size ∧ i < s.live.size) ∧
      (∀ i, s.live[i]? = some true → i < s.slots.size) ∧
      (∃ rows, s.scan s.cursor = .ok rows) ∧
      (∀ n < s.cursor.keys.size,
        ∃ row, s.next ⟨s.cursor.keys, n⟩ = .ok (⟨s.cursor.keys, n + 1⟩, row)) ∧
      ∀ field value, s.next s.cursor ≠ .error (.entryNotFound field value) := by
  intro s
  have hstep (s : Store) (c : Call) :
      (∃ L : Ledger, s.Refines L ∧ L.keyName = p ∧ s.Thrifty) →
        ∃ L : Ledger, (s.call c).2.Refines L ∧ L.keyName = p ∧ (s.call c).2.Thrifty := by
    rintro ⟨L, h, hp, ht⟩
    exact ⟨(L.call c).2, (h.call c).2, L.keyName_call c hp, thrifty_call h.linked ht c⟩
  have hstart : ∃ L : Ledger, (empty p).Refines L ∧ L.keyName = p ∧ (empty p).Thrifty :=
    ⟨.empty p, refines_empty p, rfl, thrifty_empty p⟩
  obtain ⟨L, h, hp, ht⟩ := run_invariant hstep hstart calls
  have hkept : s.Kept p := kept_of_linked h.linked (h.keyName_eq.trans hp) ht
  refine ⟨hkept, h.linked.size_le, fun key i slot hf => ?_, fun key i hi => ?_, fun i hi => ?_,
    ⟨_, h.scan_cursor⟩, fun n hn => h.next_cursor hn, fun field value he => ?_⟩
  · obtain ⟨hi, rfl⟩ := h.linked.find?_eq_some_iff.mp hf
    exact (h.linked.strike hi).size_le
  · obtain ⟨hlt, -, -⟩ := (hkept.getElem?_index key i).mp hi
    exact ⟨hlt, hkept.size_live ▸ hlt⟩
  · exact hkept.size_live ▸ (Array.getElem?_eq_some_iff.mp hi).1
  · by_cases hn : 0 < s.cursor.keys.size
    · obtain ⟨row, hrow⟩ := h.next_cursor hn
      cases he.symm.trans hrow
    · have hnone : s.cursor.current? = none := by
        rw [Cursor.current?]
        exact Array.getElem?_eq_none (Nat.not_lt.mp hn)
      rw [next, hnone] at he
      cases he

end TableShell.Store
