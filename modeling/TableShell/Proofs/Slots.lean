import Mathlib.Data.List.Nodup
import TableShell.Proofs.Maps
import TableShell.Store

/-!
# Slots, bitmap and index in step

The live slots of a store, in order, are all that its answers depend on. The bitmap and the index
are in step with the slots in a store that is `Linked`: the index finds a slot exactly when it is
live. Each change of the containers acts on the list of live slots as on an ordinary list.
-/

namespace TableShell.Store

def liveAt (s : Store) (i : Nat) : Option Slot :=
  if s.live[i]? = some true then s.slots[i]? else none

/-- The index leads to a number exactly if the slot with that number is live and has the key. -/
structure Linked (s : Store) : Prop where
  size_live : s.live.size = s.slots.size
  getElem?_index : ∀ key i, s.index[key]? = some i ↔ (s.liveAt i).map Slot.key = some key
  keyName_notMem : ∀ i slot, s.liveAt i = some slot → s.keyName ∉ slot.fields

variable {s : Store} {i j : Nat} {key : Value} {slot old : Slot}

theorem liveAt_eq_some_iff :
    s.liveAt i = some slot ↔ s.live[i]? = some true ∧ s.slots[i]? = some slot := by
  unfold liveAt
  split_ifs with h <;> simp [h]

theorem lt_size_of_liveAt (h : s.liveAt i = some slot) : i < s.slots.size :=
  (Array.getElem?_eq_some_iff.mp (liveAt_eq_some_iff.mp h).2).1

theorem filterMap_zip_eq (slots : List Slot) (live : List Bool) :
    ((slots.zip live).filterMap fun (slot, alive) => if alive then some slot else none) =
      (List.range slots.length).filterMap fun i =>
        if live[i]? = some true then slots[i]? else none := by
  induction slots generalizing live with
  | nil => rfl
  | cons slot slots ih =>
    cases live with
    | nil => simp
    | cons alive live =>
      rw [List.zip_cons_cons, List.length_cons, List.range_succ_eq_map, List.filterMap_cons,
        List.filterMap_cons, List.filterMap_map, ih live]
      cases alive <;> rfl

theorem liveSlots_eq (s : Store) :
    s.liveSlots = (List.range s.slots.size).filterMap s.liveAt := by
  unfold liveSlots liveAt
  rw [filterMap_zip_eq, Array.length_toList]
  simp only [Array.getElem?_toList]

theorem mem_liveSlots : slot ∈ s.liveSlots ↔ ∃ i, s.liveAt i = some slot := by
  rw [liveSlots_eq, List.mem_filterMap]
  constructor
  · rintro ⟨i, _, h⟩
    exact ⟨i, h⟩
  · rintro ⟨i, h⟩
    exact ⟨i, List.mem_range.mpr (lt_size_of_liveAt h), h⟩

namespace Linked

variable (h : s.Linked)
include h

theorem eq_of_key_eq (hi : s.liveAt i = some slot) (hj : s.liveAt j = some old)
    (hk : slot.key = old.key) : i = j := by
  have hi' : s.index[slot.key]? = some i := by rw [h.getElem?_index, hi]; rfl
  have hj' : s.index[slot.key]? = some j := by rw [h.getElem?_index, hj, hk]; rfl
  exact Option.some.inj (hi'.symm.trans hj')

theorem nodup_keys : (s.liveSlots.map Slot.key).Nodup := by
  rw [liveSlots_eq, List.map_filterMap]
  apply List.Nodup.filterMap _ List.nodup_range
  intro i j key hi hj
  obtain ⟨a, ha, rfl⟩ := Option.map_eq_some_iff.mp hi
  obtain ⟨b, hb, hk⟩ := Option.map_eq_some_iff.mp hj
  exact h.eq_of_key_eq ha hb hk.symm

theorem mem_index_iff : key ∈ s.index ↔ key ∈ s.liveSlots.map Slot.key := by
  rw [Std.ExtTreeMap.mem_iff_isSome_getElem?, Option.isSome_iff_exists, List.mem_map]
  simp only [h.getElem?_index, Option.map_eq_some_iff, mem_liveSlots]
  constructor
  · rintro ⟨i, slot, hi, hk⟩
    exact ⟨slot, ⟨i, hi⟩, hk⟩
  · rintro ⟨slot, ⟨i, hi⟩, hk⟩
    exact ⟨i, slot, hi, hk⟩

theorem size_eq : s.size = s.liveSlots.length := by
  have hs := size_eq_length_of_mem_iff h.nodup_keys fun _ => h.mem_index_iff
  rw [size, hs, List.length_map]

theorem find?_eq_some_iff :
    s.find? key = some (i, slot) ↔ s.liveAt i = some slot ∧ slot.key = key := by
  simp only [find?, Option.bind_eq_bind, Option.bind_eq_some_iff, Option.pure_def,
    Option.some.injEq, Prod.mk.injEq]
  constructor
  · rintro ⟨i', hi', slot', hs', rfl, rfl⟩
    obtain ⟨a, ha, hk⟩ := Option.map_eq_some_iff.mp ((h.getElem?_index _ _).mp hi')
    have hslot := (liveAt_eq_some_iff.mp ha).2
    rw [hs'] at hslot
    cases hslot
    exact ⟨ha, hk⟩
  · rintro ⟨hi, rfl⟩
    have hk : s.index[slot.key]? = some i := by rw [h.getElem?_index, hi]; rfl
    exact ⟨i, hk, slot, (liveAt_eq_some_iff.mp hi).2, rfl, rfl⟩

theorem find?_eq_none_iff : s.find? key = none ↔ key ∉ s.liveSlots.map Slot.key := by
  constructor
  · intro hf hmem
    obtain ⟨slot, hs, rfl⟩ := List.mem_map.mp hmem
    obtain ⟨i, hi⟩ := mem_liveSlots.mp hs
    rw [h.find?_eq_some_iff.mpr ⟨hi, rfl⟩] at hf
    cases hf
  · intro hmem
    cases hf : s.find? key with
    | none => rfl
    | some p =>
      obtain ⟨hi, hk⟩ := h.find?_eq_some_iff.mp hf
      exact absurd (List.mem_map.mpr ⟨p.2, mem_liveSlots.mpr ⟨p.1, hi⟩, hk⟩) hmem

end Linked

def append (s : Store) (slot : Slot) : Store :=
  { s with
    slots := s.slots.push slot
    live := s.live.push true
    index := s.index.insert slot.key s.slots.size }

def overwrite (s : Store) (i : Nat) (slot : Slot) : Store :=
  { s with slots := s.slots.setIfInBounds i slot }

/-- Marks a slot as dead; the others stay where they are. -/
def strike (s : Store) (i : Nat) (slot : Slot) (key : Value) : Store :=
  { s with
    slots := s.slots.setIfInBounds i { slot with fields := ∅ }
    live := s.live.setIfInBounds i false
    index := s.index.erase key }

theorem liveAt_append (h : s.live.size = s.slots.size) :
    (s.append slot).liveAt i = if i = s.slots.size then some slot else s.liveAt i := by
  unfold liveAt append
  simp only [Array.getElem?_push, h]
  split_ifs <;> simp_all

theorem liveAt_overwrite (hi : s.liveAt i = some old) :
    (s.overwrite i slot).liveAt j = if j = i then some slot else s.liveAt j := by
  obtain ⟨hlive, -⟩ := liveAt_eq_some_iff.mp hi
  have hlt := lt_size_of_liveAt hi
  unfold liveAt overwrite
  by_cases hj : j = i
  · subst hj
    rw [if_pos rfl, if_pos hlive, Array.getElem?_setIfInBounds_self_of_lt hlt]
  · rw [if_neg hj, Array.getElem?_setIfInBounds_ne (Ne.symm hj)]

theorem liveAt_strike :
    (s.strike i slot key).liveAt j = if j = i then none else s.liveAt j := by
  unfold liveAt strike
  by_cases hj : j = i
  · subst hj
    rw [if_pos rfl, Array.getElem?_setIfInBounds_self]
    split_ifs <;> simp_all
  · rw [if_neg hj]
    simp only [Array.getElem?_setIfInBounds_ne (Ne.symm hj)]

theorem liveAt_reclaim : s.reclaim.liveAt i = s.liveSlots[i]? := by
  unfold liveAt reclaim
  by_cases hi : i < s.liveSlots.length
  · simp [hi]
  · simp [hi]

theorem liveSlots_append (h : s.live.size = s.slots.size) :
    (s.append slot).liveSlots = s.liveSlots ++ [slot] := by
  have hsize : (s.append slot).slots.size = s.slots.size + 1 := Array.size_push _
  rw [liveSlots_eq, liveSlots_eq, hsize, List.range_succ, List.filterMap_append]
  congr 1
  · apply List.filterMap_congr
    intro i hi
    rw [liveAt_append h, if_neg (Nat.ne_of_lt (List.mem_range.mp hi))]
  · simp [liveAt_append h]

theorem filterMap_getElem?_range (l : List Slot) :
    ((List.range l.length).filterMap fun i => l[i]?) = l := by
  induction l with
  | nil => rfl
  | cons slot l ih =>
    rw [List.length_cons, List.range_succ_eq_map, List.filterMap_cons, List.filterMap_map]
    exact congrArg (slot :: ·) ih

theorem liveSlots_reclaim : s.reclaim.liveSlots = s.liveSlots := by
  have hsize : s.reclaim.slots.size = s.liveSlots.length := List.size_toArray
  rw [liveSlots_eq, hsize, ← filterMap_getElem?_range s.liveSlots]
  simp only [liveAt_reclaim, filterMap_getElem?_range]

namespace Linked

variable (h : s.Linked)
include h

theorem liveSlots_overwrite (hi : s.liveAt i = some old) (hk : slot.key = old.key) :
    (s.overwrite i slot).liveSlots =
      s.liveSlots.map fun x => if x.key = slot.key then slot else x := by
  have hsize : (s.overwrite i slot).slots.size = s.slots.size := Array.size_setIfInBounds
  rw [liveSlots_eq, liveSlots_eq, hsize, List.map_filterMap]
  apply List.filterMap_congr
  intro j _
  rw [liveAt_overwrite hi]
  by_cases hj : j = i
  · subst hj
    rw [if_pos rfl, hi, Option.map_some, if_pos hk.symm]
  · rw [if_neg hj]
    cases hx : s.liveAt j with
    | none => rfl
    | some x =>
      have hne : x.key ≠ slot.key := fun he => hj (h.eq_of_key_eq hx hi (he.trans hk))
      rw [Option.map_some, if_neg hne]

theorem liveSlots_strike (hi : s.liveAt i = some slot) :
    (s.strike i slot slot.key).liveSlots = s.liveSlots.filter (·.key ≠ slot.key) := by
  have hsize : (s.strike i slot slot.key).slots.size = s.slots.size := Array.size_setIfInBounds
  rw [liveSlots_eq, liveSlots_eq, hsize, List.filter_filterMap]
  apply List.filterMap_congr
  intro j _
  rw [liveAt_strike]
  by_cases hj : j = i
  · subst hj
    simp [hi, Option.filter_some]
  · rw [if_neg hj]
    cases hx : s.liveAt j with
    | none => rfl
    | some x =>
      have hne : x.key ≠ slot.key := fun he => hj (h.eq_of_key_eq hx hi he)
      simp [hne, Option.filter_some]

theorem append (hk : slot.key ∉ s.index) (hf : s.keyName ∉ slot.fields) :
    (s.append slot).Linked where
  size_live := by
    unfold Store.append
    rw [Array.size_push, Array.size_push, h.size_live]
  getElem?_index key i := by
    -- The number of the new slot was free, and its key was in no live slot.
    have hnew : s.liveAt s.slots.size = none := by
      unfold liveAt
      simp
    have hidx : (s.append slot).index[key]? =
        if slot.key = key then some s.slots.size else s.index[key]? := by
      simp [Store.append, Std.ExtTreeMap.getElem?_insert, Std.LawfulEqCmp.compare_eq_iff_eq]
    rw [hidx, liveAt_append h.size_live]
    by_cases hi : i = s.slots.size
    · subst hi
      by_cases hkey : slot.key = key
      · simp [hkey]
      · simp [hkey, h.getElem?_index, hnew]
    · rw [if_neg hi]
      by_cases hkey : slot.key = key
      · subst hkey
        have hno : s.index[slot.key]? ≠ some i := by
          rw [Std.ExtTreeMap.getElem?_eq_none hk]
          exact Option.some_ne_none i |>.symm
        simp [Ne.symm hi, ← h.getElem?_index, hno]
      · rw [if_neg hkey, h.getElem?_index]
  keyName_notMem i x hx := by
    rw [liveAt_append h.size_live] at hx
    split_ifs at hx with hi
    · cases hx
      exact hf
    · exact h.keyName_notMem i x hx

theorem overwrite (hi : s.liveAt i = some old) (hk : slot.key = old.key)
    (hf : s.keyName ∉ slot.fields) : (s.overwrite i slot).Linked where
  size_live := by
    unfold Store.overwrite
    rw [Array.size_setIfInBounds, h.size_live]
  getElem?_index key j := by
    have hidx : (s.overwrite i slot).index = s.index := rfl
    rw [hidx, h.getElem?_index, liveAt_overwrite hi]
    by_cases hj : j = i
    · subst hj
      rw [if_pos rfl, hi, Option.map_some, Option.map_some, hk]
    · rw [if_neg hj]
  keyName_notMem j x hx := by
    rw [liveAt_overwrite hi] at hx
    split_ifs at hx with hj
    · cases hx
      exact hf
    · exact h.keyName_notMem j x hx

theorem strike (hi : s.liveAt i = some slot) : (s.strike i slot slot.key).Linked where
  size_live := by
    unfold Store.strike
    rw [Array.size_setIfInBounds, Array.size_setIfInBounds, h.size_live]
  getElem?_index key j := by
    have hidx : (s.strike i slot slot.key).index[key]? =
        if slot.key = key then none else s.index[key]? := by
      simp [Store.strike, Std.ExtTreeMap.getElem?_erase, Std.LawfulEqCmp.compare_eq_iff_eq]
    rw [hidx, liveAt_strike]
    by_cases hj : j = i
    · subst hj
      have hidx' := h.getElem?_index key j
      rw [hi, Option.map_some, Option.some.injEq] at hidx'
      by_cases hkey : slot.key = key
      · simp [hkey]
      · simp [hkey, hidx']
    · rw [if_neg hj, ← h.getElem?_index]
      by_cases hkey : slot.key = key
      · subst hkey
        rw [if_pos rfl]
        constructor
        · intro hx
          cases hx
        · intro hx
          obtain ⟨x, hx, hxk⟩ := Option.map_eq_some_iff.mp ((h.getElem?_index _ _).mp hx)
          exact absurd (h.eq_of_key_eq hx hi hxk) hj
      · rw [if_neg hkey]
  keyName_notMem j x hx := by
    rw [liveAt_strike] at hx
    split_ifs at hx
    exact h.keyName_notMem j x hx

/-- Dropping the dead slots moves the live ones, and the index follows them. -/
theorem reclaim : s.reclaim.Linked where
  size_live := by
    unfold Store.reclaim
    rw [Array.size_replicate, List.size_toArray]
  getElem?_index key i := by
    have hkeys : ((s.liveSlots.map Slot.key).zipIdx.map Prod.fst).Nodup := by
      rw [List.zipIdx_map_fst]
      exact h.nodup_keys
    have hidx : s.reclaim.index = indexOf s.liveSlots := rfl
    rw [hidx, indexOf, getElem?_ofList_eq_some_iff hkeys, List.mem_zipIdx_iff_getElem?,
      List.getElem?_map, liveAt_reclaim]
  keyName_notMem i x hx := by
    rw [liveAt_reclaim] at hx
    obtain ⟨j, hj⟩ := mem_liveSlots.mp (List.mem_of_getElem? hx)
    exact h.keyName_notMem j x hj

end Linked

theorem linked_empty (p : String) : (empty p).Linked where
  size_live := rfl
  getElem?_index key i := by simp [empty, liveAt]
  keyName_notMem i slot hs := by simp [empty, liveAt] at hs

end TableShell.Store
