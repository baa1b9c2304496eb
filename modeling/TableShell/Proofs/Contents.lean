import TableShell.Proofs.Slots

/-!
# What a store holds

A store holds a list of slots under a key name when these are its live slots and its containers are
in step. Every operation answers from that list and changes it as an operation on lists would; dead
slots, the places of live ones and the reclaiming of slots do not show.
-/

namespace TableShell

/-- The row that is handed out for a slot. -/
def Slot.row (p : String) (slot : Slot) : Row := slot.fields.insert p slot.key

theorem Slot.getElem?_row (p : String) (slot : Slot) : (slot.row p)[p]? = some slot.key :=
  Std.ExtTreeMap.getElem?_insert_self

namespace Store

structure Holds (s : Store) (p : String) (slots : List Slot) : Prop where
  linked : s.Linked
  keyName_eq : s.keyName = p
  liveSlots_eq : s.liveSlots = slots

theorem holds_empty (p : String) : (empty p).Holds p [] := ⟨linked_empty p, rfl, rfl⟩

theorem scan_eq_mapM (s : Store) (c : Cursor) : s.scan c = c.remaining.mapM s.read := by
  fun_induction scan s c with
  | case1 c hc e he =>
    have hc' : c.position < c.keys.toList.length := by rwa [Array.length_toList]
    rw [Cursor.remaining, List.drop_eq_getElem_cons hc', List.mapM_cons, Array.getElem_toList, he]
    rfl
  | case2 c hc row hrow ih =>
    have hc' : c.position < c.keys.toList.length := by rwa [Array.length_toList]
    rw [ih, Cursor.remaining, Cursor.remaining, List.drop_eq_getElem_cons hc', List.mapM_cons,
      Array.getElem_toList, hrow]
    rfl
  | case3 c hc =>
    have hc' : c.keys.toList.length ≤ c.position := by
      rw [Array.length_toList]
      omega
    rw [Cursor.remaining, List.drop_eq_nil_of_le hc']
    rfl

namespace Holds

variable {s : Store} {p : String} {slots : List Slot} (h : s.Holds p slots)
include h

theorem nodup_keys : (slots.map Slot.key).Nodup := h.liveSlots_eq ▸ h.linked.nodup_keys

theorem size_eq : s.size = slots.length := by rw [h.linked.size_eq, h.liveSlots_eq]

theorem cursor_eq : s.cursor = ⟨(slots.map Slot.key).toArray, 0⟩ := by
  rw [cursor, h.liveSlots_eq]

theorem keyName_notMem {slot : Slot} (hs : slot ∈ slots) : p ∉ slot.fields := by
  rw [← h.liveSlots_eq, mem_liveSlots] at hs
  obtain ⟨i, hi⟩ := hs
  exact h.keyName_eq ▸ h.linked.keyName_notMem i slot hi

theorem exists_find? {slot : Slot} (hs : slot ∈ slots) :
    ∃ i, s.find? slot.key = some (i, slot) ∧ s.liveAt i = some slot := by
  rw [← h.liveSlots_eq, mem_liveSlots] at hs
  obtain ⟨i, hi⟩ := hs
  exact ⟨i, h.linked.find?_eq_some_iff.mpr ⟨hi, rfl⟩, hi⟩

theorem find?_eq_none {key : Value} (hk : key ∉ slots.map Slot.key) : s.find? key = none :=
  h.linked.find?_eq_none_iff.mpr (h.liveSlots_eq ▸ hk)

theorem reclaim : s.reclaim.Holds p slots where
  linked := h.linked.reclaim
  keyName_eq := h.keyName_eq
  liveSlots_eq := by rw [liveSlots_reclaim, h.liveSlots_eq]

theorem reclaimIfWorthwhile : s.reclaimIfWorthwhile.Holds p slots := by
  unfold Store.reclaimIfWorthwhile
  dsimp only
  split_ifs
  · exact h
  · exact h.reclaim

theorem read_ok {slot : Slot} (hs : slot ∈ slots) : s.read slot.key = .ok (slot.row p) := by
  obtain ⟨i, hi, -⟩ := h.exists_find? hs
  rw [read, hi, ← h.keyName_eq]
  rfl

theorem read_error {key : Value} (hk : key ∉ slots.map Slot.key) :
    s.read key = .error (.entryNotFound p key.display) := by
  rw [read, h.find?_eq_none hk, notFound, h.keyName_eq]

theorem scan_cursor : s.scan s.cursor = .ok (slots.map (Slot.row p)) := by
  have hrem : s.cursor.remaining = slots.map Slot.key := by
    rw [h.cursor_eq, Cursor.remaining, List.drop_zero]
  rw [scan_eq_mapM, hrem, mapM_eq_ok_iff, List.forall₂_map_left_iff, List.forall₂_map_right_iff,
    List.forall₂_same]
  exact fun slot hs => h.read_ok hs

theorem create_error {key : Value} (fields : Row) (hk : key ∈ slots.map Slot.key) :
    s.create key fields = (.error (.duplicateEntry p key.display), s) := by
  have hmem : s.index.contains key = true := by
    rw [Std.ExtTreeMap.contains_iff_mem, h.linked.mem_index_iff, h.liveSlots_eq]
    exact hk
  rw [create, if_pos hmem, duplicate, h.keyName_eq]

theorem create_ok {key : Value} (fields : Row) (hk : key ∉ slots.map Slot.key) :
    (s.create key fields).1 = .ok (Slot.row p ⟨key, fields.erase p⟩) ∧
      (s.create key fields).2.Holds p (slots ++ [⟨key, fields.erase p⟩]) := by
  have hmem : key ∉ s.index := by
    rw [h.linked.mem_index_iff, h.liveSlots_eq]
    exact hk
  have hcontains : ¬ s.index.contains key = true := by rwa [Std.ExtTreeMap.contains_iff_mem]
  have hcreate : s.create key fields =
      (.ok (Slot.row p ⟨key, fields.erase p⟩), s.append ⟨key, fields.erase p⟩) := by
    rw [create, if_neg hcontains, ← h.keyName_eq]
    rfl
  have hfields : s.keyName ∉ fields.erase p := by
    rw [h.keyName_eq]
    exact notMem_erase_row fields p
  rw [hcreate]
  exact ⟨rfl, h.linked.append hmem hfields, h.keyName_eq,
    by rw [liveSlots_append h.linked.size_live, h.liveSlots_eq]⟩

theorem update_error {key : Value} (fields : Row) (hk : key ∉ slots.map Slot.key) :
    s.update key fields = (.error (.entryNotFound p key.display), s) := by
  rw [update, h.find?_eq_none hk, notFound, h.keyName_eq]

theorem update_ok {slot : Slot} (fields : Row) (hs : slot ∈ slots) :
    (s.update slot.key fields).1 = .ok (Slot.row p ⟨slot.key, slot.fields ∪ fields.erase p⟩) ∧
      (s.update slot.key fields).2.Holds p (slots.map fun x =>
        if x.key = slot.key then ⟨x.key, x.fields ∪ fields.erase p⟩ else x) := by
  obtain ⟨i, hfind, hi⟩ := h.exists_find? hs
  let new : Slot := ⟨slot.key, slot.fields ∪ fields.erase p⟩
  have hupdate : s.update slot.key fields = (.ok (new.row p), s.overwrite i new) := by
    rw [update, hfind]
    simp only [new, ← h.keyName_eq]
    rfl
  have hfields : s.keyName ∉ new.fields := by
    rw [h.keyName_eq, Std.ExtTreeMap.mem_union_iff]
    exact fun hmem => hmem.elim (h.keyName_notMem hs) (notMem_erase_row fields p)
  have hslots : (s.overwrite i new).liveSlots =
      s.liveSlots.map fun x => if x.key = slot.key then new else x :=
    h.linked.liveSlots_overwrite hi rfl
  have hmap : (slots.map fun x => if x.key = slot.key then new else x) =
      slots.map fun x => if x.key = slot.key then ⟨x.key, x.fields ∪ fields.erase p⟩ else x := by
    apply List.map_congr_left
    intro x hx
    by_cases hk : x.key = slot.key
    · rw [List.inj_on_of_nodup_map h.nodup_keys hx hs hk]
    · rw [if_neg hk, if_neg hk]
  rw [hupdate]
  exact ⟨rfl, h.linked.overwrite hi rfl hfields, h.keyName_eq,
    by rw [hslots, h.liveSlots_eq, hmap]⟩

theorem delete_error {key : Value} (hk : key ∉ slots.map Slot.key) :
    s.delete key = (.error (.entryNotFound p key.display), s) := by
  rw [delete, h.find?_eq_none hk, notFound, h.keyName_eq]

theorem strike {slot : Slot} {i : Nat} (hi : s.liveAt i = some slot) :
    (s.strike i slot slot.key).Holds p (slots.filter (·.key ≠ slot.key)) where
  linked := h.linked.strike hi
  keyName_eq := h.keyName_eq
  liveSlots_eq := by rw [h.linked.liveSlots_strike hi, h.liveSlots_eq]

theorem delete_ok {slot : Slot} (hs : slot ∈ slots) :
    (s.delete slot.key).1 = .ok (slot.row p) ∧
      (s.delete slot.key).2.Holds p (slots.filter (·.key ≠ slot.key)) := by
  obtain ⟨i, hfind, hi⟩ := h.exists_find? hs
  have hdelete : s.delete slot.key =
      (.ok (slot.row p), (s.strike i slot slot.key).reclaimIfWorthwhile) := by
    rw [delete, hfind, ← h.keyName_eq]
    rfl
  rw [hdelete]
  exact ⟨rfl, (h.strike hi).reclaimIfWorthwhile⟩

end Holds

end Store

end TableShell
