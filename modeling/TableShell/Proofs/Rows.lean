import TableShell.Proofs.Contents

/-!
# What a store shows

From outside a store is a list of whole rows in which every row has a key and no two rows share
one. Here the operations are stated on that list: a new row goes to the end, an update overrides
fields in place, a deletion takes out the one row with the key.
-/

namespace TableShell

theorem Slot.mem_map_key_iff {p : String} {slots : List Slot} {key : Value} :
    key ∈ slots.map Slot.key ↔ ∃ row ∈ slots.map (Slot.row p), row[p]? = some key := by
  simp only [List.mem_map, exists_exists_and_eq_and, Slot.getElem?_row, Option.some.injEq]

theorem Slot.row_union (p : String) (slot : Slot) (fields : Row) :
    Slot.row p ⟨slot.key, slot.fields ∪ fields.erase p⟩ = slot.row p ∪ fields.erase p := by
  apply Std.ExtTreeMap.ext_getElem?
  intro a
  rw [row, row, getElem?_insert_row, Std.ExtTreeMap.getElem?_union, Std.ExtTreeMap.getElem?_union,
    getElem?_insert_row, getElem?_erase_row]
  split_ifs <;> rfl

namespace Store

def Shows (s : Store) (p : String) (rows : List Row) : Prop :=
  ∃ slots, s.Holds p slots ∧ slots.map (Slot.row p) = rows

theorem shows_empty (p : String) : (empty p).Shows p [] := ⟨[], holds_empty p, rfl⟩

namespace Shows

variable {s : Store} {p : String} {rows : List Row} (h : s.Shows p rows)
include h

theorem scan_cursor : s.scan s.cursor = .ok rows := by
  obtain ⟨slots, h, rfl⟩ := h
  exact h.scan_cursor

theorem size_eq : s.size = rows.length := by
  obtain ⟨slots, h, rfl⟩ := h
  rw [h.size_eq, List.length_map]

theorem map_key : rows.map (·[p]?) = s.cursor.keys.toList.map some := by
  obtain ⟨slots, h, rfl⟩ := h
  rw [h.cursor_eq, List.map_map, List.map_map]
  apply List.map_congr_left
  intro slot _
  exact slot.getElem?_row p

theorem nodup_keys : (rows.map (·[p]?)).Nodup := by
  rw [h.map_key]
  obtain ⟨slots, h, rfl⟩ := h
  rw [h.cursor_eq]
  exact h.nodup_keys.map fun _ _ he => Option.some.inj he

theorem exists_key {row : Row} (hrow : row ∈ rows) : ∃ key, row[p]? = some key := by
  obtain ⟨slots, h, rfl⟩ := h
  obtain ⟨slot, -, rfl⟩ := List.mem_map.mp hrow
  exact ⟨slot.key, slot.getElem?_row p⟩

theorem eq_of_key_eq {row row' : Row} (hrow : row ∈ rows) (hrow' : row' ∈ rows)
    (hk : row[p]? = row'[p]?) : row = row' :=
  List.inj_on_of_nodup_map h.nodup_keys hrow hrow' hk

theorem read_ok {key : Value} {row : Row} (hrow : row ∈ rows) (hk : row[p]? = some key) :
    s.read key = .ok row := by
  obtain ⟨slots, h, rfl⟩ := h
  obtain ⟨slot, hs, rfl⟩ := List.mem_map.mp hrow
  rw [Slot.getElem?_row] at hk
  cases hk
  exact h.read_ok hs

theorem read_error {key : Value} (hk : ∀ row ∈ rows, row[p]? ≠ some key) :
    s.read key = .error (.entryNotFound p key.display) := by
  obtain ⟨slots, h, rfl⟩ := h
  apply h.read_error
  intro hmem
  obtain ⟨row, hrow, hkey⟩ := Slot.mem_map_key_iff.mp hmem
  exact hk row hrow hkey

/-- Reading finds the one row with the key, or there is none. -/
theorem read_eq_ok_iff {key : Value} {row : Row} :
    s.read key = .ok row ↔ row ∈ rows ∧ row[p]? = some key := by
  constructor
  · intro hread
    by_cases hk : ∃ row' ∈ rows, row'[p]? = some key
    · obtain ⟨row', hrow', hk'⟩ := hk
      rw [h.read_ok hrow' hk'] at hread
      cases hread
      exact ⟨hrow', hk'⟩
    · have hno : ∀ row' ∈ rows, row'[p]? ≠ some key := fun row' hrow' hk' => hk ⟨row', hrow', hk'⟩
      rw [h.read_error hno] at hread
      cases hread
  · rintro ⟨hrow, hk⟩
    exact h.read_ok hrow hk

theorem create_ok {key : Value} (fields : Row) (hk : ∀ row ∈ rows, row[p]? ≠ some key) :
    (s.create key fields).1 = .ok ((fields.erase p).insert p key) := by
  obtain ⟨slots, h, rfl⟩ := h
  have hfree : key ∉ slots.map Slot.key := by
    intro hmem
    obtain ⟨row, hrow, hkey⟩ := Slot.mem_map_key_iff.mp hmem
    exact hk row hrow hkey
  exact (h.create_ok fields hfree).1

theorem create_of_ok {key : Value} {fields row : Row} (hc : (s.create key fields).1 = .ok row) :
    row = (fields.erase p).insert p key ∧ (s.create key fields).2.Shows p (rows ++ [row]) := by
  obtain ⟨slots, h, rfl⟩ := h
  by_cases hk : key ∈ slots.map Slot.key
  · rw [h.create_error fields hk] at hc
    cases hc
  · obtain ⟨ha, hs⟩ := h.create_ok fields hk
    cases ha.symm.trans hc
    exact ⟨rfl, _, hs, List.map_append⟩

theorem update_of_ok {key : Value} {fields row : Row} (hu : (s.update key fields).1 = .ok row) :
    ∃ old ∈ rows, old[p]? = some key ∧ row = old ∪ fields.erase p ∧
      (s.update key fields).2.Shows p
        (rows.map fun r => if r[p]? = some key then r ∪ fields.erase p else r) := by
  obtain ⟨slots, h, rfl⟩ := h
  by_cases hk : key ∈ slots.map Slot.key
  · obtain ⟨slot, hs, rfl⟩ := List.mem_map.mp hk
    obtain ⟨ha, hx⟩ := h.update_ok fields hs
    cases ha.symm.trans hu
    refine ⟨slot.row p, List.mem_map_of_mem hs, slot.getElem?_row p, slot.row_union p fields,
      _, hx, ?_⟩
    rw [List.map_map, List.map_map]
    apply List.map_congr_left
    intro x _
    rw [Function.comp_apply, Function.comp_apply, Slot.getElem?_row]
    by_cases hkey : x.key = slot.key
    · rw [if_pos hkey, if_pos (congrArg some hkey), x.row_union p fields]
    · rw [if_neg hkey, if_neg fun he => hkey (Option.some.inj he)]
  · rw [h.update_error fields hk] at hu
    cases hu

theorem update_ok {key : Value} {row : Row} (fields : Row) (hrow : row ∈ rows)
    (hk : row[p]? = some key) : (s.update key fields).1 = .ok (row ∪ fields.erase p) := by
  obtain ⟨slots, h, rfl⟩ := h
  obtain ⟨slot, hs, rfl⟩ := List.mem_map.mp hrow
  rw [Slot.getElem?_row] at hk
  cases hk
  rw [(h.update_ok fields hs).1, slot.row_union p fields]

theorem delete_of_ok {key : Value} {row : Row} (hd : (s.delete key).1 = .ok row) :
    row ∈ rows ∧ row[p]? = some key ∧
      (s.delete key).2.Shows p (rows.filter fun r => r[p]? ≠ some key) := by
  obtain ⟨slots, h, rfl⟩ := h
  by_cases hk : key ∈ slots.map Slot.key
  · obtain ⟨slot, hs, rfl⟩ := List.mem_map.mp hk
    obtain ⟨ha, hx⟩ := h.delete_ok hs
    cases ha.symm.trans hd
    refine ⟨List.mem_map_of_mem hs, slot.getElem?_row p, _, hx, ?_⟩
    rw [List.filter_map]
    congr 1
    apply List.filter_congr
    intro x _
    simp [Slot.getElem?_row]
  · rw [h.delete_error hk] at hd
    cases hd

theorem create_error {key : Value} {row : Row} (fields : Row) (hrow : row ∈ rows)
    (hk : row[p]? = some key) :
    s.create key fields = (.error (.duplicateEntry p key.display), s) := by
  obtain ⟨slots, h, rfl⟩ := h
  exact h.create_error fields (Slot.mem_map_key_iff.mpr ⟨row, hrow, hk⟩)

theorem update_error {key : Value} (fields : Row) (hk : ∀ row ∈ rows, row[p]? ≠ some key) :
    s.update key fields = (.error (.entryNotFound p key.display), s) := by
  obtain ⟨slots, h, rfl⟩ := h
  apply h.update_error
  intro hmem
  obtain ⟨row, hrow, hkey⟩ := Slot.mem_map_key_iff.mp hmem
  exact hk row hrow hkey

end Shows

end Store

end TableShell
