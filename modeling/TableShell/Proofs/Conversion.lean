import Mathlib.Data.List.Nodup
import TableShell.Proofs.Maps
import TableShell.Schema

/-!
# Converting entries

When the checks of an entry against a schema succeed, and with which row. A row conforms to a schema
if it has a value of the declared type for every column and nothing else.
-/

namespace TableShell.Schema

variable {S : Schema}

theorem column?_eq_some_iff {name : String} {c : Column} :
    S.column? name = some c ↔ c ∈ S.columns ∧ c.name = name := by
  unfold column?
  constructor
  · intro h
    exact ⟨List.mem_of_find?_eq_some h, by simpa using List.find?_some h⟩
  · rintro ⟨hc, rfl⟩
    cases hf : S.columns.find? (·.name == c.name) with
    | none =>
      have hne := List.find?_eq_none.mp hf c hc
      simp at hne
    | some d =>
      have hd : d.name = c.name := by simpa using List.find?_some hf
      rw [List.inj_on_of_nodup_map S.names_nodup (List.mem_of_find?_eq_some hf) hc hd]

theorem column?_isSome_iff {name : String} : (S.column? name).isSome ↔ name ∈ S.names := by
  rw [Option.isSome_iff_exists, names, List.mem_map]
  simp only [column?_eq_some_iff]

theorem key_mem_columns : S.key ∈ S.columns := by
  have h : S.key ∈ S.columns.filter Column.isKey := by
    rw [S.filter_isKey]
    exact List.mem_singleton_self S.key
  exact (List.mem_filter.mp h).1

theorem column?_key : S.column? S.key.name = some S.key :=
  column?_eq_some_iff.mpr ⟨key_mem_columns, rfl⟩

/-- The value that a text has in a column. -/
def value? (S : Schema) (name raw : String) : Option Value :=
  (S.column? name).bind fun c => (c.type.convert raw).toOption

theorem value?_key (raw : String) : S.value? S.key.name raw = (S.convertKey raw).toOption := by
  rw [value?, column?_key]
  rfl

theorem convertKey_eq_ok_iff {raw : String} {v : Value} :
    S.convertKey raw = .ok v ↔ S.value? S.key.name raw = some v := by
  rw [value?_key]
  cases S.convertKey raw <;> simp [Except.toOption]

theorem convertField_eq_ok_iff {field : String × String} {b : String × Value} :
    S.convertField field = .ok b ↔ b.1 = field.1 ∧ S.value? field.1 field.2 = some b.2 := by
  obtain ⟨name, v⟩ := b
  unfold convertField value?
  cases S.column? field.1 with
  | none => simp
  | some c =>
    dsimp only [Option.bind_some]
    cases c.type.convert field.2 with
    | error e => simp [Except.map, Except.toOption]
    | ok v' =>
      simp only [Except.map, Except.toOption, Except.ok.injEq, Prod.mk.injEq, Option.some.injEq]
      exact and_congr_left fun _ => eq_comm

/-- Conversion keeps the names, so no two converted fields have the same one if no two had it. -/
theorem map_fst_of_mapM_convertField {fields : List (String × String)}
    {values : List (String × Value)} (h : fields.mapM S.convertField = .ok values) :
    fields.map Prod.fst = values.map Prod.fst := by
  rw [← List.forall₂_eq_eq_eq, List.forall₂_map_left_iff, List.forall₂_map_right_iff]
  exact (mapM_eq_ok_iff.mp h).imp fun _ _ hf => (convertField_eq_ok_iff.mp hf).1.symm

theorem eq_filterMap_of_convertEntry {entry : Entry} {row : Row}
    (h : S.convertEntry entry = .ok row) : row = entry.filterMap S.value? := by
  unfold convertEntry at h
  cases hm : entry.toList.mapM S.convertField with
  | error e => rw [hm] at h; cases h
  | ok fields =>
    rw [hm] at h
    cases h
    have hnodup : (fields.map Prod.fst).Nodup := by
      rw [← map_fst_of_mapM_convertField hm, Std.ExtTreeMap.map_fst_toList_eq_keys]
      exact entry.nodup_keys
    apply Std.ExtTreeMap.ext_getElem?
    intro name
    apply Option.ext
    intro v
    rw [getElem?_ofList_eq_some_iff hnodup, mem_iff_of_mapM_eq_ok hm,
      Std.ExtTreeMap.getElem?_filterMap', Option.bind_eq_some_iff]
    constructor
    · rintro ⟨⟨name', raw⟩, hmem, hf⟩
      obtain ⟨rfl, hv⟩ := convertField_eq_ok_iff.mp hf
      exact ⟨raw, Std.ExtTreeMap.mem_toList_iff_getElem?_eq_some.mp hmem, hv⟩
    · rintro ⟨raw, hraw, hv⟩
      exact ⟨(name, raw), Std.ExtTreeMap.mem_toList_iff_getElem?_eq_some.mpr hraw,
        convertField_eq_ok_iff.mpr ⟨rfl, hv⟩⟩

theorem exists_convertEntry_eq_ok_iff {entry : Entry} :
    (∃ row, S.convertEntry entry = .ok row) ↔
      ∀ name raw, entry[name]? = some raw → (S.value? name raw).isSome := by
  have hmap : (∃ row, S.convertEntry entry = .ok row) ↔
      ∃ fields, entry.toList.mapM S.convertField = .ok fields := by
    unfold convertEntry
    cases entry.toList.mapM S.convertField with
    | error e => simp [Except.map]
    | ok fields => exact ⟨fun _ => ⟨fields, rfl⟩, fun _ => ⟨_, rfl⟩⟩
  rw [hmap, exists_mapM_eq_ok_iff]
  simp only [convertField_eq_ok_iff, Prod.forall, Std.ExtTreeMap.mem_toList_iff_getElem?_eq_some,
    Option.isSome_iff_exists]
  constructor
  · intro h name raw hraw
    obtain ⟨b, -, hb⟩ := h name raw hraw
    exact ⟨b.2, hb⟩
  · intro h name raw hraw
    obtain ⟨v, hv⟩ := h name raw hraw
    exact ⟨(name, v), rfl, hv⟩

theorem convertEntry_eq_ok_iff {entry : Entry} {row : Row} :
    S.convertEntry entry = .ok row ↔
      (∀ name raw, entry[name]? = some raw → (S.value? name raw).isSome) ∧
        row = entry.filterMap S.value? := by
  rw [← exists_convertEntry_eq_ok_iff]
  constructor
  · exact fun h => ⟨⟨row, h⟩, eq_filterMap_of_convertEntry h⟩
  · rintro ⟨⟨row', h⟩, rfl⟩
    rw [h, eq_filterMap_of_convertEntry h]

theorem missingKeys_eq_nil_iff {entry : Entry} :
    S.missingKeys entry = [] ↔ ∀ name ∈ S.names, name ∈ entry := by
  simp [missingKeys, List.filter_eq_nil_iff]

theorem extraKeys_eq_nil_iff {entry : Entry} :
    S.extraKeys entry = [] ↔ ∀ name ∈ entry, name ∈ S.names := by
  simp [extraKeys, List.filter_eq_nil_iff, hasColumn, ← column?_isSome_iff,
    Option.isSome_iff_ne_none]

theorem validateKeys_eq_ok_iff {entry : Entry} {noMissing noExtra : Bool} :
    S.validateKeys entry noMissing noExtra = .ok () ↔
      (noMissing = true → ∀ name ∈ S.names, name ∈ entry) ∧
        (noExtra = true → ∀ name ∈ entry, name ∈ S.names) := by
  rw [← missingKeys_eq_nil_iff, ← extraKeys_eq_nil_iff]
  unfold validateKeys
  split_ifs with h₁ h₂
  · simp_all
  · simp_all
  · simp_all

def converted (S : Schema) (pairs : List (String × String)) : Row :=
  Std.ExtTreeMap.filterMap S.value? (Std.ExtTreeMap.ofList pairs)

variable {pairs : List (String × String)}

theorem getElem?_converted_eq_some_iff (hp : (pairs.map Prod.fst).Nodup) {name : String}
    {v : Value} : (S.converted pairs)[name]? = some v ↔
      ∃ raw, (name, raw) ∈ pairs ∧ S.value? name raw = some v := by
  rw [converted, Std.ExtTreeMap.getElem?_filterMap', Option.bind_eq_some_iff]
  simp only [getElem?_ofList_eq_some_iff hp]

/-- No name comes twice, each text has a value in its column, and the row has these values. -/
def Takes (S : Schema) (pairs : List (String × String)) (row : Row) : Prop :=
  (pairs.map Prod.fst).Nodup ∧
    ∀ p ∈ pairs, ∃ v, S.value? p.1 p.2 = some v ∧ row[p.1]? = some v

theorem takes_converted (hp : (pairs.map Prod.fst).Nodup)
    (hall : ∀ p ∈ pairs, (S.value? p.1 p.2).isSome) : S.Takes pairs (S.converted pairs) := by
  refine ⟨hp, fun p hmem => ?_⟩
  obtain ⟨v, hv⟩ := Option.isSome_iff_exists.mp (hall p hmem)
  exact ⟨v, hv, (getElem?_converted_eq_some_iff hp).mpr ⟨p.2, hmem, hv⟩⟩

theorem Takes.union {row fields : Row} (h : S.Takes pairs fields) :
    S.Takes pairs (row ∪ fields) := by
  refine ⟨h.1, fun p hmem => ?_⟩
  obtain ⟨v, hv, hget⟩ := h.2 p hmem
  refine ⟨v, hv, ?_⟩
  rw [Std.ExtTreeMap.getElem?_union, hget, Option.some_or]

theorem notMem_converted (hp : (pairs.map Prod.fst).Nodup) {name : String}
    (hname : name ∉ pairs.map Prod.fst) : name ∉ S.converted pairs := by
  rw [Std.ExtTreeMap.mem_iff_isSome_getElem?, Option.isSome_iff_exists]
  rintro ⟨v, hv⟩
  obtain ⟨raw, hmem, -⟩ := (getElem?_converted_eq_some_iff hp).mp hv
  exact hname (List.mem_map_of_mem hmem)

theorem convertEntry_ofList_eq_ok_iff (hp : (pairs.map Prod.fst).Nodup) {row : Row} :
    S.convertEntry (Std.ExtTreeMap.ofList pairs) = .ok row ↔
      (∀ p ∈ pairs, (S.value? p.1 p.2).isSome) ∧ row = S.converted pairs := by
  rw [convertEntry_eq_ok_iff]
  simp only [getElem?_ofList_eq_some_iff hp, Prod.forall]
  rfl

theorem mem_ofList_iff {name : String} :
    name ∈ (Std.ExtTreeMap.ofList pairs : Entry) ↔ name ∈ pairs.map Prod.fst := by
  rw [Std.ExtTreeMap.mem_ofList, List.contains_iff_mem]

end TableShell.Schema

namespace TableShell

theorem Entry.ofPairs_eq_ok_iff {pairs : List (String × String)} {entry : Entry} :
    Entry.ofPairs pairs = .ok entry ↔
      (pairs.map Prod.fst).Nodup ∧ entry = Std.ExtTreeMap.ofList pairs := by
  unfold Entry.ofPairs
  rw [← firstRepeated?_nil_eq_none_iff]
  cases firstRepeated? [] (pairs.map Prod.fst) with
  | none => simp [eq_comm]
  | some key => simp

namespace Schema

def Typed (S : Schema) (row : Row) : Prop :=
  ∀ name v, row[name]? = some v → ∃ c, S.column? name = some c ∧ FieldType.ofValue v = c.type

/-- The row has a value for every column, of its type, and nothing else. -/
structure Conforms (S : Schema) (row : Row) : Prop where
  mem_iff : ∀ name, name ∈ row ↔ name ∈ S.names
  type_eq : ∀ c ∈ S.columns, ∀ v, row[c.name]? = some v → FieldType.ofValue v = c.type

variable {S : Schema} {pairs : List (String × String)} {row fields : Row}

theorem conforms_iff : S.Conforms row ↔ S.Typed row ∧ ∀ name ∈ S.names, name ∈ row := by
  constructor
  · intro h
    refine ⟨fun name v hv => ?_, fun name => (h.mem_iff name).mpr⟩
    have hname : name ∈ row := by
      rw [Std.ExtTreeMap.mem_iff_isSome_getElem?, hv]
      rfl
    have hcolumn := column?_isSome_iff.mpr ((h.mem_iff name).mp hname)
    obtain ⟨c, hc⟩ := Option.isSome_iff_exists.mp hcolumn
    obtain ⟨hmem, rfl⟩ := column?_eq_some_iff.mp hc
    exact ⟨c, hc, h.type_eq c hmem v hv⟩
  · rintro ⟨ht, hall⟩
    constructor
    · intro name
      refine ⟨fun hname => ?_, hall name⟩
      rw [Std.ExtTreeMap.mem_iff_isSome_getElem?, Option.isSome_iff_exists] at hname
      obtain ⟨v, hv⟩ := hname
      obtain ⟨c, hc, -⟩ := ht name v hv
      exact column?_isSome_iff.mp (Option.isSome_of_eq_some hc)
    · intro c hc v hv
      obtain ⟨d, hd, htype⟩ := ht c.name v hv
      rw [column?_eq_some_iff.mpr ⟨hc, rfl⟩] at hd
      cases hd
      exact htype

theorem typed_converted : S.Typed (S.converted pairs) := by
  intro name v hv
  rw [converted, Std.ExtTreeMap.getElem?_filterMap'] at hv
  obtain ⟨raw, -, hv⟩ := Option.bind_eq_some_iff.mp hv
  obtain ⟨c, hc, hv⟩ := Option.bind_eq_some_iff.mp hv
  refine ⟨c, hc, ?_⟩
  cases hconv : c.type.convert raw with
  | error e => rw [hconv] at hv; cases hv
  | ok v' =>
    rw [hconv] at hv
    cases hv
    exact FieldType.ofValue_of_convert hconv

theorem Typed.erase (h : S.Typed row) (name : String) : S.Typed (row.erase name) := by
  intro name' v hv
  rw [getElem?_erase_row] at hv
  split_ifs at hv
  exact h name' v hv

theorem Conforms.union (h : S.Conforms row) (hf : S.Typed fields) : S.Conforms (row ∪ fields) := by
  obtain ⟨ht, hall⟩ := conforms_iff.mp h
  refine conforms_iff.mpr ⟨fun name v hv => ?_, fun name hname => ?_⟩
  · rw [Std.ExtTreeMap.getElem?_union, Option.or_eq_some_iff] at hv
    rcases hv with hv | ⟨-, hv⟩
    · exact hf name v hv
    · exact ht name v hv
  · exact Std.ExtTreeMap.mem_union_of_left (hall name hname)

theorem conforms_converted (hp : (pairs.map Prod.fst).Nodup)
    (hnames : ∀ name, name ∈ S.names ↔ name ∈ pairs.map Prod.fst)
    (hall : ∀ p ∈ pairs, (S.value? p.1 p.2).isSome) : S.Conforms (S.converted pairs) := by
  refine conforms_iff.mpr ⟨typed_converted, fun name hname => ?_⟩
  obtain ⟨⟨_, raw⟩, hmem, rfl⟩ := List.mem_map.mp ((hnames name).mp hname)
  obtain ⟨v, hv⟩ := Option.isSome_iff_exists.mp (hall _ hmem)
  have hget := (getElem?_converted_eq_some_iff hp).mpr ⟨raw, hmem, hv⟩
  rw [Std.ExtTreeMap.mem_iff_isSome_getElem?, hget]
  rfl

end Schema

end TableShell
