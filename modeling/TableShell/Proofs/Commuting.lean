import TableShell.Proofs.Snapshots

/-!
# Changes of different rows

Creating, updating or deleting a row asks for nothing and changes nothing but what is kept under its
key. So two such calls with different keys can change places: each of them answers as it would have
answered before the other, and afterwards the same rows are read, although the slots may lie
otherwise and may have been reclaimed in one order only. Of two new rows the later one is the last.
-/

namespace TableShell

namespace Call

def effect : Call → Option Row → Option Row
  | .create _ fields, none => some fields
  | .update _ fields, some old => some (old ∪ fields)
  | .delete _, some _ => none
  | _, fields? => fields?

def arrange : Call → List Value → List Value
  | .create key _, keys => if key ∈ keys then keys else keys ++ [key]
  | .delete key, keys => keys.filter (· ≠ key)
  | _, keys => keys

def Creates (c : Call) (a : Answer) : Prop :=
  ∃ key fields row, c = .create key fields ∧ a = .row (.ok row)

variable {c d : Call} {k l : Value} {keys : List Value}

/-- Only where both calls put a key at the end does it matter which one comes first. -/
theorem arrange_arrange_of_ne (hc : c.target? = some k) (hd : d.target? = some l) (hne : k ≠ l)
    (h : ∀ fields fields', c = .create k fields → d = .create l fields' → k ∈ keys ∨ l ∈ keys) :
    d.arrange (c.arrange keys) = c.arrange (d.arrange keys) := by
  cases c with
  | read _ => rfl
  | cursor => rfl
  | update _ _ => rfl
  | create _ fields =>
    cases hc
    cases d with
    | read _ => rfl
    | cursor => rfl
    | update _ _ => rfl
    | create _ fields' =>
      cases hd
      rcases h fields fields' rfl rfl with hk | hl
      · by_cases hl : l ∈ keys <;> simp [arrange, hk, hl]
      · by_cases hk : k ∈ keys <;> simp [arrange, hk, hl]
    | delete _ =>
      cases hd
      by_cases hk : k ∈ keys <;> simp [arrange, hk, hne]
  | delete _ =>
    cases hc
    cases d with
    | read _ => rfl
    | cursor => rfl
    | update _ _ => rfl
    | create _ fields' =>
      cases hd
      by_cases hl : l ∈ keys <;> simp [arrange, hl, hne.symm]
    | delete _ =>
      cases hd
      simp [arrange, List.filter_filter, Bool.and_comm]

end Call

namespace Ledger

variable {L L' : Ledger} {c d : Call} {key k l : Value}

theorem fields?_eq_none_iff : L.fields? key = none ↔ key ∉ L.keys := by
  constructor
  · intro h
    rw [← map_key_slots]
    exact L.notMem_slots_of_fields? h
  · intro h
    apply Option.eq_none_iff_forall_ne_some.mpr
    intro fields hf
    exact h (List.mem_map_of_mem (L.fields?_eq_some_iff.mp hf))

theorem fields?_call (hc : c.target? = some key) :
    (L.call c).2.fields? key = c.effect (L.fields? key) := by
  cases c with
  | read _ => cases hc
  | cursor => cases hc
  | create _ fields =>
    cases hc
    simp only [call, create, Prod.map_snd, id]
    split_ifs with hk
    · have hsome : L.fields? key ≠ none := mt fields?_eq_none_iff.mp (not_not.mpr hk)
      obtain ⟨old, hold⟩ := Option.ne_none_iff_exists'.mp hsome
      rw [hold]
      rfl
    · rw [fields?_eq_none_iff.mpr hk]
      exact (fields?_eq_some_iff _).mpr (List.mem_append_right _ (List.mem_singleton_self _))
  | update _ fields =>
    cases hc
    simp only [call, update, Prod.map_snd, id]
    cases hf : L.fields? key with
    | none => exact hf
    | some old =>
      refine (fields?_eq_some_iff _).mpr (List.mem_map.mpr ⟨_, L.fields?_eq_some_iff.mp hf, ?_⟩)
      rw [if_pos rfl]
  | delete _ =>
    cases hc
    simp only [call, delete, Prod.map_snd, id]
    cases hf : L.fields? key with
    | none => exact hf
    | some old =>
      refine fields?_eq_none_iff.mpr fun hmem => ?_
      obtain ⟨e, he, rfl⟩ := List.mem_map.mp hmem
      simp at he

theorem keys_call : (L.call c).2.keys = c.arrange L.keys := by
  cases c with
  | read _ => rfl
  | cursor => rfl
  | create key fields =>
    simp only [call, create, Prod.map_snd, id, Call.arrange]
    split_ifs with hk
    · rfl
    · exact List.map_append
  | update key fields =>
    simp only [call, update, Prod.map_snd, id, Call.arrange]
    cases L.fields? key with
    | none => rfl
    | some old => exact List.map_map
  | delete key =>
    simp only [call, delete, Prod.map_snd, id, Call.arrange]
    cases hf : L.fields? key with
    | none =>
      refine (List.filter_eq_self.mpr fun k hk => ?_).symm
      have hne : k ≠ key := fun he => fields?_eq_none_iff.mp hf (he ▸ hk)
      simpa using hne
    | some old =>
      dsimp only
      rw [keys, keys, List.filter_map]
      rfl

theorem call_fst_congr (hname : L.keyName = L'.keyName) (hc : c.target? = some key)
    (h : L.fields? key = L'.fields? key) : (L.call c).1 = (L'.call c).1 := by
  cases c with
  | read _ => cases hc
  | cursor => cases hc
  | create _ fields =>
    cases hc
    have hmem : key ∈ L.keys ↔ key ∈ L'.keys := by
      rw [← not_iff_not, ← fields?_eq_none_iff, ← fields?_eq_none_iff, h]
    simp only [call, create, Prod.map_fst, hmem]
    split_ifs
    · rw [hname]
    · rw [row, row, hname]
  | update _ fields =>
    cases hc
    simp only [call, update, Prod.map_fst, h]
    cases L'.fields? key with
    | none => dsimp only; rw [hname]
    | some old => dsimp only; rw [row, row, hname]
  | delete _ =>
    cases hc
    simp only [call, delete, Prod.map_fst, h]
    cases L'.fields? key with
    | none => dsimp only; rw [hname]
    | some old => dsimp only; rw [row, row, hname]

theorem read_congr (hname : L.keyName = L'.keyName) (h : L.fields? key = L'.fields? key) :
    L.read key = L'.read key := by
  unfold read row
  rw [h, hname]

theorem creates_iff :
    c.Creates (L.call c).1 ↔ ∃ key fields, c = .create key fields ∧ key ∉ L.keys := by
  constructor
  · rintro ⟨key, fields, row, rfl, hrow⟩
    refine ⟨key, fields, rfl, fun hk => ?_⟩
    simp [call, create, hk] at hrow
  · rintro ⟨key, fields, rfl, hk⟩
    refine ⟨key, fields, L.row (key, fields), rfl, ?_⟩
    simp [call, create, hk]

section Two

variable (hc : c.target? = some k) (hd : d.target? = some l) (hne : k ≠ l)
include hc hd hne

theorem call_call_fst : ((L.call d).2.call c).1 = (L.call c).1 := by
  have hother : d.target? ≠ some k := fun h => hne (Option.some.inj (h.symm.trans hd))
  exact call_fst_congr (L.keyName_call d rfl) hc (fields?_call_of_ne hother)

theorem fields?_call_call :
    ((L.call c).2.call d).2.fields? k = ((L.call d).2.call c).2.fields? k := by
  have hother : d.target? ≠ some k := fun h => hne (Option.some.inj (h.symm.trans hd))
  rw [fields?_call_of_ne hother, fields?_call hc, fields?_call hc, fields?_call_of_ne hother]

theorem read_call_call (key : Value) :
    ((L.call c).2.call d).2.read key = ((L.call d).2.call c).2.read key := by
  have hname : ((L.call c).2.call d).2.keyName = ((L.call d).2.call c).2.keyName :=
    (keyName_call _ d (L.keyName_call c rfl)).trans (keyName_call _ c (L.keyName_call d rfl)).symm
  apply read_congr hname
  by_cases hk : key = k
  · rw [hk]
    exact fields?_call_call hc hd hne
  · by_cases hl : key = l
    · rw [hl]
      exact (fields?_call_call hd hc hne.symm).symm
    · have hck : c.target? ≠ some key := fun h => hk (Option.some.inj (h.symm.trans hc))
      have hdk : d.target? ≠ some key := fun h => hl (Option.some.inj (h.symm.trans hd))
      rw [fields?_call_of_ne hdk, fields?_call_of_ne hck, fields?_call_of_ne hck,
        fields?_call_of_ne hdk]

theorem keys_call_call_of_not_creates
    (h : ¬ (c.Creates (L.call c).1 ∧ d.Creates (L.call d).1)) :
    ((L.call c).2.call d).2.keys = ((L.call d).2.call c).2.keys := by
  rw [keys_call, keys_call, keys_call, keys_call]
  refine Call.arrange_arrange_of_ne hc hd hne fun fields fields' hcreate hcreate' => ?_
  rw [creates_iff, creates_iff] at h
  by_contra hkeys
  obtain ⟨hk, hl⟩ := not_or.mp hkeys
  exact h ⟨⟨k, fields, hcreate, hk⟩, ⟨l, fields', hcreate', hl⟩⟩

theorem keys_call_call_of_creates (hx : c.Creates (L.call c).1) (hy : d.Creates (L.call d).1) :
    ((L.call c).2.call d).2.keys = L.keys ++ [k, l] := by
  obtain ⟨_, fields, rfl, hk⟩ := creates_iff.mp hx
  obtain ⟨_, fields', rfl, hl⟩ := creates_iff.mp hy
  cases hc
  cases hd
  have hl' : l ∉ L.keys ++ [k] := by simp [hl, hne.symm]
  rw [keys_call, keys_call, Call.arrange, Call.arrange, if_neg hk, if_neg hl', List.append_assoc]
  rfl

end Two

end Ledger

namespace Store

/-- In every state that calls lead to, two calls that create, update or delete rows with different
keys can change places: both give the same answers, and afterwards there are as many rows, the same
row is read under every key, and the keys have the same order, unless both calls have created a row;
then the keys of the two rows are the last ones, in the order of the calls. -/
theorem call_comm (p : String) (calls : List Call) (c d : Call) (k l : Value)
    (hc : c.target? = some k) (hd : d.target? = some l) (hne : k ≠ l) :
    let s := (run call (empty p) calls).2
    let keys := s.cursor.keys.toList
    let cd := (s.call c).2.call d
    let dc := (s.call d).2.call c
    let bothCreate := c.Creates (s.call c).1 ∧ d.Creates (s.call d).1
    dc.1 = (s.call c).1 ∧ cd.1 = (s.call d).1 ∧
      (∀ key, cd.2.read key = dc.2.read key) ∧ cd.2.size = dc.2.size ∧
      (¬ bothCreate → cd.2.cursor = dc.2.cursor) ∧
      (bothCreate → cd.2.cursor = ⟨(keys ++ [k, l]).toArray, 0⟩ ∧
        dc.2.cursor = ⟨(keys ++ [l, k]).toArray, 0⟩) := by
  intro s keys cd dc bothCreate
  let L := (run Ledger.call (.empty p) calls).2
  have h : s.Refines L := (refines_empty p).run calls
  have hcd : cd.2.Refines ((L.call c).2.call d).2 := ((h.call c).2.call d).2
  have hdc : dc.2.Refines ((L.call d).2.call c).2 := ((h.call d).2.call c).2
  have hother (key : Value) : cd.2.read key = dc.2.read key := by
    rw [hcd.read, hdc.read, Ledger.read_call_call hc hd hne]
  have hcreates : bothCreate ↔ c.Creates (L.call c).1 ∧ d.Creates (L.call d).1 := by
    rw [← (h.call c).1, ← (h.call d).1]
  have hkeys : keys = L.keys := by
    simp only [keys, h.cursor_eq]
  have hanswers : dc.1 = (s.call c).1 ∧ cd.1 = (s.call d).1 := by
    refine ⟨?_, ?_⟩
    · rw [((h.call d).2.call c).1, (h.call c).1, Ledger.call_call_fst hc hd hne]
    · rw [((h.call c).2.call d).1, (h.call d).1, Ledger.call_call_fst hd hc hne.symm]
  have hsame (hnot : ¬ bothCreate) :
      ((L.call c).2.call d).2.keys = ((L.call d).2.call c).2.keys :=
    Ledger.keys_call_call_of_not_creates hc hd hne (mt hcreates.mpr hnot)
  have hlast (hboth : bothCreate) : ((L.call c).2.call d).2.keys = keys ++ [k, l] ∧
      ((L.call d).2.call c).2.keys = keys ++ [l, k] := by
    obtain ⟨hx, hy⟩ := hcreates.mp hboth
    rw [hkeys]
    exact ⟨Ledger.keys_call_call_of_creates hc hd hne hx hy,
      Ledger.keys_call_call_of_creates hd hc hne.symm hy hx⟩
  refine ⟨hanswers.1, hanswers.2, hother, ?_, fun hnot => ?_, fun hboth => ?_⟩
  · rw [hcd.size_eq, hdc.size_eq]
    by_cases hboth : bothCreate
    · rw [(hlast hboth).1, (hlast hboth).2, List.length_append, List.length_append]
      rfl
    · rw [hsame hboth]
  · rw [hcd.cursor_eq, hdc.cursor_eq, hsame hnot]
  · rw [hcd.cursor_eq, hdc.cursor_eq, (hlast hboth).1, (hlast hboth).2]
    exact ⟨rfl, rfl⟩

/-- A row is deleted and another one created after thirty-one deletions. Slots are reclaimed if the
deletion comes first, and not if it comes second. -/
theorem call_comm_reclaimed :
    let numbers := (List.range 63).map fun n => Value.int (.ofNat n)
    let calls := numbers.map (.create · ∅) ++ (numbers.take 31).map .delete
    let s := (run call (empty "id") calls).2
    let c : Call := .delete (.int 62)
    let d : Call := .create (.int 63) ∅
    let cd := (s.call c).2.call d
    let dc := (s.call d).2.call c
    Value.int 62 ≠ .int 63 ∧ cd.2.slots.size = 32 ∧ dc.2.slots.size = 64 ∧
      dc.1 = (s.call c).1 ∧ cd.1 = (s.call d).1 ∧ (∀ key, cd.2.read key = dc.2.read key) ∧
      cd.2.cursor = dc.2.cursor := by
  intro numbers calls s c d cd dc
  have hne : Value.int 62 ≠ .int 63 := by decide
  have hdelete : ¬ c.Creates (s.call c).1 := by
    rintro ⟨key, fields, row, hcreate, -⟩
    change Call.delete _ = .create key fields at hcreate
    cases hcreate
  obtain ⟨hc, hd, hread, -, hcursor, -⟩ := call_comm "id" calls c d _ _ rfl rfl hne
  exact ⟨hne, by decide +kernel, by decide +kernel, hc, hd, hread, hcursor fun h => hdelete h.1⟩

end Store

end TableShell
