import TableShell.Proofs.Conversion
import TableShell.Proofs.Rows
import TableShell.Request

/-!
# Checked and performed requests

Which arguments give which request, and what performing it leaves behind.
-/

namespace TableShell

namespace Store

variable {s : Store} {key : Value} {fields : Row} {e : Error}

theorem create_snd_of_error (h : (s.create key fields).1 = .error e) :
    (s.create key fields).2 = s := by
  unfold create at *
  split_ifs at *
  rfl

theorem update_snd_of_error (h : (s.update key fields).1 = .error e) :
    (s.update key fields).2 = s := by
  unfold update at *
  cases hf : s.find? key with
  | none => rfl
  | some p => rw [hf] at h; cases h

theorem delete_snd_of_error (h : (s.delete key).1 = .error e) : (s.delete key).2 = s := by
  unfold delete at *
  cases hf : s.find? key with
  | none => rfl
  | some p => rw [hf] at h; cases h

end Store

namespace Request

def reads : Request → Prop
  | .read _ | .select _ | .notice _ => True
  | .create _ _ | .delete _ | .update _ _ => False

theorem perform_snd_of_reads {s : Store} {q : Request} (h : q.reads) : (perform s q).2 = s := by
  cases q with
  | read key => rfl
  | select query => rfl
  | notice text => rfl
  | create key fields => exact h.elim
  | delete key => exact h.elim
  | update key fields => exact h.elim

theorem perform_snd_of_error {s : Store} {q : Request} {e : Error}
    (h : (perform s q).1 = .error e) : (perform s q).2 = s := by
  have hmap {x : Except Error Row} (hx : x.map Outcome.ofRow = .error e) : x = .error e := by
    cases x with
    | error e' => exact congrArg Except.error (Except.error.inj hx)
    | ok row => cases hx
  cases q with
  | create key fields => exact Store.create_snd_of_error (hmap h)
  | delete key => exact Store.delete_snd_of_error (hmap h)
  | update key fields => exact Store.update_snd_of_error (hmap h)
  | read key => rfl
  | select query => rfl
  | notice text => rfl

/-- The rows after a request that succeeds, in a table with the key under `p`. -/
def after (p : String) (rows : List Row) : Request → List Row
  | .create key fields => rows ++ [(fields.erase p).insert p key]
  | .delete key => rows.filter fun r => r[p]? ≠ some key
  | .update key fields => rows.map fun r => if r[p]? = some key then r ∪ fields.erase p else r
  | .read _ | .select _ | .notice _ => rows

theorem after_of_reads {p : String} {rows : List Row} {q : Request} (h : q.reads) :
    q.after p rows = rows := by
  cases q with
  | read key => rfl
  | select query => rfl
  | notice text => rfl
  | create key fields => exact h.elim
  | delete key => exact h.elim
  | update key fields => exact h.elim

/-- What holds of every row still does, if it holds of a new row and is kept by an update. -/
theorem forall_after {p : String} {rows : List Row} {q : Request} {P : Row → Prop}
    (hcreate : ∀ key fields, q = .create key fields → P ((fields.erase p).insert p key))
    (hupdate : ∀ key fields, q = .update key fields → ∀ row, P row → P (row ∪ fields.erase p))
    (h : ∀ row ∈ rows, P row) : ∀ row ∈ q.after p rows, P row := by
  cases q with
  | create key fields =>
    intro row hrow
    rcases List.mem_append.mp hrow with hrow | hrow
    · exact h row hrow
    · rw [List.mem_singleton.mp hrow]
      exact hcreate key fields rfl
  | update key fields =>
    intro row hrow
    obtain ⟨old, hold, rfl⟩ := List.mem_map.mp hrow
    split_ifs
    · exact hupdate key fields rfl old (h old hold)
    · exact h old hold
  | delete key => exact fun row hrow => h row (List.mem_filter.mp hrow).1
  | read key => exact h
  | select query => exact h
  | notice text => exact h

section Perform

variable {s : Store} {p : String} {rows : List Row} {q : Request} {o : Outcome}

theorem map_ofRow_eq_ok_iff {x : Except Error Row} :
    x.map Outcome.ofRow = .ok o ↔ ∃ row, x = .ok row ∧ o = .ofRow row := by
  rw [map_eq_ok_iff]
  simp only [eq_comm]

theorem run_eq (h : s.Shows p rows) (query : Query) :
    query.run s = .ok (sortRows query.sort (rows.filter query.accepts)) := by
  rw [Query.run, h.scan_cursor]
  rfl

theorem shows_perform (h : s.Shows p rows) (ho : (q.perform s).1 = .ok o) :
    (q.perform s).2.Shows p (q.after p rows) := by
  cases q with
  | create key fields =>
    obtain ⟨row, hrow, rfl⟩ := map_ofRow_eq_ok_iff.mp ho
    obtain ⟨rfl, hs⟩ := h.create_of_ok hrow
    exact hs
  | delete key =>
    obtain ⟨row, hrow, rfl⟩ := map_ofRow_eq_ok_iff.mp ho
    exact (h.delete_of_ok hrow).2.2
  | update key fields =>
    obtain ⟨row, hrow, rfl⟩ := map_ofRow_eq_ok_iff.mp ho
    obtain ⟨_, _, _, _, hs⟩ := h.update_of_ok hrow
    exact hs
  | read key => exact h
  | select query => exact h
  | notice text => exact h

theorem mem_of_perform (h : s.Shows p rows) (ho : (q.perform s).1 = .ok o) :
    ∀ row ∈ o.rows, row ∈ rows ∨ row ∈ q.after p rows := by
  cases q with
  | create key fields =>
    obtain ⟨row, hrow, rfl⟩ := map_ofRow_eq_ok_iff.mp ho
    obtain ⟨rfl, -⟩ := h.create_of_ok hrow
    intro row hmem
    exact Or.inr (List.mem_append_right rows hmem)
  | delete key =>
    obtain ⟨row, hrow, rfl⟩ := map_ofRow_eq_ok_iff.mp ho
    intro row' hmem
    rw [List.mem_singleton.mp hmem]
    exact Or.inl (h.delete_of_ok hrow).1
  | update key fields =>
    obtain ⟨row, hrow, rfl⟩ := map_ofRow_eq_ok_iff.mp ho
    obtain ⟨old, hold, hkey, rfl, -⟩ := h.update_of_ok hrow
    intro row' hmem
    rw [List.mem_singleton.mp hmem]
    exact Or.inr (List.mem_map.mpr ⟨old, hold, if_pos hkey⟩)
  | read key =>
    obtain ⟨row, hrow, rfl⟩ := map_ofRow_eq_ok_iff.mp ho
    intro row' hmem
    rw [List.mem_singleton.mp hmem]
    exact Or.inl (h.read_eq_ok_iff.mp hrow).1
  | select query =>
    rw [perform, run_eq h] at ho
    cases ho
    intro row hmem
    exact Or.inl (List.mem_filter.mp (List.mem_mergeSort.mp hmem)).1
  | notice text =>
    cases ho
    intro row hmem
    cases hmem

end Perform

theorem perform_cases {s : Store} {q : Request} {o : Outcome} (ho : (q.perform s).1 = .ok o) :
    (∃ row, o = .ofRow row) ∨ (∃ query rows, q = .select query ∧ o = { rows }) ∨
      ∃ text, q = .notice text ∧ o = { notice := some text } := by
  cases q with
  | create key fields =>
    obtain ⟨row, -, rfl⟩ := map_ofRow_eq_ok_iff.mp ho
    exact Or.inl ⟨row, rfl⟩
  | delete key =>
    obtain ⟨row, -, rfl⟩ := map_ofRow_eq_ok_iff.mp ho
    exact Or.inl ⟨row, rfl⟩
  | read key =>
    obtain ⟨row, -, rfl⟩ := map_ofRow_eq_ok_iff.mp ho
    exact Or.inl ⟨row, rfl⟩
  | update key fields =>
    obtain ⟨row, -, rfl⟩ := map_ofRow_eq_ok_iff.mp ho
    exact Or.inl ⟨row, rfl⟩
  | select query =>
    obtain ⟨rows, -, rfl⟩ := map_eq_ok_iff.mp ho
    exact Or.inr (Or.inl ⟨query, rows, rfl, rfl⟩)
  | notice text =>
    cases ho
    exact Or.inr (Or.inr ⟨text, rfl, rfl⟩)

/-- What answers with rows has no text to show. -/
theorem notice_of_perform {s : Store} {q : Request} {o : Outcome} (ho : (q.perform s).1 = .ok o)
    (hrows : o.rows ≠ []) : o.notice = none := by
  rcases perform_cases ho with ⟨row, rfl⟩ | ⟨query, rows, -, rfl⟩ | ⟨text, -, rfl⟩
  · rfl
  · rfl
  · exact absurd rfl hrows

variable {S : Schema} {r : Registry} {args : List Argument} {pairs : List (String × String)}
  {q : Request}

theorem toPair_eq_ok_iff {arg : Argument} {p : String × String} :
    arg.toPair = .ok p ↔ arg = .pair p.1 p.2 := by
  cases arg with
  | pair k v =>
    rw [Argument.toPair, Except.ok.injEq, Argument.pair.injEq, Prod.ext_iff]
  | key k => simp [Argument.toPair]
  | value v => simp [Argument.toPair]

theorem mapM_toPair_eq_ok_iff :
    args.mapM Argument.toPair = .ok pairs ↔ args = pairs.map fun p => .pair p.1 p.2 := by
  rw [mapM_eq_ok_iff, ← List.forall₂_eq_eq_eq, List.forall₂_map_right_iff]
  simp only [toPair_eq_ok_iff]

theorem singleValue_eq_ok_iff {raw : String} :
    singleValue args = .ok raw ↔ args = [.value raw] := by
  unfold singleValue
  split
  · simp
  · simp_all

theorem validateKeys_ofList_eq_ok_iff {noMissing : Bool} :
    S.validateKeys (Std.ExtTreeMap.ofList pairs) noMissing true = .ok () ↔
      (noMissing = true → ∀ name ∈ S.names, name ∈ pairs.map Prod.fst) ∧
        ∀ name ∈ pairs.map Prod.fst, name ∈ S.names := by
  rw [Schema.validateKeys_eq_ok_iff]
  simp only [Schema.mem_ofList_iff, forall_const]

theorem ofAdd_eq_ok_iff :
    ofAdd S pairs = .ok q ↔
      (pairs.map Prod.fst).Nodup ∧ (∀ name, name ∈ S.names ↔ name ∈ pairs.map Prod.fst) ∧
        (∀ p ∈ pairs, (S.value? p.1 p.2).isSome) ∧
        ∃ key, (S.converted pairs)[S.key.name]? = some key ∧
          q = .create key ((S.converted pairs).erase S.key.name) := by
  unfold ofAdd
  simp only [bind_eq_ok_iff, Entry.ofPairs_eq_ok_iff]
  constructor
  · rintro ⟨entry, ⟨hp, rfl⟩, ⟨⟩, hnames, row, hrow, hq⟩
    obtain ⟨hall, rfl⟩ := (Schema.convertEntry_ofList_eq_ok_iff hp).mp hrow
    obtain ⟨hmissing, hextra⟩ := validateKeys_ofList_eq_ok_iff.mp hnames
    refine ⟨hp, fun name => ⟨hmissing rfl name, hextra name⟩, hall, ?_⟩
    cases hkey : (S.converted pairs)[S.key.name]? with
    | none => rw [hkey] at hq; cases hq
    | some key =>
      rw [hkey] at hq
      exact ⟨key, rfl, (Except.ok.inj hq).symm⟩
  · rintro ⟨hp, hnames, hall, key, hkey, rfl⟩
    have hvalid : S.validateKeys (Std.ExtTreeMap.ofList pairs) true true = .ok () :=
      validateKeys_ofList_eq_ok_iff.mpr
        ⟨fun _ name => (hnames name).mp, fun name => (hnames name).mpr⟩
    refine ⟨_, ⟨hp, rfl⟩, (), hvalid, S.converted pairs,
      (Schema.convertEntry_ofList_eq_ok_iff hp).mpr ⟨hall, rfl⟩, ?_⟩
    rw [hkey]
    rfl

theorem ofModify_eq_ok_iff :
    ofModify S pairs = .ok q ↔
      ∃ raw updates key, pairs = (S.key.name, raw) :: updates ∧
        S.key.name ∉ updates.map Prod.fst ∧ (updates.map Prod.fst).Nodup ∧
        (∀ name ∈ updates.map Prod.fst, name ∈ S.names) ∧
        S.value? S.key.name raw = some key ∧ (∀ p ∈ updates, (S.value? p.1 p.2).isSome) ∧
        q = .update key (S.converted updates) := by
  unfold ofModify
  split
  · simp [throw, throwThe, MonadExceptOf.throw]
  · rename_i name raw updates
    have hany : updates.any (·.1 == S.key.name) = true ↔ S.key.name ∈ updates.map Prod.fst := by
      simp
    constructor
    · intro h
      by_cases hname : name = S.key.name
      · by_cases hkey : S.key.name ∈ updates.map Prod.fst
        · rw [if_neg (not_not.mpr hname), if_pos (hany.mpr hkey)] at h
          cases h
        rw [if_neg (not_not.mpr hname), if_neg (mt hany.mp hkey)] at h
        simp only [bind_eq_ok_iff, Entry.ofPairs_eq_ok_iff] at h
        obtain ⟨entry, ⟨hp, rfl⟩, ⟨⟩, hnames, key, hraw, row, hrow, hq⟩ := h
        obtain ⟨hall, rfl⟩ := (Schema.convertEntry_ofList_eq_ok_iff hp).mp hrow
        exact ⟨raw, updates, key, by rw [hname], hkey, hp,
          (validateKeys_ofList_eq_ok_iff.mp hnames).2, Schema.convertKey_eq_ok_iff.mp hraw, hall,
          (Except.ok.inj hq).symm⟩
      · rw [if_pos hname] at h
        split_ifs at h <;> cases h
    · rintro ⟨raw', updates', key, hpairs, hkey, hp, hnames, hraw, hall, rfl⟩
      cases hpairs
      have hvalid : S.validateKeys (Std.ExtTreeMap.ofList updates) false true = .ok () :=
        validateKeys_ofList_eq_ok_iff.mpr ⟨fun h => absurd h Bool.false_ne_true, hnames⟩
      rw [if_neg (not_not.mpr rfl), if_neg (mt hany.mp hkey)]
      simp only [bind_eq_ok_iff, Entry.ofPairs_eq_ok_iff]
      exact ⟨_, ⟨hp, rfl⟩, (), hvalid, key, Schema.convertKey_eq_ok_iff.mpr hraw, _,
        (Schema.convertEntry_ofList_eq_ok_iff hp).mpr ⟨hall, rfl⟩, rfl⟩

end Request

end TableShell
