import TableShell.Proofs.Queries

/-!
# Getting and listing a row

A row can be looked up by its key through the index, and it can be found by a query that filters on
the column of the key. The two ways agree in every state, also where there is no such row and where
the text is no key at all.
-/

namespace TableShell

theorem Store.Shows.filter_eq_singleton {s : Store} {p : String} {rows : List Row}
    (h : s.Shows p rows) {key : Value} {row : Row} (hrow : row ∈ rows) (hk : row[p]? = some key) :
    (rows.filter fun r => r[p]? = some key) = [row] := by
  have hnodup : rows.Nodup := h.nodup_keys.of_map _
  rw [← List.perm_singleton,
    List.perm_ext_iff_of_nodup (hnodup.filter _) (List.nodup_singleton row)]
  intro r
  rw [List.mem_filter, List.mem_singleton, decide_eq_true_eq]
  constructor
  · rintro ⟨hr, hrk⟩
    exact h.eq_of_key_eq hr hrow (hrk.trans hk.symm)
  · rintro rfl
    exact ⟨hrow, hk⟩

namespace Query

variable {S : Schema} {name raw : String} {c : Column}

theorem ofPairs_one (hname : isDirective name = false) (hc : S.column? name = some c) :
    ofPairs S [(name, raw)] =
      (c.type.convert raw).map fun v => ⟨Std.ExtTreeMap.ofList [(name, v)], []⟩ := by
  have hvalid : S.validateKeys (Std.ExtTreeMap.ofList [(name, raw)]) false true = .ok () := by
    rw [Request.validateKeys_ofList_eq_ok_iff]
    refine ⟨fun h => absurd h Bool.false_ne_true, fun name' hname' => ?_⟩
    rw [List.mem_singleton.mp hname']
    exact Schema.column?_isSome_iff.mp (Option.isSome_of_eq_some hc)
  have hconvert : S.convertEntry (Std.ExtTreeMap.ofList [(name, raw)]) =
      (c.type.convert raw).map fun v => Std.ExtTreeMap.ofList [(name, v)] := by
    change ([(name, raw)].mapM S.convertField).map _ = _
    rw [List.mapM_cons, List.mapM_nil, Schema.convertField, hc]
    dsimp only
    cases c.type.convert raw <;> rfl
  have hentry : Entry.ofPairs [(name, raw)] = .ok (Std.ExtTreeMap.ofList [(name, raw)]) := rfl
  simp only [ofPairs, List.filter_cons, hname, Bool.false_eq_true, if_false, Bool.not_false,
    if_true, List.filter_nil, List.mapM_nil, hentry]
  dsimp only [bind, Except.bind, pure, Except.pure]
  rw [hvalid]
  dsimp only
  rw [hconvert]
  cases c.type.convert raw <;> rfl

theorem accepts_one {v : Value} {sort : List SortKey} {row : Row} :
    accepts ⟨Std.ExtTreeMap.ofList [(name, v)], sort⟩ row = decide (row[name]? = some v) := by
  rw [accepts, all_eq_all_toList, Bool.eq_iff_iff, decide_eq_true_eq]
  change (row[name]? == some v && true) = true ↔ _
  rw [Bool.and_true, beq_iff_eq]

end Query

namespace Session

variable {S : Schema} {r : Registry} {db : Session} {rows : List Row} {name raw : String}
  {c : Column}

theorem handle_get (h : db.Follows S r rows) :
    (db.handle .get [.value raw]).1 =
      S.convertKey raw >>= fun key => (db.store.read key).map .ofRow := by
  have hrequest : Request.ofAction db.schema db.registry [.value raw] .get =
      (S.convertKey raw).map .read := by
    rw [h.schema_eq]
    rfl
  rw [handle, hrequest]
  cases S.convertKey raw <;> rfl

/-- A list with one filter answers the rows with the value, in the order of their creation. -/
theorem handle_list_one (h : db.Follows S r rows) (hname : Query.isDirective name = false)
    (hc : S.column? name = some c) :
    (db.handle .list [.pair name raw]).1 = (c.type.convert raw).map fun v =>
      { rows := rows.filter fun row => row[name]? = some v } := by
  have hrequest : Request.ofAction db.schema db.registry [.pair name raw] .list =
      (Query.ofPairs S [(name, raw)]).map .select := by
    rw [h.schema_eq]
    rfl
  rw [handle, hrequest, Query.ofPairs_one hname hc]
  cases c.type.convert raw with
  | error e => rfl
  | ok v =>
    have haccepts : (Query.mk (Std.ExtTreeMap.ofList [(name, v)]) []).accepts = fun row =>
        decide (row[name]? = some v) := funext fun _ => Query.accepts_one
    simp only [Except.map, Request.perform, Request.run_eq h.shows, sortRows_nil, haccepts]

/-- In every state that a session reaches, getting the row of a key and listing the rows with the
key answer alike: one row, or none, or that the text is no key. -/
theorem get_eq_list (S : Schema) (r : Registry) (hname : Query.isDirective S.key.name = false)
    (lines : List String) (raw : String) :
    let db := (run execute (start S r) lines).2
    let get := (db.handle .get [.value raw]).1
    let list := (db.handle .list [.pair S.key.name raw]).1
    (∀ o, get = .ok o → ∃ row, o = .ofRow row) ∧
      (∀ row, get = .ok (.ofRow row) ↔ list = .ok (.ofRow row)) ∧
      ((∃ field value, get = .error (.entryNotFound field value)) ↔ list = .ok { rows := [] }) ∧
      ∀ e, S.convertKey raw = .error e →
        get = .error e ∧ list = .error e ∧ e.kind = .entryInvalid := by
  intro db get list
  have h := follows_run (follows_start S r) lines
  have hget : get = S.convertKey raw >>= fun key => (db.store.read key).map .ofRow := handle_get h
  have hlist : list = (S.convertKey raw).map _ := handle_list_one h hname Schema.column?_key
  rw [hget, hlist]
  cases hkey : S.convertKey raw with
  | error e =>
    have hkind : e.kind = .entryInvalid := FieldType.kind_of_convert_error hkey
    refine ⟨fun o ho => ?_, fun row => ?_, ?_, fun e' he => ?_⟩
    · cases ho
    · simp [bind, Except.bind, Except.map]
    · constructor
      · rintro ⟨field, value, he⟩
        cases he
        cases hkind
      · intro hl
        cases hl
    · cases he
      exact ⟨rfl, rfl, hkind⟩
  | ok key =>
    simp only [bind, Except.bind, Except.map]
    by_cases hfound : ∃ row ∈ (start S r).replay [] lines, row[S.key.name]? = some key
    · obtain ⟨row, hrow, hk⟩ := hfound
      rw [h.shows.filter_eq_singleton hrow hk, h.shows.read_ok hrow hk]
      simp [Outcome.ofRow]
    · push Not at hfound
      rw [h.shows.read_error hfound, List.filter_eq_nil_iff.mpr (by simpa using hfound)]
      simp [Outcome.ofRow]

/-- The row of the key was deleted, and its key is spelled in another way. -/
theorem get_eq_list_deleted :
    let db := (run execute (start .staff .builtin) ["add id 1 name Ada day 1815-12-10", "del 1"]).2
    Query.isDirective Schema.staff.key.name = false ∧
      (db.handle .get [.value "01"]).1 = .error (.entryNotFound "id" "1") ∧
      (db.handle .list [.pair "id" "01"]).1 = .ok { rows := [] } := by
  intro db
  have hname : Query.isDirective Schema.staff.key.name = false := by decide
  have hget : (db.handle .get [.value "01"]).1 = .error (.entryNotFound "id" "1") := by
    decide +kernel
  have h := get_eq_list .staff .builtin hname ["add id 1 name Ada day 1815-12-10", "del 1"] "01"
  exact ⟨hname, hget, h.2.2.1.mp ⟨"id", "1", hget⟩⟩

end Session

end TableShell
