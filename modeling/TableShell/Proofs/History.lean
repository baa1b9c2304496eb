import TableShell.Proofs.Faults
import TableShell.Proofs.Replay

/-!
# History of a session

With the built-in commands the rows of a session are determined by its history, which is replayed
here on a plain list of rows, without any store.
-/

namespace TableShell

namespace Schema

/-- The rows after a line that succeeds. -/
def record (S : Schema) (rows : List Row) (line : String) : List Row :=
  match Words.split line with
  | "add" :: fields => rows ++ [S.converted (pairsOf fields)]
  | "mod" :: _ :: raw :: fields => rows.map fun row =>
    if row[S.key.name]? = S.value? S.key.name raw then row ∪ S.converted (pairsOf fields) else row
  | ["del", raw] => rows.filter fun row => row[S.key.name]? ≠ S.value? S.key.name raw
  | _ => rows

def note (S : Schema) (rows : List Row) (entry : String × Except Error Outcome) : List Row :=
  if entry.2.isOk then S.record rows entry.1 else rows

def history (S : Schema) (entries : List (String × Except Error Outcome)) : List Row :=
  entries.foldl S.note []

theorem record_of_add {S : Schema} {rows : List Row} {line : String} {fields : List String}
    (hl : Words.split line = "add" :: fields) :
    S.record rows line = rows ++ [S.converted (pairsOf fields)] := by
  simp only [record, hl]

theorem record_of_modify {S : Schema} {rows : List Row} {line name raw : String}
    {fields : List String} {key : Value} (hl : Words.split line = "mod" :: name :: raw :: fields)
    (hkey : S.value? S.key.name raw = some key) :
    S.record rows line = rows.map fun row =>
      if row[S.key.name]? = some key then row ∪ S.converted (pairsOf fields) else row := by
  simp only [record, hl, hkey]

theorem record_of_delete {S : Schema} {rows : List Row} {line raw : String} {key : Value}
    (hl : Words.split line = ["del", raw]) (hkey : S.value? S.key.name raw = some key) :
    S.record rows line = rows.filter fun row => row[S.key.name]? ≠ some key := by
  simp only [record, hl, hkey]

theorem record_of_ne {S : Schema} {rows : List Row} {line word : String} {rest : List String}
    (hl : Words.split line = word :: rest) (hadd : word ≠ "add") (hmod : word ≠ "mod")
    (hdel : word ≠ "del") : S.record rows line = rows := by
  unfold record
  rw [hl]
  split
  · simp_all
  · simp_all
  · simp_all
  · rfl

end Schema

structure Store.Lists (s : Store) (p : String) (rows : List Row) : Prop where
  scan_eq : s.scan s.cursor = .ok rows
  size_eq : s.size = rows.length
  has_key : ∀ row ∈ rows, ∃ key, row[p]? = some key
  nodup_keys : (rows.map (·[p]?)).Nodup

theorem Store.Shows.lists {s : Store} {p : String} {rows : List Row} (h : s.Shows p rows) :
    s.Lists p rows :=
  ⟨h.scan_cursor, h.size_eq, fun _ => h.exists_key, h.nodup_keys⟩

/-- The answer to a line tells the rows before or after it. -/
structure Schema.Tells (S : Schema) (line : String) (answer : Except Error Outcome)
    (rows rows' : List Row) : Prop where
  add : ∀ fields o, Words.split line = "add" :: fields → answer = .ok o →
    ∃ row ∈ rows', row = S.converted (pairsOf fields) ∧ S.Takes (pairsOf fields) row ∧
      o = .ofRow row
  modify : ∀ args o, Words.split line = "mod" :: args → answer = .ok o →
    ∃ name raw fields key, args = name :: raw :: fields ∧ S.value? S.key.name raw = some key ∧
      ∃ row ∈ rows', row[S.key.name]? = some key ∧ S.Takes (pairsOf fields) row ∧ o = .ofRow row
  delete : ∀ args o, Words.split line = "del" :: args → answer = .ok o →
    ∃ raw key, args = [raw] ∧ S.value? S.key.name raw = some key ∧
      ∃ row ∈ rows, row[S.key.name]? = some key ∧ o = .ofRow row
  get_ok : ∀ args o, Words.split line = "get" :: args → (answer = .ok o ↔
    ∃ raw key, args = [raw] ∧ S.value? S.key.name raw = some key ∧
      ∃ row ∈ rows, row[S.key.name]? = some key ∧ o = .ofRow row)
  get_missing : ∀ args field value, Words.split line = "get" :: args →
    (answer = .error (.entryNotFound field value) ↔
      ∃ raw key, args = [raw] ∧ S.value? S.key.name raw = some key ∧
        (∀ row ∈ rows, row[S.key.name]? ≠ some key) ∧
        field = S.key.name ∧ value = key.display)

namespace Session

variable {db : Session} {line word : String} {rest : List String} {q : Request} {rows : List Row}

theorem after_eq_record (hr : db.registry = .builtin) (hl : Words.split line = word :: rest)
    (hq : db.request word rest = .ok q) :
    q.after db.schema.key.name rows = db.schema.record rows line := by
  obtain ⟨c, args, hc, -, ha⟩ := request_eq_ok_iff.mp hq
  rw [hr, Registry.find_eq_ok_iff] at hc
  obtain ⟨hc, rfl⟩ := hc
  have hreads (h : c.action = .get ∨ c.action = .list ∨ c.action = .help) :
      q.after db.schema.key.name rows = rows :=
    Request.after_of_reads (Request.reads_of_ofAction h ha)
  simp only [Registry.builtin, List.mem_cons, List.not_mem_nil, or_false] at hc
  rcases hc with rfl | rfl | rfl | rfl | rfl | rfl
  · obtain ⟨-, key, hkey, rfl⟩ := request_add_eq_ok hr hq
    rw [Schema.record_of_add hl, Request.after, insert_erase_of_getElem? hkey]
  · obtain ⟨raw, key, rfl, hkey, rfl⟩ := (request_delete_eq_ok_iff hr).mp hq
    rw [Schema.record_of_delete hl hkey, Request.after]
  · rw [Schema.record_of_ne hl (by decide) (by decide) (by decide), hreads (Or.inl rfl)]
  · rw [Schema.record_of_ne hl (by decide) (by decide) (by decide), hreads (Or.inr (Or.inl rfl))]
  · obtain ⟨_, raw, fields, key, rfl, hkey, -, hname, rfl⟩ := request_modify_eq_ok hr hq
    rw [Schema.record_of_modify hl hkey, Request.after, erase_row_of_notMem hname]
  · rw [Schema.record_of_ne hl (by decide) (by decide) (by decide), hreads (Or.inr (Or.inr rfl))]

theorem replayLine_eq_note (hr : db.registry = .builtin) (rows : List Row) (line : String) :
    db.replayLine rows line = db.schema.note rows (line, (db.execute line).1) := by
  unfold replayLine
  cases hl : Words.split line with
  | nil => simp [Schema.note, Schema.record, hl]
  | cons word rest =>
    dsimp only
    cases hq : db.request word rest with
    | error e =>
      rw [execute_of_request_error hl hq]
      rfl
    | ok q =>
      dsimp only
      rw [after_eq_record hr hl hq, Schema.note]

theorem replay_eq_foldl (hr : db.registry = .builtin) (rows : List Row) (lines : List String) :
    db.replay rows lines = (lines.zip (run execute db lines).1).foldl db.schema.note rows := by
  induction lines generalizing db rows with
  | nil => rfl
  | cons line lines ih =>
    have hregistry : (db.execute line).2.registry = .builtin := registry_execute.trans hr
    rw [replay, ih hregistry, schema_execute, replayLine_eq_note hr]
    rfl

variable {S : Schema}

theorem follows_note (h : db.Follows S .builtin rows) (line : String) :
    (db.execute line).2.Follows S .builtin (S.note rows (line, (db.execute line).1)) := by
  obtain rfl := h.schema_eq
  rw [← replayLine_eq_note h.registry_eq]
  exact follows_execute h

section Answers

variable {args : List String} {o : Outcome}

theorem note_of_ok (ho : (db.execute line).1 = .ok o) :
    S.note rows (line, (db.execute line).1) = S.record rows line := by
  rw [ho]
  rfl

theorem add_row (h : db.Follows S .builtin rows) (hl : Words.split line = "add" :: args)
    (ho : (db.execute line).1 = .ok o) :
    ∃ row ∈ S.record rows line, row = S.converted (pairsOf args) ∧ S.Takes (pairsOf args) row ∧
      o = .ofRow row := by
  obtain ⟨rfl, hr, hs, -⟩ := h
  obtain ⟨q, hq, ho⟩ := (execute_eq_ok_iff hl).mp ho
  obtain ⟨htakes, key, hkey, rfl⟩ := request_add_eq_ok hr hq
  obtain ⟨row, hrow, rfl⟩ := Request.map_ofRow_eq_ok_iff.mp ho
  obtain ⟨rfl, -⟩ := hs.create_of_ok hrow
  rw [insert_erase_of_getElem? hkey, Schema.record_of_add hl]
  exact ⟨_, List.mem_append_right rows (List.mem_singleton_self _), rfl, htakes, rfl⟩

theorem modify_row (h : db.Follows S .builtin rows) (hl : Words.split line = "mod" :: args)
    (ho : (db.execute line).1 = .ok o) :
    ∃ name raw fields key, args = name :: raw :: fields ∧ S.value? S.key.name raw = some key ∧
      ∃ row ∈ S.record rows line, row[S.key.name]? = some key ∧ S.Takes (pairsOf fields) row ∧
        o = .ofRow row := by
  obtain ⟨rfl, hr, hs, -⟩ := h
  obtain ⟨q, hq, ho⟩ := (execute_eq_ok_iff hl).mp ho
  obtain ⟨word, raw, fields, key, rfl, hkey, htakes, hname, rfl⟩ := request_modify_eq_ok hr hq
  obtain ⟨row, hrow, rfl⟩ := Request.map_ofRow_eq_ok_iff.mp ho
  obtain ⟨old, hold, holdkey, rfl, -⟩ := hs.update_of_ok hrow
  rw [erase_row_of_notMem hname]
  refine ⟨word, raw, fields, key, rfl, hkey, _, ?_, ?_, htakes.union, rfl⟩
  · rw [Schema.record_of_modify hl hkey]
    exact List.mem_map.mpr ⟨old, hold, if_pos holdkey⟩
  · rw [Std.ExtTreeMap.getElem?_union, Std.ExtTreeMap.getElem?_eq_none hname, holdkey]
    rfl

theorem delete_row (h : db.Follows S .builtin rows) (hl : Words.split line = "del" :: args)
    (ho : (db.execute line).1 = .ok o) :
    ∃ raw key, args = [raw] ∧ S.value? S.key.name raw = some key ∧
      ∃ row ∈ rows, row[S.key.name]? = some key ∧ o = .ofRow row := by
  obtain ⟨rfl, hr, hs, -⟩ := h
  obtain ⟨q, hq, ho⟩ := (execute_eq_ok_iff hl).mp ho
  obtain ⟨raw, key, rfl, hkey, rfl⟩ := (request_delete_eq_ok_iff hr).mp hq
  obtain ⟨row, hrow, rfl⟩ := Request.map_ofRow_eq_ok_iff.mp ho
  obtain ⟨hmem, hrowkey, -⟩ := hs.delete_of_ok hrow
  exact ⟨raw, key, rfl, hkey, row, hmem, hrowkey, rfl⟩

theorem get_row_iff (h : db.Follows S .builtin rows) (hl : Words.split line = "get" :: args) :
    (db.execute line).1 = .ok o ↔
      ∃ raw key, args = [raw] ∧ S.value? S.key.name raw = some key ∧
        ∃ row ∈ rows, row[S.key.name]? = some key ∧ o = .ofRow row := by
  obtain ⟨rfl, hr, hs, -⟩ := h
  rw [execute_eq_ok_iff hl]
  constructor
  · rintro ⟨q, hq, ho⟩
    obtain ⟨raw, key, rfl, hkey, rfl⟩ := (request_get_eq_ok_iff hr).mp hq
    obtain ⟨row, hrow, rfl⟩ := Request.map_ofRow_eq_ok_iff.mp ho
    obtain ⟨hmem, hrowkey⟩ := hs.read_eq_ok_iff.mp hrow
    exact ⟨raw, key, rfl, hkey, row, hmem, hrowkey, rfl⟩
  · rintro ⟨raw, key, rfl, hkey, row, hmem, hrowkey, rfl⟩
    refine ⟨.read key, (request_get_eq_ok_iff hr).mpr ⟨raw, key, rfl, hkey, rfl⟩, ?_⟩
    exact Request.map_ofRow_eq_ok_iff.mpr ⟨row, hs.read_ok hmem hrowkey, rfl⟩

theorem get_missing_iff (h : db.Follows S .builtin rows) (hl : Words.split line = "get" :: args)
    {field value : String} :
    (db.execute line).1 = .error (.entryNotFound field value) ↔
      ∃ raw key, args = [raw] ∧ S.value? S.key.name raw = some key ∧
        (∀ row ∈ rows, row[S.key.name]? ≠ some key) ∧
        field = S.key.name ∧ value = key.display := by
  obtain ⟨rfl, hr, hs, -⟩ := h
  rw [execute_eq_error_iff hl]
  constructor
  · rintro (hq | ⟨q, hq, he⟩)
    · -- What is refused before the store is looked at is never reported as a missing row.
      have hmem : Command.get ∈ Registry.builtin.commands := by simp [Registry.builtin]
      have hkind : ErrorKind.entryNotFound ∈ Command.get.refusals :=
        kind_of_request_error hr hmem hq
      exact absurd hkind (by decide)
    obtain ⟨raw, key, rfl, hkey, rfl⟩ := (request_get_eq_ok_iff hr).mp hq
    have hread := map_eq_error_iff.mp he
    have hno : ∀ row ∈ rows, row[db.schema.key.name]? ≠ some key := by
      intro row hrow hrowkey
      rw [hs.read_ok hrow hrowkey] at hread
      cases hread
    rw [hs.read_error hno] at hread
    cases hread
    exact ⟨raw, key, rfl, hkey, hno, rfl, rfl⟩
  · rintro ⟨raw, key, rfl, hkey, hno, rfl, rfl⟩
    refine Or.inr ⟨.read key, (request_get_eq_ok_iff hr).mpr ⟨raw, key, rfl, hkey, rfl⟩, ?_⟩
    exact map_eq_error_iff.mpr (hs.read_error hno)

theorem tells_execute (h : db.Follows S .builtin rows) :
    S.Tells line (db.execute line).1 rows (S.note rows (line, (db.execute line).1)) where
  add args o hl ho := by
    rw [note_of_ok ho]
    exact add_row h hl ho
  modify args o hl ho := by
    rw [note_of_ok ho]
    exact modify_row h hl ho
  delete args o hl ho := delete_row h hl ho
  get_ok args o hl := get_row_iff h hl
  get_missing args field value hl := get_missing_iff h hl

end Answers

/-- After every run of lines in a session with the built-in commands, the store shows the rows of
the history: they are read back in order, each with a key, and no two with the same one. What the
next line answers is the row that it has added, modified, deleted or asked for. -/
theorem rows_eq_history (S : Schema) (lines : List String) (line : String) :
    let db := (run execute (start S .builtin) lines).2
    let entries := lines.zip (run execute (start S .builtin) lines).1
    let answer := (db.execute line).1
    let rows := S.history entries
    let rows' := S.history (entries ++ [(line, answer)])
    db.store.Lists S.key.name rows ∧ (db.execute line).2.store.Lists S.key.name rows' ∧
      S.Tells line answer rows rows' := by
  intro db entries answer rows rows'
  have hrows : (start S .builtin).replay [] lines = rows := replay_eq_foldl rfl [] lines
  have hrows' : rows' = S.note rows (line, answer) := List.foldl_append
  have h : db.Follows S .builtin rows := hrows ▸ follows_run (follows_start S .builtin) lines
  rw [hrows']
  exact ⟨h.shows.lists, (follows_note h line).shows.lists, tells_execute h⟩

end Session

end TableShell
