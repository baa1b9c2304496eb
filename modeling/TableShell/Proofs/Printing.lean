import TableShell.Proofs.Naming
import TableShell.Proofs.Scripts
import TableShell.Proofs.Tables

/-!
# What a session prints

Lines without line breaks put none into the table: names are keys, numbers and dates have digits and
signs only, and a text is a word of its line. So every table that a session prints is rectangular.
-/

namespace TableShell

/-- No name of a field and no text of a value has a line break in it. -/
def OneLine (row : Row) : Prop :=
  ∀ (name : String) (v : Value), row[name]? = some v →
    '\n' ∉ name.toList ∧ '\n' ∉ v.display.toList

namespace OneLine

variable {row fields : Row}

theorem erase (h : OneLine row) (name : String) : OneLine (row.erase name) := by
  intro name' v hv
  rw [getElem?_erase_row] at hv
  split_ifs at hv
  exact h name' v hv

theorem union (h : OneLine row) (hf : OneLine fields) : OneLine (row ∪ fields) := by
  intro name v hv
  rw [Std.ExtTreeMap.getElem?_union, Option.or_eq_some_iff] at hv
  rcases hv with hv | ⟨-, hv⟩
  · exact hf name v hv
  · exact h name v hv

end OneLine

theorem isWordChar_newline : Text.isWordChar '\n' = false :=
  Text.inRanges_wordRanges_ascii 10 (by decide)

theorem Grammar.isKey_of_pair_mem {g : Grammar} {words : List String} {args : List Argument}
    (h : g.group words = .ok args) {p : String × String} (hp : .pair p.1 p.2 ∈ args) :
    isKey p.1.toList ∧ p.2 ∈ words := by
  obtain ⟨h, -⟩ := group_eq_ok_iff.mp h
  generalize g.shape = shape at h
  cases normal_of_groupByShape h _ hp with
  | pair hkey =>
    rw [groupPairs_eq_ok h, List.mem_map] at hp
    obtain ⟨⟨key, value⟩, hmem, hpair⟩ := hp
    cases hpair
    exact ⟨isKey_iff.mpr hkey.legal, snd_mem_of_mem_pairsOf hmem⟩

theorem FieldType.eq_of_convert_text {type : FieldType} {raw text : String}
    (h : type.convert raw = .ok (.text text)) : text = raw := by
  cases ofValue_of_convert h
  cases h
  rfl

namespace Schema

variable {S : Schema} {pairs : List (String × String)}

theorem newline_notMem_of_value? {name raw : String} {v : Value}
    (hv : S.value? name raw = some v) (hraw : '\n' ∉ raw.toList) : '\n' ∉ v.display.toList := by
  obtain ⟨c, -, hc⟩ := Option.bind_eq_some_iff.mp hv
  refine Value.notMem_display (by decide) fun text htext => ?_
  cases hconvert : c.type.convert raw with
  | error e =>
    rw [hconvert] at hc
    cases hc
  | ok v' =>
    rw [hconvert] at hc
    cases hc
    rw [htext] at hconvert
    rwa [FieldType.eq_of_convert_text hconvert]

theorem oneLine_converted (hp : (pairs.map Prod.fst).Nodup)
    (h : ∀ p ∈ pairs, '\n' ∉ p.1.toList ∧ '\n' ∉ p.2.toList) : OneLine (S.converted pairs) := by
  intro name v hv
  obtain ⟨raw, hmem, hraw⟩ := (getElem?_converted_eq_some_iff hp).mp hv
  obtain ⟨hname, hvalue⟩ := h _ hmem
  exact ⟨hname, newline_notMem_of_value? hraw hvalue⟩

end Schema

namespace Session

variable {S : Schema} {r : Registry} {db : Session} {rows : List Row} {line word : String}
  {rest : List String} {q : Request} {o : Outcome}

theorem newline_notMem_pairs (hl : Words.split line = word :: rest) (hline : '\n' ∉ line.toList)
    {g : Grammar} {pairs : List (String × String)}
    (hgroup : g.group rest = .ok (pairs.map fun p => .pair p.1 p.2)) :
    ∀ p ∈ pairs, '\n' ∉ p.1.toList ∧ '\n' ∉ p.2.toList := by
  intro p hp
  obtain ⟨hkey, hvalue⟩ := Grammar.isKey_of_pair_mem hgroup (List.mem_map_of_mem hp)
  have hword : p.2 ∈ Words.split line := hl ▸ List.mem_cons_of_mem word hvalue
  exact ⟨notMem_of_isKey hkey (by decide) isWordChar_newline,
    fun hbreak => hline (Words.subset_of_mem_split hword hbreak)⟩

theorem oneLine_after (hl : Words.split line = word :: rest) (hline : '\n' ∉ line.toList)
    (hq : db.request word rest = .ok q) (h : ∀ row ∈ rows, OneLine row) :
    ∀ row ∈ q.after db.schema.key.name rows, OneLine row := by
  obtain ⟨c, args, -, hgroup, ha⟩ := request_eq_ok_iff.mp hq
  generalize c.action = a at ha
  cases a with
  | add =>
    obtain ⟨pairs, rfl, hadd⟩ := Request.ofAction_add_eq_ok_iff.mp ha
    obtain ⟨hp, -, -, key, hkey, rfl⟩ := Request.ofAdd_eq_ok_iff.mp hadd
    refine Request.forall_after (fun _ _ hcreate => ?_) (fun _ _ hupdate => nomatch hupdate) h
    cases hcreate
    rw [insert_erase_of_getElem? hkey]
    exact Schema.oneLine_converted hp (newline_notMem_pairs hl hline hgroup)
  | modify =>
    obtain ⟨pairs, rfl, hmodify⟩ := Request.ofAction_modify_eq_ok_iff.mp ha
    obtain ⟨raw, updates, key, rfl, -, hp, -, -, -, rfl⟩ := Request.ofModify_eq_ok_iff.mp hmodify
    have hpairs := List.forall_mem_cons.mp (newline_notMem_pairs hl hline hgroup)
    refine Request.forall_after (fun _ _ hcreate => nomatch hcreate) (fun _ _ hupdate => ?_) h
    cases hupdate
    exact fun row hrow => hrow.union ((Schema.oneLine_converted hp hpairs.2).erase _)
  | delete =>
    obtain ⟨_, key, -, -, rfl⟩ := Request.ofAction_delete_eq_ok_iff.mp ha
    exact Request.forall_after (fun _ _ hcreate => nomatch hcreate)
      (fun _ _ hupdate => nomatch hupdate) h
  | get | list | help =>
    rwa [Request.after_of_reads (Request.reads_of_ofAction (by simp) ha)]

theorem oneLine_replayLine (hline : '\n' ∉ line.toList) (h : ∀ row ∈ rows, OneLine row) :
    ∀ row ∈ db.replayLine rows line, OneLine row := by
  unfold replayLine
  cases hl : Words.split line with
  | nil => exact h
  | cons word rest =>
    dsimp only
    cases hq : db.request word rest with
    | error e => exact h
    | ok q =>
      dsimp only
      split_ifs
      · exact oneLine_after hl hline hq h
      · exact h

/-- An answer with rows is shown as a table: the line is not blank, as the word of its command is
not, and there is no text to show in its place. -/
theorem eval_fst_of_rows (hr : db.registry = .builtin) (ho : (db.execute line).1 = .ok o)
    (hrows : o.rows ≠ []) : (db.eval line).1 = some (Layout.rowSet db.schema.names o.rows) := by
  cases hl : Words.split line with
  | nil =>
    rw [execute_of_split_nil hl] at ho
    cases ho
    exact absurd rfl hrows
  | cons word rest =>
    obtain ⟨q, hq, hperform⟩ := (execute_eq_ok_iff hl).mp ho
    obtain ⟨c, _, hc, -, -⟩ := request_eq_ok_iff.mp hq
    rw [hr, Registry.find_eq_ok_iff] at hc
    obtain ⟨hc, rfl⟩ := hc
    have hword : c.word ∈ Words.split line := hl ▸ List.mem_cons_self ..
    have hblank : ∀ c ∈ Registry.builtin.commands, ¬ c.word.toList.all Text.isBlank := by decide
    have hline : ¬ line.toList.all Text.isBlank := by
      intro hall
      refine hblank c hc (List.all_eq_true.mpr fun d hd => ?_)
      exact List.all_eq_true.mp hall d (Words.subset_of_mem_split hword hd)
    have hnotice : o.notice = none := Request.notice_of_perform hperform hrows
    obtain ⟨rows, notice⟩ := o
    cases hnotice
    refine eval_fst_eq_some_iff.mpr ⟨hline, ?_⟩
    rw [ho]
    rfl

theorem unbroken_answer (h : db.Follows S r rows) (hrows : ∀ row ∈ rows, OneLine row)
    (hline : '\n' ∉ line.toList) (ho : (db.execute line).1 = .ok o) (hne : o.rows ≠ []) :
    Layout.Unbroken S.names o.rows := by
  have hall : ∀ row ∈ o.rows, S.Conforms row ∧ OneLine row := by
    intro row hrow
    rcases mem_of_execute h ho row hrow with hrow | hrow
    · exact ⟨h.conforms row hrow, hrows row hrow⟩
    · exact ⟨(follows_execute h).conforms row hrow, oneLine_replayLine hline hrows row hrow⟩
  intro name hname
  constructor
  · -- A row that is there has the field, and the name of a field has no line break.
    obtain ⟨row, hrow⟩ := List.exists_mem_of_ne_nil _ hne
    obtain ⟨hconforms, honeLine⟩ := hall row hrow
    have hfield := (hconforms.mem_iff name).mpr hname
    rw [Std.ExtTreeMap.mem_iff_isSome_getElem?, Option.isSome_iff_exists] at hfield
    obtain ⟨v, hv⟩ := hfield
    exact (honeLine name v hv).1
  · intro cell hcell
    obtain ⟨row, hrow, rfl⟩ := List.mem_map.mp hcell
    cases hv : row[name]? with
    | none => exact List.not_mem_nil
    | some v => exact ((hall row hrow).2 name v hv).2

def StoresOneLine (S : Schema) (db : Session) : Prop :=
  ∃ rows, db.Follows S .builtin rows ∧ ∀ row ∈ rows, OneLine row

theorem storesOneLine_eval (hline : '\n' ∉ line.toList) (h : db.StoresOneLine S) :
    (db.eval line).2.StoresOneLine S := by
  rw [eval_snd]
  split_ifs
  · exact h
  · obtain ⟨rows, hfollows, hrows⟩ := h
    exact ⟨_, follows_execute hfollows, oneLine_replayLine hline hrows⟩

/-- Every table that a session prints is rectangular, if no line has a line break in it: an answer
with rows splits into a line for each row, four more of the same length around and between them, and
the number of the rows. -/
theorem rectangular_eval (S : Schema) (lines : List String) (line : String)
    (hlines : ∀ l ∈ lines, '\n' ∉ l.toList) (hline : '\n' ∉ line.toList) :
    let db := (run eval (start S .builtin) lines).2
    ∀ o, (db.execute line).1 = .ok o → o.rows ≠ [] →
      ∃ text, (db.eval line).1 = some text ∧ Layout.Rectangular o.rows.length text := by
  intro db o ho hne
  have hstart : (start S .builtin).StoresOneLine S :=
    ⟨[], follows_start S .builtin, fun _ hrow => (List.not_mem_nil hrow).elim⟩
  have hstores : db.StoresOneLine S :=
    run_invariant_of_forall_mem (fun l hl _ => storesOneLine_eval (hlines l hl)) hstart
  obtain ⟨rows, hfollows, hrows⟩ := hstores
  refine ⟨_, eval_fst_of_rows hfollows.registry_eq ho hne, ?_⟩
  rw [hfollows.schema_eq]
  exact Layout.rectangular_rowSet hne (unbroken_answer hfollows hrows hline ho hne)

/-- A name that is too long for its column. -/
theorem rectangular_eval_long_name :
    let lines := [
      "add id 1 name \"Augusta Ada King, Countess of Lovelace, née Byron\" day 1815-12-10"]
    let db := (run eval (start .staff .builtin) lines).2
    ∃ o text, (db.execute "get 1").1 = .ok o ∧ o.rows.length = 1 ∧
      (db.eval "get 1").1 = some text ∧ Layout.Rectangular 1 text := by
  intro lines db
  have hlength : (db.execute "get 1").1.map (·.rows.length) = .ok 1 := by decide +kernel
  obtain ⟨o, ho, hlength⟩ := map_eq_ok_iff.mp hlength
  have hne : o.rows ≠ [] := by
    intro hnil
    rw [hnil] at hlength
    cases hlength
  obtain ⟨text, htext, hrectangular⟩ :=
    rectangular_eval .staff lines "get 1" (by decide) (by decide) o ho hne
  rw [hlength] at hrectangular
  exact ⟨o, text, ho, hlength, htext, hrectangular⟩

end Session

end TableShell
