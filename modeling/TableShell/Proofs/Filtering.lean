import TableShell.Proofs.Typing

/-!
# Listing by one column

A column can be listed by any text that has a value in it, as long as its name is no directive. The
answer is the rows with that value, however the name and the text are spelled.
-/

namespace TableShell.Session

variable {S : Schema} {db : Session} {rows : List Row} {line word name raw : String}
  {args : List Argument}

theorem handle_list_snd : (db.handle .list args).2 = db := by
  unfold handle
  cases hq : Request.ofAction db.schema db.registry args .list with
  | error e => rfl
  | ok q =>
    have hreads : q.reads := Request.reads_of_ofAction (Or.inr (Or.inl rfl)) hq
    dsimp only
    rw [Request.perform_snd_of_reads hreads]

theorem execute_list_one (h : db.Follows S .builtin rows)
    (hl : Words.split line = ["list", word, raw]) (hword : normalizeKey word = .ok name) :
    db.execute line = db.handle .list [.pair name raw] := by
  have hfind : db.registry.find "list" = .ok Command.list := by
    rw [h.registry_eq]
    rfl
  have hgroup : Command.list.grammar.group [word, raw] = .ok [.pair name raw] := by
    refine Grammar.group_eq_ok_iff.mpr ⟨?_, rfl⟩
    change Grammar.groupPairs [word, raw] = _
    rw [Grammar.groupPairs, hword]
    rfl
  exact execute_eq_handle hl hfind hgroup

/-- In every state that a session reaches, a text that has a value in a column lists the rows with
that value there, in the order of their creation, and a text that is a word of any line can be typed
for it. The name of the column must be a key in lower case that is no directive. -/
theorem list_column (S : Schema) (c : Column) (hc : c ∈ S.columns)
    (hname : normalizeKey c.name = .ok c.name) (hplain : Query.isDirective c.name = false)
    (lines : List String) (raw : String) (v : Value) (hv : c.type.convert raw = .ok v) :
    let rows := (start S .builtin).replay [] lines
    let db := (run execute (start S .builtin) lines).2
    let listed : Except Error Outcome × Session :=
      (.ok { rows := rows.filter fun row => row[c.name]? = some v }, db)
    db.store.Lists S.key.name rows ∧
      db.handle .list [.pair c.name raw] = listed ∧
      (∀ line word, Words.split line = ["list", word, raw] → normalizeKey word = .ok c.name →
        db.execute line = listed) ∧
      ∀ other, raw ∈ Words.split other →
        ∃ line, Words.split line = ["list", c.name, raw] ∧ db.execute line = listed := by
  intro rows db listed
  have h := follows_run (follows_start S .builtin) lines
  have hcolumn : S.column? c.name = some c := Schema.column?_eq_some_iff.mpr ⟨hc, rfl⟩
  have hhandle : db.handle .list [.pair c.name raw] = listed := by
    refine Prod.ext ?_ handle_list_snd
    rw [handle_list_one h hplain hcolumn, hv]
    rfl
  have hline (line word : String) (hl : Words.split line = ["list", word, raw])
      (hword : normalizeKey word = .ok c.name) : db.execute line = listed :=
    (execute_list_one h hl hword).trans hhandle
  refine ⟨h.shows.lists, hhandle, hline, fun other hother => ?_⟩
  have htypable : ∀ word ∈ ["list", c.name, raw], Words.Typable word := by
    simp only [List.forall_mem_cons, List.not_mem_nil, false_imp_iff, implies_true, and_true]
    exact ⟨by decide, Words.typable_of_isKey (Grammar.isKey_of_normalizeKey hname),
      Words.typable_of_mem_split hother⟩
  have hl := Words.split_typedLine htypable
  exact ⟨_, hl, hline _ _ hl hname⟩

/-- The name in capitals, and a spelling of the day that is not its own. -/
theorem list_column_day :
    let lines := ["add id 1 name Ada day 1815-12-10", "add id 2 name Bob day 1900-01-01",
      "add id 3 name Cy day 1815-12-10"]
    let db := (run execute (start .staff .builtin) lines).2
    let row (id : Int64) (name : String) : Row := Std.ExtTreeMap.ofList
      [("id", Value.int id), ("name", .text name), ("day", .date ⟨1815, 12, 10, by decide⟩)]
    db.execute "list DAY \" +1815-12- 10\"" = (.ok { rows := [row 1 "Ada", row 3 "Cy"] }, db) := by
  intro lines db row
  let c : Column := ⟨"day", .date, false⟩
  have hc : c ∈ Schema.staff.columns := by decide
  have hname : normalizeKey c.name = .ok c.name := by decide
  have hv : c.type.convert " +1815-12- 10" = .ok (.date ⟨1815, 12, 10, by decide⟩) := by
    decide
  obtain ⟨-, -, hline, -⟩ := list_column .staff c hc hname (by decide) lines _ _ hv
  rw [hline "list DAY \" +1815-12- 10\"" "DAY" (by decide) (by decide)]
  have hrows : ((start .staff .builtin).replay [] lines).filter
      (fun r => r[c.name]? = some (.date ⟨1815, 12, 10, by decide⟩)) =
        [row 1 "Ada", row 3 "Cy"] := by
    decide
  rw [hrows]

/-- A name with a sign is a key, and its column takes values. In a query it is a directive. -/
theorem list_column_sign :
    let c : Column := ⟨"$tag", .string, false⟩
    ∃ S, Schema.ofColumns [⟨"id", .integer, true⟩, c] = .ok S ∧ c ∈ S.columns ∧
      normalizeKey c.name = .ok c.name ∧ c.type.convert "x" = .ok (.text "x") ∧
      let row : Row := Std.ExtTreeMap.ofList [(c.name, Value.text "x"), ("id", .int 1)]
      let (added, db) := (start S .builtin).execute "add id 1 $tag x"
      added = .ok (.ofRow row) ∧
        (db.handle .list [.pair c.name "x"]).1 = .error (.internal (.unknownDirective c.name)) ∧
        (db.execute "list $tag x").1 = .error (.internal (.unknownDirective c.name)) := by
  intro c
  let S : Schema := ⟨[⟨"id", .integer, true⟩, c], ⟨"id", .integer, true⟩, by decide, by decide⟩
  refine ⟨S, by rfl, by decide, by decide, rfl, ?_⟩
  decide

end TableShell.Session
