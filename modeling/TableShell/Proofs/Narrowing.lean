import TableShell.Proofs.Filtering
import TableShell.Proofs.Stability

/-!
# Queries with more filters

Filters and directives are accepted apart from each other. Of the rows that the directives alone
list, a query answers those that meet its filters, in the same order. So a further filter takes rows
out of an answer and moves none.
-/

namespace TableShell

namespace Query

variable {S : Schema} {pairs fewer : List (String × String)} {q qf qd : Query}

@[simp] theorem conditions_conditions : conditions (conditions pairs) = conditions pairs := by
  simp [conditions]

@[simp] theorem directives_directives : directives (directives pairs) = directives pairs := by
  simp [directives]

@[simp] theorem directives_conditions : directives (conditions pairs) = [] := by
  simp [directives, conditions]

/-- Filters and directives that are accepted each for themselves are accepted in any mixture. -/
theorem ofPairs_of_parts (hf : ofPairs S (conditions pairs) = .ok qf)
    (hd : ofPairs S (directives pairs) = .ok qd) :
    ofPairs S pairs = .ok ⟨qf.filters, qd.sort⟩ := by
  rw [ofPairs_eq_ok_iff] at *
  simp only [conditions_conditions, directives_directives, directives_conditions] at hf hd
  obtain ⟨-, hnodup, hnames, hvalues, rfl⟩ := hf
  obtain ⟨hdirectives, -, -, -, rfl⟩ := hd
  exact ⟨hdirectives, hnodup, hnames, hvalues, rfl⟩

theorem ofPairs_of_sublist (hq : ofPairs S pairs = .ok q) (hsub : fewer.Sublist pairs)
    (hd : directives fewer = directives pairs) :
    ∃ q', ofPairs S fewer = .ok q' ∧ q'.sort = q.sort := by
  obtain ⟨hdirectives, hnodup, hnames, hvalues, rfl⟩ := ofPairs_eq_ok_iff.mp hq
  have hfewer : (conditions fewer).Sublist (conditions pairs) := hsub.filter _
  refine ⟨_, ofPairs_eq_ok_iff.mpr ⟨?_, ?_, ?_, ?_, rfl⟩, ?_⟩
  · rwa [hd]
  · exact hnodup.sublist (hfewer.map _)
  · exact fun name hname => hnames name ((hfewer.map _).subset hname)
  · exact fun c hc => hvalues c (hfewer.subset hc)
  · rw [hd]

theorem Meets.of_subset {conditions conditions' : List (String × String)} {row : Row}
    (h : Meets S conditions row) (hsub : conditions' ⊆ conditions) : Meets S conditions' row :=
  fun c hc => h c (hsub hc)

end Query

namespace Session

variable {S : Schema} {r : Registry} {db : Session} {rows : List Row} {line : String}
  {pairs fewer : List (String × String)} {q : Query}

def Asks (db : Session) (line : String) (pairs : List (String × String)) : Prop :=
  ∃ word rest c, Words.split line = word :: rest ∧ db.registry.find word = .ok c ∧
    c.action = .list ∧ c.grammar.group rest = .ok (pairs.map fun p => .pair p.1 p.2)

theorem execute_of_asks (h : db.Asks line pairs) :
    db.execute line = db.handle .list (pairs.map fun p => .pair p.1 p.2) := by
  obtain ⟨word, rest, c, hl, hc, ha, hargs⟩ := h
  rw [execute_eq_handle hl hc hargs, ha]

/-- The rows are sorted first and then filtered, as it were. -/
theorem handle_list (h : db.Follows S r rows) (hq : Query.ofPairs S pairs = .ok q) :
    db.handle .list (pairs.map fun p => .pair p.1 p.2) =
      (.ok { rows := (sortRows q.sort rows).filter (Query.Meets S (Query.conditions pairs) ·) },
        db) := by
  refine Prod.ext ?_ handle_list_snd
  have haccepts : q.accepts = fun row => decide (Query.Meets S (Query.conditions pairs) row) := by
    funext row
    rw [Bool.eq_iff_iff, Query.accepts_iff hq, decide_eq_true_iff]
  rw [handle, Request.ofAction_list_pairs, h.schema_eq, hq]
  simp only [Except.map, Request.perform, Request.run_eq h.shows, sortRows_filter, haccepts]

theorem handle_list_of_sublist (h : db.Follows S r rows) (hq : Query.ofPairs S pairs = .ok q)
    (hsub : fewer.Sublist pairs) (hd : Query.directives fewer = Query.directives pairs) :
    ∃ answer, db.handle .list (fewer.map fun p => .pair p.1 p.2) = (.ok { rows := answer }, db) ∧
      db.handle .list (pairs.map fun p => .pair p.1 p.2) =
        (.ok { rows := answer.filter (Query.Meets S (Query.conditions pairs) ·) }, db) := by
  obtain ⟨q', hq', hsort⟩ := Query.ofPairs_of_sublist hq hsub hd
  refine ⟨_, handle_list h hq', ?_⟩
  have hfewer : Query.conditions fewer ⊆ Query.conditions pairs := (hsub.filter _).subset
  have hboth (row : Row) : Query.Meets S (Query.conditions pairs) row ∧
      Query.Meets S (Query.conditions fewer) row ↔ Query.Meets S (Query.conditions pairs) row :=
    ⟨And.left, fun hrow => ⟨hrow, hrow.of_subset hfewer⟩⟩
  rw [handle_list h hq, hsort, List.filter_filter]
  simp only [← Bool.decide_and, hboth]

/-- In every state that a session reaches, filters and directives that are accepted each for
themselves give, in any mixture, those of the rows listed by the directives that meet all filters,
in the same order. Wherever a filter is added to a list statement, the answer is the part of the
former answer that meets it, and a line answers what its pairs do. -/
theorem list_narrowed (S : Schema) (r : Registry) (lines : List String)
    (pairs : List (String × String)) (hf : (Query.ofPairs S (Query.conditions pairs)).isOk)
    (hd : (Query.ofPairs S (Query.directives pairs)).isOk) :
    let db := (run execute (start S r) lines).2
    let list (pairs : List (String × String)) :=
      db.handle .list (pairs.map fun p => .pair p.1 p.2)
    let meets (row : Row) : Bool := Query.Meets S (Query.conditions pairs) row
    (∃ rows, list (Query.directives pairs) = (.ok { rows }, db) ∧
      list pairs = (.ok { rows := rows.filter meets }, db)) ∧
      (∀ fewer, fewer.Sublist pairs → Query.directives fewer = Query.directives pairs →
        ∃ rows, list fewer = (.ok { rows }, db) ∧
          list pairs = (.ok { rows := rows.filter meets }, db)) ∧
      ∀ line pairs, db.Asks line pairs → db.execute line = list pairs := by
  intro db list meets
  have h := follows_run (follows_start S r) lines
  obtain ⟨qf, hf⟩ := isOk_iff_exists.mp hf
  obtain ⟨qd, hd⟩ := isOk_iff_exists.mp hd
  have hq := Query.ofPairs_of_parts hf hd
  have hfewer (fewer : List (String × String)) (hsub : fewer.Sublist pairs)
      (hdirectives : Query.directives fewer = Query.directives pairs) :=
    handle_list_of_sublist h hq hsub hdirectives
  exact ⟨hfewer _ List.filter_sublist Query.directives_directives, hfewer,
    fun _ _ => execute_of_asks⟩

/-- Filters between directives, of which one filter is left out. -/
theorem list_narrowed_mixed :
    let lines := ["add id 1 name Ada day 1815-12-10", "add id 2 name Bob day 1815-12-10",
      "add id 3 name Ada day 1990-05-05"]
    let db := (run execute (start .staff .builtin) lines).2
    let ada (id : Int64) (day : Date) : Row := Std.ExtTreeMap.ofList
      [("id", Value.int id), ("name", .text "Ada"), ("day", .date day)]
    let late := ada 3 ⟨1990, 5, 5, by decide⟩
    let early := ada 1 ⟨1815, 12, 10, by decide⟩
    let meets (row : Row) : Bool := Query.Meets .staff [("name", "Ada"), ("day", "+1815-12-10")] row
    db.execute "list $sort_desc day NAME Ada $sort_asc id" = (.ok { rows := [late, early] }, db) ∧
      db.execute "list $sort_desc day NAME Ada DAY +1815-12-10 $sort_asc id" =
        (.ok { rows := [late, early].filter meets }, db) ∧
      [late, early].filter meets = [early] := by
  intro lines db ada late early meets
  let bob : Row := Std.ExtTreeMap.ofList
    [("id", Value.int 2), ("name", .text "Bob"), ("day", .date ⟨1815, 12, 10, by decide⟩)]
  let keys : List SortKey := [⟨"day", .descending⟩, ⟨"id", .ascending⟩]
  let pairs := [("$sort_desc", "day"), ("name", "Ada"), ("day", "+1815-12-10"), ("$sort_asc", "id")]
  let fewer := [("$sort_desc", "day"), ("name", "Ada"), ("$sort_asc", "id")]
  have hfollows : db.Follows .staff .builtin [early, bob, late] := by
    have hstored : (start .staff .builtin).replay [] lines = [early, bob, late] := by decide
    exact hstored ▸ follows_run (follows_start .staff .builtin) lines
  have hfind : db.registry.find "list" = .ok Command.list := by
    rw [hfollows.registry_eq]
    rfl
  have hpairs : db.Asks "list $sort_desc day NAME Ada DAY +1815-12-10 $sort_asc id" pairs :=
    ⟨"list", _, .list, rfl, hfind, rfl, by decide⟩
  have hfewer : db.Asks "list $sort_desc day NAME Ada $sort_asc id" fewer :=
    ⟨"list", _, .list, rfl, hfind, rfl, by decide⟩
  have hf : (Query.ofPairs .staff (Query.conditions pairs)).isOk := by decide
  have hd : (Query.ofPairs .staff (Query.directives pairs)).isOk := by decide
  obtain ⟨-, hlist, hline⟩ := list_narrowed .staff .builtin lines pairs hf hd
  obtain ⟨rows, hanswer, hnarrowed⟩ := hlist fewer (by decide) (by decide)
  have hrows : rows = [late, early] := by
    have hq : Query.ofPairs .staff fewer =
        .ok ⟨Std.ExtTreeMap.ofList [("name", Value.text "Ada")], keys⟩ := by
      decide +kernel
    have hsorted : sortRows keys [early, bob, late] = [late, early, bob] := by
      have hbob : (compareRows keys early bob).isLE = true := by decide
      have hlate : (compareRows keys early late).isLE = false := by decide
      simp [sortRows, List.mergeSort, List.MergeSort.Internal.splitInTwo, hbob, hlate]
    have hlisted := hanswer.symm.trans (handle_list hfollows hq)
    rw [hsorted] at hlisted
    have hmeets : [late, early, bob].filter
        (Query.Meets .staff (Query.conditions fewer) ·) = [late, early] := by
      decide
    rw [hmeets] at hlisted
    cases hlisted
    rfl
  subst hrows
  exact ⟨(hline _ _ hfewer).trans hanswer, (hline _ _ hpairs).trans hnarrowed, by decide⟩

end Session

end TableShell
