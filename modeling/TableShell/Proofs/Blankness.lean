import Mathlib.Data.List.DropRight
import TableShell.Proofs.Narrowing
import TableShell.Proofs.Printing

/-!
# Blank lines and empty answers

Whether a line is blank is decided twice: lines of white space are skipped before they are read, and
of the others those that have no words do nothing. The two agree on lines of spaces. An empty set is
shown where a list statement finds no row.
-/

namespace TableShell

namespace Words

/-- Nothing but spaces and a quote that is never closed. -/
def Unclosed (cs : List Char) : Prop :=
  ∃ spaces rest, cs = spaces ++ '"' :: rest ∧ (∀ c ∈ spaces, c = ' ') ∧ '"' ∉ rest

variable {cs : List Char} {line : String}

theorem unclosed_space_iff : Unclosed (' ' :: cs) ↔ Unclosed cs := by
  constructor
  · rintro ⟨spaces, rest, h, hspaces, hrest⟩
    cases spaces with
    | nil => cases h
    | cons c spaces =>
      cases h
      exact ⟨spaces, rest, rfl, fun c hc => hspaces c (List.mem_cons_of_mem _ hc), hrest⟩
  · rintro ⟨spaces, rest, rfl, hspaces, hrest⟩
    exact ⟨' ' :: spaces, rest, rfl, List.forall_mem_cons.mpr ⟨rfl, hspaces⟩, hrest⟩

theorem unclosed_quote_iff : Unclosed ('"' :: cs) ↔ '"' ∉ cs := by
  constructor
  · rintro ⟨spaces, rest, h, hspaces, hrest⟩
    cases spaces with
    | nil =>
      cases h
      exact hrest
    | cons c spaces =>
      cases h
      exact absurd (hspaces _ (List.mem_cons_self ..)) (by decide)
  · intro hrest
    exact ⟨[], cs, rfl, fun _ hc => (List.not_mem_nil hc).elim, hrest⟩

theorem read_eq_nil_iff : read cs = [] ↔ (∀ c ∈ cs, c = ' ') ∨ Unclosed cs := by
  induction cs with
  | nil => simp [read_nil]
  | cons c cs ih =>
    by_cases hspace : c = ' '
    · subst hspace
      rw [read_space, ih, unclosed_space_iff, List.forall_mem_cons, eq_self, true_and]
    · have hall : ¬ ∀ d ∈ c :: cs, d = ' ' := fun h => hspace (h c (List.mem_cons_self ..))
      rw [or_iff_right hall]
      by_cases hquote : c = '"'
      · subst hquote
        rw [unclosed_quote_iff, read, if_neg hspace, if_pos rfl]
        split_ifs with hmem <;> simp [hmem]
      · rw [read, if_neg hspace, if_neg hquote]
        refine iff_of_false (List.cons_ne_nil _ _) ?_
        rintro ⟨spaces, rest, h, hspaces, -⟩
        cases spaces with
        | nil =>
          cases h
          exact hquote rfl
        | cons d spaces =>
          cases h
          exact hspace (hspaces _ (List.mem_cons_self ..))

theorem split_eq_nil_iff :
    split line = [] ↔ (∀ c ∈ line.toList, c = ' ') ∨ Unclosed line.toList := by
  rw [split_eq_read, List.map_eq_nil_iff, read_eq_nil_iff]

end Words

theorem Error.report_ne_empty (e : Error) : e.report ≠ "Empty set" := by
  have hhead : e.report.toList.head? = some '[' := by
    simp only [report, String.toList_append, List.append_assoc]
    rfl
  intro h
  rw [h] at hhead
  cases hhead

theorem Help.page_ne_empty (body : String) : page body ≠ "Empty set" := by
  have hprefix : (page body).toList <+: ("Help:\n\n" ++ body).toList := by
    rw [page, String.toList_ofList]
    exact List.rdropWhile_prefix Text.isBlank _
  intro h
  rw [h, String.toList_append] at hprefix
  cases (List.cons_prefix_cons.mp hprefix).1

theorem Layout.rowSet_eq_empty_iff {headers : List String} {rows : List Row} :
    rowSet headers rows = "Empty set" ↔ rows = [] := by
  constructor
  · intro h
    by_contra hrows
    have hhead : (rowSet headers rows).toList.head? = some '+' := by
      rw [rowSet_eq hrows, table, String.toList_append, String.toList_ofList]
      rfl
    rw [h] at hhead
    cases hhead
  · rintro rfl
    rfl

theorem Request.ne_empty_of_ofAction {S : Schema} {r : Registry} {args : List Argument}
    {a : Action} {text : String} (h : ofAction S r args a = .ok (.notice text)) :
    text ≠ "Empty set" := by
  obtain rfl : Action.help = a := action_of_ofAction h
  obtain ⟨_, htext, ⟨⟩⟩ := map_eq_ok_iff.mp h
  unfold Help.text at htext
  split at htext
  · cases htext
    exact Help.page_ne_empty _
  · obtain ⟨c, -, rfl⟩ := map_eq_ok_iff.mp htext
    exact Help.page_ne_empty _

namespace Session

variable {S : Schema} {r : Registry} {db : Session} {rows : List Row} {line word : String}
  {rest : List String} {pairs : List (String × String)} {q : Query}

def FindsNone (S : Schema) (db : Session) (rows : List Row) (line : String) : Prop :=
  ∃ pairs, db.Asks line pairs ∧ (Query.ofPairs S pairs).isOk ∧
    ∀ row ∈ rows, ¬ Query.Meets S (Query.conditions pairs) row

theorem answer_eq_empty_iff {x : Except Error Outcome} :
    db.answer x = "Empty set" ↔
      ∃ o, x = .ok o ∧ (o.notice = some "Empty set" ∨ o.notice = none ∧ o.rows = []) := by
  cases x with
  | error e => simp [answer, Error.report_ne_empty]
  | ok o =>
    obtain ⟨rows, notice⟩ := o
    cases notice with
    | none => simp [answer, Layout.rowSet_eq_empty_iff]
    | some text => simp [answer]

theorem answer_of_asks (h : db.Follows S r rows) (hasks : db.Asks line pairs)
    (hq : Query.ofPairs S pairs = .ok q) :
    db.answer (db.execute line).1 = "Empty set" ↔
      ∀ row ∈ rows, ¬ Query.Meets S (Query.conditions pairs) row := by
  rw [execute_of_asks hasks, handle_list h hq, answer, Layout.rowSet_eq_empty_iff,
    List.filter_eq_nil_iff]
  simp only [decide_eq_true_eq, (perm_sortRows _ _).mem_iff]

/-- On a line with words an empty set is shown for a list statement that finds no row, and for
nothing else: an error and a help text start with other characters, and all other answers have one
row. -/
theorem answer_execute_iff (h : db.Follows S r rows) (hl : Words.split line = word :: rest) :
    db.answer (db.execute line).1 = "Empty set" ↔ db.FindsNone S rows line := by
  constructor
  · intro hempty
    obtain ⟨o, ho, hshown⟩ := answer_eq_empty_iff.mp hempty
    obtain ⟨q, hq, hperform⟩ := (execute_eq_ok_iff hl).mp ho
    obtain ⟨c, args, hc, hargs, ha⟩ := request_eq_ok_iff.mp hq
    rcases Request.perform_cases hperform with ⟨row, rfl⟩ | ⟨query, _, rfl, rfl⟩ | ⟨text, rfl, rfl⟩
    · rcases hshown with hnotice | ⟨-, hrows⟩
      · cases hnotice
      · cases hrows
    · have haction : Action.list = c.action := Request.action_of_ofAction ha
      rw [← haction, h.schema_eq] at ha
      obtain ⟨pairs, _, rfl, hpairs, ⟨⟩⟩ := Request.ofAction_list_eq_ok_iff.mp ha
      have hasks : db.Asks line pairs := ⟨word, rest, c, hl, hc, haction.symm, hargs⟩
      exact ⟨pairs, hasks, isOk_iff_exists.mpr ⟨query, hpairs⟩,
        (answer_of_asks h hasks hpairs).mp hempty⟩
    · rcases hshown with hnotice | ⟨hnotice, -⟩
      · exact absurd (Option.some.inj hnotice) (Request.ne_empty_of_ofAction ha)
      · cases hnotice
  · rintro ⟨pairs, hasks, hok, hnone⟩
    obtain ⟨q, hq⟩ := isOk_iff_exists.mp hok
    exact (answer_of_asks h hasks hq).mpr hnone

theorem eval_snd_of_blank_or (h : line.toList.all Text.isBlank ∨ Words.split line = []) :
    (db.eval line).2 = db := by
  rw [eval_snd]
  split_ifs with hblank
  · rfl
  · rw [execute_of_split_nil (h.resolve_left hblank)]

theorem all_isBlank_of_spaces (h : ∀ c ∈ line.toList, c = ' ') : line.toList.all Text.isBlank := by
  refine List.all_eq_true.mpr fun c hc => ?_
  rw [h c hc]
  decide

theorem exists_follows_eval (h : ∃ rows, db.Follows S r rows) (line : String) :
    ∃ rows, (db.eval line).2.Follows S r rows := by
  obtain ⟨rows, h⟩ := h
  rw [eval_snd]
  split_ifs
  · exact ⟨rows, h⟩
  · exact ⟨_, follows_execute h⟩

/-- A line has no words if it has only spaces, or spaces and a quote that is never closed. Leaving
the latter aside, in every state that a session reaches a line shows nothing exactly if it has no
words or only white space, and it shows an empty set exactly if it is not of white space and is a
list statement that is accepted and finds no row. A line that shows nothing or has no words leaves
the session as it was. -/
theorem eval_quiet_iff (S : Schema) (r : Registry) (lines : List String) (line : String) :
    let db := (run eval (start S r) lines).2
    let blank := line.toList.all Text.isBlank
    (Words.split line = [] ↔ (∀ c ∈ line.toList, c = ' ') ∨ Words.Unclosed line.toList) ∧
      ((db.eval line).1 = none ∨ Words.split line = [] → (db.eval line).2 = db) ∧
      ∃ rows, db.store.Lists S.key.name rows ∧
        (¬ Words.Unclosed line.toList →
          ((db.eval line).1 = none ↔ Words.split line = [] ∨ blank) ∧
            ((db.eval line).1 = some "Empty set" ↔ ¬ blank ∧ db.FindsNone S rows line)) := by
  intro db blank
  have hfollows : ∃ rows, db.Follows S r rows :=
    run_invariant (I := fun db : Session => ∃ rows, db.Follows S r rows)
      (fun _ line h => exists_follows_eval h line) ⟨[], follows_start S r⟩ lines
  obtain ⟨rows, h⟩ := hfollows
  refine ⟨Words.split_eq_nil_iff, fun hquiet => ?_, rows, h.shows.lists, fun hclosed => ⟨?_, ?_⟩⟩
  · exact eval_snd_of_blank_or (hquiet.imp_left eval_fst_eq_none_iff.mp)
  · have hspaces : Words.split line = [] → blank := fun hl =>
      all_isBlank_of_spaces ((Words.split_eq_nil_iff.mp hl).resolve_right hclosed)
    rw [eval_fst_eq_none_iff]
    exact ⟨Or.inr, fun hquiet => hquiet.elim hspaces id⟩
  · rw [eval_fst_eq_some_iff]
    refine and_congr_right fun hblank => ?_
    cases hl : Words.split line with
    | nil =>
      have hspaces := (Words.split_eq_nil_iff.mp hl).resolve_right hclosed
      exact absurd (all_isBlank_of_spaces hspaces) hblank
    | cons word rest => exact answer_execute_iff h hl

/-- A text that no row has, and white space beyond spaces. -/
theorem eval_quiet_iff_unmatched :
    let db := (run eval (start .staff .builtin) ["add id 1 name Ada day 1815-12-10", " \t"]).2
    (db.eval "\u3000 \t").1 = none ∧ (db.eval "\u3000 \t").2 = db ∧
      (db.eval "list name Bob").1 = some "Empty set" ∧
      ∃ rows, db.store.Lists "id" rows ∧ db.FindsNone .staff rows "list name Bob" := by
  intro db
  have hblank : (db.eval "\u3000 \t").1 = none := by decide
  have hempty : (db.eval "list name Bob").1 = some "Empty set" := by decide +kernel
  have hclosed : ¬ Words.Unclosed "list name Bob".toList := fun h =>
    absurd (Words.split_eq_nil_iff.mpr (Or.inr h)) (by decide)
  obtain ⟨-, hquiet, -⟩ := eval_quiet_iff .staff .builtin
    ["add id 1 name Ada day 1815-12-10", " \t"] "\u3000 \t"
  obtain ⟨-, -, rows, hrows, hshown⟩ := eval_quiet_iff .staff .builtin
    ["add id 1 name Ada day 1815-12-10", " \t"] "list name Bob"
  exact ⟨hblank, hquiet (Or.inl hblank), hempty, rows, hrows,
    ((hshown hclosed).2.mp hempty).2⟩

/-- A tab is a word and shows nothing. A quote that is never closed is no word and shows a text. -/
theorem not_eval_none_iff_split_nil :
    let db := start .staff .builtin
    ¬ ((db.eval "\t").1 = none ↔ Words.split "\t" = []) ∧
      ¬ ((db.eval "\"").1 = none ↔ Words.split "\"" = []) := by
  intro db
  have htab : (db.eval "\t").1 = none ∧ Words.split "\t" = ["\t"] := by decide
  have hquote : (db.eval "\"").1 = some "Empty set" ∧ Words.split "\"" = [] := by decide
  rw [htab.1, htab.2, hquote.1, hquote.2]
  decide

end Session

end TableShell
