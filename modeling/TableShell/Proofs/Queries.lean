import TableShell.Proofs.History
import TableShell.Proofs.Replay
import TableShell.Proofs.Stability

/-!
# Answers to queries

A query answers the stored rows that meet all its filters, each of them once. The first directive on
which two of them differ decides which comes first, and rows on which no directive decides come in
the order in which they were created.
-/

namespace TableShell

namespace Query

variable {S : Schema} {pairs : List (String × String)} {q : Query} {row a b : Row}

/-- The row has the converted value of every filter. -/
def Meets (S : Schema) (conditions : List (String × String)) (row : Row) : Prop :=
  ∀ c ∈ conditions, ∃ v, S.value? c.1 c.2 = some v ∧ row[c.1]? = some v

instance (S : Schema) (conditions : List (String × String)) (row : Row) :
    Decidable (Meets S conditions row) :=
  decidable_of_iff (∀ c ∈ conditions, (S.value? c.1 c.2).any fun v => row[c.1]? = some v) <| by
    simp only [Meets, Option.any_eq_true, decide_eq_true_eq]

def Ties (directives : List (String × String)) (a b : Row) : Prop :=
  ∀ d ∈ directives, a[d.2]? = b[d.2]?

def Precedes (directives : List (String × String)) (a b : Row) : Prop :=
  ∃ ds d ds' u v, directives = ds ++ d :: ds' ∧ Ties ds a b ∧
    a[d.2]? = some u ∧ b[d.2]? = some v ∧
    (d.1 = "$sort_asc" ∧ compare u v = .lt ∨ d.1 = "$sort_desc" ∧ compare v u = .lt)

theorem accepts_iff (hq : ofPairs S pairs = .ok q) :
    q.accepts row = true ↔ Meets S (conditions pairs) row := by
  obtain ⟨-, hp, -, hall, rfl⟩ := ofPairs_eq_ok_iff.mp hq
  rw [accepts, all_eq_true_iff]
  simp only [Schema.getElem?_converted_eq_some_iff hp, beq_iff_eq]
  constructor
  · intro h c hc
    obtain ⟨v, hv⟩ := Option.isSome_iff_exists.mp (hall c hc)
    exact ⟨v, hv, h c.1 v ⟨c.2, hc, hv⟩⟩
  · rintro h name v ⟨raw, hc, hv⟩
    obtain ⟨v', hv', hrow⟩ := h (name, raw) hc
    cases hv.symm.trans hv'
    exact hrow

theorem ties_iff {ds : List (String × String)} :
    SortKey.Ties (ds.map SortKey.ofPair) a b ↔ Ties ds a b := List.forall_mem_map

theorem precedes_of_sortKeys {ds : List (String × String)} (ha : S.Conforms a) (hb : S.Conforms b)
    (hds : ∀ d ∈ ds, (d.1 = "$sort_asc" ∨ d.1 = "$sort_desc") ∧ d.2 ∈ S.names)
    (h : SortKey.Precedes (ds.map SortKey.ofPair) a b) : Precedes ds a b := by
  obtain ⟨ks, k, ks', hkeys, hks, hk⟩ := h
  obtain ⟨ds₁, ds₂, rfl, rfl, hds₂⟩ := List.map_eq_append_iff.mp hkeys
  obtain ⟨d, ds₂, rfl, rfl, rfl⟩ := List.map_eq_cons_iff.mp hds₂
  obtain ⟨hdir, hcolumn⟩ := hds d (List.mem_append_right _ (List.mem_cons_self ..))
  have hvalue {row : Row} (hrow : S.Conforms row) : ∃ v, row[d.2]? = some v := by
    have hmem := (hrow.mem_iff d.2).mpr hcolumn
    rwa [Std.ExtTreeMap.mem_iff_isSome_getElem?, Option.isSome_iff_exists] at hmem
  obtain ⟨u, hu⟩ := hvalue ha
  obtain ⟨v, hv⟩ := hvalue hb
  refine ⟨ds₁, d, ds₂, u, v, rfl, ties_iff.mp hks, hu, hv, ?_⟩
  rcases hdir with hdir | hdir
  · simp only [SortKey.Puts, SortKey.ofPair, hdir, if_true, hu, hv] at hk
    cases hk with
    | value hlt => exact Or.inl ⟨hdir, hlt⟩
  · have hne : d.1 ≠ "$sort_asc" := by
      rw [hdir]
      decide
    simp only [SortKey.Puts, SortKey.ofPair, hne, if_false, hu, hv] at hk
    cases hk with
    | value hlt => exact Or.inr ⟨hdir, hlt⟩

theorem pairwise_answer {rows : List Row} (hq : ofPairs S pairs = .ok q)
    (hrows : ∀ row ∈ rows, S.Conforms row) :
    (sortRows q.sort (rows.filter q.accepts)).Pairwise fun a b =>
      Precedes (directives pairs) a b ∨ Ties (directives pairs) a b ∧ [a, b].Sublist rows := by
  obtain ⟨hds, -, -, -, rfl⟩ := ofPairs_eq_ok_iff.mp hq
  have hsort := stableSort_sortRows ((directives pairs).map SortKey.ofPair)
    (rows.filter (accepts ⟨S.converted (conditions pairs), (directives pairs).map SortKey.ofPair⟩))
  rw [List.pairwise_iff_forall_sublist]
  intro a b hsub
  have hmem : ∀ row ∈ [a, b], S.Conforms row := fun row hrow =>
    hrows row (List.mem_filter.mp (hsort.perm.mem_iff.mp (hsub.subset hrow))).1
  have ha := hmem a (List.mem_cons_self ..)
  have hb := hmem b (List.mem_cons_of_mem _ (List.mem_cons_self ..))
  rcases List.pairwise_iff_forall_sublist.mp hsort.pairwise hsub with hprecedes | hties
  · exact Or.inl (precedes_of_sortKeys ha hb hds hprecedes)
  · have hkept := hsort.sublist_of_ties hsub hties
    exact Or.inr ⟨ties_iff.mp hties, hkept.trans List.filter_sublist⟩

end Query

namespace Session

/-- After any lines in a session with any commands, an accepted query is answered with the rows that
meet its filters: these and no others, each once, and in the order that its directives ask for. The
rows are those that a replay of the lines leaves. -/
theorem run_query (S : Schema) (r : Registry) (lines : List String)
    (pairs : List (String × String)) (q : Query) (hq : Query.ofPairs S pairs = .ok q) :
    let s := (run execute (start S r) lines).2.store
    let rows := (start S r).replay [] lines
    let directives := Query.directives pairs
    let conditions := Query.conditions pairs
    s.Lists S.key.name rows ∧
      ∃ answer, q.run s = .ok answer ∧ answer.Nodup ∧
        (∀ row, row ∈ answer ↔ row ∈ rows ∧ Query.Meets S conditions row) ∧
        answer.Pairwise (fun a b => Query.Precedes directives a b ∨
          Query.Ties directives a b ∧ [a, b].Sublist rows) ∧
        (directives = [] → answer.Sublist rows) ∧
        (conditions = [] → answer.Perm rows) := by
  intro s rows directives conditions
  obtain ⟨-, -, hs, hrows⟩ := follows_run (follows_start S r) lines
  have hperm := perm_sortRows q.sort (rows.filter q.accepts)
  refine ⟨hs.lists, sortRows q.sort (rows.filter q.accepts), Request.run_eq hs q, ?_, fun row => ?_,
    Query.pairwise_answer hq hrows, fun hnone => ?_, fun hnone => ?_⟩
  · have hnodup : rows.Nodup := hs.nodup_keys.of_map _
    exact hperm.nodup_iff.mpr (hnodup.filter _)
  · rw [hperm.mem_iff, List.mem_filter, Query.accepts_iff hq]
  · have hsort : q.sort = directives.map SortKey.ofPair := by
      rw [(Query.ofPairs_eq_ok_iff.mp hq).2.2.2.2]
    rw [hsort, hnone, List.map_nil, sortRows_nil]
    exact List.filter_sublist
  · have hall : ∀ row ∈ rows, q.accepts row = true := by
      intro row _
      rw [Query.accepts_iff hq]
      change Query.Meets S conditions row
      rw [hnone]
      exact fun c hc => (List.not_mem_nil hc).elim
    rw [List.filter_eq_self.mpr hall]
    exact perm_sortRows q.sort rows

/-- A filter that two of three rows meet, and a directive that turns them round. -/
theorem run_query_turned :
    let lines := ["add id 1 name Ada day 1815-12-10", "add id 2 name Bob day 1900-01-01",
      "add id 3 name Ada day 1990-05-05"]
    let pairs := [("name", "Ada"), ("$sort_desc", "day")]
    let q : Query := ⟨Std.ExtTreeMap.ofList [("name", Value.text "Ada")], [⟨"day", .descending⟩]⟩
    let rows := (start .staff .builtin).replay [] lines
    Query.ofPairs .staff pairs = .ok q ∧
      ∃ answer, q.run (run execute (start .staff .builtin) lines).2.store = .ok answer ∧
        (∀ row, row ∈ answer ↔ row ∈ rows ∧ Query.Meets .staff [("name", "Ada")] row) ∧
        answer.Pairwise (fun a b => Query.Precedes [("$sort_desc", "day")] a b ∨
          Query.Ties [("$sort_desc", "day")] a b ∧ [a, b].Sublist rows) := by
  intro lines pairs q rows
  have hq : Query.ofPairs .staff pairs = .ok q := by decide +kernel
  obtain ⟨-, answer, hanswer, -, hmem, hpairwise, -⟩ := run_query .staff .builtin lines pairs q hq
  exact ⟨hq, answer, hanswer, hmem, hpairwise⟩

end Session

end TableShell
