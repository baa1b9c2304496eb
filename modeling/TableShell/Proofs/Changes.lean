import TableShell.Proofs.Entries
import TableShell.Proofs.History
import TableShell.Proofs.Replay

/-!
# Additions and modifications

What is asked of an addition and of a modification, in the order that decides which error they meet,
and what becomes of the rows when nothing stands against them.
-/

namespace TableShell

namespace Condition

variable (p : String) (rows : List Row)

def unused (key? : Option Value) : Condition where
  holds := ∀ key ∈ key?, ∀ row ∈ rows, row[p]? ≠ some key
  reports e := ∃ key ∈ key?, e = .duplicateEntry p key.display

def stored (key? : Option Value) : Condition where
  holds := ∀ key ∈ key?, ∃ row ∈ rows, row[p]? = some key
  reports e := ∃ key ∈ key?, e = .entryNotFound p key.display

end Condition

open Condition

def Schema.additionConditions (S : Schema) (rows : List Row) (pairs : List (String × String)) :
    List Condition :=
  let keys := pairs.map Prod.fst
  [distinct keys, complete S keys, declared S keys, convertible S pairs,
    unused S.key.name rows (S.converted pairs)[S.key.name]?]

def Schema.modificationConditions (S : Schema) (rows : List Row) (target : String × String)
    (updates : List (String × String)) : List Condition :=
  let keys := updates.map Prod.fst
  [targeted S target.1, fixed S keys, distinct keys, declared S keys,
    convertible S [(S.key.name, target.2)], convertible S updates,
    stored S.key.name rows (S.value? S.key.name target.2)]

variable {S : Schema} {rows : List Row} {pairs updates : List (String × String)}
  {target : String × String}

namespace Store.Shows

variable {s : Store} {p : String} {key : Value} {fields : Row}

theorem decides_create (h : s.Shows p rows) :
    Decides [unused p rows (some key)] (s.create key fields).1 := by
  by_cases hk : ∃ row ∈ rows, row[p]? = some key
  · obtain ⟨row, hrow, hk⟩ := hk
    rw [h.create_error fields hrow hk]
    exact .fail (fun hall => hall key rfl row hrow hk) ⟨key, rfl, rfl⟩
  · push Not at hk
    rw [h.create_ok fields hk]
    exact .pass (by rintro _ ⟨⟩; exact hk) (.succeed _)

theorem decides_update (h : s.Shows p rows) :
    Decides [stored p rows (some key)] (s.update key fields).1 := by
  by_cases hk : ∃ row ∈ rows, row[p]? = some key
  · obtain ⟨row, hrow, hkey⟩ := hk
    rw [h.update_ok fields hrow hkey]
    exact .pass (by rintro _ ⟨⟩; exact ⟨row, hrow, hkey⟩) (.succeed _)
  · push Not at hk
    rw [h.update_error fields hk]
    refine .fail (fun hall => ?_) ⟨key, rfl, rfl⟩
    obtain ⟨row, hrow, hkey⟩ := hall key rfl
    exact hk row hrow hkey

theorem update_in_place (h : s.Shows p rows) {row : Row}
    (hu : (s.update key fields).1 = .ok row) :
    ∃ before old after, rows = before ++ old :: after ∧ old[p]? = some key ∧
      row = old ∪ fields.erase p ∧ (s.update key fields).2.Shows p (before ++ row :: after) := by
  obtain ⟨old, hold, hkey, rfl, hshows⟩ := h.update_of_ok hu
  obtain ⟨before, after, rfl⟩ := List.append_of_mem hold
  refine ⟨before, old, after, rfl, hkey, rfl, ?_⟩
  have hnodup : (old[p]? :: (before ++ after).map (·[p]?)).Nodup := by
    have hkeys := h.nodup_keys
    rwa [List.map_append, List.map_cons, List.nodup_middle, ← List.map_append] at hkeys
  have hother (r : Row) (hr : r ∈ before ++ after) : r[p]? ≠ some key := fun hrkey =>
    (List.nodup_cons.mp hnodup).1 (hkey.trans hrkey.symm ▸ List.mem_map_of_mem hr)
  have hsame {l : List Row} (hl : ∀ r ∈ l, r ∈ before ++ after) :
      (l.map fun r => if r[p]? = some key then r ∪ fields.erase p else r) = l :=
    (List.map_congr_left fun r hr => if_neg (hother r (hl r hr))).trans l.map_id
  rwa [List.map_append, List.map_cons, if_pos hkey, hsame fun r => List.mem_append_left after,
    hsame fun r => List.mem_append_right before] at hshows

end Store.Shows

namespace Session

variable {db : Session} {r : Registry}

theorem Follows.decides_add (h : db.Follows S r rows) (pairs : List (String × String)) :
    Decides (S.additionConditions rows pairs)
      (db.handle .add (pairs.map fun p => .pair p.1 p.2)).1 := by
  rw [handle_fst, Request.ofAction_add_pairs, h.schema_eq]
  refine Request.decides_ofAdd.bind fun q hq => ?_
  obtain ⟨-, -, -, key, hkey, rfl⟩ := Request.ofAdd_eq_ok_iff.mp hq
  rw [hkey]
  exact h.shows.decides_create.map _

theorem Follows.decides_modify (h : db.Follows S r rows) (target : String × String)
    (updates : List (String × String)) :
    Decides (S.modificationConditions rows target updates)
      (db.handle .modify ((target :: updates).map fun p => .pair p.1 p.2)).1 := by
  rw [handle_fst, Request.ofAction_modify_pairs, h.schema_eq]
  refine Request.decides_ofModify.bind fun q hq => ?_
  obtain ⟨_, _, key, hpairs, -, -, -, hkey, -, rfl⟩ := Request.ofModify_eq_ok_iff.mp hq
  cases hpairs
  rw [hkey]
  exact h.shows.decides_update.map _

/-- In every session that is reached, the store lists its rows, and what is asked of an addition
decides, in its order, with which error it fails. A failure changes nothing. Where nothing stands
against it, the answer is a whole row with the values of the given texts, which goes to the end. -/
theorem addition_decided (S : Schema) (r : Registry) (lines : List String)
    (pairs : List (String × String)) :
    let db := (run execute (start S r) lines).2
    let answer := db.handle .add (pairs.map fun p => .pair p.1 p.2)
    ∃ rows, db.store.Lists S.key.name rows ∧
      Decides (S.additionConditions rows pairs) answer.1 ∧
      (∀ e, answer.1 = .error e → answer.2 = db) ∧
      ((∀ c ∈ S.additionConditions rows pairs, c.holds) → ∃ row, answer.1 = .ok (.ofRow row) ∧
        S.Conforms row ∧ S.Takes pairs row ∧
        answer.2.store.Lists S.key.name (rows ++ [row])) := by
  intro db answer
  have h : db.Follows S r _ := follows_run (follows_start S r) lines
  have hdecides := h.decides_add pairs
  refine ⟨_, h.shows.lists, hdecides, fun e he => handle_snd_of_error he, fun hconds => ?_⟩
  obtain ⟨o, ho⟩ := hdecides.exists_ok_iff.mpr hconds
  obtain ⟨q, hq, hperform, hstore⟩ := handle_of_ok ho
  rw [Request.ofAction_add_pairs, h.schema_eq] at hq
  obtain ⟨hp, hnames, hall, key, hkey, rfl⟩ := Request.ofAdd_eq_ok_iff.mp hq
  obtain ⟨row, hrow, rfl⟩ := Request.map_ofRow_eq_ok_iff.mp hperform
  obtain ⟨hrow, hshows⟩ := h.shows.create_of_ok hrow
  rw [insert_erase_of_getElem? hkey] at hrow
  exact ⟨row, ho, hrow ▸ Schema.conforms_converted hp hnames hall,
    hrow ▸ Schema.takes_converted hp hall, hstore ▸ hshows.lists⟩

/-- A key comes twice, a name is missing, one is not declared, a text is no number and another one
is the key of a row: the first of these is reported. Without them there is a second row. -/
theorem addition_decided_second :
    let lines := ["add id 1 name Ada day 1815-12-10"]
    let db := (run execute (start .staff .builtin) lines).2
    let add (pairs : List (String × String)) := db.handle .add (pairs.map fun p => .pair p.1 p.2)
    let pairs := [("day", "+1816-2-29"), ("id", "2"), ("name", "Ada")]
    (add [("id", "1"), ("age", "x"), ("day", "x"), ("age", "y"), ("id", "z")]).1 =
        .error (.argumentConflict "age") ∧
      (add [("id", "1"), ("age", "x"), ("day", "x")]).1 =
        .error (.entryInvalid (.missingKeys ["name"])) ∧
      ∃ rows row, (∀ c ∈ Schema.staff.additionConditions rows pairs, c.holds) ∧
        (add pairs).1 = .ok (.ofRow row) ∧ Schema.staff.Takes pairs row ∧
        (add pairs).2.store.Lists Schema.staff.key.name (rows ++ [row]) := by
  intro lines db add pairs
  obtain ⟨rows, -, hdecides, -, hok⟩ := addition_decided .staff .builtin lines pairs
  have hall : ∀ c ∈ Schema.staff.additionConditions rows pairs, c.holds :=
    hdecides.exists_ok_iff.mp (isOk_iff_exists.mp (by decide))
  obtain ⟨row, hanswer, -, htakes, hlists⟩ := hok hall
  exact ⟨by decide, by decide, rows, row, hall, hanswer, htakes, hlists⟩

/-- In every session that is reached, the store lists its rows, and what is asked of a modification
decides, in its order, with which error it fails. A failure changes nothing. Where nothing stands
against it, the row with the target's key gets the values of the given texts and keeps its other
values, its key and its place, and no other row changes. -/
theorem modification_decided (S : Schema) (r : Registry) (lines : List String)
    (target : String × String) (updates : List (String × String)) :
    let db := (run execute (start S r) lines).2
    let answer := db.handle .modify ((target :: updates).map fun p => .pair p.1 p.2)
    ∃ rows, db.store.Lists S.key.name rows ∧
      Decides (S.modificationConditions rows target updates) answer.1 ∧
      (∀ e, answer.1 = .error e → answer.2 = db) ∧
      ((∀ c ∈ S.modificationConditions rows target updates, c.holds) →
        ∃ before old after row, rows = before ++ old :: after ∧ answer.1 = .ok (.ofRow row) ∧
          answer.2.store.Lists S.key.name (before ++ row :: after) ∧
          (∃ key, S.value? S.key.name target.2 = some key ∧ old[S.key.name]? = some key ∧
            row[S.key.name]? = some key) ∧
          S.Takes updates row ∧
          ∀ field, field ∉ updates.map Prod.fst → row[field]? = old[field]?) := by
  intro db answer
  have h : db.Follows S r _ := follows_run (follows_start S r) lines
  have hdecides := h.decides_modify target updates
  refine ⟨_, h.shows.lists, hdecides, fun e he => handle_snd_of_error he, fun hconds => ?_⟩
  obtain ⟨o, ho⟩ := hdecides.exists_ok_iff.mpr hconds
  obtain ⟨q, hq, hperform, hstore⟩ := handle_of_ok ho
  rw [Request.ofAction_modify_pairs, h.schema_eq] at hq
  obtain ⟨_, _, key, hpairs, hname, hp, -, hkey, hall, rfl⟩ := Request.ofModify_eq_ok_iff.mp hq
  cases hpairs
  obtain ⟨row, hrow, rfl⟩ := Request.map_ofRow_eq_ok_iff.mp hperform
  obtain ⟨before, old, after, hrows, hold, hunion, hshows⟩ := h.shows.update_in_place hrow
  rw [erase_row_of_notMem (Schema.notMem_converted hp hname)] at hunion
  have hkept (field : String) (hfield : field ∉ updates.map Prod.fst) :
      row[field]? = old[field]? := by
    rw [hunion, Std.ExtTreeMap.getElem?_union,
      Std.ExtTreeMap.getElem?_eq_none (Schema.notMem_converted hp hfield), Option.none_or]
  have htakes : S.Takes updates row := hunion ▸ (Schema.takes_converted hp hall).union
  exact ⟨before, old, after, row, hrows, ho, hstore ▸ hshows.lists,
    ⟨key, hkey, hold, (hkept _ hname).trans hold⟩, htakes, hkept⟩

/-- The key is among the fields, one comes twice, one is not declared and there is no such row: the
first of these is reported. Without them one of two rows gets another day. -/
theorem modification_decided_day :
    let lines := ["add id 1 name Ada day 1815-12-10", "add id 2 name Bob day 1900-01-01"]
    let db := (run execute (start .staff .builtin) lines).2
    let modify (pairs : List (String × String)) :=
      db.handle .modify (pairs.map fun p => .pair p.1 p.2)
    let updates := [("day", "-1-2-3")]
    (modify [("id", "7"), ("age", "x"), ("id", "2"), ("age", "y")]).1 =
        .error (.invalidKeyArgument "id") ∧
      (modify [("id", "7"), ("age", "x"), ("day", "x"), ("age", "y")]).1 =
        .error (.argumentConflict "age") ∧
      ∃ rows, (∀ c ∈ Schema.staff.modificationConditions rows ("id", "+01") updates, c.holds) ∧
        ∃ before old after row, rows = before ++ old :: after ∧
          (modify (("id", "+01") :: updates)).1 = .ok (.ofRow row) ∧
          (modify (("id", "+01") :: updates)).2.store.Lists Schema.staff.key.name
            (before ++ row :: after) ∧
          row["name"]? = old["name"]? := by
  intro lines db modify updates
  obtain ⟨rows, -, hdecides, -, hok⟩ :=
    modification_decided .staff .builtin lines ("id", "+01") updates
  have hall : ∀ c ∈ Schema.staff.modificationConditions rows ("id", "+01") updates, c.holds :=
    hdecides.exists_ok_iff.mp (isOk_iff_exists.mp (by decide))
  obtain ⟨before, old, after, row, hrows, hanswer, hlists, -, -, hkept⟩ := hok hall
  exact ⟨by decide, by decide, rows, hall, before, old, after, row, hrows, hanswer,
    hlists, hkept "name" (by decide)⟩

end Session

end TableShell
