import TableShell.Proofs.Rows
import TableShell.Proofs.Statements

/-!
# Rows conform to the schema

Whatever commands a session has and whatever lines it gets, every row that it stores or answers has
exactly the declared columns, with values of their types.
-/

namespace TableShell

/-- The store shows rows of the schema only. -/
def Schema.Fits (S : Schema) (s : Store) : Prop :=
  ∃ rows, s.Shows S.key.name rows ∧ ∀ row ∈ rows, S.Conforms row

/-- What a request puts into the store belongs there. -/
def Request.Suits (S : Schema) : Request → Prop
  | .create key fields => S.Conforms ((fields.erase S.key.name).insert S.key.name key)
  | .update _ fields => S.Typed fields
  | .delete _ | .read _ | .select _ | .notice _ => True

variable {S : Schema}

theorem Schema.fits_empty (S : Schema) : S.Fits (.empty S.key.name) :=
  ⟨[], Store.shows_empty S.key.name, fun _ h => nomatch h⟩

namespace Request

variable {r : Registry} {args : List Argument} {q : Request} {s : Store}

theorem suits_of_ofAction {a : Action} (h : ofAction S r args a = .ok q) : q.Suits S := by
  cases a with
  | add =>
    obtain ⟨pairs, -, h⟩ := ofAction_add_eq_ok_iff.mp h
    obtain ⟨hp, hnames, hall, key, hkey, rfl⟩ := ofAdd_eq_ok_iff.mp h
    rw [Suits, insert_erase_of_getElem? hkey]
    exact Schema.conforms_converted hp hnames hall
  | modify =>
    obtain ⟨pairs, -, h⟩ := ofAction_modify_eq_ok_iff.mp h
    obtain ⟨_, _, _, -, -, -, -, -, -, rfl⟩ := ofModify_eq_ok_iff.mp h
    exact Schema.typed_converted
  | delete =>
    obtain ⟨_, _, -, -, rfl⟩ := ofAction_delete_eq_ok_iff.mp h
    trivial
  | get =>
    obtain ⟨_, _, -, -, rfl⟩ := ofAction_get_eq_ok_iff.mp h
    trivial
  | list =>
    obtain ⟨_, -, rfl⟩ := map_eq_ok_iff.mp h
    trivial
  | help =>
    obtain ⟨_, -, rfl⟩ := map_eq_ok_iff.mp h
    trivial

theorem conforms_after {rows : List Row} (hq : q.Suits S) (h : ∀ row ∈ rows, S.Conforms row) :
    ∀ row ∈ q.after S.key.name rows, S.Conforms row := by
  refine forall_after (fun key fields hcreate => ?_) (fun key fields hupdate row hrow => ?_) h
  · rw [hcreate] at hq
    exact hq
  · rw [hupdate] at hq
    exact hrow.union (Schema.Typed.erase hq S.key.name)

theorem fits_perform (hq : q.Suits S) (h : S.Fits s) : S.Fits (q.perform s).2 := by
  cases ho : (q.perform s).1 with
  | error e => rwa [perform_snd_of_error ho]
  | ok o =>
    obtain ⟨rows, hs, hrows⟩ := h
    exact ⟨_, shows_perform hs ho, conforms_after hq hrows⟩

theorem conforms_perform (hq : q.Suits S) (h : S.Fits s) {o : Outcome}
    (ho : (q.perform s).1 = .ok o) : ∀ row ∈ o.rows, S.Conforms row := by
  obtain ⟨rows, hs, hrows⟩ := h
  intro row hmem
  rcases mem_of_perform hs ho row hmem with hmem | hmem
  · exact hrows row hmem
  · exact conforms_after hq hrows row hmem

end Request

namespace Session

def Fits (S : Schema) (db : Session) : Prop := db.schema = S ∧ S.Fits db.store

variable {db : Session} {line : String}

theorem fits_execute (h : db.Fits S) : (db.execute line).2.Fits S := by
  obtain ⟨rfl, hs⟩ := h
  rcases db.execute_cases line with ⟨-, hx⟩ | ⟨_, _, _, -, -, hx⟩ | ⟨_, _, q, -, hq, hx⟩
  · rw [hx]
    exact ⟨rfl, hs⟩
  · rw [hx]
    exact ⟨rfl, hs⟩
  · obtain ⟨c, args, -, -, hq⟩ := request_eq_ok_iff.mp hq
    rw [hx]
    exact ⟨rfl, Request.fits_perform (Request.suits_of_ofAction hq) hs⟩

theorem conforms_execute (h : db.Fits S) {o : Outcome} (ho : (db.execute line).1 = .ok o) :
    ∀ row ∈ o.rows, S.Conforms row := by
  obtain ⟨rfl, hs⟩ := h
  rcases db.execute_cases line with ⟨-, hx⟩ | ⟨_, _, _, -, -, hx⟩ | ⟨_, _, q, -, hq, hx⟩
  · rw [hx] at ho
    cases ho
    exact fun row hrow => nomatch hrow
  · rw [hx] at ho
    cases ho
  · obtain ⟨c, args, -, -, hq⟩ := request_eq_ok_iff.mp hq
    rw [hx] at ho
    exact Request.conforms_perform (Request.suits_of_ofAction hq) hs ho

/-- In every state that a session reaches, with any commands and grammars, the store is read without
error, its rows conform to the schema and have their keys under the name of the primary key. All the
rows that the session has answered conform to the schema too. -/
theorem rows_conform (S : Schema) (r : Registry) (lines : List String) :
    let answers := (run execute (start S r) lines).1
    let s := (run execute (start S r) lines).2.store
    (∃ rows, s.scan s.cursor = .ok rows ∧ (∀ row ∈ rows, S.Conforms row) ∧
        rows.map (·[S.key.name]?) = s.cursor.keys.toList.map some) ∧
      (∀ key row, s.read key = .ok row → S.Conforms row ∧ row[S.key.name]? = some key) ∧
      ∀ o, .ok o ∈ answers → ∀ row ∈ o.rows, S.Conforms row := by
  intro answers s
  have hstart : (start S r).Fits S := ⟨rfl, S.fits_empty⟩
  have hstep (db : Session) (line : String) (h : db.Fits S) : (db.execute line).2.Fits S :=
    fits_execute h
  obtain ⟨-, rows, hs, hrows⟩ := run_invariant hstep hstart lines
  refine ⟨⟨rows, hs.scan_cursor, hrows, hs.map_key⟩, fun key row hread => ?_, fun o ho => ?_⟩
  · obtain ⟨hrow, hkey⟩ := hs.read_eq_ok_iff.mp hread
    exact ⟨hrows row hrow, hkey⟩
  · exact run_answers (P := fun a => ∀ o, a = .ok o → ∀ row ∈ o.rows, S.Conforms row) hstep
      (fun db line h o ho => conforms_execute h ho) hstart lines _ ho o rfl

end Session

end TableShell
