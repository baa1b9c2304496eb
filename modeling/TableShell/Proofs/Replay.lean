import TableShell.Proofs.Conformance

/-!
# Replay of a session

A line is handled by an action, to which it gives its arguments. Whatever the commands of a session
are, its rows are those that its requests leave when they are replayed on a plain list: a new row
goes to the end, and no request moves another row.
-/

namespace TableShell.Session

variable {S : Schema} {r : Registry} {db : Session} {line word : String} {rest : List String}
  {rows : List Row} {o : Outcome}

def handle (db : Session) (a : Action) (args : List Argument) : Except Error Outcome × Session :=
  match Request.ofAction db.schema db.registry args a with
  | .error e => (.error e, db)
  | .ok q => ((q.perform db.store).1, { db with store := (q.perform db.store).2 })

theorem execute_eq_handle (hl : Words.split line = word :: rest) {c : Command}
    (hc : db.registry.find word = .ok c) {args : List Argument}
    (hargs : c.grammar.group rest = .ok args) : db.execute line = db.handle c.action args := by
  have hrequest : db.request word rest = Request.ofAction db.schema db.registry args c.action := by
    rw [request, hc]
    dsimp only [bind, Except.bind]
    rw [hargs]
  unfold handle
  rw [← hrequest]
  cases hq : db.request word rest with
  | error e => exact execute_of_request_error hl hq
  | ok q => exact execute_of_request_ok hl hq

theorem handle_fst (db : Session) (a : Action) (args : List Argument) :
    (db.handle a args).1 =
      Request.ofAction db.schema db.registry args a >>= fun q => (q.perform db.store).1 := by
  unfold handle
  cases Request.ofAction db.schema db.registry args a <;> rfl

theorem handle_snd_of_error {a : Action} {args : List Argument} {e : Error}
    (h : (db.handle a args).1 = .error e) : (db.handle a args).2 = db := by
  unfold handle at *
  cases hq : Request.ofAction db.schema db.registry args a with
  | error e' => rfl
  | ok q =>
    rw [hq] at h
    dsimp only at h ⊢
    rw [Request.perform_snd_of_error h]

theorem handle_of_ok {a : Action} {args : List Argument} (h : (db.handle a args).1 = .ok o) :
    ∃ q, Request.ofAction db.schema db.registry args a = .ok q ∧ (q.perform db.store).1 = .ok o ∧
      (db.handle a args).2.store = (q.perform db.store).2 := by
  unfold handle at *
  cases hq : Request.ofAction db.schema db.registry args a with
  | error e =>
    rw [hq] at h
    cases h
  | ok q =>
    rw [hq] at h
    exact ⟨q, rfl, h, rfl⟩

def replayLine (db : Session) (rows : List Row) (line : String) : List Row :=
  match Words.split line with
  | [] => rows
  | word :: rest =>
    match db.request word rest with
    | .error _ => rows
    | .ok q => if (db.execute line).1.isOk then q.after db.schema.key.name rows else rows

def replay (db : Session) (rows : List Row) : List String → List Row
  | [] => rows
  | line :: lines => (db.execute line).2.replay (db.replayLine rows line) lines

/-- The session has this schema and these commands, and its store shows rows of the schema. -/
structure Follows (S : Schema) (r : Registry) (db : Session) (rows : List Row) : Prop where
  schema_eq : db.schema = S
  registry_eq : db.registry = r
  shows : db.store.Shows S.key.name rows
  conforms : ∀ row ∈ rows, S.Conforms row

theorem follows_start (S : Schema) (r : Registry) : (start S r).Follows S r [] :=
  ⟨rfl, rfl, Store.shows_empty S.key.name, fun _ hrow => (List.not_mem_nil hrow).elim⟩

theorem follows_execute (h : db.Follows S r rows) :
    (db.execute line).2.Follows S r (db.replayLine rows line) := by
  have hschema : (db.execute line).2.schema = S := schema_execute.trans h.schema_eq
  have hregistry : (db.execute line).2.registry = r := registry_execute.trans h.registry_eq
  unfold replayLine
  cases hl : Words.split line with
  | nil =>
    rw [execute_of_split_nil hl]
    exact h
  | cons word rest =>
    dsimp only
    cases hq : db.request word rest with
    | error e =>
      rw [execute_of_request_error hl hq]
      exact h
    | ok q =>
      obtain ⟨c, args, -, -, ha⟩ := request_eq_ok_iff.mp hq
      have hsuits : q.Suits S := h.schema_eq ▸ Request.suits_of_ofAction ha
      suffices hafter : (db.execute line).2.store.Shows S.key.name _ ∧ ∀ row ∈ _, S.Conforms row from
        ⟨hschema, hregistry, hafter.1, hafter.2⟩
      rw [execute_of_request_ok hl hq, h.schema_eq]
      cases ho : (q.perform db.store).1 with
      | error e =>
        rw [Request.perform_snd_of_error ho]
        exact ⟨h.shows, h.conforms⟩
      | ok o => exact ⟨Request.shows_perform h.shows ho, Request.conforms_after hsuits h.conforms⟩

theorem follows_run (h : db.Follows S r rows) (lines : List String) :
    (run execute db lines).2.Follows S r (db.replay rows lines) := by
  induction lines generalizing db rows with
  | nil => exact h
  | cons line lines ih => exact ih (follows_execute h)

/-- Every row that is answered is in the table before or after the line. -/
theorem mem_of_execute (h : db.Follows S r rows) (ho : (db.execute line).1 = .ok o) :
    ∀ row ∈ o.rows, row ∈ rows ∨ row ∈ db.replayLine rows line := by
  cases hl : Words.split line with
  | nil =>
    rw [execute_of_split_nil hl] at ho
    cases ho
    exact fun row hrow => (List.not_mem_nil hrow).elim
  | cons word rest =>
    obtain ⟨q, hq, hperform⟩ := (execute_eq_ok_iff hl).mp ho
    have hafter : db.replayLine rows line = q.after S.key.name rows := by
      simp only [replayLine, hl, hq, ho, h.schema_eq, Except.isOk, Except.toBool, if_true]
    rw [hafter]
    exact Request.mem_of_perform h.shows hperform

end TableShell.Session
