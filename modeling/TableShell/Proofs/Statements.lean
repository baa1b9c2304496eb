import TableShell.Proofs.Requests
import TableShell.Proofs.Run
import TableShell.Session

/-!
# Statements

What one statement can do to a session. A statement that fails, one that only looks and a line
without words leave everything as it was, so that they can be left out of a session without a change
of its end.
-/

namespace TableShell

/-- A schema with a column of each type. -/
def Schema.staff : Schema where
  columns := [⟨"id", .integer, true⟩, ⟨"name", .string, false⟩, ⟨"day", .date, false⟩]
  key := ⟨"id", .integer, true⟩
  names_nodup := by decide
  filter_isKey := by decide

namespace Request

variable {S : Schema} {r : Registry} {args : List Argument} {q : Request}

theorem ofAction_add_eq_ok_iff :
    ofAction S r args .add = .ok q ↔
      ∃ pairs : List (String × String), args = pairs.map (fun p => .pair p.1 p.2) ∧
        ofAdd S pairs = .ok q := by
  rw [ofAction, bind_eq_ok_iff]
  simp only [mapM_toPair_eq_ok_iff]

theorem ofAction_modify_eq_ok_iff :
    ofAction S r args .modify = .ok q ↔
      ∃ pairs : List (String × String), args = pairs.map (fun p => .pair p.1 p.2) ∧
        ofModify S pairs = .ok q := by
  rw [ofAction, bind_eq_ok_iff]
  simp only [mapM_toPair_eq_ok_iff]

theorem key_eq_ok_iff {f : Value → Request} :
    (singleValue args >>= S.convertKey).map f = .ok q ↔
      ∃ raw key, args = [.value raw] ∧ S.value? S.key.name raw = some key ∧ q = f key := by
  simp only [map_eq_ok_iff, bind_eq_ok_iff, singleValue_eq_ok_iff, Schema.convertKey_eq_ok_iff]
  constructor
  · rintro ⟨key, ⟨raw, hargs, hraw⟩, rfl⟩
    exact ⟨raw, key, hargs, hraw, rfl⟩
  · rintro ⟨raw, key, hargs, hraw, rfl⟩
    exact ⟨key, ⟨raw, hargs, hraw⟩, rfl⟩

theorem ofAction_delete_eq_ok_iff :
    ofAction S r args .delete = .ok q ↔
      ∃ raw key, args = [.value raw] ∧ S.value? S.key.name raw = some key ∧ q = .delete key :=
  key_eq_ok_iff

theorem ofAction_get_eq_ok_iff :
    ofAction S r args .get = .ok q ↔
      ∃ raw key, args = [.value raw] ∧ S.value? S.key.name raw = some key ∧ q = .read key :=
  key_eq_ok_iff

theorem ofAction_list_eq_ok_iff :
    ofAction S r args .list = .ok q ↔
      ∃ (pairs : List (String × String)) (query : Query),
        args = pairs.map (fun p => .pair p.1 p.2) ∧ Query.ofPairs S pairs = .ok query ∧
          q = .select query := by
  simp only [ofAction, map_eq_ok_iff, bind_eq_ok_iff, mapM_toPair_eq_ok_iff]
  constructor
  · rintro ⟨query, ⟨pairs, hargs, hquery⟩, rfl⟩
    exact ⟨pairs, query, hargs, hquery, rfl⟩
  · rintro ⟨pairs, query, hargs, hquery, rfl⟩
    exact ⟨query, ⟨pairs, hargs, hquery⟩, rfl⟩

def action : Request → Action
  | .create .. => .add
  | .delete _ => .delete
  | .read _ => .get
  | .select _ => .list
  | .update .. => .modify
  | .notice _ => .help

theorem action_of_ofAction {a : Action} (h : ofAction S r args a = .ok q) : q.action = a := by
  cases a with
  | add =>
    obtain ⟨pairs, -, hadd⟩ := ofAction_add_eq_ok_iff.mp h
    obtain ⟨-, -, -, key, -, rfl⟩ := ofAdd_eq_ok_iff.mp hadd
    rfl
  | modify =>
    obtain ⟨pairs, -, hmodify⟩ := ofAction_modify_eq_ok_iff.mp h
    obtain ⟨raw, updates, key, -, -, -, -, -, -, rfl⟩ := ofModify_eq_ok_iff.mp hmodify
    rfl
  | delete =>
    obtain ⟨raw, key, -, -, rfl⟩ := ofAction_delete_eq_ok_iff.mp h
    rfl
  | get =>
    obtain ⟨raw, key, -, -, rfl⟩ := ofAction_get_eq_ok_iff.mp h
    rfl
  | list =>
    obtain ⟨pairs, query, -, -, rfl⟩ := ofAction_list_eq_ok_iff.mp h
    rfl
  | help =>
    obtain ⟨text, -, rfl⟩ := map_eq_ok_iff.mp h
    rfl

theorem reads_of_ofAction {a : Action} (ha : a = .get ∨ a = .list ∨ a = .help)
    (h : ofAction S r args a = .ok q) : q.reads := by
  obtain rfl := action_of_ofAction h
  cases q with
  | read key => trivial
  | select query => trivial
  | notice text => trivial
  | create key fields => simp [action] at ha
  | delete key => simp [action] at ha
  | update key fields => simp [action] at ha

end Request

namespace Session

variable {db : Session} {line word : String} {rest : List String}

theorem execute_of_split_nil (hl : Words.split line = []) : db.execute line = (.ok {}, db) := by
  rw [execute, hl]

theorem execute_of_request_error (hl : Words.split line = word :: rest) {e : Error}
    (hq : db.request word rest = .error e) : db.execute line = (.error e, db) := by
  simp only [execute, hl, hq]

theorem execute_of_request_ok (hl : Words.split line = word :: rest) {q : Request}
    (hq : db.request word rest = .ok q) :
    db.execute line = ((q.perform db.store).1, { db with store := (q.perform db.store).2 }) := by
  simp only [execute, hl, hq]

theorem request_eq_ok_iff {q : Request} :
    db.request word rest = .ok q ↔
      ∃ c args, db.registry.find word = .ok c ∧ c.grammar.group rest = .ok args ∧
        Request.ofAction db.schema db.registry args c.action = .ok q := by
  simp only [request, bind_eq_ok_iff]
  constructor
  · rintro ⟨c, hc, args, hargs, hq⟩
    exact ⟨c, args, hc, hargs, hq⟩
  · rintro ⟨c, args, hc, hargs, hq⟩
    exact ⟨c, hc, args, hargs, hq⟩

/-- A line has no words, or it is refused before the store is touched, or its request is performed.
-/
theorem execute_cases (db : Session) (line : String) :
    (Words.split line = [] ∧ db.execute line = (.ok {}, db)) ∨
      (∃ word rest e, Words.split line = word :: rest ∧ db.request word rest = .error e ∧
        db.execute line = (.error e, db)) ∨
      ∃ word rest q, Words.split line = word :: rest ∧ db.request word rest = .ok q ∧
        db.execute line =
          ((q.perform db.store).1, { db with store := (q.perform db.store).2 }) := by
  cases hl : Words.split line with
  | nil => exact Or.inl ⟨rfl, execute_of_split_nil hl⟩
  | cons word rest =>
    cases hq : db.request word rest with
    | error e => exact Or.inr (Or.inl ⟨word, rest, e, rfl, hq, execute_of_request_error hl hq⟩)
    | ok q => exact Or.inr (Or.inr ⟨word, rest, q, rfl, hq, execute_of_request_ok hl hq⟩)

theorem execute_eq_ok_iff (hl : Words.split line = word :: rest) {o : Outcome} :
    (db.execute line).1 = .ok o ↔
      ∃ q, db.request word rest = .ok q ∧ (q.perform db.store).1 = .ok o := by
  cases hq : db.request word rest with
  | error e => simp [execute_of_request_error hl hq]
  | ok q => simp [execute_of_request_ok hl hq]

theorem execute_eq_error_iff (hl : Words.split line = word :: rest) {e : Error} :
    (db.execute line).1 = .error e ↔ db.request word rest = .error e ∨
      ∃ q, db.request word rest = .ok q ∧ (q.perform db.store).1 = .error e := by
  cases hq : db.request word rest with
  | error e => simp [execute_of_request_error hl hq]
  | ok q => simp [execute_of_request_ok hl hq]

theorem execute_snd_of_error {e : Error} (h : (db.execute line).1 = .error e) :
    (db.execute line).2 = db := by
  rcases db.execute_cases line with ⟨-, hx⟩ | ⟨_, _, _, -, -, hx⟩ | ⟨_, _, q, -, -, hx⟩
  · rw [hx]
  · rw [hx]
  · rw [hx] at h ⊢
    dsimp only at h ⊢
    rw [Request.perform_snd_of_error h]

theorem execute_snd_of_looking (hl : Words.split line = word :: rest) {c : Command}
    (hc : db.registry.find word = .ok c)
    (ha : c.action = .get ∨ c.action = .list ∨ c.action = .help) : (db.execute line).2 = db := by
  cases hq : db.request word rest with
  | error e => rw [execute_of_request_error hl hq]
  | ok q =>
    obtain ⟨c', args, hc', -, hq'⟩ := request_eq_ok_iff.mp hq
    cases hc.symm.trans hc'
    have hreads := Request.reads_of_ofAction ha hq'
    rw [execute_of_request_ok hl hq, Request.perform_snd_of_reads hreads]

@[simp] theorem schema_execute : (db.execute line).2.schema = db.schema := by
  rcases db.execute_cases line with ⟨-, hx⟩ | ⟨_, _, _, -, -, hx⟩ | ⟨_, _, _, -, -, hx⟩ <;> rw [hx]

@[simp] theorem registry_execute : (db.execute line).2.registry = db.registry := by
  rcases db.execute_cases line with ⟨-, hx⟩ | ⟨_, _, _, -, -, hx⟩ | ⟨_, _, _, -, -, hx⟩ <;> rw [hx]

def marks (db : Session) (line : String) : Bool :=
  match Words.split line with
  | [] => false
  | word :: _ =>
    match db.registry.find word with
    | .error _ => false
    | .ok c =>
      (c.action = .add ∨ c.action = .delete ∨ c.action = .modify) && (db.execute line).1.isOk

def marking (db : Session) : List String → List String
  | [] => []
  | line :: lines =>
    if db.marks line then line :: (db.execute line).2.marking lines
    else (db.execute line).2.marking lines

theorem execute_snd_of_not_marks (h : db.marks line = false) : (db.execute line).2 = db := by
  cases hx : (db.execute line).1 with
  | error e => exact execute_snd_of_error hx
  | ok o =>
    cases hl : Words.split line with
    | nil => rw [execute_of_split_nil hl]
    | cons word rest =>
      cases hc : db.registry.find word with
      | error e =>
        have hq : db.request word rest = .error e := by rw [request, hc]; rfl
        rw [execute_of_request_error hl hq]
      | ok c =>
        have hlooks : c.action = .get ∨ c.action = .list ∨ c.action = .help := by
          simp only [marks, hl, hc, hx, Except.isOk, Except.toBool, Bool.and_true,
            decide_eq_false_iff_not] at h
          cases ha : c.action <;> simp_all
        exact execute_snd_of_looking hl hc hlooks

/-- A session is where it would be without the lines that do not mark it. -/
theorem run_marking (db : Session) (lines : List String) :
    (run execute db (db.marking lines)).2 = (run execute db lines).2 := by
  induction lines generalizing db with
  | nil => rfl
  | cons line lines ih =>
    rw [marking, run_cons]
    cases h : db.marks line with
    | true => rw [if_pos rfl, run_cons, ih]
    | false =>
      rw [execute_snd_of_not_marks h]
      exact ih db

/-- In a session of any commands a line that fails, at whatever stage, a line whose command only
looks and a line without words leave the session as it was, with its rows, their order, the keys and
their number. So the lines that do not mark a session may be left out. -/
theorem no_trace (S : Schema) (r : Registry) (lines : List String) (line : String) :
    let db := (run execute (start S r) lines).2
    let answer := (db.execute line).1
    let db' := (db.execute line).2
    (∀ e, answer = .error e → db' = db) ∧
      (∀ word rest c, Words.split line = word :: rest → r.find word = .ok c →
        c.action = .get ∨ c.action = .list ∨ c.action = .help → db' = db) ∧
      (Words.split line = [] → answer = .ok {} ∧ db' = db) ∧
      (run execute (start S r) ((start S r).marking lines)).2 = db := by
  intro db answer db'
  have hr : db.registry = r :=
    run_invariant (I := fun db : Session => db.registry = r)
      (fun _ _ h => registry_execute.trans h) rfl lines
  refine ⟨fun e he => execute_snd_of_error he, fun word rest c hl hc ha => ?_, fun hl => ?_,
    run_marking _ lines⟩
  · exact execute_snd_of_looking hl (hr.symm ▸ hc) ha
  · exact ⟨congrArg Prod.fst (execute_of_split_nil hl), congrArg Prod.snd (execute_of_split_nil hl)⟩

/-- The first value converts and the second does not. -/
theorem no_trace_half_converted :
    let db := (run execute (start .staff .builtin) ["add id 1 name Ada day 1815-12-10"]).2
    let line := "mod id 1 name Bob day never"
    (db.execute line).1 = .error (.entryInvalid (.notADate "never")) ∧
      (db.execute line).2 = db := by
  have h : ((run execute (start .staff .builtin) ["add id 1 name Ada day 1815-12-10"]).2.execute
      "mod id 1 name Bob day never").1 = .error (.entryInvalid (.notADate "never")) := by
    decide +kernel
  exact ⟨h, (no_trace .staff .builtin ["add id 1 name Ada day 1815-12-10"]
    "mod id 1 name Bob day never").1 _ h⟩

end Session

end TableShell
