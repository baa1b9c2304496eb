import TableShell.Proofs.Conformance
import TableShell.Proofs.Directives

/-!
# Faults of statements

With which kinds of errors a statement can fail. Every stage has a short list of them. The built-in
grammars see to it that actions get the arguments that they take, so the only fault of the caller
that is left is a directive that `list` does not know.
-/

namespace TableShell

variable {S : Schema} {e : Error}

theorem Registry.find_eq_error {r : Registry} {word : String} (h : r.find word = .error e) :
    e = .commandNotFound word := by
  unfold find at h
  split at h
  · cases h
  · cases h
    rfl

theorem Help.kind_of_text_error {r : Registry} {word : Option String}
    (h : text r word = .error e) : e.kind = .commandNotFound := by
  cases word with
  | none => cases h
  | some word =>
    rw [Registry.find_eq_error (map_eq_error_iff.mp h)]
    rfl

namespace Grammar

variable {words : List String}

def refusals (g : Grammar) : List ErrorKind :=
  (match g.shape with
    | .keyValue => [.keyValueUnmatched, .invalidKeyArgument]
    | .key => [.invalidKeyArgument]
    | .value => []) ++
  (if g.least.isSome then [.tooFewArguments] else []) ++
  (if g.most.isSome then [.tooManyArguments] else [])

theorem kind_mem_refusals {g : Grammar} (h : g.group words = .error e) : e.kind ∈ g.refusals := by
  obtain ⟨c, hc, hnot, hreports⟩ := (decides_group g).exists_of_error h
  simp only [conditions, List.mem_cons, List.not_mem_nil, or_false] at hc
  rcases hc with rfl | rfl | rfl | rfl
  · obtain ⟨before, key, after, hkeys, -, -, rfl⟩ := hreports
    cases hg : g.shape with
    | keyValue => simp [refusals, hg, Error.kind]
    | key => simp [refusals, hg, Error.kind]
    | value => simp [hg, Shape.keys] at hkeys
  · obtain ⟨hg, -⟩ := Classical.not_imp.mp hnot
    obtain ⟨before, last, -, rfl⟩ := hreports
    simp [refusals, hg, Error.kind]
  · obtain ⟨least, hleast, rfl⟩ := hreports
    rw [Option.mem_def] at hleast
    simp [refusals, hleast, Error.kind]
  · obtain ⟨most, hmost, rfl⟩ := hreports
    rw [Option.mem_def] at hmost
    simp [refusals, hmost, Error.kind]

end Grammar

theorem Entry.kind_of_ofPairs_error {pairs : List (String × String)}
    (h : ofPairs pairs = .error e) : e.kind = .argumentConflict := by
  unfold ofPairs at h
  split at h
  · cases h
    rfl
  · cases h

namespace Schema

theorem kind_of_convertField_error {field : String × String} (h : S.convertField field = .error e) :
    e.kind = .entryInvalid := by
  unfold convertField at h
  split at h
  · cases h
    rfl
  · exact FieldType.kind_of_convert_error (map_eq_error_iff.mp h)

end Schema

theorem Cursor.hasMore_iff (c : Cursor) : c.hasMore = true ↔ c.position < c.keys.size :=
  decide_eq_true_iff

namespace Store

variable {s : Store} {key : Value} {fields : Row}

theorem kind_of_read_error (h : s.read key = .error e) : e.kind = .entryNotFound := by
  unfold read at h
  split at h
  · cases h
    rfl
  · cases h

theorem kind_of_create_error (h : (s.create key fields).1 = .error e) :
    e.kind = .duplicateEntry := by
  unfold create at h
  split_ifs at h
  cases h
  rfl

theorem kind_of_update_error (h : (s.update key fields).1 = .error e) :
    e.kind = .entryNotFound := by
  unfold update at h
  split at h
  · cases h
    rfl
  · cases h

theorem kind_of_delete_error (h : (s.delete key).1 = .error e) : e.kind = .entryNotFound := by
  unfold delete at h
  split at h
  · cases h
    rfl
  · cases h

theorem scan_eq_next (s : Store) (c : Cursor) :
    s.scan c = if c.hasMore then s.next c >>= fun p => (s.scan p.1).map (p.2 :: ·) else .ok [] := by
  by_cases hmore : c.position < c.keys.size
  · have hcurrent : c.current? = some c.keys[c.position] := Array.getElem?_eq_getElem hmore
    rw [scan, dif_pos hmore, if_pos (c.hasMore_iff.mpr hmore), next, hcurrent]
    dsimp only
    cases s.read c.keys[c.position] <;> rfl
  · rw [scan, dif_neg hmore, if_neg (mt c.hasMore_iff.mp hmore)]

theorem kind_of_next_error {c : Cursor} (hmore : c.hasMore = true) (h : s.next c = .error e) :
    e.kind = .entryNotFound := by
  have hlt := c.hasMore_iff.mp hmore
  have hcurrent : c.current? = some c.keys[c.position] := Array.getElem?_eq_getElem hlt
  rw [next, hcurrent] at h
  exact kind_of_read_error (map_eq_error_iff.mp h)

end Store

/-- The kinds of errors with which an action refuses arguments of its shape. -/
def Action.refusals : Action → List ErrorKind
  | .add => [.argumentConflict, .entryInvalid]
  | .delete | .get => [.entryInvalid]
  | .list => [.internal, .invalidValueArgument, .argumentConflict, .entryInvalid]
  | .modify => [.invalidKeyArgument, .argumentConflict, .entryInvalid]
  | .help => [.commandNotFound]

/-- The kinds of errors of the store that a request of the action meets. -/
def Action.failures : Action → List ErrorKind
  | .add => [.duplicateEntry]
  | .delete | .get | .modify => [.entryNotFound]
  | .list | .help => []

namespace Query

variable {pairs : List (String × String)}

theorem kind_of_ofPairs_error (h : ofPairs S pairs = .error e) : e.kind ∈ Action.list.refusals := by
  obtain ⟨c, hc, -, hreports⟩ := decides_ofPairs.exists_of_error h
  simp only [Schema.queryConditions, List.mem_cons, List.not_mem_nil, or_false] at hc
  rcases hc with rfl | rfl | rfl | rfl
  · obtain ⟨_, d, _, -, -, ⟨-, rfl⟩ | ⟨-, -, rfl⟩⟩ := hreports
    · simp [Action.refusals, Error.kind]
    · simp [Action.refusals, Error.kind]
  · obtain ⟨_, key, _, -, -, -, rfl⟩ := hreports
    simp [Action.refusals, Error.kind]
  · obtain ⟨names, -, -, rfl⟩ := hreports
    simp [Action.refusals, Error.kind]
  · simp [Action.refusals, hreports.1]

theorem fault_of_ofPairs_error {fault : InternalFault}
    (h : ofPairs S pairs = .error (.internal fault)) :
    ∃ d ∈ pairs, isDirective d.1 ∧ d.1 ≠ "$sort_asc" ∧ d.1 ≠ "$sort_desc" ∧
      fault = .unknownDirective d.1 := by
  obtain ⟨c, hc, -, hreports⟩ := decides_ofPairs.exists_of_error h
  simp only [Schema.queryConditions, List.mem_cons, List.not_mem_nil, or_false] at hc
  rcases hc with rfl | rfl | rfl | rfl
  · obtain ⟨before, d, after, hds, -, ⟨hnot, hfault⟩ | ⟨-, -, hvalue⟩⟩ := hreports
    · have hmem : d ∈ directives pairs := by simp [hds]
      obtain ⟨hmem, hdirective⟩ := List.mem_filter.mp hmem
      obtain ⟨hasc, hdesc⟩ := not_or.mp hnot
      exact ⟨d, hmem, hdirective, hasc, hdesc, Error.internal.inj hfault⟩
    · cases hvalue
  · obtain ⟨_, key, _, -, -, -, hconflict⟩ := hreports
    cases hconflict
  · obtain ⟨names, -, -, hextra⟩ := hreports
    cases hextra
  · cases hreports.1

end Query

namespace Request

variable {pairs : List (String × String)} {q : Request} {s : Store} {rows : List Row}

theorem kind_of_ofAdd_error (h : ofAdd S pairs = .error e) : e.kind ∈ Action.add.refusals := by
  obtain ⟨c, hc, -, hreports⟩ := decides_ofAdd.exists_of_error h
  simp only [List.mem_cons, List.not_mem_nil, or_false] at hc
  rcases hc with rfl | rfl | rfl | rfl
  · obtain ⟨_, key, _, -, -, -, rfl⟩ := hreports
    simp [Action.refusals, Error.kind]
  · cases hreports
    simp [Action.refusals, Error.kind]
  · obtain ⟨names, -, -, rfl⟩ := hreports
    simp [Action.refusals, Error.kind]
  · simp [Action.refusals, hreports.1]

theorem kind_of_ofModify_error (hne : pairs ≠ []) (h : ofModify S pairs = .error e) :
    e.kind ∈ Action.modify.refusals := by
  obtain ⟨target, updates, rfl⟩ := List.exists_cons_of_ne_nil hne
  obtain ⟨c, hc, -, hreports⟩ := decides_ofModify.exists_of_error h
  simp only [List.mem_cons, List.not_mem_nil, or_false] at hc
  rcases hc with rfl | rfl | rfl | rfl | rfl | rfl
  · cases hreports
    simp [Action.refusals, Error.kind]
  · cases hreports
    simp [Action.refusals, Error.kind]
  · obtain ⟨_, key, _, -, -, -, rfl⟩ := hreports
    simp [Action.refusals, Error.kind]
  · obtain ⟨names, -, -, rfl⟩ := hreports
    simp [Action.refusals, Error.kind]
  · simp [Action.refusals, hreports.1]
  · simp [Action.refusals, hreports.1]

theorem kind_of_perform_error {r : Registry} {args : List Argument} {a : Action} {p : String}
    (hs : s.Shows p rows) (hq : ofAction S r args a = .ok q) (h : (q.perform s).1 = .error e) :
    e.kind ∈ a.failures := by
  cases a with
  | add =>
    obtain ⟨pairs, -, hq⟩ := ofAction_add_eq_ok_iff.mp hq
    obtain ⟨-, -, -, key, -, rfl⟩ := ofAdd_eq_ok_iff.mp hq
    simp [Action.failures, Store.kind_of_create_error (map_eq_error_iff.mp h)]
  | delete =>
    obtain ⟨raw, key, -, -, rfl⟩ := ofAction_delete_eq_ok_iff.mp hq
    simp [Action.failures, Store.kind_of_delete_error (map_eq_error_iff.mp h)]
  | get =>
    obtain ⟨raw, key, -, -, rfl⟩ := ofAction_get_eq_ok_iff.mp hq
    simp [Action.failures, Store.kind_of_read_error (map_eq_error_iff.mp h)]
  | modify =>
    obtain ⟨pairs, -, hq⟩ := ofAction_modify_eq_ok_iff.mp hq
    obtain ⟨raw, updates, key, -, -, -, -, -, -, rfl⟩ := ofModify_eq_ok_iff.mp hq
    simp [Action.failures, Store.kind_of_update_error (map_eq_error_iff.mp h)]
  | list =>
    obtain ⟨query, -, rfl⟩ := map_eq_ok_iff.mp hq
    rw [perform, run_eq hs] at h
    cases h
  | help =>
    obtain ⟨text, -, rfl⟩ := map_eq_ok_iff.mp hq
    cases h

end Request

namespace Command

def refusals (c : Command) : List ErrorKind := c.grammar.refusals ++ c.action.refusals

def kinds (c : Command) : List ErrorKind := c.refusals ++ c.action.failures

end Command

namespace Session

variable {db : Session} {line word : String} {rest : List String}

theorem kind_of_request_error (hr : db.registry = .builtin) {c : Command}
    (hc : c ∈ Registry.builtin.commands) (h : db.request c.word rest = .error e) :
    e.kind ∈ c.refusals := by
  rw [request_eq hr hc, bind_eq_error_iff] at h
  rcases h with hgroup | ⟨args, hargs, h⟩
  · exact List.mem_append_left _ (Grammar.kind_mem_refusals hgroup)
  apply List.mem_append_right
  simp only [Registry.builtin, List.mem_cons, List.not_mem_nil, or_false] at hc
  rcases hc with rfl | rfl | rfl | rfl | rfl | rfl
  · rw [Grammar.group_pairs_eq_ok rfl hargs, Command.add, Request.ofAction_add_pairs] at h
    exact Request.kind_of_ofAdd_error h
  · obtain ⟨raw, -, rfl⟩ := Grammar.group_one_value_eq_ok_iff.mp hargs
    have hkey : db.schema.convertKey raw = .error e := map_eq_error_iff.mp h
    simp [Command.delete, Action.refusals, FieldType.kind_of_convert_error hkey]
  · obtain ⟨raw, -, rfl⟩ := Grammar.group_one_value_eq_ok_iff.mp hargs
    have hkey : db.schema.convertKey raw = .error e := map_eq_error_iff.mp h
    simp [Command.get, Action.refusals, FieldType.kind_of_convert_error hkey]
  · rw [Grammar.group_pairs_eq_ok rfl hargs, Command.list, Request.ofAction_list_pairs,
      map_eq_error_iff] at h
    exact Query.kind_of_ofPairs_error h
  · -- At least two pairs are there, so there is a target.
    have hargs' := Grammar.group_pairs_eq_ok rfl hargs
    have hne : pairsOf rest ≠ [] := by
      rintro hnil
      rw [hargs', hnil] at hargs
      have hleast := (Grammar.checkCount_eq_ok_iff.mp (Grammar.group_eq_ok_iff.mp hargs).2).1 2 rfl
      exact absurd hleast (by decide)
    rw [hargs', Command.modify, Request.ofAction_modify_pairs] at h
    exact Request.kind_of_ofModify_error hne h
  · have htext : Help.text .builtin (args.head?.bind Argument.value?) = .error e :=
      map_eq_error_iff.mp h
    simp [Command.help, Action.refusals, Help.kind_of_text_error htext]

/-- A line that fails has a word for its command: one that is not known, or one of the built-in
commands, which fails with an error of its kinds. -/
theorem kind_of_execute_error (hr : db.registry = .builtin) (h : db.Fits S)
    (he : (db.execute line).1 = .error e) :
    ∃ word rest, Words.split line = word :: rest ∧ (e = .commandNotFound word ∨
      ∃ c ∈ Registry.builtin.commands, c.word = word ∧ e.kind ∈ c.kinds) := by
  obtain ⟨rfl, rows, hs, -⟩ := h
  cases hl : Words.split line with
  | nil =>
    rw [execute_of_split_nil hl] at he
    cases he
  | cons word rest =>
    refine ⟨word, rest, rfl, ?_⟩
    rcases (execute_eq_error_iff hl).mp he with hq | ⟨q, hq, ho⟩
    · cases hc : db.registry.find word with
      | error e' =>
        have hrequest : db.request word rest = .error e' := by rw [request, hc]; rfl
        cases hrequest.symm.trans hq
        exact Or.inl (Registry.find_eq_error hc)
      | ok c =>
        rw [hr, Registry.find_eq_ok_iff] at hc
        obtain ⟨hc, rfl⟩ := hc
        exact Or.inr ⟨c, hc, rfl, List.mem_append_left _ (kind_of_request_error hr hc hq)⟩
    · obtain ⟨c, args, hc, -, ha⟩ := request_eq_ok_iff.mp hq
      rw [hr, Registry.find_eq_ok_iff] at hc
      have hkind : e.kind ∈ c.action.failures := Request.kind_of_perform_error hs ha ho
      exact Or.inr ⟨c, hc.1, hc.2, List.mem_append_right _ hkind⟩

theorem command_of_execute_error (hr : db.registry = .builtin) (h : db.Fits S)
    (he : (db.execute line).1 = .error e) (hne : e.kind ≠ .commandNotFound) :
    ∃ c ∈ Registry.builtin.commands, ∃ rest, Words.split line = c.word :: rest ∧
      e.kind ∈ c.kinds := by
  obtain ⟨word, rest, hl, rfl | ⟨c, hc, rfl, hk⟩⟩ := kind_of_execute_error hr h he
  · exact absurd rfl hne
  · exact ⟨c, hc, rest, hl, hk⟩

theorem request_eq_error_of_internal (h : db.Fits S) (hl : Words.split line = word :: rest)
    {fault : InternalFault} (he : (db.execute line).1 = .error (.internal fault)) :
    db.request word rest = .error (.internal fault) := by
  obtain ⟨-, rows, hs, -⟩ := h
  rcases (execute_eq_error_iff hl).mp he with hq | ⟨q, hq, ho⟩
  · exact hq
  · obtain ⟨c, args, -, -, ha⟩ := request_eq_ok_iff.mp hq
    have hkind : ErrorKind.internal ∈ c.action.failures := Request.kind_of_perform_error hs ha ho
    cases hc : c.action <;> rw [hc] at hkind <;> simp [Action.failures] at hkind

theorem fault_of_request_list (hr : db.registry = .builtin) {fault : InternalFault}
    (h : db.request "list" rest = .error (.internal fault)) :
    ∃ args key value, Command.list.grammar.group rest = .ok args ∧ .pair key value ∈ args ∧
      key.toList.head? = some '$' ∧ key ≠ "$sort_asc" ∧ key ≠ "$sort_desc" ∧
      fault = .unknownDirective key := by
  have hmem : Command.list ∈ Registry.builtin.commands := by simp [Registry.builtin]
  have h : db.request Command.list.word rest = .error (.internal fault) := h
  rw [request_eq hr hmem, bind_eq_error_iff] at h
  rcases h with hgroup | ⟨args, hargs, h⟩
  · have hkind : ErrorKind.internal ∈ Command.list.grammar.refusals :=
      Grammar.kind_mem_refusals hgroup
    exact absurd hkind (by decide)
  · have hpairs := Grammar.group_pairs_eq_ok rfl hargs
    rw [hpairs, Command.list, Request.ofAction_list_pairs, map_eq_error_iff] at h
    obtain ⟨d, hd, hdirective, hasc, hdesc, hfault⟩ := Query.fault_of_ofPairs_error h
    refine ⟨args, d.1, d.2, hargs, ?_, beq_iff_eq.mp hdirective, hasc, hdesc, hfault⟩
    rw [hpairs]
    exact List.mem_map_of_mem hd

/-- In every state that a session of the built-in commands reaches, the only fault of the caller
that a line can meet is a directive of `list` that is not known: the words are grouped and one of
the keys has the sign in front but is neither of the two directives. A list never misses a row, only
an addition finds a key taken, and no line finds fault with the schema. A scan asks for the next row
only while the cursor has more, so it is never exhausted. -/
theorem fault_of_execute (S : Schema) (lines : List String) (line : String) :
    let db := (run execute (start S .builtin) lines).2
    let answer := (db.execute line).1
    (∀ fault, answer = .error (.internal fault) →
        ∃ rest args key value, Words.split line = "list" :: rest ∧
          Command.list.grammar.group rest = .ok args ∧ .pair key value ∈ args ∧
          key.toList.head? = some '$' ∧ key ≠ "$sort_asc" ∧ key ≠ "$sort_desc" ∧
          fault = .unknownDirective key) ∧
      (∀ rest field value, Words.split line = "list" :: rest →
        answer ≠ .error (.entryNotFound field value)) ∧
      (∀ field value, answer = .error (.duplicateEntry field value) →
        ∃ rest, Words.split line = "add" :: rest) ∧
      (∀ fault, answer ≠ .error (.schemaInvalid fault)) ∧
      ∀ c, db.store.scan c = (if c.hasMore then
          db.store.next c >>= fun p => (db.store.scan p.1).map (p.2 :: ·) else .ok []) ∧
        (c.hasMore → db.store.next c ≠ .error (.internal .cursorExhausted)) := by
  intro db answer
  have hr : db.registry = .builtin :=
    run_invariant (I := fun db : Session => db.registry = .builtin)
      (fun _ _ h => registry_execute.trans h) rfl lines
  have hfits : db.Fits S :=
    run_invariant (fun _ _ h => fits_execute h) ⟨rfl, S.fits_empty⟩ lines
  have hcommand {e : Error} (he : answer = .error e) := command_of_execute_error hr hfits he
  refine ⟨fun fault he => ?_, fun rest field value hl he => ?_, fun field value he => ?_,
    fun fault he => ?_, fun c => ⟨Store.scan_eq_next _ c, fun hmore he => ?_⟩⟩
  · obtain ⟨c, hc, rest, hl, hk⟩ := hcommand he nofun
    have htable : ∀ c ∈ Registry.builtin.commands, ErrorKind.internal ∈ c.kinds →
        c.word = "list" := by decide
    have hq := request_eq_error_of_internal hfits hl he
    rw [htable c hc hk] at hl hq
    obtain ⟨args, key, value, hfault⟩ := fault_of_request_list hr hq
    exact ⟨rest, args, key, value, hl, hfault⟩
  · obtain ⟨c, hc, rest', hl', hk⟩ := hcommand he nofun
    have htable : ∀ c ∈ Registry.builtin.commands, ErrorKind.entryNotFound ∈ c.kinds →
        c.word ≠ "list" := by decide
    exact htable c hc hk (List.cons.inj (hl.symm.trans hl')).1.symm
  · obtain ⟨c, hc, rest, hl, hk⟩ := hcommand he nofun
    have htable : ∀ c ∈ Registry.builtin.commands, ErrorKind.duplicateEntry ∈ c.kinds →
        c.word = "add" := by decide
    rw [htable c hc hk] at hl
    exact ⟨rest, hl⟩
  · obtain ⟨c, hc, -, -, hk⟩ := hcommand he nofun
    have htable : ∀ c ∈ Registry.builtin.commands, ErrorKind.schemaInvalid ∉ c.kinds := by decide
    exact htable c hc hk
  · cases Store.kind_of_next_error hmore he

/-- An unknown directive behind a filter is met, and so is a key that is taken. -/
theorem fault_of_execute_illegal :
    let db := (run execute (start .staff .builtin) ["add id 1 name Ada day 1815-12-10"]).2
    let list := "list name Ada $illegal id"
    let add := "add id 1 name Bob day 1852-11-27"
    (db.execute list).1 = .error (.internal (.unknownDirective "$illegal")) ∧
      (∃ rest args value, Words.split list = "list" :: rest ∧
        Command.list.grammar.group rest = .ok args ∧ .pair "$illegal" value ∈ args) ∧
      (db.execute add).1 = .error (.duplicateEntry "id" "1") ∧
      ∃ rest, Words.split add = "add" :: rest := by
  intro db list add
  have hlist : (db.execute list).1 = .error (.internal (.unknownDirective "$illegal")) := by
    decide +kernel
  have hadd : (db.execute add).1 = .error (.duplicateEntry "id" "1") := by decide +kernel
  have hfault := fault_of_execute .staff ["add id 1 name Ada day 1815-12-10"]
  obtain ⟨rest, args, key, value, hl, hgroup, hmem, -, -, -, hkey⟩ := (hfault list).1 _ hlist
  cases hkey
  exact ⟨hlist, ⟨rest, args, value, hl, hgroup, hmem⟩, hadd, (hfault add).2.2.1 _ _ hadd⟩

end Session

end TableShell
