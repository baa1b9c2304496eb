import TableShell.Proofs.Grouping
import TableShell.Proofs.Statements

/-!
# Statements of the built-in commands

The built-in commands take pairs, or one value. Here their statements are read straight from the
words of a line.
-/

namespace TableShell

theorem Registry.find_eq_ok_iff {r : Registry} {word : String} {c : Command} :
    r.find word = .ok c ↔ c ∈ r.commands ∧ c.word = word := by
  unfold find
  constructor
  · intro h
    cases hf : r.commands.find? (·.word == word) with
    | none => rw [hf] at h; cases h
    | some d =>
      rw [hf] at h
      cases h
      exact ⟨List.mem_of_find?_eq_some hf, by simpa using List.find?_some hf⟩
  · rintro ⟨hc, rfl⟩
    cases hf : r.commands.find? (·.word == c.word) with
    | none =>
      have hne := List.find?_eq_none.mp hf c hc
      simp at hne
    | some d =>
      have hd : d.word = c.word := by simpa using List.find?_some hf
      exact congrArg Except.ok
        (List.inj_on_of_nodup_map r.words_nodup (List.mem_of_find?_eq_some hf) hc hd)

theorem FieldType.kind_of_convert_error {type : FieldType} {raw : String} {e : Error}
    (h : type.convert raw = .error e) : e.kind = .entryInvalid := by
  cases type with
  | integer =>
    simp only [convert] at h
    split at h
    · cases h
    · cases h
      rfl
  | string => cases h
  | date =>
    simp only [convert] at h
    split at h
    · cases h
    · cases h
      rfl

namespace Request

variable {S : Schema} {r : Registry} {pairs : List (String × String)}

theorem ofAction_add_pairs :
    ofAction S r (pairs.map fun p => .pair p.1 p.2) .add = ofAdd S pairs := by
  rw [ofAction, mapM_toPair_eq_ok_iff.mpr rfl]
  rfl

theorem ofAction_modify_pairs :
    ofAction S r (pairs.map fun p => .pair p.1 p.2) .modify = ofModify S pairs := by
  rw [ofAction, mapM_toPair_eq_ok_iff.mpr rfl]
  rfl

theorem ofAction_list_pairs :
    ofAction S r (pairs.map fun p => .pair p.1 p.2) .list =
      (Query.ofPairs S pairs).map .select := by
  rw [ofAction, mapM_toPair_eq_ok_iff.mpr rfl]
  rfl

end Request

namespace Session

variable {db : Session} {rest : List String} {q : Request}

theorem request_eq (hr : db.registry = .builtin) {c : Command}
    (hc : c ∈ Registry.builtin.commands) :
    db.request c.word rest =
      c.grammar.group rest >>= fun args => Request.ofAction db.schema .builtin args c.action := by
  rw [request, hr, Registry.find_eq_ok_iff.mpr ⟨hc, rfl⟩]
  rfl

theorem ofAction_of_request_pairs (hr : db.registry = .builtin) {c : Command}
    (hc : c ∈ Registry.builtin.commands) (hshape : c.grammar.shape = .keyValue)
    (h : db.request c.word rest = .ok q) :
    Request.ofAction db.schema .builtin ((pairsOf rest).map fun p => .pair p.1 p.2) c.action =
      .ok q := by
  rw [request_eq hr hc, bind_eq_ok_iff] at h
  obtain ⟨args, hargs, hq⟩ := h
  rwa [← Grammar.group_pairs_eq_ok hshape hargs]

theorem ofAdd_of_request (hr : db.registry = .builtin) (h : db.request "add" rest = .ok q) :
    Request.ofAdd db.schema (pairsOf rest) = .ok q := by
  have hmem : Command.add ∈ Registry.builtin.commands := by simp [Registry.builtin]
  rw [← Request.ofAction_add_pairs]
  exact ofAction_of_request_pairs hr hmem rfl h

theorem ofModify_of_request (hr : db.registry = .builtin) (h : db.request "mod" rest = .ok q) :
    Request.ofModify db.schema (pairsOf rest) = .ok q := by
  have hmem : Command.modify ∈ Registry.builtin.commands := by simp [Registry.builtin]
  rw [← Request.ofAction_modify_pairs]
  exact ofAction_of_request_pairs hr hmem rfl h

theorem request_add_eq_ok (hr : db.registry = .builtin) (h : db.request "add" rest = .ok q) :
    db.schema.Takes (pairsOf rest) (db.schema.converted (pairsOf rest)) ∧
      ∃ key, (db.schema.converted (pairsOf rest))[db.schema.key.name]? = some key ∧
        q = .create key ((db.schema.converted (pairsOf rest)).erase db.schema.key.name) := by
  obtain ⟨hp, -, hall, hq⟩ := Request.ofAdd_eq_ok_iff.mp (ofAdd_of_request hr h)
  exact ⟨Schema.takes_converted hp hall, hq⟩

/-- The first pair is the target; its key is not among the fields that are changed. -/
theorem request_modify_eq_ok (hr : db.registry = .builtin) (h : db.request "mod" rest = .ok q) :
    ∃ name raw fields key, rest = name :: raw :: fields ∧
      db.schema.value? db.schema.key.name raw = some key ∧
      db.schema.Takes (pairsOf fields) (db.schema.converted (pairsOf fields)) ∧
      db.schema.key.name ∉ db.schema.converted (pairsOf fields) ∧
      q = .update key (db.schema.converted (pairsOf fields)) := by
  obtain ⟨raw, updates, key, hpairs, hname, hp, -, hkey, hall, rfl⟩ :=
    Request.ofModify_eq_ok_iff.mp (ofModify_of_request hr h)
  obtain ⟨name, value, fields, rfl, hpair, rfl⟩ := pairsOf_eq_cons_iff.mp hpairs
  obtain ⟨-, rfl⟩ := Prod.mk.inj hpair
  exact ⟨name, raw, fields, key, rfl, hkey, Schema.takes_converted hp hall,
    Schema.notMem_converted hp hname, rfl⟩

theorem request_key_eq_ok_iff (hr : db.registry = .builtin) {c : Command}
    (hc : c ∈ Registry.builtin.commands) (hg : c.grammar = ⟨.value, some 1, some 1⟩)
    {f : Value → Request}
    (ha : ∀ args, Request.ofAction db.schema .builtin args c.action =
      (singleValue args >>= db.schema.convertKey).map f) :
    db.request c.word rest = .ok q ↔
      ∃ raw key, rest = [raw] ∧ db.schema.value? db.schema.key.name raw = some key ∧
        q = f key := by
  rw [request_eq hr hc, hg, bind_eq_ok_iff]
  simp only [Grammar.group_one_value_eq_ok_iff, ha, Request.key_eq_ok_iff]
  constructor
  · rintro ⟨_, ⟨raw, hrest, rfl⟩, raw', key, hargs, hkey, hq⟩
    cases hargs
    exact ⟨raw, key, hrest, hkey, hq⟩
  · rintro ⟨raw, key, hrest, hkey, hq⟩
    exact ⟨_, ⟨raw, hrest, rfl⟩, raw, key, rfl, hkey, hq⟩

theorem request_delete_eq_ok_iff (hr : db.registry = .builtin) :
    db.request "del" rest = .ok q ↔
      ∃ raw key, rest = [raw] ∧ db.schema.value? db.schema.key.name raw = some key ∧
        q = .delete key := by
  have hmem : Command.delete ∈ Registry.builtin.commands := by simp [Registry.builtin]
  exact request_key_eq_ok_iff hr hmem rfl fun _ => rfl

theorem request_get_eq_ok_iff (hr : db.registry = .builtin) :
    db.request "get" rest = .ok q ↔
      ∃ raw key, rest = [raw] ∧ db.schema.value? db.schema.key.name raw = some key ∧
        q = .read key := by
  have hmem : Command.get ∈ Registry.builtin.commands := by simp [Registry.builtin]
  exact request_key_eq_ok_iff hr hmem rfl fun _ => rfl

end Session

end TableShell
