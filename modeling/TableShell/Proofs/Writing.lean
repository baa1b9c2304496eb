import TableShell.Proofs.Lookup
import TableShell.Proofs.Regrouping
import TableShell.Proofs.Spelling
import TableShell.Proofs.Splitting

/-!
# Rows written as statements

A row can be written as the statement that adds it, with its fields in any order and every value
between quotes. The statement is split into the names and the texts of the row, these are converted
to its values, and the row is stored as it was written.
-/

namespace TableShell

namespace Words

/-- The word between quotes; it may have spaces in it or be empty. -/
def quote (word : String) : String := "\"" ++ word ++ "\""

def pairText (p : String × String) : String := " " ++ p.1 ++ " " ++ quote p.2

end Words

def shown (fields : List (String × Value)) : List (String × String) :=
  fields.map fun f => (f.1, f.2.display)

def addLine (pairs : List (String × String)) : String :=
  "add" ++ String.join (pairs.map Words.pairText)

def getLine (raw : String) : String := "get " ++ Words.quote raw

namespace Words

variable {p : String × String} {pairs : List (String × String)}

theorem read_quote {word : String} (hword : '"' ∉ word.toList) (cs : List Char) :
    read ((quote word).toList ++ cs) = word.toList :: read cs := by
  have hchars : (quote word).toList ++ cs = '"' :: (word.toList ++ '"' :: cs) := by simp [quote]
  rw [hchars, read_quoted hword]

theorem read_key {name : String} (hname : isKey name.toList) {cs : List Char}
    (hcs : ∀ d ∈ cs.head?, d = ' ') : read (name.toList ++ cs) = name.toList :: read cs := by
  have hspace : ' ' ∉ name.toList := notMem_of_isKey hname (by decide) isWordChar_space
  have hquote : '"' ∉ name.toList := notMem_of_isKey hname (by decide) isWordChar_quote
  cases hchars : name.toList with
  | nil =>
    rw [hchars] at hname
    cases hname
  | cons c w =>
    rw [hchars] at hspace hquote
    exact read_raw (fun hc => hquote (hc ▸ List.mem_cons_self ..)) hspace hcs

theorem read_pairText (hname : isKey p.1.toList) (hvalue : '"' ∉ p.2.toList) (cs : List Char) :
    read ((pairText p).toList ++ cs) = p.1.toList :: p.2.toList :: read cs := by
  have hchars : (pairText p).toList ++ cs =
      ' ' :: (p.1.toList ++ ' ' :: ((quote p.2).toList ++ cs)) := by simp [pairText]
  rw [hchars, read_space, read_key hname (by simp), read_space, read_quote hvalue]

theorem read_pairTexts (hnames : ∀ p ∈ pairs, isKey p.1.toList)
    (hvalues : ∀ p ∈ pairs, '"' ∉ p.2.toList) :
    read (String.join (pairs.map pairText)).toList =
      (pairs.flatMap fun p => [p.1, p.2]).map String.toList := by
  induction pairs with
  | nil => exact read_nil
  | cons p pairs ih =>
    rw [List.forall_mem_cons] at hnames hvalues
    rw [List.map_cons, String.join_cons, String.toList_append, read_pairText hnames.1 hvalues.1,
      ih hnames.2 hvalues.2]
    rfl

theorem split_addLine (hnames : ∀ p ∈ pairs, isKey p.1.toList)
    (hvalues : ∀ p ∈ pairs, '"' ∉ p.2.toList) :
    split (addLine pairs) = "add" :: pairs.flatMap fun p => [p.1, p.2] := by
  have hstop : ∀ d ∈ (String.join (pairs.map pairText)).toList.head?, d = ' ' := by
    cases pairs with
    | nil => simp
    | cons p pairs => simp [String.join_cons, pairText, eq_comm]
  have hadd : isKey "add".toList := isKey_of_isAlpha (by decide) (by decide)
  rw [split_eq_read, addLine, String.toList_append, read_key hadd hstop,
    read_pairTexts hnames hvalues]
  simp [Function.comp_def]

theorem split_getLine {raw : String} (hraw : '"' ∉ raw.toList) :
    split (getLine raw) = ["get", raw] := by
  have hchars : (getLine raw).toList = "get".toList ++ ' ' :: ((quote raw).toList ++ []) := by
    simp [getLine]
  have hget : isKey "get".toList := isKey_of_isAlpha (by decide) (by decide)
  rw [split_eq_read, hchars, read_key hget (by simp), read_space, read_quote hraw, read_nil]
  simp

end Words

namespace Grammar

theorem isKey_of_normalizeKey {name : String} (h : normalizeKey name = .ok name) :
    isKey name.toList :=
  (normalizeKey_eq_ok_iff.mp h).2

end Grammar

namespace Schema

variable {S : Schema} {row : Row} {fields : List (String × Value)}

theorem Conforms.value?_display (h : S.Conforms row) {name : String} {v : Value}
    (hv : row[name]? = some v) : S.value? name v.display = some v := by
  obtain ⟨c, hc, htype⟩ := (conforms_iff.mp h).1 name v hv
  rw [value?, hc, Option.bind_some, ← htype, FieldType.convert_display]
  rfl

theorem mem_shown_iff {name raw : String} :
    (name, raw) ∈ shown fields ↔ ∃ v, (name, v) ∈ fields ∧ v.display = raw := by
  simp [shown]

theorem map_fst_shown : (shown fields).map Prod.fst = fields.map Prod.fst := by
  rw [shown, List.map_map]
  rfl

section Order

variable (hfields : fields.Perm row.toList)
include hfields

theorem mem_fields_iff {name : String} {v : Value} : (name, v) ∈ fields ↔ row[name]? = some v := by
  rw [hfields.mem_iff, Std.ExtTreeMap.mem_toList_iff_getElem?_eq_some]

theorem perm_keys : ((shown fields).map Prod.fst).Perm row.keys := by
  rw [map_fst_shown, ← Std.ExtTreeMap.map_fst_toList_eq_keys]
  exact hfields.map Prod.fst

theorem nodup_shown : ((shown fields).map Prod.fst).Nodup :=
  (perm_keys hfields).nodup_iff.mpr row.nodup_keys

theorem converted_shown (h : S.Conforms row) : S.converted (shown fields) = row := by
  apply Std.ExtTreeMap.ext_getElem?
  intro name
  apply Option.ext
  intro v
  rw [getElem?_converted_eq_some_iff (nodup_shown hfields)]
  constructor
  · rintro ⟨raw, hmem, hv⟩
    obtain ⟨v', hfield, rfl⟩ := mem_shown_iff.mp hmem
    have hv' := (mem_fields_iff hfields).mp hfield
    rw [h.value?_display hv'] at hv
    cases hv
    exact hv'
  · intro hv
    exact ⟨v.display, mem_shown_iff.mpr ⟨v, (mem_fields_iff hfields).mpr hv, rfl⟩,
      h.value?_display hv⟩

theorem ofAdd_shown (h : S.Conforms row) {key : Value} (hkey : row[S.key.name]? = some key) :
    Request.ofAdd S (shown fields) = .ok (.create key (row.erase S.key.name)) := by
  have hrow := converted_shown hfields h
  refine Request.ofAdd_eq_ok_iff.mpr ⟨nodup_shown hfields, fun name => ?_, ?_, key, ?_, ?_⟩
  · rw [(perm_keys hfields).mem_iff, Std.ExtTreeMap.mem_keys, h.mem_iff]
  · rintro ⟨name, raw⟩ hmem
    obtain ⟨v, hfield, rfl⟩ := mem_shown_iff.mp hmem
    rw [h.value?_display ((mem_fields_iff hfields).mp hfield)]
    rfl
  · rw [hrow, hkey]
  · rw [hrow]

end Order

end Schema

namespace Session

variable {S : Schema} {db : Session} {rows : List Row} {row : Row} {key : Value}

theorem execute_addLine (h : db.Follows S .builtin rows) {pairs : List (String × String)}
    (hne : pairs ≠ []) (hnames : ∀ p ∈ pairs, normalizeKey p.1 = .ok p.1)
    (hvalues : ∀ p ∈ pairs, '"' ∉ p.2.toList) :
    db.execute (addLine pairs) = db.handle .add (pairs.map fun p => .pair p.1 p.2) := by
  have hkeys : ∀ p ∈ pairs, isKey p.1.toList := fun p hp =>
    Grammar.isKey_of_normalizeKey (hnames p hp)
  have hfind : db.registry.find "add" = .ok Command.add := by
    rw [h.registry_eq]
    rfl
  have hnormal : ∀ arg ∈ pairs.map fun p => Argument.pair p.1 p.2, Shape.keyValue.Normal arg :=
    List.forall_mem_map.mpr fun p hp => .pair (normalKey_iff.mpr (hnames p hp))
  have hwords : pairs.flatMap (fun p => [p.1, p.2]) =
      (pairs.map fun p => Argument.pair p.1 p.2).flatMap Argument.words := by
    rw [List.flatMap_map]
    rfl
  have hgroup : Command.add.grammar.group (pairs.flatMap fun p => [p.1, p.2]) =
      .ok (pairs.map fun p => .pair p.1 p.2) := by
    rw [hwords]
    refine Grammar.group_words_iff.mpr ⟨hnormal, fun least hleast => ?_, fun most hmost => ?_⟩
    · cases hleast
      rw [List.length_map]
      exact List.length_pos_of_ne_nil hne
    · cases hmost
  exact execute_eq_handle (Words.split_addLine hkeys hvalues) hfind hgroup

theorem execute_getLine (h : db.Follows S .builtin rows) {raw : String} (hraw : '"' ∉ raw.toList) :
    db.execute (getLine raw) = db.handle .get [.value raw] := by
  have hfind : db.registry.find "get" = .ok Command.get := by
    rw [h.registry_eq]
    rfl
  exact execute_eq_handle (Words.split_getLine hraw) hfind rfl

theorem handle_add_shown (h : db.Follows S .builtin rows) (hrow : S.Conforms row)
    {fields : List (String × Value)} (hfields : fields.Perm row.toList)
    (hkey : row[S.key.name]? = some key) (hfree : ∀ stored ∈ rows, stored[S.key.name]? ≠ some key) :
    let added := db.handle .add ((shown fields).map fun p => .pair p.1 p.2)
    added.1 = .ok (.ofRow row) ∧ added.2.Follows S .builtin (rows ++ [row]) := by
  have hrequest : Request.ofAction db.schema db.registry
      ((shown fields).map fun p => .pair p.1 p.2) .add =
        .ok (.create key (row.erase S.key.name)) := by
    rw [h.schema_eq, Request.ofAction_add_pairs, Schema.ofAdd_shown hfields hrow hkey]
  have hcreate : (db.store.create key (row.erase S.key.name)).1 = .ok row := by
    rw [h.shows.create_ok _ hfree, insert_erase_of_getElem? hkey]
  intro added
  have hadded : added = (.ok (.ofRow row),
      { db with store := (db.store.create key (row.erase S.key.name)).2 }) := by
    simp only [added, handle, hrequest, Request.perform, hcreate]
    rfl
  rw [hadded]
  refine ⟨rfl, h.schema_eq, h.registry_eq, (h.shows.create_of_ok hcreate).2, fun row' hrow' => ?_⟩
  rcases List.mem_append.mp hrow' with hrow' | hrow'
  · exact h.conforms row' hrow'
  · rw [List.mem_singleton.mp hrow']
    exact hrow

/-- In every state that a session reaches, a row of the schema with a new key is added by the
statement that writes its fields down in any order. It comes last, and getting it by its written key
answers it as it was. -/
theorem add_written (S : Schema) (hnames : ∀ name ∈ S.names, normalizeKey name = .ok name)
    (row : Row) (hrow : S.Conforms row)
    (htexts : ∀ name text : String, row[name]? = some (.text text) → '"' ∉ text.toList)
    (fields : List (String × Value)) (hfields : fields.Perm row.toList)
    (key : Value) (hkey : row[S.key.name]? = some key) (lines : List String) :
    let db := (run execute (start S .builtin) lines).2
    let added := db.execute (addLine (shown fields))
    (∀ rows, db.store.scan db.store.cursor = .ok rows →
        ∀ stored ∈ rows, stored[S.key.name]? ≠ some key) →
      added.1 = .ok (.ofRow row) ∧
        (∃ rows, db.store.scan db.store.cursor = .ok rows ∧
          added.2.store.scan added.2.store.cursor = .ok (rows ++ [row])) ∧
        (added.2.execute (getLine key.display)).1 = .ok (.ofRow row) := by
  intro db added hfree
  have h := follows_run (follows_start S .builtin) lines
  have hscan := h.shows.scan_cursor
  have hmem : (S.key.name, key) ∈ fields := (Schema.mem_fields_iff hfields).mpr hkey
  have hshown : (S.key.name, key.display) ∈ shown fields :=
    Schema.mem_shown_iff.mpr ⟨key, hmem, rfl⟩
  have hnormal : ∀ p ∈ shown fields, normalizeKey p.1 = .ok p.1 := by
    intro p hp
    have hname := (Schema.perm_keys hfields).mem_iff.mp (List.mem_map_of_mem hp)
    exact hnames p.1 ((hrow.mem_iff p.1).mp (Std.ExtTreeMap.mem_keys.mp hname))
  have hvalues : ∀ p ∈ shown fields, '"' ∉ p.2.toList := by
    rintro ⟨name, raw⟩ hp
    obtain ⟨v, hfield, rfl⟩ := Schema.mem_shown_iff.mp hp
    have hv := (Schema.mem_fields_iff hfields).mp hfield
    exact Value.quote_notMem_display fun text htext => htexts name text (htext ▸ hv)
  have hadded : added = db.handle .add ((shown fields).map fun p => .pair p.1 p.2) :=
    execute_addLine h (List.ne_nil_of_mem hshown) hnormal hvalues
  have hall := handle_add_shown h hrow hfields hkey (hfree _ hscan)
  rw [← hadded] at hall
  obtain ⟨hanswer, hfollows⟩ := hall
  refine ⟨hanswer, ⟨_, hscan, hfollows.shows.scan_cursor⟩, ?_⟩
  have hconvert : S.convertKey key.display = .ok key :=
    Schema.convertKey_eq_ok_iff.mpr (hrow.value?_display hkey)
  have hread : added.2.store.read key = .ok row :=
    hfollows.shows.read_ok (List.mem_append_right _ (List.mem_singleton_self row)) hkey
  rw [execute_getLine hfollows (hvalues _ hshown), handle_get hfollows, hconvert]
  simp only [bind, Except.bind, hread]
  rfl

/-- The least integer, a blank name and a year of five digits, with the key neither first nor last.
-/
theorem add_written_extreme :
    let fields : List (String × Value) := [("name", .text " "), ("id", .int Int64.minValue),
      ("day", .date ⟨12345, 2, 28, by decide⟩)]
    let row : Row := Std.ExtTreeMap.ofList fields
    let line := "add name \" \" id \"-9223372036854775808\" day \"+12345-02-28\""
    let db := (run execute (start .staff .builtin) ["add id 1 name Ada day 1815-12-10"]).2
    let added := db.execute line
    added.1 = .ok (.ofRow row) ∧
      (added.2.execute "get \"-9223372036854775808\"").1 = .ok (.ofRow row) := by
  intro fields row line db added
  have hline : line = addLine (shown fields) := by decide +kernel
  have hgetLine : "get \"-9223372036854775808\"" = getLine (Value.int Int64.minValue).display := by
    decide +kernel
  have hnames : ∀ name ∈ Schema.staff.names, normalizeKey name = .ok name := by decide +kernel
  have hfield {name : String} {v : Value} : row[name]? = some v ↔ (name, v) ∈ fields :=
    getElem?_ofList_eq_some_iff (by decide)
  have hrow : Schema.staff.Conforms row := by
    have hconverted : row = Schema.staff.converted (shown fields) := by decide +kernel
    rw [hconverted]
    refine Schema.conforms_converted (by decide) (fun name => ?_) (by decide +kernel)
    simp only [Schema.names, Schema.staff, shown, fields, List.map_cons, List.map_nil,
      List.mem_cons, List.not_mem_nil]
    tauto
  have htexts : ∀ name text : String, row[name]? = some (.text text) → '"' ∉ text.toList := by
    intro name text htext
    obtain ⟨-, rfl⟩ : name = "name" ∧ text = " " := by simpa [fields] using hfield.mp htext
    decide
  have hfree : ∀ rows, db.store.scan db.store.cursor = .ok rows →
      ∀ stored ∈ rows, stored[Schema.staff.key.name]? ≠ some (.int Int64.minValue) := by
    intro rows hscan
    have h := follows_run (follows_start .staff .builtin) ["add id 1 name Ada day 1815-12-10"]
    obtain rfl := Except.ok.inj (h.shows.scan_cursor.symm.trans hscan)
    decide +kernel
  have h := add_written .staff hnames row hrow htexts fields (by decide +kernel)
    (.int Int64.minValue) (hfield.mpr (by decide)) ["add id 1 name Ada day 1815-12-10"] hfree
  rw [← hline, ← hgetLine] at h
  exact ⟨h.1, h.2.2⟩

end Session

end TableShell
