import TableShell.Proofs.Regrouping
import TableShell.Proofs.Writing

/-!
# Names that can be typed

Keys are lowercased and checked before they are compared with the names of a schema, so a column
whose name is not a key in lower case is out of reach. A schema admits a row exactly when none of
its columns is.
-/

namespace TableShell

theorem exists_normalizeKey_eq_ok_iff {name : String} :
    (∃ word, normalizeKey word = .ok name) ↔ lowercaseWord name = name ∧ isKey name.toList := by
  constructor
  · rintro ⟨word, hword⟩
    obtain ⟨hlower, hkey⟩ := normalizeKey_eq_ok_iff.mp (normalizeKey_normalized hword)
    exact ⟨hlower.symm, hkey⟩
  · rintro ⟨hlower, hkey⟩
    exact ⟨name, normalizeKey_eq_ok_iff.mpr ⟨hlower.symm, hkey⟩⟩

theorem Grammar.normalizeKey_of_groupPairs {words : List String} {args : List Argument}
    (h : groupPairs words = .ok args) :
    ∀ p ∈ pairsOf words, ∃ word, normalizeKey word = .ok p.1 := by
  intro p hp
  have harg : .pair p.1 p.2 ∈ args := groupPairs_eq_ok h ▸ List.mem_map_of_mem hp
  cases normal_of_groupPairs h _ harg with
  | pair hkey => exact ⟨p.1, normalKey_iff.mp hkey⟩

def FieldType.blank : FieldType → Value
  | .integer => .int 0
  | .string => .text ""
  | .date => .date ⟨1, 1, 1, by decide⟩

theorem FieldType.ofValue_blank (type : FieldType) : ofValue type.blank = type := by
  cases type <;> rfl

theorem FieldType.quote_notMem_blank (type : FieldType) : '"' ∉ type.blank.display.toList := by
  refine Value.quote_notMem_display fun text htext => ?_
  cases type <;> cases htext
  exact List.not_mem_nil

namespace Schema

variable {S : Schema}

def blankRow (S : Schema) : Row :=
  Std.ExtTreeMap.ofList (S.columns.map fun c => (c.name, c.type.blank))

theorem getElem?_blankRow_eq_some_iff {name : String} {v : Value} :
    S.blankRow[name]? = some v ↔ ∃ c ∈ S.columns, c.name = name ∧ c.type.blank = v := by
  have hnodup : ((S.columns.map fun c => (c.name, c.type.blank)).map Prod.fst).Nodup := by
    rw [List.map_map]
    exact S.names_nodup
  rw [blankRow, getElem?_ofList_eq_some_iff hnodup, List.mem_map]
  simp only [Prod.mk.injEq]

theorem conforms_blankRow : S.Conforms S.blankRow where
  mem_iff name := by
    rw [Std.ExtTreeMap.mem_iff_isSome_getElem?, Option.isSome_iff_exists, names, List.mem_map]
    simp only [getElem?_blankRow_eq_some_iff]
    constructor
    · rintro ⟨_, c, hc, hname, -⟩
      exact ⟨c, hc, hname⟩
    · rintro ⟨c, hc, hname⟩
      exact ⟨_, c, hc, hname, rfl⟩
  type_eq c hc v hv := by
    obtain ⟨d, hd, hname, rfl⟩ := getElem?_blankRow_eq_some_iff.mp hv
    rw [List.inj_on_of_nodup_map S.names_nodup hd hc hname]
    exact c.type.ofValue_blank

end Schema

namespace Session

variable {S : Schema} {db : Session} {line : String} {row : Row}

/-- The line is an addition and the session accepts it: the row is answered, and it is all that is
stored. -/
structure AddsFirst (db : Session) (line : String) (row : Row) : Prop where
  command : ∃ word rest, Words.split line = word :: rest ∧ db.registry.find word = .ok .add
  answer : (db.execute line).1 = .ok (.ofRow row)
  stored : (db.execute line).2.store.scan (db.execute line).2.store.cursor = .ok [row]

theorem AddsFirst.exists_normalizeKey (h : db.AddsFirst line row) :
    ∀ name ∈ db.schema.names, ∃ word, normalizeKey word = .ok name := by
  obtain ⟨word, rest, hl, hfind⟩ := h.command
  obtain ⟨q, hq, -⟩ := (execute_eq_ok_iff hl).mp h.answer
  obtain ⟨c, args, hc, hgroup, hadd⟩ := request_eq_ok_iff.mp hq
  cases hfind.symm.trans hc
  obtain ⟨hpairs, -⟩ := Grammar.group_eq_ok_iff.mp hgroup
  have hargs : args = (pairsOf rest).map fun p => .pair p.1 p.2 := Grammar.groupPairs_eq_ok hpairs
  have hadd : Request.ofAdd db.schema (pairsOf rest) = .ok q := by
    rw [← hadd, hargs]
    exact Request.ofAction_add_pairs.symm
  obtain ⟨-, hnames, -⟩ := Request.ofAdd_eq_ok_iff.mp hadd
  intro name hname
  obtain ⟨p, hp, rfl⟩ := List.mem_map.mp ((hnames name).mp hname)
  exact Grammar.normalizeKey_of_groupPairs hpairs p hp

theorem addsFirst_blankRow (hnames : ∀ name ∈ S.names, normalizeKey name = .ok name) :
    (start S .builtin).AddsFirst (addLine (shown S.blankRow.toList)) S.blankRow := by
  have hrow : S.Conforms S.blankRow := Schema.conforms_blankRow
  have hperm : S.blankRow.toList.Perm S.blankRow.toList := .refl _
  have hkey : S.blankRow[S.key.name]? = some S.key.type.blank :=
    Schema.getElem?_blankRow_eq_some_iff.mpr ⟨S.key, Schema.key_mem_columns, rfl, rfl⟩
  have hshown : (S.key.name, S.key.type.blank.display) ∈ shown S.blankRow.toList :=
    Schema.mem_shown_iff.mpr ⟨_, (Schema.mem_fields_iff hperm).mpr hkey, rfl⟩
  have hnormal : ∀ p ∈ shown S.blankRow.toList, normalizeKey p.1 = .ok p.1 := by
    intro p hp
    have hname := (Schema.perm_keys hperm).mem_iff.mp (List.mem_map_of_mem hp)
    exact hnames p.1 ((hrow.mem_iff p.1).mp (Std.ExtTreeMap.mem_keys.mp hname))
  have hvalues : ∀ p ∈ shown S.blankRow.toList, '"' ∉ p.2.toList := by
    rintro ⟨name, raw⟩ hp
    obtain ⟨v, hfield, rfl⟩ := Schema.mem_shown_iff.mp hp
    obtain ⟨c, -, -, rfl⟩ :=
      Schema.getElem?_blankRow_eq_some_iff.mp ((Schema.mem_fields_iff hperm).mp hfield)
    exact c.type.quote_notMem_blank
  have h := follows_start S .builtin
  obtain ⟨hanswer, hfollows⟩ :=
    handle_add_shown h hrow hperm hkey fun _ hstored => (List.not_mem_nil hstored).elim
  rw [← execute_addLine h (List.ne_nil_of_mem hshown) hnormal hvalues] at hanswer hfollows
  have hsplit := Words.split_addLine
    (fun p hp => Grammar.isKey_of_normalizeKey (hnormal p hp)) hvalues
  exact ⟨⟨"add", _, hsplit, rfl⟩, hanswer, hfollows.shows.scan_cursor⟩

/-- An empty table of a schema takes a row exactly when every column is within reach of the keys
that can be typed, that is, when every name is a key in lower case. -/
theorem exists_addsFirst_iff (S : Schema) :
    ((∃ line row, (start S .builtin).AddsFirst line row) ↔
        ∀ name ∈ S.names, ∃ word, normalizeKey word = .ok name) ∧
      ((∀ name ∈ S.names, ∃ word, normalizeKey word = .ok name) ↔
        ∀ name ∈ S.names, lowercaseWord name = name ∧ isKey name.toList) := by
  refine ⟨⟨fun ⟨_, _, h⟩ => h.exists_normalizeKey, fun h => ?_⟩,
    forall₂_congr fun _ _ => exists_normalizeKey_eq_ok_iff⟩
  refine ⟨_, _, addsFirst_blankRow fun name hname => ?_⟩
  obtain ⟨word, hword⟩ := h name hname
  exact normalizeKey_normalized hword

/-- A name with capitals is never typed. -/
theorem not_addsFirst_capitals :
    ∃ S, Schema.ofColumns [⟨"ID", .integer, true⟩] = .ok S ∧
      ∀ line row, ¬ (start S .builtin).AddsFirst line row := by
  refine ⟨⟨[⟨"ID", .integer, true⟩], ⟨"ID", .integer, true⟩, by decide, by decide⟩, by rfl,
    fun line row h => ?_⟩
  have hlower := exists_normalizeKey_eq_ok_iff.mp (h.exists_normalizeKey "ID" (by decide))
  exact absurd hlower.1 (by decide)

end Session

end TableShell
