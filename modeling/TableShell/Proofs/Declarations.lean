import Mathlib.Data.Option.Basic
import TableShell.Proofs.Entries
import TableShell.Proofs.Pieces
import TableShell.SchemaSource

/-!
# What is asked of declarations

Declared columns become a schema if each of them has a name and a known type, if there is a column,
if no name comes twice, and if exactly one column is marked as the primary key. The first of these
conditions that does not hold is reported. A schema that is accepted has the columns as declared.
-/

namespace TableShell

namespace Schema.Declaration

def typeNames : List String := ["integer", "string", "date"]

variable {d : Declaration} {c : Column} {e : Error} {fault : SchemaFault}

/-- The column is marked as the primary key, by an attribute between commas. -/
def Flagged (d : Declaration) : Prop :=
  ∃ attributes piece, d.attributes = some attributes ∧
    Text.IsPiece ',' piece attributes.toList ∧ Text.Padded "primary_key".toList piece

def Typed (d : Declaration) : Prop := d.name ≠ none ∧ ∃ type ∈ typeNames, d.type = some type

/-- What is wrong with a column on its own; a missing name goes before all else. -/
inductive Faulty (d : Declaration) : SchemaFault → Prop
  | name (h : d.name = none) : Faulty d .nameMissing
  | type (hname : d.name ≠ none) (h : d.type = none) : Faulty d .typeMissing
  | unknown {type} (hname : d.name ≠ none) (h : d.type = some type) (htype : type ∉ typeNames) :
    Faulty d (.unknownType type)

structure Declares (d : Declaration) (c : Column) : Prop where
  name_eq : d.name = some c.name
  type_eq : d.type = some c.type.name
  isKey_iff : c.isKey ↔ d.Flagged

theorem hasAttribute_iff : d.hasAttribute "primary_key" ↔ d.Flagged := by
  unfold hasAttribute Flagged
  cases d.attributes with
  | none => simp
  | some attributes =>
    have htrim {piece : List Char} :
        Text.trim piece = "primary_key".toList ↔ Text.Padded "primary_key".toList piece :=
      Text.trim_eq_iff (by decide) (by decide) (by decide)
    simp only [List.any_eq_true, beq_iff_eq, Text.mem_splitOn_iff, htrim]
    constructor
    · rintro ⟨piece, hpiece, hpadded⟩
      exact ⟨attributes, piece, rfl, hpiece, hpadded⟩
    · rintro ⟨_, piece, ⟨⟩, hpiece, hpadded⟩
      exact ⟨piece, hpiece, hpadded⟩

theorem ofName?_eq_some_iff {name : String} {type : FieldType} :
    FieldType.ofName? name = some type ↔ name = type.name := by
  constructor
  · intro h
    unfold FieldType.ofName? at h
    have hname := List.find?_some h
    exact (beq_iff_eq.mp hname).symm
  · rintro rfl
    exact FieldType.ofName?_name type

theorem mem_typeNames_iff {name : String} :
    name ∈ typeNames ↔ ∃ type : FieldType, name = type.name := by
  constructor
  · intro h
    obtain rfl | rfl | rfl : name = "integer" ∨ name = "string" ∨ name = "date" := by
      simpa [typeNames] using h
    · exact ⟨.integer, rfl⟩
    · exact ⟨.string, rfl⟩
    · exact ⟨.date, rfl⟩
  · rintro ⟨type, rfl⟩
    cases type <;> decide

theorem ofName?_eq_none_iff {name : String} :
    FieldType.ofName? name = none ↔ name ∉ typeNames := by
  rw [mem_typeNames_iff, Option.eq_none_iff_forall_ne_some, not_exists]
  simp only [ne_eq, ofName?_eq_some_iff]

theorem column_eq_ok_iff : d.column = .ok c ↔ d.Declares c := by
  obtain ⟨name, type, isKey⟩ := c
  constructor
  · intro h
    unfold column at h
    split at h
    · cases h
    · cases h
    · rename_i hname htype
      split at h
      · cases h
      · rename_i htypeName
        cases h
        rw [ofName?_eq_some_iff] at htypeName
        exact ⟨hname, by rw [htype, htypeName], hasAttribute_iff⟩
  · rintro ⟨hname, htype, hkey⟩
    have hflag : d.hasAttribute "primary_key" = isKey :=
      Bool.eq_iff_iff.mpr (hasAttribute_iff.trans hkey.symm)
    unfold column
    rw [hname, htype]
    dsimp only
    rw [FieldType.ofName?_name, hflag]

theorem Declares.typed (h : d.Declares c) : d.Typed := by
  refine ⟨?_, c.type.name, mem_typeNames_iff.mpr ⟨c.type, rfl⟩, h.type_eq⟩
  rw [h.name_eq]
  exact Option.some_ne_none _

theorem Faulty.not_typed (h : d.Faulty fault) : ¬ d.Typed := by
  rintro ⟨hname, type, hmem, htype⟩
  cases h with
  | name hnone => exact hname hnone
  | type _ hnone =>
    rw [hnone] at htype
    cases htype
  | unknown _ hsome hnot =>
    rw [hsome] at htype
    cases htype
    exact hnot hmem

theorem exists_faulty_of_column (h : d.column = .error e) :
    ∃ fault, d.Faulty fault ∧ e = .schemaInvalid fault := by
  unfold column at h
  split at h
  · rename_i hname
    cases h
    exact ⟨_, .name hname, rfl⟩
  · rename_i hname htype
    cases h
    exact ⟨_, .type (Option.ne_none_iff_exists'.mpr ⟨_, hname⟩) htype, rfl⟩
  · rename_i hname htype
    split at h
    · rename_i hnone
      cases h
      exact ⟨_, .unknown (Option.ne_none_iff_exists'.mpr ⟨_, hname⟩) htype
        (ofName?_eq_none_iff.mp hnone), rfl⟩
    · cases h

end Schema.Declaration

namespace Condition

variable (ds : List Schema.Declaration)

def wellDeclared : Condition :=
  all ds Schema.Declaration.Typed fun d e => ∃ fault, d.Faulty fault ∧ e = .schemaInvalid fault

def populated : Condition where
  holds := ds ≠ []
  reports e := e = .schemaInvalid .noColumns

def unrepeated : Condition where
  holds := (ds.map Schema.Declaration.name).Nodup
  reports e := ∃ before name after,
    ds.map Schema.Declaration.name = before ++ some name :: after ∧ before.Nodup ∧
      some name ∈ before ∧ e = .schemaInvalid (.duplicateColumn name)

def keyed : Condition where
  holds := ∃ d ∈ ds, d.Flagged
  reports e := e = .schemaInvalid .noPrimaryKey

def single : Condition where
  holds := ds.Pairwise fun d d' => ¬ (d.Flagged ∧ d'.Flagged)
  reports e := e = .schemaInvalid .severalPrimaryKeys

end Condition

open Condition

namespace Schema

/-- What is asked of declared columns, in this order. -/
def declarationConditions (ds : List Declaration) : List Condition :=
  [wellDeclared ds, populated ds, unrepeated ds, keyed ds, single ds]

variable {ds : List Declaration} {columns : List Column}

theorem decides_columns : Decides [wellDeclared ds] (ds.mapM Declaration.column) := by
  refine .mapM (fun d c h => (Declaration.column_eq_ok_iff.mp h).typed) fun d e h => ?_
  obtain ⟨fault, hfault, he⟩ := Declaration.exists_faulty_of_column h
  exact ⟨hfault.not_typed, fault, hfault, he⟩

theorem map_name_eq (h : List.Forall₂ Declaration.Declares ds columns) :
    ds.map Declaration.name = (columns.map Column.name).map some := by
  rw [List.map_map, ← List.forall₂_eq_eq_eq, List.forall₂_map_left_iff,
    List.forall₂_map_right_iff]
  exact h.imp fun _ _ hd => hd.name_eq

theorem exists_flagged_iff (h : List.Forall₂ Declaration.Declares ds columns) :
    (∃ d ∈ ds, d.Flagged) ↔ columns.filter Column.isKey ≠ [] := by
  rw [ne_eq, List.filter_eq_nil_iff]
  push Not
  induction h with
  | nil => simp
  | cons hd _ ih => rw [List.exists_mem_cons_iff, List.exists_mem_cons_iff, ih, hd.isKey_iff]

theorem pairwise_flagged_iff (h : List.Forall₂ Declaration.Declares ds columns) :
    (ds.Pairwise fun d d' => ¬ (d.Flagged ∧ d'.Flagged)) ↔
      (columns.filter Column.isKey).length ≤ 1 := by
  induction h with
  | nil => simp
  | @cons d c ds columns hd h ih =>
    rw [List.pairwise_cons, ih]
    by_cases hkey : c.isKey
    · have hflag : d.Flagged := hd.isKey_iff.mp hkey
      have hothers : (∀ d' ∈ ds, ¬ (d.Flagged ∧ d'.Flagged)) ↔
          (columns.filter Column.isKey).length = 0 := by
        rw [List.length_eq_zero_iff, ← not_ne_iff, ← exists_flagged_iff h]
        push Not
        exact forall₂_congr fun _ _ => imp_iff_right hflag
      rw [hothers, List.filter_cons_of_pos hkey, List.length_cons]
      omega
    · have hflag : ¬ d.Flagged := mt hd.isKey_iff.mpr hkey
      rw [List.filter_cons_of_neg hkey]
      exact and_iff_right fun _ _ hboth => hflag hboth.1

theorem decides_ofColumns (h : List.Forall₂ Declaration.Declares ds columns) :
    Decides [populated ds, unrepeated ds, keyed ds, single ds] (ofColumns columns) := by
  have hnodup : (unrepeated ds).holds ↔ (columns.map Column.name).Nodup := by
    rw [unrepeated, map_name_eq h]
    exact List.nodup_map_iff (Option.some_injective String)
  unfold ofColumns
  split_ifs with hempty
  · subst hempty
    cases h
    exact .fail (fun hne => hne rfl) rfl
  · refine .pass ?_ ?_
    · rintro rfl
      cases h
      exact hempty rfl
    · split
      · rename_i name hname
        obtain ⟨hrepeated, before, after, hnames, hbefore, hmem⟩ :=
          exists_of_firstRepeated?_nil hname
        refine .fail (mt hnodup.mp hrepeated)
          ⟨before.map some, name, after.map some, ?_, ?_, ?_, rfl⟩
        · rw [map_name_eq h, hnames, List.map_append, List.map_cons]
        · exact hbefore.map (Option.some_injective String)
        · exact List.mem_map_of_mem hmem
      · rename_i hnone
        refine .pass (hnodup.mpr ((firstRepeated?_nil_eq_none_iff _).mp hnone)) ?_
        split
        · rename_i hkeys
          refine .fail (fun hflag => ?_) rfl
          exact (exists_flagged_iff h).mp hflag hkeys
        · rename_i key hkeys
          refine .pass ((exists_flagged_iff h).mpr (by simp [hkeys])) ?_
          exact .pass ((pairwise_flagged_iff h).mpr (by simp [hkeys])) (.succeed _)
        · rename_i hkeys
          refine .pass ((exists_flagged_iff h).mpr (by simp [hkeys])) ?_
          exact .fail (mt (pairwise_flagged_iff h).mp (by simp [hkeys])) rfl

theorem declares_of_mapM (h : ds.mapM Declaration.column = .ok columns) :
    List.Forall₂ Declaration.Declares ds columns :=
  (mapM_eq_ok_iff.mp h).imp fun _ _ hd => Declaration.column_eq_ok_iff.mp hd

theorem decides_ofDeclarations : Decides (declarationConditions ds) (ofDeclarations ds) :=
  decides_columns.bind fun _ h => decides_ofColumns (declares_of_mapM h)

/-- The schema is what the columns declare: its names are theirs in their order, its primary key is
the only one that is marked, and a name leads to the column that is declared under it. -/
structure Realizes (S : Schema) (ds : List Declaration) : Prop where
  names_eq : S.names.map some = ds.map Declaration.name
  key : ∃ d ∈ ds, d.Flagged ∧ d.Declares S.key ∧ ∀ d' ∈ ds, d'.Flagged → d' = d
  column : ∀ d ∈ ds, ∀ name, d.name = some name → ∃ c, S.column? name = some c ∧ d.Declares c
  no_column : ∀ name, some name ∉ ds.map Declaration.name → S.column? name = none

theorem columns_eq_of_ofColumns {S : Schema} (h : ofColumns columns = .ok S) :
    S.columns = columns := by
  unfold ofColumns at h
  split_ifs at h
  split at h
  · cases h
  · split at h
    · cases h
    · cases h
      rfl
    · cases h

section Accepted

variable {S : Schema}

theorem mem_columns_iff (h : ds.mapM Declaration.column = .ok columns) {c : Column} :
    c ∈ columns ↔ ∃ d ∈ ds, d.Declares c := by
  rw [mem_iff_of_mapM_eq_ok h]
  simp only [Declaration.column_eq_ok_iff]

theorem exists_column (h : ds.mapM Declaration.column = .ok columns) {d : Declaration}
    (hd : d ∈ ds) : ∃ c ∈ columns, d.Declares c := by
  obtain ⟨c, hc⟩ := exists_mapM_eq_ok_iff.mp ⟨columns, h⟩ d hd
  exact ⟨c, (mem_iff_of_mapM_eq_ok h c).mpr ⟨d, hd, hc⟩, Declaration.column_eq_ok_iff.mp hc⟩

theorem eq_key_iff {c : Column} : c = S.key ↔ c ∈ S.columns ∧ c.isKey := by
  rw [← List.mem_filter, S.filter_isKey, List.mem_singleton]

theorem realizes_of_mapM (h : ds.mapM Declaration.column = .ok S.columns) : S.Realizes ds := by
  have hnames : ds.map Declaration.name = S.names.map some := map_name_eq (declares_of_mapM h)
  have hnodup : (ds.map Declaration.name).Nodup := by
    rw [hnames]
    exact S.names_nodup.map (Option.some_injective String)
  refine ⟨hnames.symm, ?_, ?_, ?_⟩
  · obtain ⟨d, hd, hkey⟩ := (mem_columns_iff h).mp S.key_mem_columns
    refine ⟨d, hd, hkey.isKey_iff.mp (eq_key_iff.mp rfl).2, hkey, fun d' hd' hflag => ?_⟩
    obtain ⟨c, hc, hdeclares⟩ := exists_column h hd'
    obtain rfl : c = S.key := eq_key_iff.mpr ⟨hc, hdeclares.isKey_iff.mpr hflag⟩
    exact List.inj_on_of_nodup_map hnodup hd' hd (hdeclares.name_eq.trans hkey.name_eq.symm)
  · intro d hd name hname
    obtain ⟨c, hc, hdeclares⟩ := exists_column h hd
    have hcname : c.name = name := Option.some.inj (hdeclares.name_eq.symm.trans hname)
    exact ⟨c, column?_eq_some_iff.mpr ⟨hc, hcname⟩, hdeclares⟩
  · intro name hname
    rw [hnames, List.mem_map_of_injective (Option.some_injective String)] at hname
    exact Option.not_isSome_iff_eq_none.mp (mt column?_isSome_iff.mp hname)

theorem realizes_of_ofDeclarations (h : ofDeclarations ds = .ok S) : S.Realizes ds := by
  obtain ⟨columns, hcolumns, hS⟩ := bind_eq_ok_iff.mp h
  rw [← columns_eq_of_ofColumns hS] at hcolumns
  exact realizes_of_mapM hcolumns

end Accepted

open Yaml

def listed? (d : Document) : Option (Option (List Declaration)) := do
  match d.root with
  | none => some none
  | some root => do
    let fields ← d.fields? ["columns"] root
    d.optional? (d.items? · >>= List.mapM (declaration? d)) (fields.lookup "columns")

theorem declarations?_eq (d : Document) : declarations? d = (listed? d).map (·.getD []) := by
  unfold declarations? listed?
  cases d.root with
  | none => rfl
  | some root =>
    dsimp only
    cases d.fields? ["columns"] root with
    | none => rfl
    | some fields =>
      simp only [Option.bind_eq_bind, Option.bind_some, Document.optional?]
      cases fields.lookup "columns" with
      | none => rfl
      | some n =>
        dsimp only
        cases d.isAbsent? n with
        | none => rfl
        | some absent =>
          cases absent with
          | true => rfl
          | false =>
            cases d.items? n <;> simp

theorem ofYaml_eq {text : String} {source : Option (List Declaration)}
    (h : Document.ofText? text >>= listed? = some source) :
    ofYaml text = ofDeclarations (source.getD []) := by
  obtain ⟨d, hd, hlisted⟩ := Option.bind_eq_some_iff.mp h
  have hdeclared : Document.ofText? text >>= declarations? = some (source.getD []) := by
    rw [hd, Option.bind_eq_bind, Option.bind_some, declarations?_eq, hlisted, Option.map_some]
  rw [ofYaml, hdeclared]

/-- What is asked of declared columns decides, in its order, whether they are a schema and with
which error they are refused; a text that has no list of columns counts like one whose list is
empty. An accepted schema is what the columns declare. -/
theorem ofDeclarations_decided (ds : List Declaration) :
    (∀ text source, Document.ofText? text >>= listed? = some source → source.getD [] = ds →
        ofYaml text = ofDeclarations ds) ∧
      Decides (declarationConditions ds) (ofDeclarations ds) ∧
      ((∀ c ∈ declarationConditions ds, c.holds) →
        ∃ S, ofDeclarations ds = .ok S ∧ S.Realizes ds) := by
  refine ⟨?_, decides_ofDeclarations, fun hall => ?_⟩
  · rintro text source h rfl
    exact ofYaml_eq h
  · obtain ⟨S, hS⟩ := decides_ofDeclarations.exists_ok_iff.mpr hall
    exact ⟨S, hS, realizes_of_ofDeclarations hS⟩

/-- Faults behind other ones, a text without a list, and one that declares a marked column. -/
theorem ofDeclarations_decided_mixed :
    let id : Declaration := ⟨some "id", some "integer", some "unique,\u2003primary_key\t"⟩
    let day : Declaration := ⟨some "day", some "date", some "primary key,primary_keys"⟩
    let unknown : Declaration := ⟨some "id", some "Integer", none⟩
    let text := "columns:\n- name: id\n  type: integer\n" ++
      "  attribute: \"unique,\u2003primary_key\\t\"\n- type: date\n" ++
      "  attribute: primary key,primary_keys\n  name: day\n"
    ofDeclarations [id, unknown, ⟨none, none, none⟩] =
        .error (.schemaInvalid (.unknownType "Integer")) ∧
      ofDeclarations [day, id, day, id] = .error (.schemaInvalid (.duplicateColumn "day")) ∧
      ofDeclarations [day] = .error (.schemaInvalid .noPrimaryKey) ∧
      ofYaml "columns: ~" = .error (.schemaInvalid .noColumns) ∧
      (∀ c ∈ declarationConditions [id, day], c.holds) ∧
      ∃ S, ofYaml text = .ok S ∧ S.Realizes [id, day] := by
  intro id day unknown text
  have hempty : ofYaml "columns: ~" = ofDeclarations [] :=
    (ofDeclarations_decided []).1 _ none (by decide +kernel) rfl
  obtain ⟨htext, hdecides, hok⟩ := ofDeclarations_decided [id, day]
  have hall : ∀ c ∈ declarationConditions [id, day], c.holds :=
    hdecides.exists_ok_iff.mp (isOk_iff_exists.mp (by decide +kernel))
  obtain ⟨S, hS, hrealizes⟩ := hok hall
  have htext : ofYaml text = ofDeclarations [id, day] :=
    htext text (some [id, day]) (by decide +kernel) rfl
  exact ⟨rfl, rfl, rfl, hempty, hall, S, htext.trans hS, hrealizes⟩

end Schema

end TableShell
