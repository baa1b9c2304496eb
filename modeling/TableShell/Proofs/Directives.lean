import TableShell.Proofs.Entries

/-!
# What is asked of queries

Pairs become a query if every directive is a known one that names a column, and the other pairs
are filters whose keys are distinct, are declared and have texts with values in their columns. The
directives are looked at first, wherever they stand among the filters.
-/

namespace TableShell

def SortKey.ofPair (d : String × String) : SortKey :=
  ⟨d.2, if d.1 = "$sort_asc" then .ascending else .descending⟩

def SortKey.toPair (k : SortKey) : String × String :=
  (match k.direction with
    | .ascending => "$sort_asc"
    | .descending => "$sort_desc", k.field)

theorem SortKey.toPair_ofPair {d : String × String}
    (hd : d.1 = "$sort_asc" ∨ d.1 = "$sort_desc") : (ofPair d).toPair = d := by
  obtain ⟨key, field⟩ := d
  rcases hd with rfl | rfl
  · rfl
  · rfl

namespace Condition

/-- The first directive that is none or names no column is reported, the key before the field. -/
def directed (S : Schema) (ds : List (String × String)) : Condition where
  holds := ∀ d ∈ ds, (d.1 = "$sort_asc" ∨ d.1 = "$sort_desc") ∧ d.2 ∈ S.names
  reports e := ∃ before d after, ds = before ++ d :: after ∧
    (∀ b ∈ before, (b.1 = "$sort_asc" ∨ b.1 = "$sort_desc") ∧ b.2 ∈ S.names) ∧
    (¬ (d.1 = "$sort_asc" ∨ d.1 = "$sort_desc") ∧ e = .internal (.unknownDirective d.1) ∨
      (d.1 = "$sort_asc" ∨ d.1 = "$sort_desc") ∧ d.2 ∉ S.names ∧ e = .invalidValueArgument d.2)

end Condition

open Condition

namespace Query

variable {S : Schema} {pairs : List (String × String)} {q : Query}
  {e : Error}

def directives (pairs : List (String × String)) : List (String × String) :=
  pairs.filter (isDirective ·.1)

def conditions (pairs : List (String × String)) : List (String × String) :=
  pairs.filter (!isDirective ·.1)

theorem ofDirective_eq_ok_iff {key : String} {direction : Direction} :
    Direction.ofDirective key = .ok direction ↔
      key = "$sort_asc" ∧ direction = .ascending ∨
        key = "$sort_desc" ∧ direction = .descending := by
  unfold Direction.ofDirective
  split_ifs with hasc hdesc
  · subst hasc
    simp [eq_comm]
  · subst hdesc
    simp [eq_comm]
  · simp [hasc, hdesc]

theorem sortKey_eq_ok_iff {d : String × String} {k : SortKey} :
    sortKey S d = .ok k ↔
      (d.1 = "$sort_asc" ∨ d.1 = "$sort_desc") ∧ d.2 ∈ S.names ∧ k = SortKey.ofPair d := by
  have hmem : S.hasColumn d.2 = true ↔ d.2 ∈ S.names := Schema.column?_isSome_iff
  unfold sortKey
  simp only [bind_eq_ok_iff, ofDirective_eq_ok_iff]
  constructor
  · rintro ⟨direction, hd, hk⟩
    by_cases hcolumn : S.hasColumn d.2
    · rw [if_pos hcolumn] at hk
      cases hk
      rcases hd with ⟨hd, rfl⟩ | ⟨hd, rfl⟩
      · exact ⟨Or.inl hd, hmem.mp hcolumn, by rw [SortKey.ofPair, if_pos hd]⟩
      · exact ⟨Or.inr hd, hmem.mp hcolumn, by rw [SortKey.ofPair, hd, if_neg (by decide)]⟩
    · rw [if_neg hcolumn] at hk
      cases hk
  · rintro ⟨hd, hcolumn, rfl⟩
    refine ⟨(SortKey.ofPair d).direction, ?_, ?_⟩
    · rcases hd with hd | hd
      · exact Or.inl ⟨hd, if_pos hd⟩
      · exact Or.inr ⟨hd, if_neg (by rw [hd]; decide)⟩
    · rw [if_pos (hmem.mpr hcolumn)]
      rfl

theorem mapM_sortKey_eq_ok_iff {ds : List (String × String)} {keys : List SortKey} :
    ds.mapM (sortKey S) = .ok keys ↔
      (∀ d ∈ ds, (d.1 = "$sort_asc" ∨ d.1 = "$sort_desc") ∧ d.2 ∈ S.names) ∧
        keys = ds.map SortKey.ofPair := by
  rw [mapM_eq_ok_iff]
  induction ds generalizing keys with
  | nil => simp
  | cons d ds ih =>
    rw [List.forall₂_cons_left_iff, List.forall_mem_cons, List.map_cons]
    constructor
    · rintro ⟨k, ks, hk, hks, rfl⟩
      obtain ⟨hd, hcolumn, rfl⟩ := sortKey_eq_ok_iff.mp hk
      obtain ⟨hds, rfl⟩ := ih.mp hks
      exact ⟨⟨⟨hd, hcolumn⟩, hds⟩, rfl⟩
    · rintro ⟨⟨⟨hd, hcolumn⟩, hds⟩, rfl⟩
      exact ⟨_, _, sortKey_eq_ok_iff.mpr ⟨hd, hcolumn, rfl⟩, ih.mpr ⟨hds, rfl⟩, rfl⟩

theorem sortKey_eq_error {d : String × String} (h : sortKey S d = .error e) :
    ¬ (d.1 = "$sort_asc" ∨ d.1 = "$sort_desc") ∧ e = .internal (.unknownDirective d.1) ∨
      (d.1 = "$sort_asc" ∨ d.1 = "$sort_desc") ∧ d.2 ∉ S.names ∧ e = .invalidValueArgument d.2 := by
  simp only [sortKey, bind_eq_error_iff] at h
  rcases h with h | ⟨direction, hdirection, h⟩
  · unfold Direction.ofDirective at h
    split_ifs at h with hasc hdesc
    cases h
    exact Or.inl ⟨not_or.mpr ⟨hasc, hdesc⟩, rfl⟩
  · split_ifs at h with hcolumn
    · cases h
    · cases h
      have hdir := (ofDirective_eq_ok_iff.mp hdirection).imp And.left And.left
      exact Or.inr ⟨hdir, mt Schema.column?_isSome_iff.mpr hcolumn, rfl⟩

/-- Directives name columns, filters are of different columns and their texts have values there. -/
theorem ofPairs_eq_ok_iff :
    ofPairs S pairs = .ok q ↔
      (∀ d ∈ directives pairs, (d.1 = "$sort_asc" ∨ d.1 = "$sort_desc") ∧ d.2 ∈ S.names) ∧
        ((conditions pairs).map Prod.fst).Nodup ∧
        (∀ name ∈ (conditions pairs).map Prod.fst, name ∈ S.names) ∧
        (∀ c ∈ conditions pairs, (S.value? c.1 c.2).isSome) ∧
        q = ⟨S.converted (conditions pairs), (directives pairs).map SortKey.ofPair⟩ := by
  unfold ofPairs
  simp only [bind_eq_ok_iff, Entry.ofPairs_eq_ok_iff, mapM_sortKey_eq_ok_iff]
  constructor
  · rintro ⟨_, ⟨hds, rfl⟩, _, ⟨hp, rfl⟩, ⟨⟩, hnames, filters, hfilters, hq⟩
    obtain ⟨hall, rfl⟩ := (Schema.convertEntry_ofList_eq_ok_iff hp).mp hfilters
    exact ⟨hds, hp, (Request.validateKeys_ofList_eq_ok_iff.mp hnames).2, hall,
      (Except.ok.inj hq).symm⟩
  · rintro ⟨hds, hp, hnames, hall, rfl⟩
    have hvalid : S.validateKeys (Std.ExtTreeMap.ofList (conditions pairs)) false true = .ok () :=
      Request.validateKeys_ofList_eq_ok_iff.mpr ⟨fun h => absurd h Bool.false_ne_true, hnames⟩
    exact ⟨_, ⟨hds, rfl⟩, _, ⟨hp, rfl⟩, (), hvalid, _,
      (Schema.convertEntry_ofList_eq_ok_iff hp).mpr ⟨hall, rfl⟩, rfl⟩

theorem decides_sortKeys {ds : List (String × String)} :
    Decides [directed S ds] (ds.mapM (sortKey S)) := by
  refine .mapM (fun d k h => ?_) fun d e h => ?_
  · obtain ⟨hdir, hcolumn, -⟩ := sortKey_eq_ok_iff.mp h
    exact ⟨hdir, hcolumn⟩
  · have hfault := sortKey_eq_error h
    refine ⟨fun hgood => ?_, hfault⟩
    rcases hfault with ⟨hnot, -⟩ | ⟨-, hnot, -⟩
    · exact hnot hgood.1
    · exact hnot hgood.2

end Query

def Schema.queryConditions (S : Schema) (pairs : List (String × String)) : List Condition :=
  let filters := Query.conditions pairs
  let keys := filters.map Prod.fst
  [directed S (Query.directives pairs), distinct keys, declared S keys, convertible S filters]

namespace Query

theorem decides_ofPairs : Decides (S.queryConditions pairs) (ofPairs S pairs) := by
  unfold ofPairs
  refine decides_sortKeys.bind fun sort _ => ?_
  refine Entry.decides_ofPairs.bind fun entry hentry => ?_
  obtain ⟨hp, rfl⟩ := Entry.ofPairs_eq_ok_iff.mp hentry
  refine Schema.decides_validateExtra.bind fun _ hvalid => ?_
  have hnames := (Request.validateKeys_ofList_eq_ok_iff.mp hvalid).2
  exact (Schema.decides_convertEntry hp hnames).bind fun filters _ => .succeed _

/-- What is asked of the pairs of a query decides, in its order, with which error they are refused;
the first directive at fault goes before everything that is wrong with filters. Where nothing stands
against them, the sort keys are the directives in their order, repeated ones too, and the filters
have the values of the given texts and no others. -/
theorem ofPairs_decided (S : Schema) (pairs : List (String × String)) :
    Decides (S.queryConditions pairs) (ofPairs S pairs) ∧
      ((∀ c ∈ S.queryConditions pairs, c.holds) →
        ∃ q, ofPairs S pairs = .ok q ∧ q.sort.map SortKey.toPair = directives pairs ∧
          ∀ name v, q.filters[name]? = some v ↔
            ∃ raw, (name, raw) ∈ conditions pairs ∧ S.value? name raw = some v) := by
  refine ⟨decides_ofPairs, fun hall => ?_⟩
  obtain ⟨q, hq⟩ := decides_ofPairs.exists_ok_iff.mpr hall
  obtain ⟨hds, hp, -, -, rfl⟩ := ofPairs_eq_ok_iff.mp hq
  refine ⟨_, hq, ?_, fun name v => Schema.getElem?_converted_eq_some_iff hp⟩
  have hpair : ∀ d ∈ directives pairs, (SortKey.toPair ∘ SortKey.ofPair) d = d := fun d hd =>
    SortKey.toPair_ofPair (hds d hd).1
  rw [List.map_map, List.map_congr_left hpair, List.map_id']

/-- Faults of directives behind faults of filters, and pairs without a fault. -/
theorem ofPairs_decided_mixed :
    let filters := [("age", "1"), ("id", "x"), ("age", "2")]
    let pairs := [("$sort_desc", "day"), ("id", "+07"), ("$sort_asc", "id"), ("$sort_desc", "day"),
      ("day", "-1-2-3")]
    ofPairs .staff (filters ++ [("$sort_asc", "id"), ("$by", "age"), ("$sort_asc", "age")]) =
        .error (.internal (.unknownDirective "$by")) ∧
      ofPairs .staff (filters ++ [("$sort_asc", "age"), ("$by", "id")]) =
        .error (.invalidValueArgument "age") ∧
      ofPairs .staff (filters ++ [("$sort_asc", "id")]) = .error (.argumentConflict "age") ∧
      (∀ c ∈ Schema.staff.queryConditions pairs, c.holds) ∧
      ∃ q, ofPairs .staff pairs = .ok q ∧ q.sort.map SortKey.toPair = directives pairs ∧
        q.filters["id"]? = some (.int 7) := by
  intro filters pairs
  obtain ⟨hdecides, hok⟩ := ofPairs_decided .staff pairs
  have hall : ∀ c ∈ Schema.staff.queryConditions pairs, c.holds :=
    hdecides.exists_ok_iff.mp (isOk_iff_exists.mp (by decide))
  obtain ⟨q, hq, hsort, hfilters⟩ := hok hall
  have hid : Schema.staff.value? "id" "+07" = some (.int 7) := by decide
  exact ⟨by decide, by decide, by decide, hall, q, hq, hsort,
    (hfilters "id" _).mpr ⟨"+07", by decide, hid⟩⟩

end Query

end TableShell
