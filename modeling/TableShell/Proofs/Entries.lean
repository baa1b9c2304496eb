import TableShell.Proofs.Builtin
import TableShell.Proofs.Decisions

/-!
# What is asked of entries

The pairs of a statement become an entry if no key comes twice. The schema then asks for its names,
for no others, and for texts that have values in their columns. An addition asks for all of this; a
modification asks for a target before, and not for all names.
-/

namespace TableShell

theorem exists_of_firstRepeated? {α : Type} [BEq α] [LawfulBEq α] {seen as : List α} {a : α}
    (h : firstRepeated? seen as = some a) :
    ∃ before after, as = before ++ a :: after ∧ before.Nodup ∧ (∀ b ∈ before, b ∉ seen) ∧
      (a ∈ before ∨ a ∈ seen) := by
  induction as generalizing seen with
  | nil => cases h
  | cons b as ih =>
    rw [firstRepeated?] at h
    split_ifs at h with hb
    · cases h
      exact ⟨[], as, rfl, List.nodup_nil, fun _ hc => (List.not_mem_nil hc).elim,
        Or.inr (List.contains_iff_mem.mp hb)⟩
    · obtain ⟨before, after, rfl, hnodup, hseen, ha⟩ := ih h
      have hfresh : b ∉ before := fun hmem => hseen b hmem (List.mem_cons_self ..)
      refine ⟨b :: before, after, rfl, List.nodup_cons.mpr ⟨hfresh, hnodup⟩,
        List.forall_mem_cons.mpr ⟨mt List.contains_iff_mem.mpr hb, fun c hc hmem => ?_⟩, ?_⟩
      · exact hseen c hc (List.mem_cons_of_mem _ hmem)
      · simpa [or_assoc, or_comm, or_left_comm] using ha

theorem exists_of_firstRepeated?_nil {α : Type} [BEq α] [LawfulBEq α] {as : List α} {a : α}
    (h : firstRepeated? [] as = some a) :
    ¬ as.Nodup ∧ ∃ before after, as = before ++ a :: after ∧ before.Nodup ∧ a ∈ before := by
  obtain ⟨before, after, rfl, hbefore, -, hmem⟩ := exists_of_firstRepeated? h
  refine ⟨fun hnodup => ?_, before, after, rfl, hbefore, hmem.resolve_right List.not_mem_nil⟩
  rw [(firstRepeated?_nil_eq_none_iff _).mpr hnodup] at h
  cases h

namespace Condition

variable (S : Schema) (pairs : List (String × String)) (keys : List String)

def distinct : Condition where
  holds := keys.Nodup
  reports e := ∃ before key after, keys = before ++ key :: after ∧ before.Nodup ∧ key ∈ before ∧
    e = .argumentConflict key

def complete : Condition where
  holds := ∀ name ∈ S.names, name ∈ keys
  reports e := e = .entryInvalid (.missingKeys (S.names.filter (· ∉ keys)))

/-- The keys that are not declared are reported in code-point order. -/
def declared : Condition where
  holds := ∀ key ∈ keys, key ∈ S.names
  reports e := ∃ names : List String, names.Pairwise (· < ·) ∧
    (∀ name, name ∈ names ↔ name ∈ keys ∧ name ∉ S.names) ∧ e = .entryInvalid (.extraKeys names)

/-- One of the texts that have no value in their column is reported. -/
def convertible : Condition where
  holds := ∀ p ∈ pairs, (S.value? p.1 p.2).isSome
  reports e := e.kind = .entryInvalid ∧
    ∃ p ∈ pairs, ∃ c, S.column? p.1 = some c ∧ c.type.convert p.2 = .error e

def targeted (name : String) : Condition where
  holds := name = S.key.name
  reports e := e = .invalidKeyArgument name

def fixed (keys : List String) : Condition where
  holds := S.key.name ∉ keys
  reports e := e = .invalidKeyArgument S.key.name

end Condition

open Condition

variable {S : Schema} {pairs updates : List (String × String)} {target : String × String}

theorem Entry.decides_ofPairs : Decides [distinct (pairs.map Prod.fst)] (ofPairs pairs) := by
  refine .one (fun entry h => (ofPairs_eq_ok_iff.mp h).1) fun e h => ?_
  unfold ofPairs at h
  cases hkey : firstRepeated? [] (pairs.map Prod.fst) with
  | none =>
    rw [hkey] at h
    cases h
  | some key =>
    rw [hkey] at h
    cases h
    obtain ⟨hrepeated, before, after, hkeys, hbefore, hmem⟩ := exists_of_firstRepeated?_nil hkey
    exact ⟨hrepeated, before, key, after, hkeys, hbefore, hmem, rfl⟩

namespace Schema

theorem missingKeys_ofList :
    S.missingKeys (Std.ExtTreeMap.ofList pairs) = S.names.filter (· ∉ pairs.map Prod.fst) := by
  apply List.filter_congr
  intro name _
  rw [decide_not, ← decide_eq_decide.mpr mem_ofList_iff, Bool.not_inj_iff, Bool.eq_iff_iff,
    Std.ExtTreeMap.contains_iff_mem, decide_eq_true_iff]

theorem mem_extraKeys_ofList {name : String} :
    name ∈ S.extraKeys (Std.ExtTreeMap.ofList pairs) ↔
      name ∈ pairs.map Prod.fst ∧ name ∉ S.names := by
  rw [extraKeys, List.mem_filter, Std.ExtTreeMap.mem_keys, mem_ofList_iff, hasColumn,
    ← column?_isSome_iff, Bool.not_eq_true', Bool.not_eq_true]

theorem pairwise_extraKeys (entry : Entry) : (S.extraKeys entry).Pairwise (· < ·) :=
  (entry.ordered_keys.imp fun h => compareOfLessAndEq_eq_lt.mp h).filter _

theorem decides_validateExtra :
    Decides [declared S (pairs.map Prod.fst)]
      (S.validateKeys (Std.ExtTreeMap.ofList pairs) false true) := by
  refine .one (fun _ h => (Request.validateKeys_ofList_eq_ok_iff.mp h).2) fun e h => ⟨?_, ?_⟩
  · intro hall
    have hok : S.validateKeys (Std.ExtTreeMap.ofList pairs) false true = .ok () :=
      Request.validateKeys_ofList_eq_ok_iff.mpr ⟨nofun, hall⟩
    rw [hok] at h
    cases h
  · refine ⟨_, pairwise_extraKeys _, fun name => mem_extraKeys_ofList, ?_⟩
    unfold validateKeys at h
    rw [Bool.false_and, if_neg Bool.false_ne_true] at h
    split_ifs at h
    exact (Except.error.inj h).symm

theorem decides_validateAll :
    Decides [complete S (pairs.map Prod.fst), declared S (pairs.map Prod.fst)]
      (S.validateKeys (Std.ExtTreeMap.ofList pairs) true true) := by
  by_cases hall : (complete S (pairs.map Prod.fst)).holds
  · have hnone : S.missingKeys (Std.ExtTreeMap.ofList pairs) = [] :=
      missingKeys_eq_nil_iff.mpr fun name hname => mem_ofList_iff.mpr (hall name hname)
    have hvalidate : S.validateKeys (Std.ExtTreeMap.ofList pairs) true true =
        S.validateKeys (Std.ExtTreeMap.ofList pairs) false true := by
      rw [validateKeys, validateKeys, hnone]
      rfl
    rw [hvalidate]
    exact .pass hall decides_validateExtra
  · have hsome : S.missingKeys (Std.ExtTreeMap.ofList pairs) ≠ [] := fun hnone =>
      hall fun name hname => mem_ofList_iff.mp (missingKeys_eq_nil_iff.mp hnone name hname)
    rw [validateKeys, if_pos (by simpa using hsome), missingKeys_ofList]
    exact .fail hall rfl

theorem decides_convertEntry (hp : (pairs.map Prod.fst).Nodup)
    (hnames : ∀ name ∈ pairs.map Prod.fst, name ∈ S.names) :
    Decides [convertible S pairs] (S.convertEntry (Std.ExtTreeMap.ofList pairs)) := by
  refine .one (fun row h => ((convertEntry_ofList_eq_ok_iff hp).mp h).1) fun e h => ⟨?_, ?_⟩
  · intro hall
    rw [(convertEntry_ofList_eq_ok_iff hp).mpr ⟨hall, rfl⟩] at h
    cases h
  · obtain ⟨_, p, _, hlist, -, hfield⟩ := mapM_eq_error_iff.mp (map_eq_error_iff.mp h)
    have hentry : p ∈ (Std.ExtTreeMap.ofList pairs : Entry).toList := by simp [hlist]
    have hmem : p ∈ pairs := by
      rwa [Std.ExtTreeMap.mem_toList_iff_getElem?_eq_some, getElem?_ofList_eq_some_iff hp] at hentry
    obtain ⟨c, hc⟩ := Option.isSome_iff_exists.mp
      (column?_isSome_iff.mpr (hnames p.1 (List.mem_map_of_mem hmem)))
    rw [convertField, hc] at hfield
    have hraw : c.type.convert p.2 = .error e := map_eq_error_iff.mp hfield
    exact ⟨FieldType.kind_of_convert_error hraw, p, hmem, c, hc, hraw⟩

theorem decides_convertKey {raw : String} :
    Decides [convertible S [(S.key.name, raw)]] (S.convertKey raw) := by
  refine .one (fun key h => ?_) fun e h => ⟨fun hall => ?_, ?_⟩
  · refine List.forall_mem_singleton.mpr ?_
    rw [convertKey_eq_ok_iff.mp h]
    rfl
  · rw [convertible, List.forall_mem_singleton, value?_key, h] at hall
    cases hall
  · exact ⟨FieldType.kind_of_convert_error h, _, List.mem_singleton_self _, S.key, column?_key, h⟩

end Schema

namespace Request

theorem decides_ofAdd :
    Decides [distinct (pairs.map Prod.fst), complete S (pairs.map Prod.fst),
      declared S (pairs.map Prod.fst), convertible S pairs] (ofAdd S pairs) := by
  unfold ofAdd
  refine Entry.decides_ofPairs.bind fun entry hentry => ?_
  obtain ⟨hp, rfl⟩ := Entry.ofPairs_eq_ok_iff.mp hentry
  refine Schema.decides_validateAll.bind fun _ hvalid => ?_
  obtain ⟨hmissing, hextra⟩ := validateKeys_ofList_eq_ok_iff.mp hvalid
  refine (Schema.decides_convertEntry hp hextra).bind fun row hrow => ?_
  obtain ⟨hall, rfl⟩ := (Schema.convertEntry_ofList_eq_ok_iff hp).mp hrow
  have hconforms : S.Conforms (S.converted pairs) :=
    Schema.conforms_converted hp (fun name => ⟨hmissing rfl name, hextra name⟩) hall
  have hkey : S.key.name ∈ S.converted pairs :=
    (hconforms.mem_iff _).mpr (List.mem_map_of_mem Schema.key_mem_columns)
  rw [Std.ExtTreeMap.mem_iff_isSome_getElem?, Option.isSome_iff_exists] at hkey
  obtain ⟨key, hkey⟩ := hkey
  rw [hkey]
  exact .succeed _

theorem decides_ofModify :
    Decides [targeted S target.1, fixed S (updates.map Prod.fst), distinct (updates.map Prod.fst),
      declared S (updates.map Prod.fst), convertible S [(S.key.name, target.2)],
      convertible S updates] (ofModify S (target :: updates)) := by
  have hany : updates.any (·.1 == S.key.name) = true ↔ S.key.name ∈ updates.map Prod.fst := by simp
  unfold ofModify
  dsimp only
  by_cases hname : target.1 = S.key.name
  · rw [if_neg (not_not.mpr hname)]
    refine .pass hname ?_
    by_cases hkey : S.key.name ∈ updates.map Prod.fst
    · rw [if_pos (hany.mpr hkey)]
      exact .fail (not_not.mpr hkey) rfl
    · rw [if_neg (mt hany.mp hkey)]
      refine .pass hkey ?_
      refine Entry.decides_ofPairs.bind fun entry hentry => ?_
      obtain ⟨hp, rfl⟩ := Entry.ofPairs_eq_ok_iff.mp hentry
      refine Schema.decides_validateExtra.bind fun _ hvalid => ?_
      have hextra := (validateKeys_ofList_eq_ok_iff.mp hvalid).2
      refine Schema.decides_convertKey.bind fun key _ => ?_
      exact (Schema.decides_convertEntry hp hextra).bind fun fields _ => .succeed _
  · rw [if_pos hname]
    exact .fail hname rfl

end Request

end TableShell
