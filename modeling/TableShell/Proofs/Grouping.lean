import TableShell.Proofs.Decisions
import TableShell.Proofs.Keys

/-!
# Words grouped by a grammar

A grammar first asks for legal keys, then for a value to every key, and then for no fewer and no
more groups than its bounds allow. Words for which all of this holds are grouped in their order.
-/

namespace TableShell

variable {words : List String} {e : Error}

theorem normalizeKey_eq_ok_iff {word key : String} :
    normalizeKey word = .ok key ↔ key = lowercaseWord word ∧ isKey key.toList := by
  unfold normalizeKey
  dsimp only
  split_ifs with hkey
  · constructor
    · intro h
      cases h
      exact ⟨rfl, hkey⟩
    · rintro ⟨rfl, -⟩
      rfl
  · constructor
    · intro h
      cases h
    · rintro ⟨rfl, h⟩
      exact absurd h hkey

theorem normalizeKey_eq_error_iff {word : String} :
    normalizeKey word = .error e ↔
      ¬ LegalKey (lowercaseWord word).toList ∧ e = .invalidKeyArgument (lowercaseWord word) := by
  rw [← isKey_iff]
  unfold normalizeKey
  dsimp only
  split_ifs with hkey
  · simp [hkey]
  · simp [hkey, eq_comm]

/-- Words two by two, the first of each lowercased. -/
def pairsOf : List String → List (String × String)
  | word :: value :: rest => (lowercaseWord word, value) :: pairsOf rest
  | [_] => []
  | [] => []

theorem pairsOf_eq_cons_iff {words : List String} {p : String × String}
    {ps : List (String × String)} :
    pairsOf words = p :: ps ↔
      ∃ word value rest, words = word :: value :: rest ∧ p = (lowercaseWord word, value) ∧
        pairsOf rest = ps := by
  match words with
  | [] => simp [pairsOf]
  | [_] => simp [pairsOf]
  | word :: value :: rest => simp [pairsOf, eq_comm]

theorem snd_mem_of_mem_pairsOf {words : List String} {p : String × String}
    (hp : p ∈ pairsOf words) : p.2 ∈ words := by
  fun_induction pairsOf words with
  | case1 word value rest ih =>
    rcases List.mem_cons.mp hp with rfl | hp
    · exact List.mem_cons_of_mem _ (List.mem_cons_self ..)
    · exact List.mem_cons_of_mem _ (List.mem_cons_of_mem _ (ih hp))
  | case2 => cases hp
  | case3 => cases hp

theorem getElem?_pairsOf {i : Nat} {p : String × String} :
    (pairsOf words)[i]? = some p ↔ ∃ word value, words[2 * i]? = some word ∧
      words[2 * i + 1]? = some value ∧ p = (lowercaseWord word, value) := by
  induction words using pairsOf.induct generalizing i with
  | case1 word value rest ih =>
    cases i with
    | zero => simp [pairsOf, eq_comm]
    | succ i =>
      rw [pairsOf, List.getElem?_cons_succ, ih, Nat.mul_succ, List.getElem?_cons_succ,
        List.getElem?_cons_succ, List.getElem?_cons_succ, List.getElem?_cons_succ]
  | case2 word => simp [pairsOf]
  | case3 => simp [pairsOf]

namespace Shape

def keys : Shape → List String → List String
  | .keyValue, words => (pairsOf words).map Prod.fst
  | .key, words => words.map lowercaseWord
  | .value, _ => []

def arguments : Shape → List String → List Argument
  | .keyValue, words => (pairsOf words).map fun p => .pair p.1 p.2
  | .key, words => words.map fun word => .key (lowercaseWord word)
  | .value, words => words.map .value

end Shape

namespace Condition

/-- The first key that is not legal is reported. -/
def legal (keys : List String) : Condition where
  holds := ∀ key ∈ keys, LegalKey key.toList
  reports e := ∃ before key after, keys = before ++ key :: after ∧
    (∀ k ∈ before, LegalKey k.toList) ∧ ¬ LegalKey key.toList ∧ e = .invalidKeyArgument key

def matched (shape : Shape) (words : List String) : Condition where
  holds := shape = .keyValue → words.length % 2 = 0
  reports e := ∃ before last, words = before ++ [last] ∧ e = .keyValueUnmatched (lowercaseWord last)

def atLeast (least : Option Nat) (n : Nat) : Condition where
  holds := ∀ k ∈ least, k ≤ n
  reports e := ∃ k ∈ least, e = .tooFewArguments k n

def atMost (most : Option Nat) (n : Nat) : Condition where
  holds := ∀ k ∈ most, n ≤ k
  reports e := ∃ k ∈ most, e = .tooManyArguments k n

end Condition

namespace Grammar

open Condition

def conditions (g : Grammar) (words : List String) : List Condition :=
  let n := (g.shape.arguments words).length
  [legal (g.shape.keys words), matched g.shape words, atLeast g.least n, atMost g.most n]

variable {args : List Argument} {g : Grammar}

theorem decides_groupPairs :
    Decides [legal ((pairsOf words).map Prod.fst), matched .keyValue words] (groupPairs words) := by
  fun_induction groupPairs words with
  | case1 =>
    exact .pass (fun _ hkey => (List.not_mem_nil hkey).elim) (.pass (fun _ => rfl) (.succeed []))
  | case2 dangling =>
    have hodd : ¬ (matched .keyValue [dangling]).holds := fun h => Nat.one_ne_zero (h rfl)
    exact .pass (fun _ hkey => (List.not_mem_nil hkey).elim) (.fail hodd ⟨[], dangling, rfl, rfl⟩)
  | case3 word value rest ih =>
    rw [pairsOf, List.map_cons]
    cases hkey : normalizeKey word with
    | error e =>
      obtain ⟨hillegal, rfl⟩ := normalizeKey_eq_error_iff.mp hkey
      refine .fail (fun h => hillegal (h _ (List.mem_cons_self ..))) ?_
      exact ⟨[], _, _, rfl, fun _ hk => (List.not_mem_nil hk).elim, hillegal, rfl⟩
    | ok key =>
      obtain ⟨rfl, hlegal⟩ := normalizeKey_eq_ok_iff.mp hkey
      rw [isKey_iff] at hlegal
      -- A legal pair in front leaves the first condition that fails as it is, and its report too.
      have hrest := ih.map fun args => .pair (lowercaseWord word) value :: args
      refine hrest.congr (.cons ⟨?_, ?_⟩ (.cons ⟨?_, ?_⟩ .nil))
      · exact ⟨fun h => List.forall_mem_cons.mpr ⟨hlegal, h⟩, fun h => (List.forall_mem_cons.mp h).2⟩
      · rintro e ⟨before, k, after, hkeys, hbefore, hk⟩
        exact ⟨_ :: before, k, after, congrArg _ hkeys,
          List.forall_mem_cons.mpr ⟨hlegal, hbefore⟩, hk⟩
      · exact imp_congr_right fun _ => by rw [List.length_cons, List.length_cons]; omega
      · rintro e ⟨before, last, hwords, he⟩
        exact ⟨word :: value :: before, last, by rw [hwords]; rfl, he⟩

theorem decides_groupKeys :
    Decides [legal (words.map lowercaseWord)]
      (words.mapM fun word => (normalizeKey word).map Argument.key) := by
  have hlegal {word : String} {arg : Argument} (h : (normalizeKey word).map .key = .ok arg) :
      LegalKey (lowercaseWord word).toList := by
    obtain ⟨_, hkey, -⟩ := map_eq_ok_iff.mp h
    obtain ⟨rfl, hkey⟩ := normalizeKey_eq_ok_iff.mp hkey
    exact isKey_iff.mp hkey
  refine .one (fun args h => ?_) fun e h => ?_
  · rintro key hkey
    obtain ⟨word, hword, rfl⟩ := List.mem_map.mp hkey
    obtain ⟨_, harg⟩ := exists_mapM_eq_ok_iff.mp ⟨args, h⟩ word hword
    exact hlegal harg
  · obtain ⟨before, word, after, rfl, hbefore, hword⟩ := mapM_eq_error_iff.mp h
    obtain ⟨hillegal, rfl⟩ := normalizeKey_eq_error_iff.mp (map_eq_error_iff.mp hword)
    refine ⟨fun hall => hillegal (hall _ (by simp)), before.map lowercaseWord, lowercaseWord word,
      after.map lowercaseWord, by simp, fun key hkey => ?_, hillegal, rfl⟩
    obtain ⟨w, hw, rfl⟩ := List.mem_map.mp hkey
    obtain ⟨_, harg⟩ := hbefore w hw
    exact hlegal harg

theorem decides_groupByShape (shape : Shape) :
    Decides [legal (shape.keys words), matched shape words] (groupByShape words shape) := by
  cases shape with
  | keyValue => exact decides_groupPairs
  | key =>
    have hmatched : (matched .key words).holds := nofun
    have hkeys := (@decides_groupKeys words).bind (f := pure)
      fun args _ => .pass hmatched (.succeed args)
    rwa [bind_pure] at hkeys
  | value =>
    exact .pass (fun _ hkey => (List.not_mem_nil hkey).elim) (.pass nofun (.succeed _))

theorem groupPairs_eq_ok (h : groupPairs words = .ok args) :
    args = (pairsOf words).map fun p => .pair p.1 p.2 := by
  fun_induction groupPairs words generalizing args with
  | case1 =>
    cases h
    rfl
  | case2 => cases h
  | case3 word value rest ih =>
    simp only [bind_eq_ok_iff] at h
    obtain ⟨key, hkey, args', hargs, h⟩ := h
    cases h
    rw [(normalizeKey_eq_ok_iff.mp hkey).1, ih hargs]
    rfl

theorem groupByShape_eq_ok {shape : Shape} {args : List Argument}
    (h : groupByShape words shape = .ok args) : args = shape.arguments words := by
  cases shape with
  | keyValue => exact groupPairs_eq_ok h
  | key =>
    rw [Shape.arguments, eq_comm, ← List.forall₂_eq_eq_eq, List.forall₂_map_left_iff]
    refine (mapM_eq_ok_iff.mp h).imp fun word arg harg => ?_
    obtain ⟨_, hkey, rfl⟩ := map_eq_ok_iff.mp harg
    rw [(normalizeKey_eq_ok_iff.mp hkey).1]
  | value => exact (Except.ok.inj h).symm

theorem decides_checkCount (g : Grammar) (n : Nat) :
    Decides [atLeast g.least n, atMost g.most n] (g.checkCount n) := by
  have hleast : g.least.filter (n < ·) = none ↔ (atLeast g.least n).holds := by
    simp [Option.filter_eq_none_iff, atLeast]
  have hmost : g.most.filter (· < n) = none ↔ (atMost g.most n).holds := by
    simp [Option.filter_eq_none_iff, atMost]
  unfold checkCount
  cases hl : g.least.filter (n < ·) with
  | some least =>
    exact .fail (by simp [← hleast, hl]) ⟨least, (Option.filter_eq_some_iff.mp hl).1, rfl⟩
  | none =>
    refine .pass (hleast.mp hl) ?_
    cases hm : g.most.filter (· < n) with
    | some most =>
      exact .fail (by simp [← hmost, hm]) ⟨most, (Option.filter_eq_some_iff.mp hm).1, rfl⟩
    | none => exact .pass (hmost.mp hm) (.succeed ())

theorem decides_group (g : Grammar) : Decides (g.conditions words) (g.group words) := by
  refine (decides_groupByShape g.shape).bind fun args hargs => ?_
  rw [groupByShape_eq_ok hargs]
  exact (decides_checkCount g _).bind fun _ _ => .succeed _

theorem checkCount_eq_ok_iff {n : Nat} :
    g.checkCount n = .ok () ↔ (∀ least ∈ g.least, least ≤ n) ∧ ∀ most ∈ g.most, n ≤ most := by
  have hunit : g.checkCount n = .ok () ↔ ∃ a, g.checkCount n = .ok a :=
    ⟨fun h => ⟨(), h⟩, fun ⟨(), h⟩ => h⟩
  rw [hunit, (decides_checkCount g n).exists_ok_iff]
  simp [atLeast, atMost]

theorem group_eq_ok_iff :
    g.group words = .ok args ↔
      groupByShape words g.shape = .ok args ∧ g.checkCount args.length = .ok () := by
  simp only [group, bind_eq_ok_iff]
  constructor
  · rintro ⟨args', hargs, ⟨⟩, hcount, h⟩
    cases h
    exact ⟨hargs, hcount⟩
  · rintro ⟨hargs, hcount⟩
    exact ⟨args, hargs, (), hcount, rfl⟩

theorem group_eq_ok (h : g.group words = .ok args) : args = g.shape.arguments words :=
  groupByShape_eq_ok (group_eq_ok_iff.mp h).1

theorem group_pairs_eq_ok (hg : g.shape = .keyValue) (h : g.group words = .ok args) :
    args = (pairsOf words).map fun p => .pair p.1 p.2 := by
  rw [group_eq_ok h, hg]
  rfl

theorem group_values_eq (hg : g.shape = .value) :
    g.group words = (g.checkCount words.length).map fun _ => words.map .value := by
  rw [group, hg]
  dsimp only [groupByShape, bind, Except.bind]
  rw [List.length_map]
  cases g.checkCount words.length <;> rfl

theorem group_one_value_eq_ok_iff :
    (⟨.value, some 1, some 1⟩ : Grammar).group words = .ok args ↔
      ∃ raw, words = [raw] ∧ args = [.value raw] := by
  rw [group_values_eq rfl, map_eq_ok_iff]
  constructor
  · rintro ⟨⟨⟩, hcount, rfl⟩
    obtain ⟨hleast, hmost⟩ := checkCount_eq_ok_iff.mp hcount
    obtain ⟨raw, rfl⟩ := List.length_eq_one_iff.mp (Nat.le_antisymm (hmost 1 rfl) (hleast 1 rfl))
    exact ⟨raw, rfl, rfl⟩
  · rintro ⟨raw, rfl, rfl⟩
    exact ⟨(), rfl, rfl⟩

/-- Pairs are words at even places with their successors. What a grammar asks of words decides, in
its order, with which error the grouping fails; an illegal key goes before a key without a value,
which is reported whatever it looks like, and both go before the number of groups. Where nothing
stands against them the groups are those of the shape, with keys lowercased and values as they are.
-/
theorem group_decided (g : Grammar) (words : List String) :
    (∀ i p, (pairsOf words)[i]? = some p ↔ ∃ word value, words[2 * i]? = some word ∧
        words[2 * i + 1]? = some value ∧ p = (lowercaseWord word, value)) ∧
      Decides (g.conditions words) (g.group words) ∧
      ((∀ c ∈ g.conditions words, c.holds) → g.group words = .ok (g.shape.arguments words)) := by
  refine ⟨fun _ _ => getElem?_pairsOf, decides_group g, fun hall => ?_⟩
  obtain ⟨args, hargs⟩ := (decides_group g).exists_ok_iff.mpr hall
  rw [hargs, group_eq_ok hargs]

/-- The first of two illegal keys goes before a key without a value and the wrong number of groups;
without these the words are grouped. -/
theorem group_decided_overlap :
    let g : Grammar := ⟨.keyValue, some 2, some 1⟩
    let g' : Grammar := ⟨.keyValue, some 2, none⟩
    let words := ["NAME", "Ada", "$x", "1"]
    g.group ["Name", "Ada", "1X", "9", "a-b", "9", "$y"] = .error (.invalidKeyArgument "1x") ∧
      (∀ c ∈ g'.conditions words, c.holds) ∧
      g'.group words = .ok [.pair "name" "Ada", .pair "$x" "1"] := by
  intro g g' words
  obtain ⟨-, hdecides, hok⟩ := group_decided g' words
  have hall : ∀ c ∈ g'.conditions words, c.holds :=
    hdecides.exists_ok_iff.mp (isOk_iff_exists.mp (by decide))
  refine ⟨by decide, hall, (hok hall).trans ?_⟩
  decide

end Grammar

end TableShell
