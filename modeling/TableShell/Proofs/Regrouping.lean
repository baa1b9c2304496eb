import TableShell.Proofs.Grouping
import TableShell.Proofs.Lowering

/-!
# Arguments grouped again

The words of accepted arguments are grouped into these arguments again. A first grouping leaves
every key legal and in lower case, and a second one finds nothing to do: the arguments that a
grammar can answer are those that it answers to their own words.
-/

namespace TableShell

structure NormalKey (key : String) : Prop where
  lower : lowercaseWord key = key
  legal : LegalKey key.toList

/-- An argument of the kind that the shape asks for, with a normal key where it has one. -/
inductive Shape.Normal : Shape → Argument → Prop
  | pair {key value : String} (h : NormalKey key) : Normal .keyValue (.pair key value)
  | key {key : String} (h : NormalKey key) : Normal .key (.key key)
  | value (value : String) : Normal .value (.value value)

theorem normalKey_iff {key : String} : NormalKey key ↔ normalizeKey key = .ok key := by
  rw [normalizeKey_eq_ok_iff, isKey_iff]
  exact ⟨fun h => ⟨h.lower.symm, h.legal⟩, fun h => ⟨h.1.symm, h.2⟩⟩

theorem normalKey_of_normalizeKey {word key : String} (h : normalizeKey word = .ok key) :
    NormalKey key := by
  obtain ⟨rfl, hkey⟩ := normalizeKey_eq_ok_iff.mp h
  exact ⟨lowercaseWord_lowercaseWord word, isKey_iff.mp hkey⟩

theorem normalizeKey_normalized {word key : String} (h : normalizeKey word = .ok key) :
    normalizeKey key = .ok key :=
  normalKey_iff.mp (normalKey_of_normalizeKey h)

namespace Grammar

variable {g : Grammar} {shape : Shape} {words : List String} {arg : Argument}
  {args : List Argument}

theorem normal_of_groupPairs (h : groupPairs words = .ok args) :
    ∀ arg ∈ args, Shape.keyValue.Normal arg := by
  fun_induction groupPairs words generalizing args with
  | case1 =>
    cases h
    exact fun _ harg => (List.not_mem_nil harg).elim
  | case2 => cases h
  | case3 word value rest ih =>
    simp only [bind_eq_ok_iff] at h
    obtain ⟨key, hkey, args', hargs, h⟩ := h
    cases h
    exact List.forall_mem_cons.mpr ⟨.pair (normalKey_of_normalizeKey hkey), ih hargs⟩

theorem normal_of_groupByShape (h : groupByShape words shape = .ok args) :
    ∀ arg ∈ args, shape.Normal arg := by
  cases shape with
  | keyValue => exact normal_of_groupPairs h
  | key =>
    intro arg harg
    obtain ⟨word, -, hword⟩ := (mem_iff_of_mapM_eq_ok h arg).mp harg
    obtain ⟨key, hkey, rfl⟩ := map_eq_ok_iff.mp hword
    exact .key (normalKey_of_normalizeKey hkey)
  | value =>
    cases h
    exact List.forall_mem_map.mpr fun word _ => .value word

theorem groupByShape_append (h : shape.Normal arg) (words : List String) :
    groupByShape (arg.words ++ words) shape = (groupByShape words shape).map (arg :: ·) := by
  cases h with
  | pair hkey =>
    rw [normalKey_iff] at hkey
    change groupPairs (_ :: _ :: words) = (groupPairs words).map _
    rw [groupPairs, hkey]
    rfl
  | @key key hkey =>
    rw [normalKey_iff] at hkey
    change (key :: words).mapM (fun word => (normalizeKey word).map Argument.key) = _
    rw [List.mapM_cons, hkey]
    rfl
  | value => rfl

theorem groupByShape_words (h : ∀ arg ∈ args, shape.Normal arg) :
    groupByShape (args.flatMap Argument.words) shape = .ok args := by
  induction args with
  | nil => cases shape <;> rfl
  | cons arg args ih =>
    rw [List.forall_mem_cons] at h
    rw [List.flatMap_cons, groupByShape_append h.1, ih h.2]
    rfl

theorem group_words_iff :
    g.group (args.flatMap Argument.words) = .ok args ↔ (∀ arg ∈ args, g.shape.Normal arg) ∧
      (∀ least ∈ g.least, least ≤ args.length) ∧ ∀ most ∈ g.most, args.length ≤ most := by
  rw [group_eq_ok_iff, checkCount_eq_ok_iff]
  exact and_congr_left fun _ => ⟨normal_of_groupByShape, groupByShape_words⟩

/-- Grouping is idempotent, and so is the normalizing of keys. What a grammar leaves as it is are
arguments of its shape with legal keys in lower case, in a number within its bounds. -/
theorem group_idempotent :
    (∀ (g : Grammar) (words : List String) (args : List Argument), g.group words = .ok args →
        g.group (args.flatMap Argument.words) = .ok args) ∧
      (∀ word key, normalizeKey word = .ok key → normalizeKey key = .ok key) ∧
      ∀ (g : Grammar) (args : List Argument),
        g.group (args.flatMap Argument.words) = .ok args ↔ (∀ arg ∈ args, g.shape.Normal arg) ∧
          (∀ least ∈ g.least, least ≤ args.length) ∧ ∀ most ∈ g.most, args.length ≤ most := by
  refine ⟨fun g words args h => ?_, fun _ _ => normalizeKey_normalized, fun _ _ => group_words_iff⟩
  obtain ⟨hargs, hcount⟩ := group_eq_ok_iff.mp h
  exact group_words_iff.mpr ⟨normal_of_groupByShape hargs, checkCount_eq_ok_iff.mp hcount⟩

/-- The sign of Kelvin becomes a letter of ASCII, a sigma before an underscore ends a word, and the
lower case of a dotted capital is one character longer. -/
theorem group_idempotent_unicode :
    let g : Grammar := ⟨.keyValue, some 2, none⟩
    let words := ["\u212AΣ_İ", "AΣ", "$SORT_asc", ""]
    let args : List Argument := [.pair "kς_i\u0307" "AΣ", .pair "$sort_asc" ""]
    g.group words = .ok args ∧ g.group (args.flatMap Argument.words) = .ok args ∧
      args.flatMap Argument.words ≠ words ∧ normalizeKey "\u212AΣ_İ" = .ok "kς_i\u0307" ∧
      normalizeKey "kς_i\u0307" = .ok "kς_i\u0307" := by
  intro g words args
  have hgroup : g.group words = .ok args := by decide +kernel
  have hkey : normalizeKey "\u212AΣ_İ" = .ok "kς_i\u0307" := by decide +kernel
  obtain ⟨hagain, hkeys, -⟩ := group_idempotent
  exact ⟨hgroup, hagain g words args hgroup, by decide, hkey, hkeys _ _ hkey⟩

end Grammar

end TableShell
