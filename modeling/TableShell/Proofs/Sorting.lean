import TableShell.Query

/-!
# Sorted rows

Comparing rows by sort keys is a total preorder in which rows tie exactly if they agree on every
sort field. Sorting rearranges the rows in this order and leaves the rows of a tie as they came.
-/

namespace TableShell

section Order

variable {k : SortKey} {keys : List SortKey} {a b : Row}

instance : Std.TransCmp compareField where
  eq_swap {a b} := by
    cases a <;> cases b <;> simp only [compareField, Ordering.swap]
    exact Std.OrientedCmp.eq_swap
  isLE_trans {a b c} := by
    cases a <;> cases b <;> cases c <;> simp [compareField]
    exact Std.TransCmp.isLE_trans

theorem compareField_eq_eq_iff {u v : Option Value} : compareField u v = .eq ↔ u = v := by
  cases u <;> cases v <;> simp [compareField, Std.LawfulEqCmp.compare_eq_iff_eq]

namespace SortKey

theorem compareRows_ascending (hk : k.direction = .ascending) (a b : Row) :
    k.compareRows a b = compareField a[k.field]? b[k.field]? := by
  rw [compareRows, hk]
  rfl

theorem compareRows_descending (hk : k.direction = .descending) (a b : Row) :
    k.compareRows a b = compareField b[k.field]? a[k.field]? := by
  rw [compareRows, hk]
  exact Std.OrientedCmp.eq_swap.symm

instance (k : SortKey) : Std.TransCmp k.compareRows where
  eq_swap {a b} := by
    cases hk : k.direction with
    | ascending =>
      rw [compareRows_ascending hk, compareRows_ascending hk]
      exact Std.OrientedCmp.eq_swap
    | descending =>
      rw [compareRows_descending hk, compareRows_descending hk]
      exact Std.OrientedCmp.eq_swap
  isLE_trans {a b c} hab hbc := by
    cases hk : k.direction with
    | ascending =>
      rw [compareRows_ascending hk] at *
      exact Std.TransCmp.isLE_trans hab hbc
    | descending =>
      rw [compareRows_descending hk] at *
      exact Std.TransCmp.isLE_trans hbc hab

theorem compareRows_eq_eq_iff : k.compareRows a b = .eq ↔ a[k.field]? = b[k.field]? := by
  cases hk : k.direction with
  | ascending => rw [compareRows_ascending hk, compareField_eq_eq_iff]
  | descending => rw [compareRows_descending hk, compareField_eq_eq_iff, eq_comm]

end SortKey

instance transCmp_compareRows (keys : List SortKey) : Std.TransCmp (compareRows keys) := by
  induction keys with
  | nil => exact { eq_swap := rfl, isLE_trans := fun h _ => h }
  | cons k keys ih => exact inferInstanceAs (Std.TransCmp (compareLex _ _))

theorem compareRows_eq_eq_iff :
    compareRows keys a b = .eq ↔ ∀ k ∈ keys, a[k.field]? = b[k.field]? := by
  induction keys with
  | nil => simp [compareRows]
  | cons k keys ih =>
    rw [compareRows, Ordering.then_eq_eq, ih, SortKey.compareRows_eq_eq_iff, List.forall_mem_cons]

theorem compareRows_eq_lt_iff :
    compareRows keys a b = .lt ↔
      ∃ ks k ks', keys = ks ++ k :: ks' ∧ (∀ k' ∈ ks, a[k'.field]? = b[k'.field]?) ∧
        k.compareRows a b = .lt := by
  induction keys with
  | nil => simp [compareRows]
  | cons k keys ih =>
    rw [compareRows, Ordering.then_eq_lt, ih]
    constructor
    · rintro (h | ⟨hk, ks, k', ks', rfl, hks, h⟩)
      · exact ⟨[], k, keys, rfl, fun _ hk => (List.not_mem_nil hk).elim, h⟩
      · have hk := SortKey.compareRows_eq_eq_iff.mp hk
        exact ⟨k :: ks, k', ks', rfl, List.forall_mem_cons.mpr ⟨hk, hks⟩, h⟩
    · rintro ⟨ks, k', ks', hkeys, hks, h⟩
      cases ks with
      | nil =>
        cases hkeys
        exact Or.inl h
      | cons k₀ ks =>
        cases hkeys
        obtain ⟨hk, hks⟩ := List.forall_mem_cons.mp hks
        exact Or.inr ⟨SortKey.compareRows_eq_eq_iff.mpr hk, ks, k', ks', rfl, hks, h⟩

end Order

variable (keys : List SortKey) (rows : List Row)

theorem isLE_trans_compareRows (a b c : Row) (hab : (compareRows keys a b).isLE)
    (hbc : (compareRows keys b c).isLE) : (compareRows keys a c).isLE :=
  Std.TransCmp.isLE_trans hab hbc

theorem isLE_total_compareRows (a b : Row) :
    ((compareRows keys a b).isLE || (compareRows keys b a).isLE) = true := by
  rw [Bool.or_eq_true]
  by_cases h : (compareRows keys a b).isLE
  · exact Or.inl h
  · right
    rw [Std.OrientedCmp.lt_of_not_isLE h]
    rfl

theorem perm_sortRows : (sortRows keys rows).Perm rows := List.mergeSort_perm ..

theorem pairwise_sortRows :
    (sortRows keys rows).Pairwise fun a b => (compareRows keys a b).isLE :=
  List.pairwise_mergeSort (isLE_trans_compareRows keys) (isLE_total_compareRows keys) rows

theorem sortRows_nil : sortRows [] rows = rows :=
  List.mergeSort_of_pairwise (List.pairwise_of_forall fun _ _ => rfl)

/-- The rows of a tie keep the order in which they came. -/
theorem filter_sortRows (a : Row) :
    (sortRows keys rows).filter (compareRows keys a · = .eq) =
      rows.filter (compareRows keys a · = .eq) := by
  have hties : (rows.filter (compareRows keys a · = .eq)).Pairwise fun b c =>
      (compareRows keys b c).isLE := by
    rw [List.pairwise_filter]
    apply List.pairwise_of_forall
    intro b c hb hc
    have hb := Std.OrientedCmp.eq_symm (of_decide_eq_true hb)
    rw [Std.TransCmp.congr_left hb, of_decide_eq_true hc]
    rfl
  have hsub : (rows.filter (compareRows keys a · = .eq)).Sublist (sortRows keys rows) :=
    List.sublist_mergeSort (isLE_trans_compareRows keys) (isLE_total_compareRows keys) hties
      List.filter_sublist
  have hfilter := hsub.filter (compareRows keys a · = .eq)
  rw [List.filter_filter] at hfilter
  simp only [Bool.and_self] at hfilter
  have hlength := ((perm_sortRows keys rows).filter (compareRows keys a · = .eq)).length_eq
  exact (hfilter.eq_of_length hlength.symm).symm

end TableShell
