import Mathlib.Data.List.Basic
import Mathlib.Order.Defs.Unbundled
import TableShell.Proofs.Sorting

/-!
# Stable sorts

The first sort key on which two rows differ tells which of them comes first, and an absent field
comes before any value. A stable sort of a list of rows is a rearrangement in this order in which
the rows of a tie come as they came in the list. There is exactly one, and it is the sorted list.
Sorting by keys and further keys, and sorting what a filter lets through, follow from this.
-/

namespace TableShell

inductive FieldLt : Option Value → Option Value → Prop
  | absent (v : Value) : FieldLt none (some v)
  | value {u v : Value} (h : compare u v = .lt) : FieldLt (some u) (some v)

namespace SortKey

def Puts (k : SortKey) (a b : Row) : Prop :=
  match k.direction with
  | .ascending => FieldLt a[k.field]? b[k.field]?
  | .descending => FieldLt b[k.field]? a[k.field]?

def Ties (keys : List SortKey) (a b : Row) : Prop := ∀ k ∈ keys, a[k.field]? = b[k.field]?

instance (keys : List SortKey) (a b : Row) : Decidable (Ties keys a b) :=
  inferInstanceAs (Decidable (∀ k ∈ keys, _))

/-- The first key on which the rows differ puts `a` before `b`. -/
def Precedes (keys : List SortKey) (a b : Row) : Prop :=
  ∃ ks k ks', keys = ks ++ k :: ks' ∧ Ties ks a b ∧ k.Puts a b

def Le (keys : List SortKey) (a b : Row) : Prop := Precedes keys a b ∨ Ties keys a b

/-- The keys less those whose field an earlier key has. -/
def distinct (keys : List SortKey) : List SortKey :=
  keys.eraseDupsBy fun k k' => k.field == k'.field

variable {keys : List SortKey} {a b : Row}

theorem compareField_eq_lt_iff {u v : Option Value} : compareField u v = .lt ↔ FieldLt u v := by
  constructor
  · intro h
    cases u with
    | none =>
      cases v with
      | none => cases h
      | some v => exact .absent v
    | some u =>
      cases v with
      | none => cases h
      | some v => exact .value h
  · rintro (v | h)
    · rfl
    · exact h

theorem compareRows_eq_lt_iff {k : SortKey} : k.compareRows a b = .lt ↔ k.Puts a b := by
  unfold Puts
  cases hk : k.direction with
  | ascending => rw [compareRows_ascending hk, compareField_eq_lt_iff]
  | descending => rw [compareRows_descending hk, compareField_eq_lt_iff]

theorem ties_iff : Ties keys a b ↔ TableShell.compareRows keys a b = .eq :=
  TableShell.compareRows_eq_eq_iff.symm

theorem precedes_iff : Precedes keys a b ↔ TableShell.compareRows keys a b = .lt := by
  simp only [TableShell.compareRows_eq_lt_iff, compareRows_eq_lt_iff]
  rfl

theorem le_iff : Le keys a b ↔ (TableShell.compareRows keys a b).isLE := by
  rw [Le, precedes_iff, ties_iff, Ordering.isLE_iff_eq_lt_or_eq_eq]

protected theorem Ties.refl (keys : List SortKey) (a : Row) : Ties keys a a := fun _ _ => rfl

theorem Ties.symm (h : Ties keys a b) : Ties keys b a := fun k hk => (h k hk).symm

instance (keys : List SortKey) : IsPreorder Row (Le keys) where
  refl a := Or.inr (Ties.refl keys a)
  trans a b c hab hbc := by
    rw [le_iff] at *
    exact isLE_trans_compareRows keys a b c hab hbc

instance (keys : List SortKey) : Std.Total (Le keys) where
  total a b := by
    rw [le_iff, le_iff, ← Bool.or_eq_true]
    exact isLE_total_compareRows keys a b

theorem ties_append {keys' : List SortKey} :
    Ties (keys ++ keys') a b ↔ Ties keys a b ∧ Ties keys' a b := List.forall_mem_append

theorem Precedes.append (h : Precedes keys a b) (keys' : List SortKey) :
    Precedes (keys ++ keys') a b := by
  obtain ⟨ks, k, ks', rfl, hties, hk⟩ := h
  exact ⟨ks, k, ks' ++ keys', by simp, hties, hk⟩

theorem Le.append {keys' : List SortKey} (h : Le keys' a b) (hties : Ties keys a b) :
    Le (keys ++ keys') a b := by
  rcases h with ⟨ks, k, ks', rfl, hks, hk⟩ | h
  · exact Or.inl ⟨keys ++ ks, k, ks', by simp, ties_append.mpr ⟨hties, hks⟩, hk⟩
  · exact Or.inr (ties_append.mpr ⟨hties, h⟩)

theorem ties_iff_le_and_le : Ties keys a b ↔ Le keys a b ∧ Le keys b a := by
  constructor
  · intro h
    exact ⟨Or.inr h, Or.inr h.symm⟩
  · rintro ⟨hab, hba⟩
    rw [le_iff] at hab hba
    exact ties_iff.mpr (Std.OrientedCmp.isLE_antisymm hab hba)

end SortKey

open SortKey

/-- What a stable sort makes of `rows`. The rows that tie with any one row come as they came. -/
structure StableSort (keys : List SortKey) (rows sorted : List Row) : Prop where
  perm : sorted.Perm rows
  pairwise : sorted.Pairwise (Le keys)
  filter_ties : ∀ a, sorted.filter (Ties keys a ·) = rows.filter (Ties keys a ·)

theorem stableSort_sortRows (keys : List SortKey) (rows : List Row) :
    StableSort keys rows (sortRows keys rows) where
  perm := perm_sortRows keys rows
  pairwise := (pairwise_sortRows keys rows).imp le_iff.mpr
  filter_ties a := by
    simp only [ties_iff]
    exact filter_sortRows keys rows a

namespace StableSort

variable {keys keys' : List SortKey} {rows rows' sorted sorted' : List Row} {a b : Row}

theorem le_of_mem_cons (h : (a :: rows).Pairwise (Le keys)) (hb : b ∈ a :: rows) : Le keys a b := by
  rcases List.mem_cons.mp hb with rfl | hb
  · exact Std.Refl.refl b
  · exact List.rel_of_pairwise_cons h hb

/-- Two lists in order with the same ties start with the same row, for their first rows tie. -/
theorem eq_of_filter_ties (h : rows.Pairwise (Le keys)) (h' : rows'.Pairwise (Le keys))
    (hperm : rows.Perm rows')
    (hties : ∀ a, rows.filter (Ties keys a ·) = rows'.filter (Ties keys a ·)) : rows = rows' := by
  induction rows generalizing rows' with
  | nil => exact hperm.nil_eq
  | cons a rows ih =>
    cases rows' with
    | nil => exact hperm.eq_nil
    | cons b rows' =>
      have hab : Ties keys a b := ties_iff_le_and_le.mpr
        ⟨le_of_mem_cons h (hperm.mem_iff.mpr (List.mem_cons_self ..)),
          le_of_mem_cons h' (hperm.mem_iff.mp (List.mem_cons_self ..))⟩
      have hhead := hties a
      rw [List.filter_cons, List.filter_cons, if_pos (decide_eq_true (Ties.refl keys a)),
        if_pos (decide_eq_true hab)] at hhead
      obtain ⟨rfl, -⟩ := List.cons.inj hhead
      refine congrArg (a :: ·) (ih h.of_cons h'.of_cons hperm.cons_inv fun c => ?_)
      have hc := hties c
      simp only [List.filter_cons] at hc
      split_ifs at hc
      · exact (List.cons.inj hc).2
      · exact hc

theorem eq (h : StableSort keys rows sorted) (h' : StableSort keys rows sorted') :
    sorted = sorted' :=
  eq_of_filter_ties h.pairwise h'.pairwise (h.perm.trans h'.perm.symm) fun a =>
    (h.filter_ties a).trans (h'.filter_ties a).symm

theorem eq_sortRows (h : StableSort keys rows sorted) : sorted = sortRows keys rows :=
  h.eq (stableSort_sortRows keys rows)

theorem sublist_of_ties (h : StableSort keys rows sorted) (hsub : [a, b].Sublist sorted)
    (hties : Ties keys a b) : [a, b].Sublist rows := by
  have hpair : [a, b].filter (Ties keys a ·) = [a, b] := by simp [Ties.refl, hties]
  have hfilter := hsub.filter (Ties keys a ·)
  rw [h.filter_ties, hpair] at hfilter
  exact hfilter.trans List.filter_sublist

theorem filter (h : StableSort keys rows sorted) (p : Row → Bool) :
    StableSort keys (rows.filter p) (sorted.filter p) where
  perm := h.perm.filter p
  pairwise := h.pairwise.filter p
  filter_ties a := by
    rw [List.filter_comm, h.filter_ties, List.filter_comm]

/-- Sorting by `keys` what is sorted by `keys'` sorts by both, for it leaves the ties of `keys` in
the order of `keys'`. -/
theorem append (h : StableSort keys' rows sorted) (h' : StableSort keys sorted sorted') :
    StableSort (keys ++ keys') rows sorted' where
  perm := h'.perm.trans h.perm
  pairwise := by
    rw [List.pairwise_iff_forall_sublist]
    intro a b hsub
    rcases List.pairwise_iff_forall_sublist.mp h'.pairwise hsub with hlt | hties
    · exact Or.inl (hlt.append keys')
    · have hle := List.pairwise_iff_forall_sublist.mp h.pairwise (h'.sublist_of_ties hsub hties)
      exact hle.append hties
  filter_ties a := by
    have hboth (l : List Row) : l.filter (Ties (keys ++ keys') a ·) =
        (l.filter (Ties keys a ·)).filter (Ties keys' a ·) := by
      simp only [List.filter_filter, ties_append, Bool.decide_and, Bool.and_comm]
    rw [hboth, h'.filter_ties, List.filter_comm, h.filter_ties, List.filter_comm, ← hboth]

end StableSort

theorem compareRows_filter_field {a b : Row} {field : String} (h : a[field]? = b[field]?)
    (keys : List SortKey) :
    compareRows (keys.filter (·.field ≠ field)) a b = compareRows keys a b := by
  induction keys with
  | nil => rfl
  | cons k keys ih =>
    by_cases hk : k.field = field
    · subst hk
      have hties : k.compareRows a b = .eq := SortKey.compareRows_eq_eq_iff.mpr h
      rw [List.filter_cons, if_neg (by simp), ih, compareRows, hties]
      rfl
    · rw [List.filter_cons, if_pos (decide_eq_true hk), compareRows, compareRows, ih]

theorem distinct_cons (k : SortKey) (keys : List SortKey) :
    distinct (k :: keys) = k :: distinct (keys.filter (·.field ≠ k.field)) := by
  rw [distinct, List.eraseDupsBy_cons, distinct]
  simp only [beq_eq_false_iff_ne]

theorem compareRows_distinct (keys : List SortKey) (a b : Row) :
    compareRows (distinct keys) a b = compareRows keys a b := by
  induction hn : keys.length using Nat.strongRecOn generalizing keys with
  | ind n ih =>
    cases keys with
    | nil => rfl
    | cons k keys =>
      subst hn
      have hlength : (keys.filter (·.field ≠ k.field)).length < (k :: keys).length :=
        Nat.lt_succ_of_le (List.length_filter_le _ _)
      rw [distinct_cons, compareRows, compareRows, ih _ hlength _ rfl]
      cases hk : k.compareRows a b with
      | lt => rfl
      | gt => rfl
      | eq =>
        exact compareRows_filter_field (SortKey.compareRows_eq_eq_iff.mp hk) keys

theorem sortRows_filter (keys : List SortKey) (rows : List Row) (p : Row → Bool) :
    sortRows keys (rows.filter p) = (sortRows keys rows).filter p :=
  ((stableSort_sortRows keys rows).filter p).eq_sortRows.symm

/-- The comparison of rows is a total preorder in which rows tie exactly if each may come before the
other, and the sorted list is the one and only stable sort of the rows. -/
theorem stableSort_iff_eq_sortRows (keys : List SortKey) (rows : List Row) :
    IsPreorder Row (Le keys) ∧ Std.Total (Le keys) ∧
      (∀ a b, (compareRows keys a b).isLE ↔ Le keys a b) ∧
      (∀ a b, Ties keys a b ↔ Le keys a b ∧ Le keys b a) ∧
      ∀ sorted, StableSort keys rows sorted ↔ sorted = sortRows keys rows := by
  refine ⟨inferInstance, inferInstance, fun _ _ => le_iff.symm, fun _ _ => ties_iff_le_and_le,
    fun sorted => ⟨StableSort.eq_sortRows, ?_⟩⟩
  rintro rfl
  exact stableSort_sortRows keys rows

/-- Sorting by keys and further keys is sorting by the further ones first, and a key whose field an
earlier key has, in whatever direction, can be left out. -/
theorem sortRows_append (keys keys' : List SortKey) (rows : List Row) :
    sortRows (keys ++ keys') rows = sortRows keys (sortRows keys' rows) ∧
      sortRows (distinct keys) rows = sortRows keys rows := by
  constructor
  · have hfurther := stableSort_sortRows keys' rows
    have hboth := hfurther.append (stableSort_sortRows keys (sortRows keys' rows))
    exact hboth.eq_sortRows.symm
  · unfold sortRows
    simp only [compareRows_distinct]

example : distinct [⟨"day", .descending⟩, ⟨"name", .ascending⟩, ⟨"day", .ascending⟩] =
    [⟨"day", .descending⟩, ⟨"name", .ascending⟩] := by decide

end TableShell
