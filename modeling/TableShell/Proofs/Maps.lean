import Mathlib.Data.List.Forall2
import TableShell.Entry

/-!
# Finite maps and checks in a row

Laws of the maps behind entries and rows, and of a check that is made of every element of a list.
-/

namespace TableShell

section Maps

variable {α β : Type} [Ord α] [Std.TransOrd α] [Std.LawfulEqOrd α] [BEq α] [LawfulBEq α]

theorem getElem?_ofList_eq_some_iff {l : List (α × β)} (hl : (l.map Prod.fst).Nodup) {a : α}
    {b : β} : (Std.ExtTreeMap.ofList l)[a]? = some b ↔ (a, b) ∈ l := by
  have hd : l.Pairwise (fun x y => ¬ compare x.1 y.1 = .eq) := by
    rw [List.nodup_iff_pairwise_ne, List.pairwise_map] at hl
    exact hl.imp fun hne he => hne (Std.LawfulEqCmp.eq_of_compare he)
  constructor
  · intro h
    have ha : a ∈ Std.ExtTreeMap.ofList l := by
      rw [Std.ExtTreeMap.mem_iff_isSome_getElem?, h]; rfl
    rw [Std.ExtTreeMap.mem_ofList, List.contains_iff_mem, List.mem_map] at ha
    obtain ⟨⟨a', b'⟩, hmem, rfl⟩ := ha
    rw [Std.ExtTreeMap.getElem?_ofList_of_mem Std.ReflCmp.compare_self hd hmem] at h
    rwa [← Option.some.inj h]
  · exact fun h => Std.ExtTreeMap.getElem?_ofList_of_mem Std.ReflCmp.compare_self hd h

theorem ofList_eq_of_mem_iff {l l' : List (α × β)} (hl : (l.map Prod.fst).Nodup)
    (hl' : (l'.map Prod.fst).Nodup) (h : ∀ x, x ∈ l ↔ x ∈ l') :
    Std.ExtTreeMap.ofList l = Std.ExtTreeMap.ofList l' := by
  apply Std.ExtTreeMap.ext_getElem?
  intro a
  apply Option.ext
  intro b
  rw [getElem?_ofList_eq_some_iff hl, getElem?_ofList_eq_some_iff hl', h]

omit [BEq α] [LawfulBEq α] in
theorem size_eq_length_of_mem_iff {t : Std.ExtTreeMap α β} {l : List α} (hl : l.Nodup)
    (h : ∀ a, a ∈ t ↔ a ∈ l) : t.size = l.length := by
  have hp : t.keys.Perm l := by
    rw [List.perm_ext_iff_of_nodup t.nodup_keys hl]
    intro a
    rw [Std.ExtTreeMap.mem_keys, h]
  rw [← Std.ExtTreeMap.length_keys, hp.length_eq]

omit [Std.LawfulEqOrd α] [BEq α] [LawfulBEq α] in
theorem all_eq_all_toList (t : Std.ExtTreeMap α β) (p : α → β → Bool) :
    t.all p = t.toList.all fun x => p x.1 x.2 := by
  obtain ⟨t⟩ := t
  induction t using Std.ExtDTreeMap.inductionOn with
  | mk t =>
    -- The two sides fold over the one list that the tree stands for.
    change t.inner.all p = (Std.DTreeMap.Internal.Impl.Const.toList t.inner).all _
    rw [Std.DTreeMap.Internal.Impl.all_eq_all_toListModel,
      Std.DTreeMap.Internal.Impl.Const.toList_eq_toListModel_map, List.all_map]
    rfl

omit [BEq α] [LawfulBEq α] in
theorem all_eq_true_iff {t : Std.ExtTreeMap α β} {p : α → β → Bool} :
    t.all p = true ↔ ∀ a b, t[a]? = some b → p a b = true := by
  rw [all_eq_all_toList, List.all_eq_true, Prod.forall]
  simp only [Std.ExtTreeMap.mem_toList_iff_getElem?_eq_some]

end Maps

section Rows

variable (r r' : Row) (a b : String) (v : Value)

theorem getElem?_insert_row : (r.insert a v)[b]? = if a = b then some v else r[b]? := by
  simp [Std.ExtTreeMap.getElem?_insert, Std.LawfulEqCmp.compare_eq_iff_eq]

theorem getElem?_erase_row : (r.erase a)[b]? = if a = b then none else r[b]? := by
  simp [Std.ExtTreeMap.getElem?_erase, Std.LawfulEqCmp.compare_eq_iff_eq]

variable {r a v} in
theorem insert_erase_of_getElem? (h : r[a]? = some v) : ((r.erase a).erase a).insert a v = r := by
  apply Std.ExtTreeMap.ext_getElem?
  intro b
  rw [getElem?_insert_row, getElem?_erase_row, getElem?_erase_row]
  by_cases hb : a = b
  · rw [if_pos hb, ← hb, h]
  · rw [if_neg hb, if_neg hb, if_neg hb]

variable {r a} in
theorem erase_row_of_notMem (h : a ∉ r) : r.erase a = r := by
  apply Std.ExtTreeMap.ext_getElem?
  intro b
  rw [getElem?_erase_row]
  by_cases hb : a = b
  · rw [if_pos hb, ← hb, Std.ExtTreeMap.getElem?_eq_none h]
  · rw [if_neg hb]

theorem erase_union_row : (r ∪ r').erase a = r.erase a ∪ r'.erase a := by
  apply Std.ExtTreeMap.ext_getElem?
  intro b
  rw [getElem?_erase_row, Std.ExtTreeMap.getElem?_union, Std.ExtTreeMap.getElem?_union,
    getElem?_erase_row, getElem?_erase_row]
  split <;> rfl

theorem notMem_erase_row : a ∉ r.erase a := by
  rw [Std.ExtTreeMap.mem_iff_isSome_getElem?, Std.ExtTreeMap.getElem?_erase_self]
  exact Bool.false_ne_true

end Rows

section Checks

variable {ε α β : Type}

theorem isOk_iff_exists {x : Except ε α} : x.isOk ↔ ∃ a, x = .ok a := by
  cases x with
  | error e => simp [Except.isOk, Except.toBool]
  | ok a => simp [Except.isOk, Except.toBool]

theorem bind_eq_ok_iff {x : Except ε α} {f : α → Except ε β} {b : β} :
    x >>= f = .ok b ↔ ∃ a, x = .ok a ∧ f a = .ok b := by
  cases x with
  | error e =>
    constructor
    · intro h
      cases h
    · rintro ⟨a, ha, -⟩
      cases ha
  | ok a =>
    constructor
    · exact fun h => ⟨a, rfl, h⟩
    · rintro ⟨a', ha, h⟩
      cases ha
      exact h

theorem bind_eq_error_iff {x : Except ε α} {f : α → Except ε β} {e : ε} :
    x >>= f = .error e ↔ x = .error e ∨ ∃ a, x = .ok a ∧ f a = .error e := by
  cases x with
  | error e' => simp [bind, Except.bind]
  | ok a => simp [bind, Except.bind]

theorem map_eq_error_iff {x : Except ε α} {f : α → β} {e : ε} :
    x.map f = .error e ↔ x = .error e := by
  cases x with
  | error e' => simp [Except.map]
  | ok a => simp [Except.map]

theorem map_eq_ok_iff {x : Except ε α} {f : α → β} {b : β} :
    x.map f = .ok b ↔ ∃ a, x = .ok a ∧ f a = b := by
  cases x with
  | error e => simp [Except.map]
  | ok a => simp [Except.map]

/-- A check of a list succeeds when it succeeds with every element. -/
theorem mapM_eq_ok_iff {f : α → Except ε β} {as : List α} {bs : List β} :
    as.mapM f = .ok bs ↔ List.Forall₂ (fun a b => f a = .ok b) as bs := by
  induction as generalizing bs with
  | nil =>
    rw [List.mapM_nil, List.forall₂_nil_left_iff]
    exact ⟨fun h => (Except.ok.inj h).symm, fun h => h ▸ rfl⟩
  | cons a as ih =>
    rw [List.mapM_cons, List.forall₂_cons_left_iff]
    simp only [← ih]
    constructor
    · intro h
      cases ha : f a with
      | error e => rw [ha] at h; cases h
      | ok b =>
        cases has : as.mapM f with
        | error e => rw [ha, has] at h; cases h
        | ok bs' =>
          rw [ha, has] at h
          cases h
          exact ⟨b, bs', rfl, rfl, rfl⟩
    · rintro ⟨b, bs', hb, hbs, rfl⟩
      rw [hb, hbs]
      rfl

theorem mem_iff_of_mapM_eq_ok {f : α → Except ε β} {as : List α} {bs : List β}
    (h : as.mapM f = .ok bs) (b : β) : b ∈ bs ↔ ∃ a ∈ as, f a = .ok b := by
  rw [mapM_eq_ok_iff] at h
  induction h with
  | nil => simp
  | cons hab _ ih =>
    rw [List.mem_cons, ih, List.exists_mem_cons_iff, hab, Except.ok.injEq, eq_comm]

theorem exists_mapM_eq_ok_iff {f : α → Except ε β} {as : List α} :
    (∃ bs, as.mapM f = .ok bs) ↔ ∀ a ∈ as, ∃ b, f a = .ok b := by
  simp only [mapM_eq_ok_iff]
  induction as with
  | nil => simp
  | cons a as ih =>
    rw [List.forall_mem_cons, ← ih]
    constructor
    · rintro ⟨_, hbs⟩
      cases hbs with
      | cons hb hbs => exact ⟨⟨_, hb⟩, ⟨_, hbs⟩⟩
    · rintro ⟨⟨b, hb⟩, ⟨bs, hbs⟩⟩
      exact ⟨b :: bs, .cons hb hbs⟩

/-- A check of a list fails as it does with the first element with which it fails. -/
theorem mapM_eq_error_iff {f : α → Except ε β} {as : List α} {e : ε} :
    as.mapM f = .error e ↔
      ∃ pre a post, as = pre ++ a :: post ∧ (∀ a' ∈ pre, ∃ b, f a' = .ok b) ∧ f a = .error e := by
  induction as with
  | nil =>
    constructor
    · intro h
      cases h
    · rintro ⟨pre, a, post, h, -⟩
      cases pre <;> cases h
  | cons a as ih =>
    simp only [List.mapM_cons, bind_eq_error_iff, ih]
    constructor
    · rintro (ha | ⟨b, hb, ⟨pre, a', post, rfl, hpre, ha'⟩ | ⟨bs, -, h⟩⟩)
      · exact ⟨[], a, as, rfl, fun _ h => (List.not_mem_nil h).elim, ha⟩
      · exact ⟨a :: pre, a', post, rfl, List.forall_mem_cons.mpr ⟨⟨b, hb⟩, hpre⟩, ha'⟩
      · cases h
    · rintro ⟨pre, a', post, h, hpre, ha'⟩
      cases pre with
      | nil =>
        cases h
        exact Or.inl ha'
      | cons _ pre =>
        cases h
        obtain ⟨⟨b, hb⟩, hpre⟩ := List.forall_mem_cons.mp hpre
        exact Or.inr ⟨b, hb, Or.inl ⟨pre, a', post, rfl, hpre, ha'⟩⟩

end Checks

end TableShell
