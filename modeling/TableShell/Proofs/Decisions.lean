import TableShell.Proofs.Maps

/-!
# Conditions in order

A check asks for several conditions, one after the other. The first one that does not hold decides
with which error the check fails, and the later ones are not looked at. Where all of them hold the
check succeeds.
-/

namespace TableShell

/-- What is asked for, and the errors that report that it is not so. -/
structure Condition where
  holds : Prop
  reports : Error → Prop

def Condition.all {α : Type} (as : List α) (good : α → Prop) (fault : α → Error → Prop) :
    Condition where
  holds := ∀ a ∈ as, good a
  reports e := ∃ before a after, as = before ++ a :: after ∧ (∀ b ∈ before, good b) ∧ fault a e

inductive Decides {α : Type} : List Condition → Except Error α → Prop
  | succeed (a : α) : Decides [] (.ok a)
  | pass {c : Condition} {cs : List Condition} {x : Except Error α}
    (h : c.holds) (hx : Decides cs x) : Decides (c :: cs) x
  | fail {c : Condition} {cs : List Condition} {e : Error}
    (h : ¬ c.holds) (he : c.reports e) : Decides (c :: cs) (.error e)

namespace Decides

variable {α β : Type} {c : Condition} {cs ds : List Condition} {x : Except Error α} {e : Error}

/-- The check succeeds exactly where nothing stands against it. -/
theorem exists_ok_iff (h : Decides cs x) : (∃ a, x = .ok a) ↔ ∀ c ∈ cs, c.holds := by
  induction h with
  | succeed a => simp
  | pass h _ ih => simp [ih, h]
  | fail h _ => simp [h]

theorem exists_of_error (h : Decides cs x) (he : x = .error e) :
    ∃ c ∈ cs, ¬ c.holds ∧ c.reports e := by
  induction h with
  | succeed a => cases he
  | pass _ _ ih =>
    obtain ⟨c, hc, hfault⟩ := ih he
    exact ⟨c, List.mem_cons_of_mem _ hc, hfault⟩
  | fail hnot hreports =>
    cases he
    exact ⟨_, List.mem_cons_self .., hnot, hreports⟩

theorem one (hok : ∀ a, x = .ok a → c.holds)
    (herror : ∀ e, x = .error e → ¬ c.holds ∧ c.reports e) : Decides [c] x := by
  cases x with
  | ok a => exact .pass (hok a rfl) (.succeed a)
  | error e => exact .fail (herror e rfl).1 (herror e rfl).2

theorem bind {f : α → Except Error β} (h : Decides cs x)
    (hf : ∀ a, x = .ok a → Decides ds (f a)) : Decides (cs ++ ds) (x >>= f) := by
  induction h with
  | succeed a => exact hf a rfl
  | pass h _ ih => exact .pass h (ih hf)
  | fail h he => exact .fail h he

theorem map (h : Decides cs x) (f : α → β) : Decides cs (x.map f) := by
  induction h with
  | succeed a => exact .succeed (f a)
  | pass h _ ih => exact .pass h ih
  | fail h he => exact .fail h he

theorem mapM {f : α → Except Error β} {as : List α} {good : α → Prop} {fault : α → Error → Prop}
    (hok : ∀ a b, f a = .ok b → good a)
    (herror : ∀ a e, f a = .error e → ¬ good a ∧ fault a e) :
    Decides [Condition.all as good fault] (as.mapM f) := by
  refine .one (fun bs h a ha => ?_) fun e h => ?_
  · obtain ⟨b, hb⟩ := exists_mapM_eq_ok_iff.mp ⟨bs, h⟩ a ha
    exact hok a b hb
  · obtain ⟨before, a, after, rfl, hbefore, ha⟩ := mapM_eq_error_iff.mp h
    obtain ⟨hbad, hfault⟩ := herror a e ha
    refine ⟨fun hall => hbad (hall a (by simp)), before, a, after, rfl, fun b hb => ?_, hfault⟩
    obtain ⟨c, hc⟩ := hbefore b hb
    exact hok b c hc

theorem congr (h : Decides cs x)
    (hcs : List.Forall₂ (fun c d => (c.holds ↔ d.holds) ∧ ∀ e, c.reports e → d.reports e) cs ds) :
    Decides ds x := by
  induction h generalizing ds with
  | succeed a =>
    cases hcs
    exact .succeed a
  | pass h _ ih =>
    cases hcs with
    | cons hc hcs => exact .pass (hc.1.mp h) (ih hcs)
  | fail h he =>
    cases hcs with
    | cons hc _ => exact .fail (mt hc.1.mpr h) (hc.2 _ he)

end Decides

end TableShell
