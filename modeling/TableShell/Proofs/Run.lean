import TableShell.Entry

/-!
# Runs

A system takes one step for each request that it gets and answers it. A run gives the answers in
order and the state after the last step. Facts about runs follow from facts about single steps.
-/

namespace TableShell

variable {σ τ κ ι α : Type}

def run (step : σ → κ → α × σ) (s : σ) : List κ → List α × σ
  | [] => ([], s)
  | k :: ks =>
    let (a, s₁) := step s k
    let (as, s₂) := run step s₁ ks
    (a :: as, s₂)

theorem run_cons (step : σ → κ → α × σ) (s : σ) (k : κ) (ks : List κ) :
    run step s (k :: ks) = ((step s k).1 :: (run step (step s k).2 ks).1,
      (run step (step s k).2 ks).2) := rfl

theorem run_append (step : σ → κ → α × σ) (s : σ) (ks ks' : List κ) :
    run step s (ks ++ ks') = ((run step s ks).1 ++ (run step (run step s ks).2 ks').1,
      (run step (run step s ks).2 ks').2) := by
  induction ks generalizing s with
  | nil => rfl
  | cons k ks ih => rw [List.cons_append, run_cons, run_cons, ih, List.cons_append]

/-- What holds at first and is kept by the steps of a run holds after it. -/
theorem run_invariant_of_forall_mem {step : σ → κ → α × σ} {I : σ → Prop} {ks : List κ}
    (hstep : ∀ k ∈ ks, ∀ s, I s → I (step s k).2) {s : σ} (hs : I s) : I (run step s ks).2 := by
  induction ks generalizing s with
  | nil => exact hs
  | cons k ks ih =>
    rw [List.forall_mem_cons] at hstep
    exact ih hstep.2 (hstep.1 s hs)

theorem run_invariant {step : σ → κ → α × σ} {I : σ → Prop}
    (hstep : ∀ s k, I s → I (step s k).2) {s : σ} (hs : I s) (ks : List κ) :
    I (run step s ks).2 :=
  run_invariant_of_forall_mem (fun k _ s => hstep s k) hs

theorem run_answers {step : σ → κ → α × σ} {I : σ → Prop} {P : α → Prop}
    (hstep : ∀ s k, I s → I (step s k).2) (hanswer : ∀ s k, I s → P (step s k).1)
    {s : σ} (hs : I s) (ks : List κ) : ∀ a ∈ (run step s ks).1, P a := by
  induction ks generalizing s with
  | nil => intro a ha; cases ha
  | cons k ks ih =>
    rw [run_cons]
    exact List.forall_mem_cons.mpr ⟨hanswer s k hs, ih (hstep s k hs)⟩

/-- Systems whose related states answer alike and stay related cannot be told apart by a run. The
second one gets what `f` makes of the requests to the first. -/
theorem run_simulation {step : σ → κ → α × σ} {step' : τ → ι → α × τ} (f : κ → ι)
    {R : σ → τ → Prop}
    (hstep : ∀ s t k, R s t →
      (step s k).1 = (step' t (f k)).1 ∧ R (step s k).2 (step' t (f k)).2)
    {s : σ} {t : τ} (hR : R s t) (ks : List κ) :
    (run step s ks).1 = (run step' t (ks.map f)).1 ∧
      R (run step s ks).2 (run step' t (ks.map f)).2 := by
  induction ks generalizing s t with
  | nil => exact ⟨rfl, hR⟩
  | cons k ks ih =>
    obtain ⟨ha, hs⟩ := hstep s t k hR
    obtain ⟨has, hr⟩ := ih hs
    rw [List.map_cons, run_cons, run_cons]
    exact ⟨by rw [ha, has], hr⟩

end TableShell
