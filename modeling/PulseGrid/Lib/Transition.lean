/-
  PulseGrid.Lib.Transition

  Finite runs of a labelled transition system whose steps are partial
  functions `σ → α → Option σ` (`none` when the label is not enabled).

  `run` executes a list of labels; `RunOk` says that every step of such a run
  meets a side condition on the label and the state before the step.  The
  induction rule `run_invariant` is proven once here: an invariant that every
  step meeting the condition preserves holds at the end of every run whose
  steps meet it.  `run_append` and `runOk_append` split a run in two, which is
  how a later part of an execution is reasoned about from the state an
  earlier part left behind.
-/

import Mathlib

namespace Transition

variable {σ α : Type*}

/-- Execute the labels from left to right; `none` as soon as one of them is not
    enabled. -/
def run (step : σ → α → Option σ) : σ → List α → Option σ
  | s, [] => some s
  | s, a :: as => (step s a).bind fun s' => run step s' as

/-- Every step of the run from `s` meets `ok` in the state before it. -/
def RunOk (step : σ → α → Option σ) (ok : σ → α → Prop) : σ → List α → Prop
  | _, [] => True
  | s, a :: as =>
      ok s a ∧ match step s a with
        | none => True
        | some s' => RunOk step ok s' as

instance RunOk.decidable (step : σ → α → Option σ) (ok : σ → α → Prop)
    [∀ s a, Decidable (ok s a)] : ∀ s as, Decidable (RunOk step ok s as)
  | _, [] => isTrue trivial
  | s, a :: as =>
      match hstep : step s a with
      | none =>
          decidable_of_iff (ok s a) (by simp [RunOk, hstep])
      | some s' =>
          have : Decidable (RunOk step ok s' as) := RunOk.decidable step ok s' as
          decidable_of_iff (ok s a ∧ RunOk step ok s' as) (by simp [RunOk, hstep])

@[simp] theorem run_nil (step : σ → α → Option σ) (s : σ) :
    run step s [] = some s := rfl

theorem run_cons (step : σ → α → Option σ) (s : σ) (a : α) (as : List α) :
    run step s (a :: as) = (step s a).bind fun s' => run step s' as := rfl

/-- A successful nonempty run is a first step followed by a shorter run. -/
theorem run_cons_eq_some {step : σ → α → Option σ} {s t : σ} {a : α} {as : List α} :
    run step s (a :: as) = some t ↔ ∃ s', step s a = some s' ∧ run step s' as = some t := by
  rw [run_cons, Option.bind_eq_some_iff]

theorem run_append (step : σ → α → Option σ) (s : σ) (as bs : List α) :
    run step s (as ++ bs) = (run step s as).bind fun s' => run step s' bs := by
  induction as generalizing s with
  | nil => rfl
  | cons a as ih =>
      simp only [List.cons_append, run_cons]
      cases step s a with
      | none => rfl
      | some s' => exact ih s'

theorem runOk_cons {step : σ → α → Option σ} {ok : σ → α → Prop} {s s' : σ} {a : α}
    {as : List α} (h : RunOk step ok s (a :: as)) (hstep : step s a = some s') :
    ok s a ∧ RunOk step ok s' as := by
  obtain ⟨hok, hrest⟩ := h
  rw [hstep] at hrest
  exact ⟨hok, hrest⟩

/-- The condition on a run is the condition on its first part and on what follows it. -/
theorem runOk_append {step : σ → α → Option σ} {ok : σ → α → Prop} {s t : σ}
    {as bs : List α} (hrun : run step s as = some t) (h : RunOk step ok s (as ++ bs)) :
    RunOk step ok s as ∧ RunOk step ok t bs := by
  induction as generalizing s with
  | nil =>
      cases Option.some.inj hrun
      exact ⟨trivial, h⟩
  | cons a as ih =>
      obtain ⟨s', hstep, hrest⟩ := run_cons_eq_some.mp hrun
      obtain ⟨hok, hokRest⟩ := runOk_cons h hstep
      obtain ⟨h1, h2⟩ := ih hrest hokRest
      refine ⟨⟨hok, ?_⟩, h2⟩
      rw [hstep]
      exact h1

/-- **Invariant rule.**  What every step meeting `ok` preserves holds at the end
    of every run whose steps all meet `ok`. -/
theorem run_invariant {step : σ → α → Option σ} {ok : σ → α → Prop} {Inv : σ → Prop}
    (hpres : ∀ s a s', Inv s → ok s a → step s a = some s' → Inv s')
    {s t : σ} {as : List α} (hinit : Inv s) (hok : RunOk step ok s as)
    (hrun : run step s as = some t) : Inv t := by
  induction as generalizing s with
  | nil =>
      cases Option.some.inj hrun
      exact hinit
  | cons a as ih =>
      obtain ⟨s', hstep, hrest⟩ := run_cons_eq_some.mp hrun
      obtain ⟨hoka, hokRest⟩ := runOk_cons hok hstep
      exact ih (hpres s a s' hinit hoka hstep) hokRest hrest

/-- The invariant rule for runs without a side condition. -/
theorem run_invariant_all {step : σ → α → Option σ} {Inv : σ → Prop}
    (hpres : ∀ s a s', Inv s → step s a = some s' → Inv s')
    {s t : σ} {as : List α} (hinit : Inv s) (hrun : run step s as = some t) : Inv t := by
  induction as generalizing s with
  | nil =>
      cases Option.some.inj hrun
      exact hinit
  | cons a as ih =>
      obtain ⟨s', hstep, hrest⟩ := run_cons_eq_some.mp hrun
      exact ih (hpres s a s' hinit hstep) hrest

/-- A side condition that follows from another one and an invariant holds along every
    run whose steps meet the other one. -/
theorem runOk_of_invariant {step : σ → α → Option σ} {ok ok' : σ → α → Prop} {Inv : σ → Prop}
    (hpres : ∀ s a s', Inv s → ok s a → step s a = some s' → Inv s')
    (himp : ∀ s a, Inv s → ok s a → ok' s a)
    {s : σ} {as : List α} (hinit : Inv s) (hok : RunOk step ok s as) : RunOk step ok' s as := by
  induction as generalizing s with
  | nil => trivial
  | cons a as ih =>
      refine ⟨himp s a hinit hok.1, ?_⟩
      cases hstep : step s a with
      | none => trivial
      | some s' =>
          obtain ⟨hoka, hokRest⟩ := runOk_cons hok hstep
          exact ih (hpres s a s' hinit hoka hstep) hokRest

/-- A condition on the labels alone. -/
theorem runOk_of_forall_mem {step : σ → α → Option σ} {ok : α → Prop} {s : σ} {as : List α}
    (h : ∀ a ∈ as, ok a) : RunOk step (fun _ a => ok a) s as := by
  induction as generalizing s with
  | nil => trivial
  | cons a as ih =>
      refine ⟨h a List.mem_cons_self, ?_⟩
      cases step s a with
      | none => trivial
      | some s' => exact ih fun b hb => h b (List.mem_cons_of_mem _ hb)

end Transition
