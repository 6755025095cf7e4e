/-
  PulseGrid.Lib.RunHistory

  Looking back into a finite run: which step of it did what.

  `StepAt n s a` says that step number `n` of a run is `a`, taken in state `s`.
  `exists_stepAt` finds the step that made a property true, and applied again to
  the run before that step it follows a chain of causes back to the start.
  `run_take_invariant` goes the other way, from a state to every later one.
-/

import PulseGrid.Lib.Transition

namespace Transition

variable {σ α : Type*} {step : σ → α → Option σ} {s₀ : σ} {as : List α}

/-- Step number `n` of the run from `s₀` is `a`, taken in state `s`. -/
def StepAt (step : σ → α → Option σ) (s₀ : σ) (as : List α) (n : Nat) (s : σ) (a : α) : Prop :=
  as[n]? = some a ∧ run step s₀ (as.take n) = some s

theorem StepAt.take_succ {n : Nat} {s : σ} {a : α} (h : StepAt step s₀ as n s a) :
    run step s₀ (as.take (n + 1)) = step s a := by
  rw [List.take_add_one, h.1, run_append, h.2]
  show (step s a).bind some = step s a
  exact Option.bind_fun_some _

/-- What holds at some point of a run, and not at its start, was made true by a step. -/
theorem exists_stepAt {P : σ → Prop} (hinit : ¬ P s₀) {n : Nat} {t : σ}
    (hrun : run step s₀ (as.take n) = some t) (hP : P t) :
    ∃ m s a s', m < n ∧ StepAt step s₀ as m s a ∧ step s a = some s' ∧ ¬ P s ∧ P s' := by
  induction n generalizing t with
  | zero =>
      cases Option.some.inj hrun
      exact absurd hP hinit
  | succ n ih =>
      cases ha : as[n]? with
      | none =>
          rw [List.take_add_one, ha, Option.toList_none, List.append_nil] at hrun
          obtain ⟨m, s, a, s', hm, hstep⟩ := ih hrun hP
          exact ⟨m, s, a, s', Nat.lt_succ_of_lt hm, hstep⟩
      | some a =>
          have hsplit := hrun
          rw [List.take_add_one, run_append] at hsplit
          obtain ⟨s, hs, -⟩ := Option.bind_eq_some_iff.mp hsplit
          have hat : StepAt step s₀ as n s a := ⟨ha, hs⟩
          rw [hat.take_succ] at hrun
          by_cases hPs : P s
          · obtain ⟨m, s₁, a₁, s', hm, hstep⟩ := ih hs hPs
            exact ⟨m, s₁, a₁, s', Nat.lt_succ_of_lt hm, hstep⟩
          · exact ⟨n, s, a, t, Nat.lt_succ_self n, hat, hrun, hPs, hP⟩

/-- The state before step `n` of a run that goes on to step `m`. -/
theorem run_take_of_le {n m : Nat} (hle : n ≤ m) {t : σ}
    (hrun : run step s₀ (as.take m) = some t) :
    ∃ s, run step s₀ (as.take n) = some s ∧ run step s ((as.take m).drop n) = some t := by
  have hsplit : as.take m = as.take n ++ (as.take m).drop n := by
    have htake := List.take_append_drop n (as.take m)
    rw [List.take_take, Nat.min_eq_left hle] at htake
    exact htake.symm
  rw [hsplit, run_append] at hrun
  exact Option.bind_eq_some_iff.mp hrun

theorem runOk_take {ok : σ → α → Prop} {n : Nat} {s : σ} (hok : RunOk step ok s₀ as)
    (hrun : run step s₀ (as.take n) = some s) :
    RunOk step ok s₀ (as.take n) ∧ RunOk step ok s (as.drop n) := by
  rw [← List.take_append_drop n as] at hok
  exact runOk_append hrun hok

/-- Every step of a run that goes through is enabled. -/
theorem StepAt.exists_step {n : Nat} {s t : σ} {a : α} (hat : StepAt step s₀ as n s a)
    (hrun : run step s₀ as = some t) : ∃ s', step s a = some s' := by
  have hlen : n + 1 ≤ as.length := (List.getElem?_eq_some_iff.mp hat.1).1
  rw [← List.take_length (l := as)] at hrun
  obtain ⟨s', hs', -⟩ := run_take_of_le hlen hrun
  exact ⟨s', hat.take_succ ▸ hs'⟩

/-- **Invariant rule with a history.**  The invariant speaks of the labels so far as well. -/
theorem run_history {ok : σ → α → Prop} (Inv : List α → σ → Prop)
    (hpres : ∀ bs s a s', Inv bs s → ok s a → step s a = some s' → Inv (bs ++ [a]) s')
    (hinit : Inv [] s₀) {t : σ} (hok : RunOk step ok s₀ as) (hrun : run step s₀ as = some t) :
    Inv as t := by
  induction as using List.reverseRecOn generalizing t with
  | nil =>
      cases Option.some.inj hrun
      exact hinit
  | append_singleton as a ih =>
      rw [run_append] at hrun
      obtain ⟨s, hs, hlast⟩ := Option.bind_eq_some_iff.mp hrun
      obtain ⟨s', hstep, hend⟩ := run_cons_eq_some.mp hlast
      cases Option.some.inj hend
      obtain ⟨hokBefore, hokLast⟩ := runOk_append hs hok
      exact hpres as s a _ (ih hokBefore hs) hokLast.1 hstep

theorem run_history_all (Inv : List α → σ → Prop)
    (hpres : ∀ bs s a s', Inv bs s → step s a = some s' → Inv (bs ++ [a]) s')
    (hinit : Inv [] s₀) {t : σ} (hrun : run step s₀ as = some t) : Inv as t := by
  have hok : RunOk step (fun _ _ => True) s₀ as := runOk_of_forall_mem fun _ _ => trivial
  exact run_history Inv (fun bs s a s' hinv _ hstep => hpres bs s a s' hinv hstep) hinit hok hrun

/-- What holds before step `n`, and every step keeps, holds from then on. -/
theorem run_take_invariant {ok : σ → α → Prop} {P : σ → Prop}
    (hpres : ∀ s a s', P s → ok s a → step s a = some s' → P s')
    (hok : RunOk step ok s₀ as) {n m : Nat} {s t : σ}
    (hs : run step s₀ (as.take n) = some s) (hP : P s) (hle : n ≤ m)
    (hrun : run step s₀ (as.take m) = some t) : P t := by
  obtain ⟨s₁, hs₁, hrest⟩ := run_take_of_le hle hrun
  rw [hs] at hs₁
  cases Option.some.inj hs₁
  have htake : RunOk step ok s₀ (as.take m) := (runOk_take hok hrun).1
  refine run_invariant hpres hP (runOk_take htake ?_).2 hrest
  rw [List.take_take, Nat.min_eq_left hle]
  exact hs

end Transition
