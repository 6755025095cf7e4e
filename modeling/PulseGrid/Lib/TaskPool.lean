/-
  PulseGrid.Lib.TaskPool

  Tasks that run concurrently, as a list of their program counters.

  A step of task number `i` replaces entry `i`; everything said about the pool
  with `SomeTask` splits into what is said about task `i` and about the others
  (`someTask_iff`, `someTask_set`), and the others do not change.
-/

import Mathlib

namespace TaskPool

variable {τ : Type*}

/-- Some task is at a program counter with this property. -/
def SomeTask (tasks : List τ) (φ : τ → Prop) : Prop :=
  ∃ pc ∈ tasks, φ pc

/-- Some task other than task `i` is at a program counter with this property. -/
def OtherTask (tasks : List τ) (i : Nat) (φ : τ → Prop) : Prop :=
  ∃ j pc, j ≠ i ∧ tasks[j]? = some pc ∧ φ pc

/-- A task after a new one was added at the end. -/
theorem getElem?_append_cases {tasks : List τ} {pc q : τ} {i : Nat}
    (h : (tasks ++ [pc])[i]? = some q) : tasks[i]? = some q ∨ i = tasks.length ∧ q = pc := by
  rcases Nat.lt_or_ge i tasks.length with hlt | hge
  · rw [List.getElem?_append_left hlt] at h
    exact .inl h
  · rw [List.getElem?_append_right hge] at h
    obtain ⟨hi, hy⟩ := List.getElem?_eq_some_iff.mp h
    rw [List.length_singleton] at hi
    refine .inr ⟨by omega, ?_⟩
    rw [← hy, List.getElem_singleton]

/-- A task after task `i` moved on. -/
theorem getElem?_set_cases {tasks : List τ} {pc pc' q : τ} {i j : Nat}
    (hi : tasks[i]? = some pc) (h : (tasks.set i pc')[j]? = some q) :
    j = i ∧ q = pc' ∨ j ≠ i ∧ tasks[j]? = some q := by
  rw [List.getElem?_set] at h
  split at h
  · next hij =>
    rw [if_pos (List.getElem?_eq_some_iff.mp hi).1] at h
    exact .inl ⟨hij.symm, (Option.some.inj h).symm⟩
  · next hij => exact .inr ⟨Ne.symm hij, h⟩

theorem someTask_iff {tasks : List τ} {i : Nat} {pc : τ} (hi : tasks[i]? = some pc)
    (φ : τ → Prop) : SomeTask tasks φ ↔ φ pc ∨ OtherTask tasks i φ := by
  constructor
  · rintro ⟨q, hq, hφ⟩
    obtain ⟨j, hj⟩ := List.mem_iff_getElem?.mp hq
    by_cases hji : j = i
    · obtain rfl : pc = q := by simpa [hji, hi] using hj
      exact .inl hφ
    · exact .inr ⟨j, q, hji, hj, hφ⟩
  · rintro (hφ | ⟨j, q, -, hj, hφ⟩)
    · exact ⟨pc, List.mem_of_getElem? hi, hφ⟩
    · exact ⟨q, List.mem_of_getElem? hj, hφ⟩

theorem otherTask_set (tasks : List τ) (i : Nat) (pc : τ) (φ : τ → Prop) :
    OtherTask (tasks.set i pc) i φ ↔ OtherTask tasks i φ := by
  constructor
  · rintro ⟨j, q, hji, hj, hφ⟩
    exact ⟨j, q, hji, by simpa [List.getElem?_set_ne (Ne.symm hji)] using hj, hφ⟩
  · rintro ⟨j, q, hji, hj, hφ⟩
    exact ⟨j, q, hji, by simpa [List.getElem?_set_ne (Ne.symm hji)] using hj, hφ⟩

theorem someTask_set {tasks : List τ} {i : Nat} {pc : τ} (hi : tasks[i]? = some pc) (pc' : τ)
    (φ : τ → Prop) : SomeTask (tasks.set i pc') φ ↔ φ pc' ∨ OtherTask tasks i φ := by
  have hlt : i < tasks.length := (List.getElem?_eq_some_iff.mp hi).1
  have hset : (tasks.set i pc')[i]? = some pc' := by simp [hlt]
  rw [someTask_iff hset, otherTask_set]

theorem someTask_append (tasks : List τ) (pc : τ) (φ : τ → Prop) :
    SomeTask (tasks ++ [pc]) φ ↔ SomeTask tasks φ ∨ φ pc := by
  simp [SomeTask, or_and_right, exists_or]

/-- The other tasks, by membership. -/
theorem otherTask_iff_mem_eraseIdx (tasks : List τ) (i : Nat) (φ : τ → Prop) :
    OtherTask tasks i φ ↔ ∃ pc ∈ tasks.eraseIdx i, φ pc := by
  constructor
  · rintro ⟨j, pc, hji, hj, hφ⟩
    exact ⟨pc, List.mem_eraseIdx_iff_getElem?.mpr ⟨j, hji, hj⟩, hφ⟩
  · rintro ⟨pc, hpc, hφ⟩
    obtain ⟨j, hji, hj⟩ := List.mem_eraseIdx_iff_getElem?.mp hpc
    exact ⟨j, pc, hji, hj, hφ⟩

/-- What all tasks contribute, if only task `i` contributes anything. -/
theorem flatMap_eq_of_others_nil {β : Type*} {tasks : List τ} {i : Nat} {pc : τ}
    (hi : tasks[i]? = some pc) {f : τ → List β}
    (hothers : ∀ j q, j ≠ i → tasks[j]? = some q → f q = []) : tasks.flatMap f = f pc := by
  induction tasks generalizing i with
  | nil => simp at hi
  | cons t ts ih =>
    cases i with
    | zero =>
      obtain rfl : t = pc := by simpa using hi
      have hrest : ts.flatMap f = [] := by
        refine List.flatMap_eq_nil_iff.mpr fun q hq => ?_
        obtain ⟨j, hj⟩ := List.mem_iff_getElem?.mp hq
        exact hothers (j + 1) q (by omega) (by simpa using hj)
      rw [List.flatMap_cons, hrest, List.append_nil]
    | succ i =>
      rw [List.flatMap_cons, hothers 0 t (by omega) rfl, List.nil_append]
      exact ih (by simpa using hi) fun j q hj hq => hothers (j + 1) q (by omega) (by simpa using hq)

end TaskPool
