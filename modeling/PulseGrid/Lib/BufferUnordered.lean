/-
  PulseGrid.Lib.BufferUnordered

  Running a list of futures with a bounded number of them in flight and collecting
  their results in the order in which they complete.

  Which future completes next is a list of choices.  Whatever they are, the results
  are a rearrangement of the futures' results (`bufferUnordered_perm`), and sorting
  results with distinct keys by their key undoes it (`mergeSort_key_eq_of_perm`).
-/

import Mathlib

variable {α : Type*}

/-- The results `xs` in the order of completion.  The first `limit` of those that are
    left are in flight and a choice names one of them by its position; a choice that
    names none is skipped, and when the choices are used up the rest completes in
    order. -/
def bufferUnordered (limit : Nat) : List Nat → List α → List α
  | [], xs => xs
  | choice :: choices, xs => match (xs.take limit)[choice]? with
      | none => bufferUnordered limit choices xs
      | some x => x :: bufferUnordered limit choices (xs.eraseIdx choice)

/-- Nothing is lost, added or repeated. -/
theorem bufferUnordered_perm (limit : Nat) (choices : List Nat) (xs : List α) :
    (bufferUnordered limit choices xs).Perm xs := by
  induction choices generalizing xs with
  | nil => exact .refl xs
  | cons choice choices ih =>
      rw [bufferUnordered]
      split
      · exact ih xs
      · next x hx =>
        have hget : xs[choice]? = some x := by
          rw [List.getElem?_take] at hx
          split at hx
          · exact hx
          · cases hx
        obtain ⟨hlt, rfl⟩ := List.getElem?_eq_some_iff.mp hget
        exact (List.Perm.cons _ (ih _)).trans (List.getElem_cons_eraseIdx_perm hlt)

variable {κ : Type*} [LinearOrder κ]

theorem pairwise_mergeSort_key (key : α → κ) (xs : List α) :
    (xs.mergeSort fun a b => key a ≤ key b).Pairwise fun a b => key a ≤ key b := by
  have hsorted : (xs.mergeSort fun a b => key a ≤ key b).Pairwise
      fun a b => decide (key a ≤ key b) = true := by
    apply List.pairwise_mergeSort
    · intro a b c hab hbc
      rw [decide_eq_true_iff] at hab hbc ⊢
      exact hab.trans hbc
    · intro a b
      simpa using le_total (key a) (key b)
  exact hsorted.imp fun h => of_decide_eq_true h

/-- The keys of the sorted list are strictly increasing if no key occurs twice. -/
theorem pairwise_lt_map_mergeSort_key (key : α → κ) {xs : List α} (hnodup : (xs.map key).Nodup) :
    ((xs.mergeSort fun a b => key a ≤ key b).map key).Pairwise (· < ·) := by
  have hdistinct : ((xs.mergeSort fun a b => key a ≤ key b).map key).Nodup :=
    ((List.mergeSort_perm _ _).map key).nodup_iff.mpr hnodup
  rw [List.Nodup, List.pairwise_map] at hdistinct
  rw [List.pairwise_map]
  exact ((pairwise_mergeSort_key key xs).and hdistinct).imp fun h => lt_of_le_of_ne h.1 h.2

/-- Two arrangements of the same results are sorted into the same list if no key occurs
    twice. -/
theorem mergeSort_key_eq_of_perm (key : α → κ) {xs ys : List α} (hperm : xs.Perm ys)
    (hnodup : (xs.map key).Nodup) :
    (xs.mergeSort fun a b => key a ≤ key b) = ys.mergeSort fun a b => key a ≤ key b := by
  have hsame : (xs.mergeSort fun a b => key a ≤ key b).Perm
      (ys.mergeSort fun a b => key a ≤ key b) :=
    ((List.mergeSort_perm _ _).trans hperm).trans (List.mergeSort_perm _ _).symm
  refine hsame.eq_of_pairwise ?_ (pairwise_mergeSort_key key xs) (pairwise_mergeSort_key key ys)
  intro a b ha hb hab hba
  have hx : a ∈ xs := List.mem_mergeSort.mp ha
  have hy : b ∈ xs := hperm.mem_iff.mpr (List.mem_mergeSort.mp hb)
  exact List.inj_on_of_nodup_map hnodup hx hy (le_antisymm hab hba)
