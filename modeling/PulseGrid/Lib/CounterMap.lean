/-
  PulseGrid.Lib.CounterMap

  Maps of counters that are only added to, as a cache server keeps them in a hash:
  `incrBy` creates a missing counter at zero, and an increment that is not a number
  of the counter's type or would take the counter past `limit` is refused and changes
  nothing.  A list of increments leaves in every counter the sum of its own
  increments (`get_incrAll`), so their order does not matter.
-/

import PulseGrid.Lib.DashMap

namespace CounterMap

variable {κ : Type*} [DecidableEq κ]

/-- Add to one counter; the flag says whether the increment was taken. -/
def incrBy (limit : Int) (m : DashMap κ Int) (k : κ) (delta : Nat) : DashMap κ Int × Bool :=
  if (delta : Int) ≤ limit ∧ (m.get k).getD 0 + delta ≤ limit then
    (m.put k ((m.get k).getD 0 + delta), true)
  else (m, false)

/-- The increments in order; the flag says whether all of them were taken. -/
def incrAll (limit : Int) (m : DashMap κ Int) : List (κ × Nat) → DashMap κ Int × Bool
  | [] => (m, true)
  | e :: incrs =>
      let (m', taken) := incrBy limit m e.1 e.2
      let (last, rest) := incrAll limit m' incrs
      (last, taken && rest)

/-- What a list of increments adds to one counter. -/
def added (incrs : List (κ × Nat)) (k : κ) : Nat :=
  ((incrs.filter fun e => e.1 = k).map Prod.snd).sum

@[simp] theorem added_nil (k : κ) : added [] k = 0 := rfl

theorem added_cons (e : κ × Nat) (incrs : List (κ × Nat)) (k : κ) :
    added (e :: incrs) k = (if e.1 = k then e.2 else 0) + added incrs k := by
  by_cases h : e.1 = k <;> simp [added, h]

theorem added_append (xs ys : List (κ × Nat)) (k : κ) :
    added (xs ++ ys) k = added xs k + added ys k := by
  simp [added]

theorem added_eq_zero {incrs : List (κ × Nat)} {k : κ} (h : k ∉ incrs.map Prod.fst) :
    added incrs k = 0 := by
  rw [added, List.filter_eq_nil_iff.mpr]
  · rfl
  · intro e he heq
    exact h (List.mem_map.mpr ⟨e, he, by simpa using heq⟩)

theorem incrBy_of_le {limit : Int} {m : DashMap κ Int} {k : κ} {delta : Nat}
    (hpos : 0 ≤ (m.get k).getD 0) (hfit : (m.get k).getD 0 + delta ≤ limit) :
    incrBy limit m k delta = (m.put k ((m.get k).getD 0 + delta), true) := by
  rw [incrBy, if_pos]
  omega

/-- Increments whose sums stay within the limit are all taken, and every counter they
    name has grown by its own. -/
theorem get_incrAll (limit : Int) (m : DashMap κ Int) (incrs : List (κ × Nat))
    (hpos : ∀ k, 0 ≤ (m.get k).getD 0)
    (hfit : ∀ k ∈ incrs.map Prod.fst, (m.get k).getD 0 + added incrs k ≤ limit) :
    (incrAll limit m incrs).2 = true ∧
    ∀ k, (incrAll limit m incrs).1.get k =
      if k ∈ incrs.map Prod.fst then some ((m.get k).getD 0 + added incrs k) else m.get k := by
  induction incrs generalizing m with
  | nil => exact ⟨rfl, fun k => by simp [incrAll]⟩
  | cons e incrs ih =>
      have hhead := hfit e.1 (by simp)
      rw [added_cons, if_pos rfl] at hhead
      have hstep : incrBy limit m e.1 e.2 = (m.put e.1 ((m.get e.1).getD 0 + e.2), true) :=
        incrBy_of_le (hpos e.1) (by push_cast at hhead; omega)
      have hgetD (k : κ) : ((m.put e.1 ((m.get e.1).getD 0 + e.2)).get k).getD 0 =
          (m.get k).getD 0 + if e.1 = k then (e.2 : Int) else 0 := by
        rw [DashMap.get_put]
        by_cases h : e.1 = k
        · rw [if_pos h.symm, if_pos h, ← h]
          rfl
        · rw [if_neg (Ne.symm h), if_neg h, add_zero]
      obtain ⟨hok, hget⟩ := ih (m := m.put e.1 ((m.get e.1).getD 0 + e.2))
        (fun k => by
          rw [hgetD]
          have := hpos k
          split <;> omega)
        (fun k hk => by
          have := hfit k (List.mem_cons_of_mem _ hk)
          rw [added_cons] at this
          rw [hgetD]
          push_cast at this
          omega)
      simp only [incrAll, hstep, Bool.true_and]
      refine ⟨hok, fun k => ?_⟩
      rw [hget k, hgetD, added_cons]
      simp only [List.map_cons, List.mem_cons]
      by_cases hmem : k ∈ incrs.map Prod.fst
      · have hor : k = e.1 ∨ k ∈ incrs.map Prod.fst := .inr hmem
        rw [if_pos hmem, if_pos hor]
        push_cast
        rw [add_assoc]
      · by_cases hk : e.1 = k
        · -- only the first increment names this counter
          have hor : k = e.1 ∨ k ∈ incrs.map Prod.fst := .inl hk.symm
          rw [if_neg hmem, if_pos hor, ← hk, DashMap.get_put_self, if_pos rfl, hk,
            added_eq_zero hmem]
          push_cast
          rw [add_zero]
        · have hnor : ¬ (k = e.1 ∨ k ∈ incrs.map Prod.fst) := by tauto
          rw [if_neg hmem, if_neg hnor, DashMap.get_put_of_ne _ _ (Ne.symm hk)]

end CounterMap
