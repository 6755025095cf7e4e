/-
  PulseGrid.Lib.BucketCounts

  Counting values in buckets.  Each value goes to the first bucket whose bound it is within,
  or to one more behind all of them; running sums over the buckets then count the values
  within each bound, when the bounds ascend (`cumulate_counts`).

  Values and bounds are of any types, and `within` is any relation between them.
-/

import Mathlib

namespace BucketCounts

variable {α β : Type*} (within : α → β → Bool)

/-- The bucket of a value. -/
def slot (bounds : List β) (v : α) : Nat := bounds.findIdx (within v)

/-- How many of the values go to each bucket. -/
def counts : List β → List α → List Nat
  | [], vs => [vs.length]
  | b :: bounds, vs =>
      vs.countP (within · b) :: counts bounds (vs.filter fun v => !within v b)

/-- Running sums. -/
def cumulate (start : Nat) : List Nat → List Nat
  | [] => []
  | n :: ns => (start + n) :: cumulate (start + n) ns

@[simp] theorem length_counts (bounds : List β) (vs : List α) :
    (counts within bounds vs).length = bounds.length + 1 := by
  induction bounds generalizing vs with
  | nil => rfl
  | cons b bounds ih => rw [counts, List.length_cons, ih, List.length_cons]

theorem counts_nil (bounds : List β) :
    counts within bounds ([] : List α) = List.replicate (bounds.length + 1) 0 := by
  induction bounds with
  | nil => rfl
  | cons b bounds ih =>
      rw [counts, List.filter_nil, ih, List.countP_nil, List.length_cons,
        List.replicate_succ (n := bounds.length + 1)]

/-- One more value is one more in its bucket. -/
theorem counts_append_singleton (bounds : List β) (vs : List α) (v : α) :
    counts within bounds (vs ++ [v]) =
      (counts within bounds vs).modify (slot within bounds v) (· + 1) := by
  induction bounds generalizing vs with
  | nil => simp [counts, slot]
  | cons b bounds ih =>
      rw [counts, counts, slot, List.findIdx_cons, List.countP_append, List.filter_append]
      cases hin : within v b with
      | true => simp [hin]
      | false =>
          have hrest := ih (vs.filter fun v => !within v b)
          rw [slot] at hrest
          simp [hin, hrest]

/-- Bounds that ascend: what is within one is within the later ones. -/
def Ascending (bounds : List β) : Prop :=
  bounds.Pairwise fun b b' => ∀ v, within v b = true → within v b' = true

/-- **Running sums of the buckets** count the values within each bound, and at the end all
    of them. -/
theorem cumulate_counts {bounds : List β} (h : Ascending within bounds) (start : Nat)
    (vs : List α) :
    cumulate start (counts within bounds vs) =
      bounds.map (fun b => start + vs.countP (within · b)) ++ [start + vs.length] := by
  induction bounds generalizing start vs with
  | nil => rfl
  | cons b bounds ih =>
      obtain ⟨hfirst, hrest⟩ := List.pairwise_cons.mp h
      have hall : vs.countP (within · b) + (vs.filter fun v => !within v b).length =
          vs.length := by
        rw [List.length_eq_countP_add_countP (within · b) (l := vs)]
        simp [List.countP_eq_length_filter]
      have hlater : ∀ b' ∈ bounds, vs.countP (within · b) +
          (vs.filter fun v => !within v b).countP (within · b') = vs.countP (within · b') := by
        intro b' hb'
        have hwithin : (vs.filter (within · b)).countP (within · b') =
            vs.countP (within · b) := by
          rw [List.countP_filter]
          apply List.countP_congr
          intro v _
          simp only [Bool.and_eq_true]
          exact ⟨fun hv => hv.2, fun hv => ⟨hfirst b' hb' v hv, hv⟩⟩
        rw [List.countP_eq_countP_filter_add vs (within · b') (within · b), hwithin]
      rw [counts, cumulate, ih hrest, List.map_cons, List.cons_append, Nat.add_assoc, hall]
      congr 2
      apply List.map_congr_left
      intro b' hb'
      rw [Nat.add_assoc, hlater b' hb']

end BucketCounts
