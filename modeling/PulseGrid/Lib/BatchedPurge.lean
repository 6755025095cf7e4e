/-
  PulseGrid.Lib.BatchedPurge

  Removing what is older than a cutoff from a table, oldest first and in batches:
  `DELETE … WHERE id IN (SELECT id … WHERE t < cutoff ORDER BY t LIMIT batch)`, again and
  again until a statement removes less than a batch or a number of batches is reached.

  `Purged` says what a purge with a cap does.  One statement is a purge with the batch as
  its cap (`purge_purged`), purges after one another add up (`Purged.trans`), and so the
  loop is a purge whose cap is that of all its batches together (`purgeLoop_purged`).
-/

import Mathlib

namespace BatchedPurge

variable {ρ ι τ : Type*} [LinearOrder τ] [DecidableEq ι]

/-- `ORDER BY`: some arrangement in which times do not decrease.  Which one, among rows of
    the same time, is not said. -/
structure OrderBy (time : ρ → τ) where
  order : List ρ → List ρ
  perm : ∀ rows, (order rows).Perm rows
  sorted : ∀ rows, (order rows).Pairwise fun r r' => time r ≤ time r'

/-- Rows of the same time in the order of the table. -/
def OrderBy.stable (time : ρ → τ) : OrderBy time where
  order rows := rows.insertionSort fun r r' => time r ≤ time r'
  perm rows := List.perm_insertionSort _ rows
  sorted rows :=
    have : Std.Total fun r r' : ρ => time r ≤ time r' := ⟨fun _ _ => le_total _ _⟩
    have : IsTrans ρ fun r r' => time r ≤ time r' := ⟨fun _ _ _ => le_trans⟩
    List.pairwise_insertionSort _ rows

variable {time : ρ → τ} (key : ρ → ι)

/-- The rows older than the cutoff. -/
def expired (time : ρ → τ) (cutoff : τ) (rows : List ρ) : List ρ :=
  rows.filter fun r => time r < cutoff

/-- The subquery: the keys of the oldest expired rows, at most `limit` of them. -/
def selectKeys (by_ : OrderBy time) (cutoff : τ) (limit : Nat) (rows : List ρ) : List ι :=
  ((by_.order (expired time cutoff rows)).take limit).map key

/-- The statement: the rows it leaves, and those it deletes. -/
def purge (by_ : OrderBy time) (cutoff : τ) (batch : Nat) (rows : List ρ) : List ρ × List ρ :=
  let keys := selectKeys key by_ cutoff batch rows
  (rows.filter fun r => key r ∉ keys, rows.filter fun r => key r ∈ keys)

/-- At most `batches` statements; one that deletes less than a batch is the last. -/
def purgeLoop (by_ : Nat → OrderBy time) (cutoff : τ) (batch : Nat) :
    (batches : Nat) → List ρ → List ρ × List ρ
  | 0, rows => (rows, [])
  | batches + 1, rows =>
      let (rest, deleted) := purge key (by_ batches) cutoff batch rows
      if deleted.length < batch then (rest, deleted)
      else
        let (last, later) := purgeLoop by_ cutoff batch batches rest
        (last, deleted ++ later)

-- ============================================================================
-- What a purge does
-- ============================================================================

/-- The expired rows, oldest first, as far as the cap goes, are gone; the others are as they
    were. -/
structure Purged (time : ρ → τ) (cutoff : τ) (cap : Nat) (rows rest deleted : List ρ) : Prop where
  split : rows.Perm (deleted ++ rest)
  kept : rest.Sublist rows
  old : ∀ r ∈ deleted, time r < cutoff
  oldest : ∀ r ∈ deleted, ∀ r' ∈ rest, time r' < cutoff → time r ≤ time r'
  count : deleted.length = min cap (expired time cutoff rows).length

theorem expired_length_eq {cutoff : τ} {rows rest deleted : List ρ}
    (hsplit : rows.Perm (deleted ++ rest)) (hold : ∀ r ∈ deleted, time r < cutoff) :
    (expired time cutoff rows).length = deleted.length + (expired time cutoff rest).length := by
  have hall : deleted.filter (fun r => time r < cutoff) = deleted :=
    List.filter_eq_self.mpr fun r hr => by simpa using hold r hr
  have hperm := hsplit.filter fun r => time r < cutoff
  rw [List.filter_append, hall] at hperm
  rw [expired, hperm.length_eq, List.length_append, expired]

theorem Purged.refl (cutoff : τ) (rows : List ρ) : Purged time cutoff 0 rows rows [] where
  split := .refl _
  kept := .refl _
  old := by simp
  oldest := by simp
  count := by simp

/-- Two purges in a row are a purge. -/
theorem Purged.trans {cutoff : τ} {cap₁ cap₂ : Nat} {rows mid rest deleted₁ deleted₂ : List ρ}
    (h₁ : Purged time cutoff cap₁ rows mid deleted₁)
    (h₂ : Purged time cutoff cap₂ mid rest deleted₂) :
    Purged time cutoff (cap₁ + cap₂) rows rest (deleted₁ ++ deleted₂) where
  split := by
    rw [List.append_assoc]
    exact h₁.split.trans (h₂.split.append_left deleted₁)
  kept := h₂.kept.trans h₁.kept
  old := by
    intro r hr
    rcases List.mem_append.mp hr with hr | hr
    · exact h₁.old r hr
    · exact h₂.old r hr
  oldest := by
    intro r hr r' hr' hlt
    rcases List.mem_append.mp hr with hr | hr
    · exact h₁.oldest r hr r' (h₂.kept.subset hr') hlt
    · exact h₂.oldest r hr r' hr' hlt
  count := by
    have h := expired_length_eq h₁.split h₁.old
    have hc₁ := h₁.count
    have hc₂ := h₂.count
    rw [List.length_append]
    omega

/-- A purge that did not reach its cap has removed all there was; a larger cap changes
    nothing. -/
theorem Purged.of_lt {cutoff : τ} {cap : Nat} {rows rest deleted : List ρ}
    (h : Purged time cutoff cap rows rest deleted) (hlt : deleted.length < cap) {cap' : Nat}
    (hcap : cap ≤ cap') : Purged time cutoff cap' rows rest deleted where
  split := h.split
  kept := h.kept
  old := h.old
  oldest := h.oldest
  count := by
    have := h.count
    omega

/-- What is left to purge. -/
theorem Purged.expired_rest {cutoff : τ} {cap : Nat} {rows rest deleted : List ρ}
    (h : Purged time cutoff cap rows rest deleted) :
    (expired time cutoff rest).length = (expired time cutoff rows).length - cap := by
  have hlen := expired_length_eq h.split h.old
  have hcount := h.count
  omega

/-- Within the cap, no expired row is left. -/
theorem Purged.none_left {cutoff : τ} {cap : Nat} {rows rest deleted : List ρ}
    (h : Purged time cutoff cap rows rest deleted)
    (hcap : (expired time cutoff rows).length ≤ cap) : ∀ r ∈ rest, ¬ time r < cutoff := by
  have hnil : expired time cutoff rest = [] := by
    rw [← List.length_eq_zero_iff, h.expired_rest]
    omega
  intro r hr hlt
  have hmem : r ∈ expired time cutoff rest := List.mem_filter.mpr ⟨hr, by simpa using hlt⟩
  rw [hnil] at hmem
  cases hmem

-- ============================================================================
-- One statement
-- ============================================================================

variable {key}

omit [DecidableEq ι] in
/-- A row's key picks out that row. -/
theorem eq_of_key_eq {rows : List ρ} (hkeys : (rows.map key).Nodup) {r r' : ρ} (hr : r ∈ rows)
    (hr' : r' ∈ rows) (h : key r = key r') : r = r' :=
  List.inj_on_of_nodup_map hkeys hr hr' h

/-- The rows a statement deletes are those its subquery selected. -/
theorem deleted_perm {by_ : OrderBy time} {cutoff : τ} {batch : Nat} {rows : List ρ}
    (hkeys : (rows.map key).Nodup) :
    (purge key by_ cutoff batch rows).2.Perm
      ((by_.order (expired time cutoff rows)).take batch) := by
  have hrows : rows.Nodup := hkeys.of_map _
  have hsub (r : ρ) (hr : r ∈ (by_.order (expired time cutoff rows)).take batch) : r ∈ rows := by
    have := (by_.perm _).mem_iff.mp (List.mem_of_mem_take hr)
    exact (List.mem_filter.mp this).1
  have hselected : ((by_.order (expired time cutoff rows)).take batch).Nodup :=
    (((by_.perm _).nodup_iff.mpr (hrows.filter _)).sublist (List.take_sublist _ _))
  apply (List.perm_ext_iff_of_nodup (hrows.filter _) hselected).mpr
  intro r
  simp only [selectKeys, List.mem_filter, decide_eq_true_eq, List.mem_map]
  constructor
  · rintro ⟨hr, r', hr', heq⟩
    rw [← eq_of_key_eq hkeys (hsub r' hr') hr heq]
    exact hr'
  · intro hr
    exact ⟨hsub r hr, r, hr, rfl⟩

theorem purge_split (by_ : OrderBy time) (cutoff : τ) (batch : Nat) (rows : List ρ) :
    rows.Perm ((purge key by_ cutoff batch rows).2 ++ (purge key by_ cutoff batch rows).1) := by
  have h := List.filter_append_perm (fun r => decide (key r ∈ selectKeys key by_ cutoff batch rows)) rows
  simp only [← decide_not] at h
  exact h.symm

/-- One statement is a purge of one batch. -/
theorem purge_purged (by_ : OrderBy time) (cutoff : τ) (batch : Nat) {rows : List ρ}
    (hkeys : (rows.map key).Nodup) :
    Purged time cutoff batch rows (purge key by_ cutoff batch rows).1
      (purge key by_ cutoff batch rows).2 where
  split := purge_split by_ cutoff batch rows
  kept := List.filter_sublist
  old := by
    intro r hr
    have hmem := (by_.perm _).mem_iff.mp
      (List.mem_of_mem_take ((deleted_perm hkeys).mem_iff.mp hr))
    simpa using (List.mem_filter.mp hmem).2
  oldest := by
    intro r hr r' hr' hlt
    obtain ⟨hrow, hnot⟩ := List.mem_filter.mp hr'
    have hexp : r' ∈ by_.order (expired time cutoff rows) :=
      (by_.perm _).mem_iff.mpr (List.mem_filter.mpr ⟨hrow, by simpa using hlt⟩)
    -- the row that stays comes after the batch in the order of the subquery
    have hdrop : r' ∈ (by_.order (expired time cutoff rows)).drop batch := by
      rw [← List.take_append_drop batch (by_.order (expired time cutoff rows))] at hexp
      rcases List.mem_append.mp hexp with htake | hdrop
      · simp only [decide_not, Bool.not_eq_true', decide_eq_false_iff_not, selectKeys,
          List.mem_map] at hnot
        exact absurd ⟨r', htake, rfl⟩ hnot
      · exact hdrop
    exact (by_.sorted _).rel_of_mem_take_of_mem_drop ((deleted_perm hkeys).mem_iff.mp hr) hdrop
  count := by
    rw [(deleted_perm hkeys).length_eq, List.length_take, (by_.perm _).length_eq]

-- ============================================================================
-- The loop
-- ============================================================================

omit [DecidableEq ι] in
theorem Purged.keys_nodup {cutoff : τ} {cap : Nat} {rows rest deleted : List ρ}
    (h : Purged time cutoff cap rows rest deleted) (hkeys : (rows.map key).Nodup) :
    (rest.map key).Nodup :=
  hkeys.sublist (h.kept.map key)

theorem purgeLoop_succ (by_ : Nat → OrderBy time) (cutoff : τ) (batch batches : Nat)
    (rows : List ρ) :
    purgeLoop key by_ cutoff batch (batches + 1) rows =
      if (purge key (by_ batches) cutoff batch rows).2.length < batch then
        purge key (by_ batches) cutoff batch rows
      else
        let next := purgeLoop key by_ cutoff batch batches
          (purge key (by_ batches) cutoff batch rows).1
        (next.1, (purge key (by_ batches) cutoff batch rows).2 ++ next.2) := rfl

/-- **The loop is one purge.**  Its cap is that of all batches together, whether it stops at
    a short batch or at the last one. -/
theorem purgeLoop_purged (by_ : Nat → OrderBy time) (cutoff : τ) (batch batches : Nat)
    {rows : List ρ} (hkeys : (rows.map key).Nodup) :
    Purged time cutoff (batches * batch) rows (purgeLoop key by_ cutoff batch batches rows).1
      (purgeLoop key by_ cutoff batch batches rows).2 := by
  induction batches generalizing rows with
  | zero =>
      rw [Nat.zero_mul]
      exact Purged.refl cutoff rows
  | succ batches ih =>
      have hfirst := purge_purged (by_ batches) cutoff batch hkeys
      rw [purgeLoop_succ]
      by_cases hshort : (purge key (by_ batches) cutoff batch rows).2.length < batch
      · rw [if_pos hshort]
        exact hfirst.of_lt hshort (Nat.le_mul_of_pos_left _ (Nat.succ_pos _))
      · rw [if_neg hshort, Nat.succ_mul, Nat.add_comm]
        exact hfirst.trans (ih (hfirst.keys_nodup hkeys))

end BatchedPurge
