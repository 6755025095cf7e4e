/-
  PulseGrid.Infra.Histogram

  The fixed-bucket histogram of crates/infra/src/metrics.rs: `Histogram::new`, `observe` and
  the values that `render` writes.

  Slots are disjoint and hold `u64`s that wrap; `buckets_observeAll` says that after any
  observations each holds the library's bucket count, and `render_observeAll` that what is
  rendered is cumulative.
-/

import PulseGrid.Lib.BucketCounts
import PulseGrid.Lib.Float64

namespace PulseGrid.Infra

-- ============================================================================
-- The histogram
-- ============================================================================

/-- A histogram.  `buckets` has one slot per bound and a final one for values above every
    bound. -/
structure Histogram where
  bounds : List Float64
  buckets : List UInt64
  count : UInt64
  sumMicros : UInt64
  buckets_length : buckets.length = bounds.length + 1
deriving DecidableEq, Repr

namespace Histogram

/-- `sort_by` with `partial_cmp`, which is stable. -/
def sortBounds (bounds : List Float64) : List Float64 := bounds.insertionSort Float64.ValueLE

/-- `Histogram::new`.  Sorting two bounds or more compares each of them, which panics on a
    NaN. -/
def new (bounds : List Float64) : Option Histogram :=
  if 2 ≤ bounds.length ∧ bounds.any Float64.isNaN then none
  else some {
    bounds := sortBounds bounds
    buckets := List.replicate ((sortBounds bounds).length + 1) 0
    count := 0
    sumMicros := 0
    buckets_length := List.length_replicate }

/-- `(value * 1e6).max(0.0) as u64`. -/
def toMicros (value : Float64) : UInt64 :=
  ((value.mul (Float64.ofNat 1_000_000)).max Float64.zero).toU64

def observe (self : Histogram) (value : Float64) : Histogram :=
  let idx := self.bounds.findIdx fun b => value.le b
  { self with
    buckets := self.buckets.modify idx (· + 1)
    count := self.count + 1
    sumMicros := self.sumMicros + toMicros value
    buckets_length := by rw [List.length_modify, self.buckets_length] }

def observeAll (self : Histogram) (values : List Float64) : Histogram :=
  values.foldl observe self

/-- `sum`. -/
def sum (self : Histogram) : Float64 :=
  (Float64.ofNat self.sumMicros.toNat).div (Float64.ofNat 1_000_000)

/-- The loop of `render` over the bounds and their slots: the value of each bucket line, and of
    the `+Inf` line. -/
def cumulative (total : UInt64) : List Float64 → List UInt64 → List (Float64 × UInt64) × UInt64
  | b :: bounds, n :: buckets =>
      let rest := cumulative (total + n) bounds buckets
      ((b, total + n) :: rest.1, rest.2)
  | [], n :: _ => ([], total + n)
  | _, [] => ([], total)

/-- The values that `render` writes. -/
structure Rendered where
  buckets : List (Float64 × UInt64)
  inf : UInt64
  sum : Float64
  count : UInt64
deriving DecidableEq, Repr

def render (self : Histogram) : Rendered :=
  let rows := cumulative 0 self.bounds self.buckets
  { buckets := rows.1, inf := rows.2, sum := self.sum, count := self.count }

-- ============================================================================
-- Observations
-- ============================================================================

@[simp] theorem observe_bounds (self : Histogram) (value : Float64) :
    (self.observe value).bounds = self.bounds := rfl

theorem observeAll_append_singleton (self : Histogram) (values : List Float64) (value : Float64) :
    self.observeAll (values ++ [value]) = (self.observeAll values).observe value := by
  rw [observeAll, List.foldl_append]
  rfl

@[simp] theorem observeAll_bounds (self : Histogram) (values : List Float64) :
    (self.observeAll values).bounds = self.bounds := by
  induction values using List.reverseRecOn with
  | nil => rfl
  | append_singleton values value ih =>
      rw [observeAll_append_singleton, observe_bounds, ih]

theorem observeAll_count (self : Histogram) (values : List Float64) :
    (self.observeAll values).count = self.count + UInt64.ofNat values.length := by
  induction values using List.reverseRecOn with
  | nil => exact (UInt64.add_zero _).symm
  | append_singleton values value ih =>
      rw [observeAll_append_singleton, List.length_append, List.length_singleton,
        UInt64.ofNat_add, ← UInt64.add_assoc, ← ih]
      rfl

theorem observeAll_sumMicros (self : Histogram) (values : List Float64) :
    (self.observeAll values).sumMicros = self.sumMicros + (values.map toMicros).sum := by
  induction values using List.reverseRecOn with
  | nil => exact (UInt64.add_zero _).symm
  | append_singleton values value ih =>
      rw [observeAll_append_singleton, List.map_append, List.sum_append, ← UInt64.add_assoc, ← ih,
        List.map_singleton, List.sum_singleton]
      rfl

theorem map_modify_ofNat (ns : List Nat) (i : Nat) :
    (ns.modify i (· + 1)).map UInt64.ofNat = (ns.map UInt64.ofNat).modify i (· + 1) := by
  induction ns generalizing i with
  | nil => simp
  | cons n ns ih =>
      cases i with
      | zero => simp [UInt64.ofNat_add]
      | succ i => simp [ih]

/-- Each slot holds the number of values whose first bound it is. -/
theorem observeAll_buckets {self : Histogram}
    (hzero : self.buckets = List.replicate (self.bounds.length + 1) 0) (values : List Float64) :
    (self.observeAll values).buckets =
      (BucketCounts.counts Float64.le self.bounds values).map UInt64.ofNat := by
  induction values using List.reverseRecOn with
  | nil =>
      rw [BucketCounts.counts_nil, List.map_replicate]
      exact hzero
  | append_singleton values value ih =>
      rw [observeAll_append_singleton, BucketCounts.counts_append_singleton, map_modify_ofNat, ← ih]
      show (self.observeAll values).buckets.modify _ _ = _
      rw [observeAll_bounds]
      rfl

-- ============================================================================
-- Rendering
-- ============================================================================

/-- The loop writes the running sums, one line a bound. -/
theorem cumulative_ofNat {bounds : List Float64} {ns : List Nat}
    (hlen : ns.length = bounds.length + 1) (total : Nat) :
    let rows := cumulative (UInt64.ofNat total) bounds (ns.map UInt64.ofNat)
    rows.1.map Prod.fst = bounds ∧
      rows.1.map Prod.snd ++ [rows.2] = (BucketCounts.cumulate total ns).map UInt64.ofNat := by
  induction bounds generalizing ns total with
  | nil =>
      obtain ⟨n, rfl⟩ := List.length_eq_one_iff.mp hlen
      simp [cumulative, BucketCounts.cumulate, UInt64.ofNat_add]
  | cons b bounds ih =>
      cases ns with
      | nil => cases hlen
      | cons n ns =>
          obtain ⟨hfst, hsnd⟩ := ih (Nat.succ.inj hlen) (total + n)
          rw [UInt64.ofNat_add] at hfst hsnd
          refine ⟨?_, ?_⟩
          · exact congrArg (b :: ·) hfst
          · have hnext : (BucketCounts.cumulate total (n :: ns)).map UInt64.ofNat =
                (UInt64.ofNat total + UInt64.ofNat n) ::
                  (BucketCounts.cumulate (total + n) ns).map UInt64.ofNat := by
              rw [BucketCounts.cumulate, List.map_cons, UInt64.ofNat_add]
            rw [hnext, ← hsnd]
            rfl

/-- On the bucket counts of values, the loop writes how many are within each bound. -/
theorem cumulative_counts {bounds : List Float64}
    (hascending : BucketCounts.Ascending Float64.le bounds) (values : List Float64) :
    cumulative 0 bounds ((BucketCounts.counts Float64.le bounds values).map UInt64.ofNat) =
      (bounds.map fun b => (b, UInt64.ofNat (values.countP fun v => v.le b)),
        UInt64.ofNat values.length) := by
  obtain ⟨hfst, hsnd⟩ :=
    cumulative_ofNat (BucketCounts.length_counts Float64.le bounds values) 0
  rw [BucketCounts.cumulate_counts Float64.le hascending, List.map_append, List.map_map] at hsnd
  obtain ⟨hcounts, hall⟩ := List.append_inj' hsnd rfl
  have hrows := List.zip_of_prod hfst hcounts
  refine Prod.ext_iff.mpr ⟨hrows.trans ?_, ?_⟩
  · have hpairs := List.zip_map' (f := id) (l := bounds)
      (g := fun b => UInt64.ofNat (values.countP fun v => v.le b))
    simpa [Function.comp_def] using hpairs
  · simpa using hall

theorem sortBounds_perm (bounds : List Float64) : (sortBounds bounds).Perm bounds :=
  List.perm_insertionSort _ _

/-- Sorted bounds without a NaN ascend. -/
theorem ascending_sortBounds {bounds : List Float64} (hnan : ∀ b ∈ bounds, b.isNaN = false) :
    BucketCounts.Ascending Float64.le (sortBounds bounds) := by
  have hsorted : (sortBounds bounds).Pairwise Float64.ValueLE :=
    List.pairwise_insertionSort _ bounds
  apply hsorted.imp_of_mem
  intro b b' _ hb' hle v hv
  exact Float64.le_of_le_of_valueLE hv hle (hnan b' ((sortBounds_perm bounds).mem_iff.mp hb'))

theorem new_of_not_nan {bounds : List Float64} (hnan : ∀ b ∈ bounds, b.isNaN = false) :
    ∃ self, new bounds = some self ∧ self.bounds = sortBounds bounds ∧
      self.buckets = List.replicate (self.bounds.length + 1) 0 ∧ self.count = 0 ∧
      self.sumMicros = 0 := by
  have hany : ¬ (2 ≤ bounds.length ∧ bounds.any Float64.isNaN = true) := by
    rintro ⟨-, hany⟩
    obtain ⟨b, hb, hbnan⟩ := List.any_eq_true.mp hany
    rw [hnan b hb] at hbnan
    cases hbnan
  exact ⟨_, if_neg hany, rfl, rfl, rfl, rfl⟩

/-- What is rendered after any observations, in wrapping arithmetic. -/
theorem render_eq {bounds : List Float64} {self : Histogram} (hnew : new bounds = some self)
    (hnan : ∀ b ∈ bounds, b.isNaN = false) (values : List Float64) :
    (self.observeAll values).render =
      { buckets := (sortBounds bounds).map fun b =>
          (b, UInt64.ofNat (values.countP fun v => v.le b))
        inf := UInt64.ofNat values.length
        sum := (Float64.ofNat (values.map toMicros).sum.toNat).div (Float64.ofNat 1_000_000)
        count := UInt64.ofNat values.length } := by
  obtain ⟨self', hnew', hbounds, hbuckets, hcount, hsum⟩ := new_of_not_nan hnan
  obtain rfl := Option.some.inj (hnew.symm.trans hnew')
  rw [render, observeAll_bounds, observeAll_buckets hbuckets, hbounds,
    cumulative_counts (ascending_sortBounds hnan), sum, observeAll_sumMicros, observeAll_count,
    hsum, hcount, UInt64.zero_add, UInt64.zero_add]

/-- What is rendered after the observations is cumulative: a line for every bound, whose value
    is the number of observations within it, values that do not decrease, the number of
    observations on the `+Inf` line and as the count, and all of it in any order of the
    observations. -/
structure Cumulative (bounds : List Float64) (histogram : Histogram) (values : List Float64) :
    Prop where
  bound_lines : ((histogram.observeAll values).render.buckets.map Prod.fst).Perm bounds
  within_bound : ∀ b n, (b, n) ∈ (histogram.observeAll values).render.buckets →
    n.toNat = values.countP fun v => v.le b
  ascending : ((histogram.observeAll values).render.buckets.map Prod.snd ++
    [(histogram.observeAll values).render.inf]).Pairwise (· ≤ ·)
  inf_eq_count : (histogram.observeAll values).render.inf = (histogram.observeAll values).render.count
  count_eq_length : (histogram.observeAll values).render.count.toNat = values.length
  any_order : ∀ values' : List Float64, values'.Perm values →
    (histogram.observeAll values').render = (histogram.observeAll values).render

/-- **Rendered buckets are cumulative counts**, for bounds without a NaN, in any order and with
    duplicates, and fewer than 2^64 observations. -/
theorem render_cumulative {bounds values : List Float64} (hnan : ∀ b ∈ bounds, b.isNaN = false)
    (hlen : values.length < 2 ^ 64) :
    ∃ self, new bounds = some self ∧ Cumulative bounds self values := by
  obtain ⟨self, hnew, -⟩ := new_of_not_nan hnan
  have hrender := render_eq hnew hnan
  have hcount (b : Float64) : (UInt64.ofNat (values.countP fun v => v.le b)).toNat =
      values.countP fun v => v.le b :=
    UInt64.toNat_ofNat_of_lt' (Nat.lt_of_le_of_lt List.countP_le_length hlen)
  have hall : (UInt64.ofNat values.length).toNat = values.length :=
    UInt64.toNat_ofNat_of_lt' hlen
  refine ⟨self, hnew, ?_, ?_, ?_, ?_, ?_, ?_⟩
  · have hfst : ((sortBounds bounds).map fun b =>
        (b, UInt64.ofNat (values.countP fun v => v.le b))).map Prod.fst = sortBounds bounds := by
      rw [List.map_map]
      exact List.map_id _
    rw [hrender values, hfst]
    exact sortBounds_perm bounds
  · intro b n hmem
    rw [hrender values] at hmem
    obtain ⟨b', -, heq⟩ := List.mem_map.mp hmem
    obtain ⟨rfl, rfl⟩ := Prod.mk.inj heq
    exact hcount b'
  · rw [hrender values, List.pairwise_append, List.map_map, List.pairwise_map]
    refine ⟨?_, List.pairwise_singleton _ _, ?_⟩
    · apply (ascending_sortBounds hnan).imp
      intro b b' hwithin
      rw [Function.comp_apply, Function.comp_apply, UInt64.le_iff_toNat_le, hcount, hcount]
      exact List.countP_mono_left fun v _ hv => hwithin v hv
    · intro n hn m hm
      obtain ⟨b, -, rfl⟩ := List.mem_map.mp hn
      obtain rfl := List.mem_singleton.mp hm
      rw [Function.comp_apply, UInt64.le_iff_toNat_le, hcount, hall]
      exact List.countP_le_length
  · rw [hrender values]
  · rw [hrender values]
    exact hall
  · intro values' hperm
    rw [hrender values', hrender values, hperm.length_eq, (hperm.map toMicros).sum_eq]
    simp only [hperm.countP_eq]

/-- The doubles 1, 0.01, 0.1 and 0.1. -/
def exampleBounds : List Float64 :=
  [⟨0x3FF0000000000000⟩, ⟨0x3F847AE147AE147B⟩, ⟨0x3FB999999999999A⟩, ⟨0x3FB999999999999A⟩]

/-- The doubles 5, 0.1, 0.05 and 0.005. -/
def exampleValues : List Float64 :=
  [⟨0x4014000000000000⟩, ⟨0x3FB999999999999A⟩, ⟨0x3FA999999999999A⟩, ⟨0x3F747AE147AE147B⟩]

theorem render_cumulative_example :
    ∃ self, new exampleBounds = some self ∧ Cumulative exampleBounds self exampleValues :=
  render_cumulative (by decide) (by decide)

/-- 2^64 observations wrap the count to zero. -/
theorem render_wraps :
    ¬ ∀ bounds values : List Float64, (∀ b ∈ bounds, b.isNaN = false) →
      ∃ self, new bounds = some self ∧ Cumulative bounds self values := by
  intro hall
  obtain ⟨self, hnew, hcumulative⟩ :=
    hall [] (List.replicate (2 ^ 64) Float64.zero) (by simp)
  have hlength := hcumulative.count_eq_length
  rw [render_eq hnew (by simp), List.length_replicate] at hlength
  exact absurd hlength (by decide)

end Histogram

end PulseGrid.Infra
