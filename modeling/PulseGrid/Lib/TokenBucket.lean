/-
  PulseGrid.Lib.TokenBucket

  Token buckets in exact integer arithmetic: a bucket holds at most `capacity` tokens,
  regains one token every `period` units of time, and a request takes one if it is there.

  The level is kept in units of time, a token being `period` of them, so nothing is rounded:
  what is admitted in a window is at most the capacity plus one token per full period of it
  (`admittedIn_mul_period_le`), and a client that empties the bucket and then waits a period
  each time gets exactly that (`admitted_saturating`).

  The second half keeps one bucket a key and forgets the keys whose bucket is full again; the
  requests of a key see a bucket of their own (`Keyed.admittedFor_eq`).
-/

import Mathlib

structure TokenBucket where
  capacity : Nat
  period : Nat
deriving DecidableEq, Repr

namespace TokenBucket

/-- What a bucket holds at a time. -/
structure State where
  level : Nat
  last : Nat
deriving DecidableEq, Repr

variable (b : TokenBucket)

def full : Nat := b.capacity * b.period

def levelAt (s : State) (now : Nat) : Nat := min b.full (s.level + (now - s.last))

/-- A request at `now`: the bucket after it, and whether it was admitted. -/
def serve (now : Nat) (s : State) : State × Bool :=
  if b.period ≤ b.levelAt s now then (⟨b.levelAt s now - b.period, now⟩, true)
  else (⟨b.levelAt s now, now⟩, false)

/-- The times at which requests are admitted. -/
def admitted (s : State) : List Nat → List Nat
  | [] => []
  | now :: times =>
      if (b.serve now s).2 then now :: admitted (b.serve now s).1 times
      else admitted (b.serve now s).1 times

/-- The requests admitted in the window from `lo` to `hi`, both ends included. -/
def admittedIn (s : State) (times : List Nat) (lo hi : Nat) : Nat :=
  (b.admitted s times).countP fun now => lo ≤ now && now ≤ hi

/-- A bucket nobody has used yet. -/
def fresh (now : Nat) : State := ⟨b.full, now⟩

-- ============================================================================
-- One request
-- ============================================================================

variable {b}

theorem levelAt_le_full (s : State) (now : Nat) : b.levelAt s now ≤ b.full := Nat.min_le_left _ _

theorem levelAt_le (s : State) (now : Nat) : b.levelAt s now ≤ s.level + (now - s.last) :=
  Nat.min_le_right _ _

@[simp] theorem levelAt_last {s : State} (h : s.level ≤ b.full) : b.levelAt s s.last = s.level := by
  rw [levelAt, Nat.sub_self, Nat.add_zero, Nat.min_eq_right h]

theorem fst_serve_last (s : State) (now : Nat) : (b.serve now s).1.last = now := by
  rw [serve]
  split <;> rfl

/-- A request pays for its admission. -/
theorem level_serve (s : State) (now : Nat) :
    (b.serve now s).1.level + (if (b.serve now s).2 then b.period else 0) = b.levelAt s now := by
  rw [serve]
  split
  · next h =>
      show b.levelAt s now - b.period + b.period = b.levelAt s now
      omega
  · rfl

/-- Only the level at the time of the request matters. -/
theorem serve_congr {s s' : State} {now : Nat} (h : b.levelAt s now = b.levelAt s' now) :
    b.serve now s = b.serve now s' := by
  rw [serve, serve, h]

theorem admitted_congr {s s' : State} {now : Nat} (h : b.levelAt s now = b.levelAt s' now)
    (times : List Nat) : b.admitted s (now :: times) = b.admitted s' (now :: times) := by
  rw [admitted, admitted, serve_congr h]

-- ============================================================================
-- A run
-- ============================================================================

/-- Every admitted request is one of the requests. -/
theorem admitted_sublist (s : State) (times : List Nat) :
    (b.admitted s times).Sublist times := by
  induction times generalizing s with
  | nil => exact List.Sublist.refl _
  | cons now times ih =>
      rw [admitted]
      split
      · exact (ih _).cons_cons now
      · exact (ih _).cons now

/-- Nothing is admitted until `hi` by requests that come later. -/
theorem countP_admitted_of_lt {s : State} {now : Nat} (hi : Nat) {times : List Nat}
    {p : Nat → Bool} (hp : ∀ t, p t = true → t ≤ hi) (hsorted : (now :: times).Pairwise (· ≤ ·)) (h : hi < now) :
    (b.admitted s (now :: times)).countP p = 0 := by
  rw [List.countP_eq_zero]
  intro t ht hpt
  have hle : now ≤ t := by
    rcases List.mem_cons.mp ((admitted_sublist s (now :: times)).subset ht) with rfl | hmem
    · exact Nat.le_refl _
    · exact (List.pairwise_cons.mp hsorted).1 t hmem
  have := hp t hpt
  omega

/-- From a state on, until `hi`: what is there and what comes in pays for every admission. -/
theorem admitted_upTo_mul_period_le {s : State} (times : List Nat) {hi : Nat}
    (hlast : s.last ≤ hi) (hsorted : (s.last :: times).Pairwise (· ≤ ·)) :
    (b.admitted s times).countP (fun now => now ≤ hi) * b.period ≤ s.level + (hi - s.last) := by
  induction times generalizing s with
  | nil => simp [admitted]
  | cons now times ih =>
      obtain ⟨hfrom, hsorted⟩ := List.pairwise_cons.mp hsorted
      have hnow : s.last ≤ now := hfrom now List.mem_cons_self
      by_cases hin : now ≤ hi
      · have hpay := level_serve (b := b) s now
        have hlevel := levelAt_le (b := b) s now
        have hrest := ih (s := (b.serve now s).1) (by rwa [fst_serve_last])
          (by rwa [fst_serve_last])
        rw [fst_serve_last] at hrest
        rw [admitted]
        split
        · next hok =>
            rw [if_pos hok] at hpay
            rw [List.countP_cons_of_pos (by simpa using hin), Nat.succ_mul]
            omega
        · next hno =>
            rw [if_neg hno] at hpay
            omega
      · rw [countP_admitted_of_lt hi (by simp) hsorted (by omega), Nat.zero_mul]
        exact Nat.zero_le _

/-- **In every window**, what is admitted is at most the capacity and one token per period. -/
theorem admittedIn_mul_period_le {s : State} {times : List Nat} {lo hi : Nat} (hle : lo ≤ hi)
    (hsorted : (s.last :: times).Pairwise (· ≤ ·)) :
    b.admittedIn s times lo hi * b.period ≤ b.full + (hi - lo) := by
  rw [admittedIn]
  induction times generalizing s with
  | nil => simp [admitted]
  | cons now times ih =>
      have hnext := (List.pairwise_cons.mp hsorted).2
      by_cases hlo : lo ≤ now
      · -- the window begins before this request: pay from the level it finds
        have hlater := List.pairwise_cons.mp hnext
        have hfound : b.levelAt ⟨b.levelAt s now, now⟩ now = b.levelAt s now :=
          levelAt_last (levelAt_le_full s now)
        rw [← admitted_congr hfound]
        by_cases hhi : now ≤ hi
        · have hpay := admitted_upTo_mul_period_le (b := b) (s := ⟨b.levelAt s now, now⟩)
            (now :: times) hhi (List.pairwise_cons.mpr
              ⟨by
                intro t ht
                rcases List.mem_cons.mp ht with rfl | ht
                · exact Nat.le_refl _
                · exact hlater.1 t ht, hnext⟩)
          have hcount : (b.admitted ⟨b.levelAt s now, now⟩ (now :: times)).countP
              (fun t => lo ≤ t && t ≤ hi) ≤
              (b.admitted ⟨b.levelAt s now, now⟩ (now :: times)).countP (fun t => t ≤ hi) := by
            apply List.countP_mono_left
            intro t _ ht
            simp only [Bool.and_eq_true, decide_eq_true_eq] at ht ⊢
            exact ht.2
          have hmul := Nat.mul_le_mul_right b.period hcount
          have hfull := levelAt_le_full (b := b) s now
          show _ ≤ b.full + (hi - lo)
          simp only at hpay
          omega
        · rw [countP_admitted_of_lt hi (by simp) hnext (by omega), Nat.zero_mul]
          exact Nat.zero_le _
      · have hrest := ih (s := (b.serve now s).1) (by rwa [fst_serve_last])
        rw [admitted]
        split
        · rw [List.countP_cons_of_neg (by simp [hlo])]
          exact hrest
        · exact hrest

/-- The same as a number of requests. -/
theorem admittedIn_le (hperiod : 0 < b.period) {s : State} {times : List Nat} {lo hi : Nat}
    (hle : lo ≤ hi) (hsorted : (s.last :: times).Pairwise (· ≤ ·)) :
    b.admittedIn s times lo hi ≤ b.capacity + (hi - lo) / b.period := by
  have hpay := admittedIn_mul_period_le (b := b) hle hsorted
  have hcapacity : b.capacity + (hi - lo) / b.period = (b.full + (hi - lo)) / b.period := by
    rw [full, Nat.mul_comm, Nat.mul_add_div hperiod]
  rw [hcapacity, Nat.le_div_iff_mul_le hperiod]
  exact hpay

-- ============================================================================
-- The bound is reached
-- ============================================================================

/-- A bucket with tokens for all of them admits requests at once, and is left without these. -/
theorem admitted_replicate_append {n : Nat} (level now : Nat) (h : n * b.period + level ≤ b.full)
    (times : List Nat) :
    b.admitted ⟨n * b.period + level, now⟩ (List.replicate n now ++ times) =
      List.replicate n now ++ b.admitted ⟨level, now⟩ times := by
  induction n with
  | zero => rw [Nat.zero_mul, Nat.zero_add]; rfl
  | succ n ih =>
      rw [Nat.succ_mul] at h
      have hlevel : b.levelAt ⟨(n + 1) * b.period + level, now⟩ now =
          (n + 1) * b.period + level := levelAt_last (by rw [Nat.succ_mul]; exact h)
      have hserve : b.serve now ⟨(n + 1) * b.period + level, now⟩ =
          (⟨n * b.period + level, now⟩, true) := by
        rw [serve, hlevel, if_pos (by rw [Nat.succ_mul]; omega)]
        congr 2
        rw [Nat.succ_mul]
        omega
      rw [List.replicate_succ, List.cons_append, admitted, hserve, if_pos rfl, ih (by omega)]
      rfl

/-- An empty bucket admits one request after every period. -/
theorem admitted_every_period (hcapacity : 1 ≤ b.capacity) (start n : Nat) :
    b.admitted ⟨0, start⟩ ((List.range n).map fun i => start + (i + 1) * b.period) =
      (List.range n).map fun i => start + (i + 1) * b.period := by
  induction n generalizing start with
  | zero => rfl
  | succ n ih =>
      have hfull : b.period ≤ b.full := by
        rw [full]
        exact Nat.le_mul_of_pos_left _ hcapacity
      have hserve : b.serve (start + b.period) ⟨0, start⟩ = (⟨0, start + b.period⟩, true) := by
        have hlevel : b.levelAt ⟨0, start⟩ (start + b.period) = b.period := by
          show min b.full (0 + (start + b.period - start)) = b.period
          omega
        rw [serve, hlevel, if_pos (Nat.le_refl _), Nat.sub_self]
      have hshift : ((List.range (n + 1)).map fun i => start + (i + 1) * b.period) =
          (start + b.period) ::
            (List.range n).map fun i => (start + b.period) + (i + 1) * b.period := by
        rw [List.range_succ_eq_map, List.map_cons, List.map_map, Nat.zero_add, Nat.one_mul]
        congr 1
        apply List.map_congr_left
        intro i _
        show start + (i + 1 + 1) * b.period = _
        rw [Nat.succ_mul (i + 1)]
        omega
      rw [hshift, admitted, hserve, if_pos rfl, ih]

/-- The whole capacity at once and then one request a period. -/
def saturating (b : TokenBucket) (n : Nat) : List Nat :=
  List.replicate b.capacity 0 ++ (List.range n).map fun i => 0 + (i + 1) * b.period

theorem saturating_sorted (n : Nat) : (0 :: b.saturating n).Pairwise (· ≤ ·) := by
  rw [saturating, ← List.cons_append, ← List.replicate_succ, List.pairwise_append]
  refine ⟨List.pairwise_replicate.mpr (.inr (Nat.le_refl _)), ?_, ?_⟩
  · rw [List.pairwise_map]
    apply List.pairwise_lt_range.imp
    intro i j hij
    have := Nat.mul_le_mul_right b.period (show i + 1 ≤ j + 1 by omega)
    omega
  · intro t ht t' _
    rw [(List.mem_replicate.mp ht).2]
    exact Nat.zero_le _

/-- All of these requests are admitted. -/
theorem admittedIn_saturating (hcapacity : 1 ≤ b.capacity) (n : Nat) :
    b.admittedIn (b.fresh 0) (b.saturating n) 0 (n * b.period) = b.capacity + n := by
  have hall : b.admitted (b.fresh 0) (b.saturating n) = b.saturating n := by
    have hstart := admitted_replicate_append (b := b) (n := b.capacity) 0 0
      (Nat.le_refl _) ((List.range n).map fun i => 0 + (i + 1) * b.period)
    rw [admitted_every_period hcapacity] at hstart
    exact hstart
  have hin : ∀ t ∈ b.saturating n, (0 ≤ t && t ≤ n * b.period) = true := by
    intro t ht
    simp only [Nat.zero_le, decide_true, Bool.true_and, decide_eq_true_eq]
    rcases List.mem_append.mp ht with ht | ht
    · rw [(List.mem_replicate.mp ht).2]
      exact Nat.zero_le _
    · obtain ⟨i, hi, rfl⟩ := List.mem_map.mp ht
      have := Nat.mul_le_mul_right b.period (show i + 1 ≤ n from List.mem_range.mp hi)
      omega
  rw [admittedIn, hall, List.countP_eq_length.mpr hin, saturating, List.length_append,
    List.length_replicate, List.length_map, List.length_range]

-- ============================================================================
-- One bucket a key
-- ============================================================================

/-- The cells of the keys that are not forgotten. -/
abbrev Cells (K : Type) := K → Option State

inductive Event (K : Type) where
  | request (key : K)
  /-- Forget the keys whose bucket is full. -/
  | forgetIdle
deriving DecidableEq, Repr

variable {K : Type} [DecidableEq K]

variable (b)

/-- The bucket of a key; a key that is not there gets a fresh one. -/
def cellAt (cells : Cells K) (key : K) (now : Nat) : State := (cells key).getD (b.fresh now)

/-- An event: the cells after it, and whether a request was admitted. -/
def handle (now : Nat) (cells : Cells K) : Event K → Cells K × Bool
  | .request key =>
      let (s, ok) := b.serve now (b.cellAt cells key now)
      (fun k => if k = key then some s else cells k, ok)
  | .forgetIdle => (fun k => (cells k).filter fun s => b.levelAt s now < b.full, false)

/-- The admitted requests of all keys. -/
def handleAll (cells : Cells K) : List (Nat × Event K) → List (Nat × K)
  | [] => []
  | (now, event) :: events =>
      let later := handleAll (b.handle now cells event).1 events
      match event with
      | .request key => if (b.handle now cells event).2 then (now, key) :: later else later
      | .forgetIdle => later

variable {b}

/-- The times of a key's requests. -/
def timesOf (key : K) (events : List (Nat × Event K)) : List Nat :=
  events.filterMap fun e => if e.2 = .request key then some e.1 else none

/-- A key's cell is as good as the bucket: the same one, or forgotten when it was full. -/
def Agrees (b : TokenBucket) (cell : Option State) (s : State) (now : Nat) : Prop :=
  cell = some s ∨ cell = none ∧ b.levelAt s now = b.full

/-- A bucket that is full stays so while it waits. -/
theorem levelAt_eq_full_mono {s : State} {now now' : Nat} (h : b.levelAt s now = b.full)
    (hle : now ≤ now') : b.levelAt s now' = b.full := by
  rw [levelAt] at h ⊢
  omega

theorem Agrees.mono {cell : Option State} {s : State} {now now' : Nat}
    (h : Agrees b cell s now) (hle : now ≤ now') : Agrees b cell s now' :=
  h.imp_right fun ⟨hnone, hfull⟩ => ⟨hnone, levelAt_eq_full_mono hfull hle⟩

omit [DecidableEq K] in
theorem Agrees.serve_eq {cells : Cells K} {key : K} {s : State} {now : Nat}
    (h : Agrees b (cells key) s now) :
    b.serve now (b.cellAt cells key now) = b.serve now s := by
  rcases h with hsome | ⟨hnone, hfull⟩
  · rw [cellAt, hsome, Option.getD_some]
  · have hfresh : b.levelAt (b.fresh now) now = b.full := levelAt_last (Nat.le_refl b.full)
    rw [cellAt, hnone, Option.getD_none, serve_congr (hfresh.trans hfull.symm)]

/-- Forgetting a full bucket loses nothing. -/
theorem Agrees.filter {cell : Option State} {s : State} {now : Nat} (h : Agrees b cell s now) :
    Agrees b (cell.filter fun s => b.levelAt s now < b.full) s now := by
  rcases h with rfl | ⟨rfl, hfull⟩
  · by_cases hlt : b.levelAt s now < b.full
    · exact .inl (by rw [Option.filter_some, if_pos (by simpa using hlt)])
    · have hle := levelAt_le_full (b := b) s now
      exact .inr ⟨by rw [Option.filter_some, if_neg (by simpa using hlt)], by omega⟩
  · exact .inr ⟨rfl, hfull⟩

/-- **Each key has a bucket of its own**: whatever other keys do, and whenever idle keys are
    forgotten, the admitted requests of a key are those of one bucket that sees only its
    requests. -/
theorem handleAll_key (key : K) {events : List (Nat × Event K)} (cells : Cells K) {s : State}
    {start : Nat} (hagree : Agrees b (cells key) s start)
    (hsorted : (start :: events.map Prod.fst).Pairwise (· ≤ ·)) :
    ((b.handleAll cells events).filter fun r => r.2 = key).map Prod.fst =
      b.admitted s (timesOf key events) := by
  induction events generalizing cells s start with
  | nil => rfl
  | cons e events ih =>
      obtain ⟨now, event⟩ := e
      rw [List.map_cons] at hsorted
      obtain ⟨hfrom, hsorted⟩ := List.pairwise_cons.mp hsorted
      have hagree := hagree.mono (hfrom now List.mem_cons_self)
      cases event with
      | forgetIdle =>
          have htimes : timesOf key ((now, .forgetIdle) :: events) = timesOf key events := rfl
          rw [htimes]
          exact ih (b.handle now cells .forgetIdle).1 hagree.filter hsorted
      | request k =>
          by_cases hk : k = key
          · subst hk
            have hserve := hagree.serve_eq
            have hrest := ih (b.handle now cells (.request k)).1
              (s := (b.serve now s).1) (.inl (by
                show (if k = k then some (b.serve now (b.cellAt cells k now)).1 else cells k) = _
                rw [if_pos rfl, hserve])) hsorted
            have hok : (b.handle now cells (.request k)).2 = (b.serve now s).2 := by
              rw [← hserve]
              rfl
            have htimes : timesOf k ((now, .request k) :: events) = now :: timesOf k events := by
              simp [timesOf]
            rw [htimes, handleAll, admitted, hok]
            split
            · rw [List.filter_cons_of_pos (by simp), List.map_cons, hrest]
            · exact hrest
          · have hcell : (b.handle now cells (.request k)).1 key = cells key := if_neg (Ne.symm hk)
            have hrest := ih (b.handle now cells (.request k)).1 (s := s)
              (by rw [hcell]; exact hagree) hsorted
            have htimes : timesOf key ((now, .request k) :: events) = timesOf key events := by
              simp [timesOf, hk]
            rw [htimes, handleAll]
            split
            · rw [List.filter_cons_of_neg (by simpa using hk)]
              exact hrest
            · exact hrest

/-- The requests of a key admitted in a window. -/
def admittedForIn (b : TokenBucket) (events : List (Nat × Event K)) (key : K) (lo hi : Nat) : Nat :=
  (b.handleAll (fun _ => none) events).countP fun r => r.2 = key && (lo ≤ r.1 && r.1 ≤ hi)

theorem admittedForIn_eq (key : K) {events : List (Nat × Event K)} (lo hi : Nat)
    (hsorted : (events.map Prod.fst).Pairwise (· ≤ ·)) :
    b.admittedForIn events key lo hi = b.admittedIn (b.fresh 0) (timesOf key events) lo hi := by
  have hagree : Agrees b ((fun _ => none : Cells K) key) (b.fresh 0) 0 :=
    .inr ⟨rfl, levelAt_last (Nat.le_refl b.full)⟩
  have hzero : (0 :: events.map Prod.fst).Pairwise (· ≤ ·) :=
    List.pairwise_cons.mpr ⟨fun _ _ => Nat.zero_le _, hsorted⟩
  rw [admittedIn, ← handleAll_key key (fun _ => none) hagree hzero, List.countP_map,
    List.countP_filter, admittedForIn]
  apply List.countP_congr
  intro r _
  simp only [Bool.and_eq_true, Function.comp_apply]
  exact and_comm

/-- The times of a key's requests are sorted when all are. -/
theorem timesOf_sublist (key : K) (events : List (Nat × Event K)) :
    (timesOf key events).Sublist (events.map Prod.fst) := by
  induction events with
  | nil => exact List.Sublist.refl _
  | cons e events ih =>
      rw [timesOf, List.filterMap_cons, List.map_cons]
      split
      · exact ih.cons _
      · next t h =>
          obtain ⟨-, ht⟩ := Option.ite_none_right_eq_some.mp h
          rw [← Option.some.inj ht]
          exact ih.cons_cons _

/-- **In every window**, the admitted requests of a key are at most the capacity and one per
    period. -/
theorem admittedForIn_le (hperiod : 0 < b.period) (key : K) {events : List (Nat × Event K)}
    {lo hi : Nat} (hle : lo ≤ hi) (hsorted : (events.map Prod.fst).Pairwise (· ≤ ·)) :
    b.admittedForIn events key lo hi ≤ b.capacity + (hi - lo) / b.period := by
  rw [admittedForIn_eq key lo hi hsorted]
  apply admittedIn_le hperiod hle
  exact List.pairwise_cons.mpr
    ⟨fun _ _ => Nat.zero_le _, hsorted.sublist (timesOf_sublist key events)⟩

/-- The saturating requests of one key. -/
def saturatingFor (b : TokenBucket) (key : K) (n : Nat) : List (Nat × Event K) :=
  (b.saturating n).map fun now => (now, .request key)

theorem admittedForIn_saturatingFor (hcapacity : 1 ≤ b.capacity) (key : K) (n : Nat) :
    (b.saturatingFor key n).map Prod.fst = b.saturating n ∧
    b.admittedForIn (b.saturatingFor key n) key 0 (n * b.period) = b.capacity + n := by
  have htimes : (b.saturatingFor key n).map Prod.fst = b.saturating n := by
    rw [saturatingFor, List.map_map]
    exact List.map_id _
  refine ⟨htimes, ?_⟩
  have hown : timesOf key (b.saturatingFor key n) = b.saturating n := by
    rw [timesOf, saturatingFor, List.filterMap_map]
    simp
  have hsorted := (List.pairwise_cons.mp (saturating_sorted (b := b) n)).2
  rw [admittedForIn_eq key _ _ (htimes ▸ hsorted), hown, admittedIn_saturating hcapacity]

end TokenBucket
