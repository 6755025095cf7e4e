/-
  PulseGrid.Worker.AckBatching

  Whole sequences of `AckBatcher::offer` calls ending in `take_pending`
  (crates/fanout-worker/src/replay.rs), as `handle_socket` makes them: one call for
  each acknowledgement of a connection, and the flush when it ends.

  `offer_cases` says everything a call can do.  The value on its way to Redis is
  carried by the run from any state: the newest of what is written and what is left
  pending is the newest of what was pending before and what was accepted
  (`offerAll_max`).  The spacing of the writes is an invariant on `last_write`
  (`offerAll_spaced`).
-/

import PulseGrid.Worker.Replay

namespace PulseGrid.Worker

-- ============================================================================
-- Runs
-- ============================================================================

/-- The arguments of one `AckBatcher::offer` call. -/
structure Ack where
  ts : Int
  wallNow : Int
  now : Int
deriving DecidableEq, Repr

/-- The value of a `Write`. -/
def AckOutcome.written : AckOutcome → Option Int
  | .write cursor => some cursor
  | _ => none

namespace AckBatcher

/-- `AckBatcher::new`. -/
def new (minInterval : Int) : AckBatcher where
  minInterval := minInterval

/-- The calls in order, each with its outcome, and the batcher they leave. -/
def offerAll (b : AckBatcher) : List Ack → AckBatcher × List (Ack × AckOutcome)
  | [] => (b, [])
  | a :: acks =>
      let (b', outcome) := b.offer a.ts a.wallNow a.now
      let (last, trace) := b'.offerAll acks
      (last, (a, outcome) :: trace)

end AckBatcher

/-- The values the calls say to write. -/
def writtenBy (trace : List (Ack × AckOutcome)) : List Int :=
  trace.filterMap fun r => r.2.written

/-- The timestamps of the calls that were not ignored. -/
def acceptedBy (trace : List (Ack × AckOutcome)) : List Int :=
  (trace.filter fun r => r.2 ≠ .ignored).map fun r => r.1.ts

-- ============================================================================
-- One call
-- ============================================================================

namespace AckBatcher

/-- What is pending once `ts` is accepted. -/
def best (b : AckBatcher) (ts : Int) : Int := b.pending.elim ts (max ts)

/-- A write is due at `now`. -/
def Due (b : AckBatcher) (now : Int) : Prop :=
  ∀ last, b.lastWrite = some last → b.minInterval ≤ max (now - last) 0

/-- Everything a call can do. -/
theorem offer_cases (b : AckBatcher) (ts wallNow now : Int) :
    b.offer ts wallNow now = (b, .ignored) ∨
    (b.Due now ∧ b.offer ts wallNow now =
      ({ b with lastWrite := some now, pending := none }, .write (b.best ts))) ∨
    (b.offer ts wallNow now = ({ b with pending := some (b.best ts) }, .buffered)) := by
  by_cases hfuture : ts > wallNow + futureAckTolerance
  · left
    rw [offer, if_pos hfuture]
  · right
    have hbest (p : Int) : (if p ≥ ts then p else ts) = max ts p := by
      split <;> omega
    rw [offer, if_neg hfuture]
    rcases b with ⟨minInterval, lastWrite, pending⟩
    cases lastWrite with
    | none =>
        left
        cases pending with
        | none => exact ⟨by simp [Due], rfl⟩
        | some p => exact ⟨by simp [Due], by simp [best, hbest]⟩
    | some last =>
        by_cases hdue : minInterval ≤ max (now - last) 0
        · left
          have hd : Due ⟨minInterval, some last, pending⟩ now := by
            rintro last' h
            cases h
            exact hdue
          cases pending with
          | none => exact ⟨hd, by simp [best, hdue]⟩
          | some p => exact ⟨hd, by simp [best, hbest, hdue]⟩
        · right
          cases pending with
          | none => simp [best, hdue]
          | some p => simp [best, hbest, hdue]

theorem offer_ignored {b : AckBatcher} {ts wallNow now : Int}
    (h : (b.offer ts wallNow now).2 = .ignored) : (b.offer ts wallNow now).1 = b := by
  rcases b.offer_cases ts wallNow now with heq | ⟨-, heq⟩ | heq
  · rw [heq]
  · rw [heq] at h
    simp at h
  · rw [heq] at h
    simp at h

/-- Merging a timestamp into what is pending does not change the maximum. -/
theorem best_cons_max? (b : AckBatcher) (ts : Int) (later : List Int) :
    (b.best ts :: later).max? = (b.pending.toList ++ ts :: later).max? := by
  cases hp : b.pending with
  | none => simp [best, hp]
  | some p =>
      simp only [best, hp, Option.elim_some, Option.toList_some, List.singleton_append,
        List.max?_cons, Option.some.injEq]
      cases later.max? with
      | none =>
          show max ts p = max p ts
          omega
      | some m =>
          show max (max ts p) m = max p (max ts m)
          omega

-- ============================================================================
-- Whole sequences
-- ============================================================================

@[simp] theorem offerAll_nil (b : AckBatcher) : b.offerAll [] = (b, []) := rfl

theorem offerAll_cons (b : AckBatcher) (a : Ack) (acks : List Ack) :
    b.offerAll (a :: acks) =
      (((b.offer a.ts a.wallNow a.now).1.offerAll acks).1,
        (a, (b.offer a.ts a.wallNow a.now).2) ::
          ((b.offer a.ts a.wallNow a.now).1.offerAll acks).2) := rfl

theorem offerAll_calls (b : AckBatcher) (acks : List Ack) :
    (b.offerAll acks).2.map Prod.fst = acks := by
  induction acks generalizing b with
  | nil => rfl
  | cons a acks ih => rw [offerAll_cons, List.map_cons, ih]

/-- The newest of what a run writes and leaves pending is the newest of what was pending
    and what it accepts. -/
theorem offerAll_max (b : AckBatcher) (acks : List Ack) :
    (writtenBy (b.offerAll acks).2 ++ (b.offerAll acks).1.pending.toList).max? =
      (b.pending.toList ++ acceptedBy (b.offerAll acks).2).max? := by
  induction acks generalizing b with
  | nil => simp [writtenBy, acceptedBy]
  | cons a acks ih =>
      rw [offerAll_cons]
      rcases b.offer_cases a.ts a.wallNow a.now with heq | ⟨-, heq⟩ | heq
      · rw [heq]
        simpa [writtenBy, acceptedBy, AckOutcome.written] using ih b
      · -- what was pending is written together with the new timestamp
        rw [heq]
        have hrest := ih { b with lastWrite := some a.now, pending := none }
        simp only [Option.toList_none, List.nil_append] at hrest
        simp only [writtenBy, acceptedBy, AckOutcome.written, List.filterMap_cons,
          List.cons_append, ne_eq, reduceCtorEq, not_false_eq_true, decide_true,
          List.filter_cons_of_pos, List.map_cons] at hrest ⊢
        rw [← b.best_cons_max?, List.max?_cons, List.max?_cons, hrest]
      · rw [heq]
        have hrest := ih { b with pending := some (b.best a.ts) }
        simp only [Option.toList_some, List.singleton_append, writtenBy, acceptedBy,
          AckOutcome.written, List.filterMap_cons, ne_eq, reduceCtorEq, not_false_eq_true,
          decide_true, List.filter_cons_of_pos, List.map_cons] at hrest ⊢
        rw [hrest, b.best_cons_max?]

theorem offer_minInterval (b : AckBatcher) (a : Ack) :
    (b.offer a.ts a.wallNow a.now).1.minInterval = b.minInterval := by
  rcases b.offer_cases a.ts a.wallNow a.now with heq | ⟨-, heq⟩ | heq <;> rw [heq]

/-- Every write of a run comes at least `min_interval` after the last one before it. -/
theorem offerAll_after {b : AckBatcher} {acks : List Ack} {last : Int}
    (hlast : b.lastWrite = some last) (hmono : acks.Pairwise (·.now ≤ ·.now))
    (hfrom : ∀ a ∈ acks, last ≤ a.now) :
    ∀ r ∈ (b.offerAll acks).2, r.2.written.isSome → b.minInterval ≤ r.1.now - last := by
  induction acks generalizing b last with
  | nil => simp
  | cons a acks ih =>
      obtain ⟨hhead, htail⟩ := List.pairwise_cons.mp hmono
      have hnow : last ≤ a.now := hfrom a List.mem_cons_self
      have hrest : ∀ a' ∈ acks, last ≤ a'.now := fun a' h => hfrom a' (List.mem_cons_of_mem _ h)
      rw [offerAll_cons]
      intro r hr hwrite
      rcases b.offer_cases a.ts a.wallNow a.now with heq | ⟨hdue, heq⟩ | heq <;>
        rw [heq] at hr <;> rcases List.mem_cons.mp hr with rfl | hr
      · simp [AckOutcome.written] at hwrite
      · exact ih hlast htail hrest r hr hwrite
      · have := hdue last hlast
        show b.minInterval ≤ a.now - last
        omega
      · -- a later write is apart from this one, which is not before the last one
        have hfar := ih (b := { b with lastWrite := some a.now, pending := none }) rfl htail
          hhead r hr hwrite
        simp only at hfar
        omega
      · simp [AckOutcome.written] at hwrite
      · exact ih (b := { b with pending := some (b.best a.ts) }) hlast htail hrest r hr hwrite

/-- Any two writes of a run are at least `min_interval` apart. -/
theorem offerAll_spaced (b : AckBatcher) {acks : List Ack}
    (hmono : acks.Pairwise (·.now ≤ ·.now)) :
    (b.offerAll acks).2.Pairwise fun r r' => r.2.written.isSome → r'.2.written.isSome →
      b.minInterval ≤ r'.1.now - r.1.now := by
  induction acks generalizing b with
  | nil => simp
  | cons a acks ih =>
      obtain ⟨hhead, htail⟩ := List.pairwise_cons.mp hmono
      have hrest := ih (b.offer a.ts a.wallNow a.now).1 htail
      rw [offer_minInterval] at hrest
      rw [offerAll_cons, List.pairwise_cons]
      refine ⟨?_, hrest⟩
      intro r hr hwrite hwrite'
      rcases b.offer_cases a.ts a.wallNow a.now with heq | ⟨-, heq⟩ | heq
      · rw [heq] at hwrite
        simp [AckOutcome.written] at hwrite
      · rw [heq] at hr
        exact offerAll_after (b := { b with lastWrite := some a.now, pending := none }) rfl
          htail hhead r hr hwrite'
      · rw [heq] at hwrite
        simp [AckOutcome.written] at hwrite

/-- **Batching loses no acknowledgement.**  For every interval and every sequence of calls
    with non-decreasing monotonic times: the newest of the values written and the value left
    pending is the newest timestamp accepted, there is none exactly when every call was
    ignored, any two writes are at least `min_interval` apart, and a call that is ignored
    leaves the batcher as it was. -/
theorem offerAll_loses_no_ack (minInterval : Int) (acks : List Ack)
    (hmono : acks.Pairwise (·.now ≤ ·.now)) :
    let trace := ((new minInterval).offerAll acks).2
    let flushed := writtenBy trace ++
      ((new minInterval).offerAll acks).1.takePending.2.toList
    trace.map Prod.fst = acks ∧
    flushed.max? = (acceptedBy trace).max? ∧
    (flushed = [] ↔ ∀ r ∈ trace, r.2 = .ignored) ∧
    (trace.Pairwise fun r r' => r.2.written.isSome → r'.2.written.isSome →
      minInterval ≤ r'.1.now - r.1.now) ∧
    (∀ (b : AckBatcher) (a : Ack), (b.offer a.ts a.wallNow a.now).2 = .ignored →
      (b.offer a.ts a.wallNow a.now).1 = b) := by
  have hmax := offerAll_max (new minInterval) acks
  simp only [new, Option.toList_none, List.nil_append] at hmax
  refine ⟨offerAll_calls _ _, hmax, ?_, offerAll_spaced (new minInterval) hmono, fun b a => offer_ignored⟩
  rw [← List.max?_eq_none_iff]
  show (writtenBy _ ++ (offerAll _ acks).1.pending.toList).max? = none ↔ _
  rw [new, hmax, List.max?_eq_none_iff, acceptedBy, List.map_eq_nil_iff, List.filter_eq_nil_iff]
  simp

/-- Five acknowledgements out of order, the fourth of them from the future: one value is
    written at once, the newest of the others waits for the flush. -/
theorem offerAll_loses_no_ack_five :
    let trace := ((new 1000).offerAll [⟨10, 50, 0⟩, ⟨30, 50, 200⟩, ⟨20, 50, 400⟩,
      ⟨60_000_000_061, 60, 600⟩, ⟨25, 50, 600⟩]).2
    writtenBy trace = [10] ∧ acceptedBy trace = [10, 30, 20, 25] ∧
    ((new 1000).offerAll [⟨10, 50, 0⟩, ⟨30, 50, 200⟩, ⟨20, 50, 400⟩,
      ⟨60_000_000_061, 60, 600⟩, ⟨25, 50, 600⟩]).1.takePending.2 = some 30 ∧
    (writtenBy trace ++ ((new 1000).offerAll [⟨10, 50, 0⟩, ⟨30, 50, 200⟩, ⟨20, 50, 400⟩,
      ⟨60_000_000_061, 60, 600⟩, ⟨25, 50, 600⟩]).1.takePending.2.toList).max? =
        (acceptedBy trace).max? :=
  ⟨by decide, by decide, by decide,
    (offerAll_loses_no_ack 1000 [⟨10, 50, 0⟩, ⟨30, 50, 200⟩, ⟨20, 50, 400⟩,
      ⟨60_000_000_061, 60, 600⟩, ⟨25, 50, 600⟩] (by decide)).2.1⟩

end AckBatcher

end PulseGrid.Worker
