/-
  PulseGrid.Coordinator.DashboardPage

  The list of alerts that the dashboard page keeps (`alertRecord`, `onDelivery`, `sendAlert`
  and `maybeRipple` in crates/api-coordinator/dashboard/app.js).

  Numbers of the page are doubles, so its sums are exact as long as they stay below 2^53
  (`SafeCounts`).  What is drawn on the map and written into the document is left out, as is
  the title and the radius of an alert, which only that uses.
-/

import PulseGrid.Coordinator.DashboardEvents
import PulseGrid.Domain.Protocol
import PulseGrid.Lib.Float64

namespace PulseGrid.Coordinator

-- ============================================================================
-- Deliveries
-- ============================================================================

/-- What `onDelivery` reads of an event, with numbers of `N`. -/
structure Delivery (N : Type) where
  alertId : List Char
  shardPrefix : List Char
  delivered : N
  dropped : N
  filteredOut : N
  broadcastDurationUs : N
deriving DecidableEq

def Delivery.map {N M : Type} (f : N → M) (t : Delivery N) : Delivery M where
  alertId := t.alertId
  shardPrefix := t.shardPrefix
  delivered := f t.delivered
  dropped := f t.dropped
  filteredOut := f t.filteredOut
  broadcastDurationUs := f t.broadcastDurationUs

/-- The telemetry as the worker counted; `idText` is the text of an id. -/
def Delivery.ofTelemetry (idText : Uuid → List Char) (t : DeliveryTelemetry) : Delivery Nat where
  alertId := idText t.alertId
  shardPrefix := t.shardPrefix.toList
  delivered := t.delivered
  dropped := t.dropped
  filteredOut := t.filteredOut
  broadcastDurationUs := t.broadcastDurationUs

/-- The event with the doubles that `JSON.parse` reads. -/
abbrev Delivery.toDoubles (t : Delivery Nat) : Delivery Float64 := t.map Float64.ofNat

/-- `Math.max`. -/
def mathMax (x y : Float64) : Float64 :=
  if x.isNaN || y.isNaN then .nan
  else if x.lt y then y
  else if y.lt x then x
  else if x.isNegative then y
  else x

theorem mathMax_ofNat {m n : Nat} (hm : m < 2 ^ 53) (hn : n < 2 ^ 53) :
    mathMax (.ofNat m) (.ofNat n) = .ofNat (max m n) := by
  have hx := Float64.isWhole_ofNat hm
  have hy := Float64.isWhole_ofNat hn
  rw [mathMax, hx.isNaN, hy.isNaN, hx.isNegative, Float64.lt_ofNat hm hn, Float64.lt_ofNat hn hm]
  rcases Nat.lt_trichotomy m n with hlt | rfl | hlt
  · simp [hlt, Nat.max_eq_right hlt.le]
  · simp
  · simp [hlt, hlt.not_gt, Nat.max_eq_left hlt.le]

-- ============================================================================
-- The list of alerts
-- ============================================================================

/-- `MAX_ALERTS_SHOWN`. -/
def maxAlertsShown : Nat := 25

structure AlertRecord (C : Type) where
  id : List Char
  center : Option C := none
  rippled : Bool := false
  delivered : Float64 := .zero
  dropped : Float64 := .zero
  filteredOut : Float64 := .zero
  shards : Finset (List Char) := ∅
  maxUs : Float64 := .zero

/-- `alerts`: records by id, oldest first, and not too many. -/
structure AlertLog (C : Type) where
  records : List (AlertRecord C)
  ids_nodup : (records.map AlertRecord.id).Nodup
  at_most : records.length ≤ maxAlertsShown

variable {C : Type}

namespace AlertLog

def empty : AlertLog C := ⟨[], List.Pairwise.nil, Nat.zero_le _⟩

def get (self : AlertLog C) (id : List Char) : Option (AlertRecord C) :=
  self.records.find? fun r => r.id = id

/-- `alertRecord`: there is a record now, and the oldest ones beyond the limit are gone. -/
def alertRecord (self : AlertLog C) (id : List Char) : AlertLog C :=
  if h : id ∈ self.records.map AlertRecord.id then self
  else
    let records := self.records ++ [({ id := id } : AlertRecord C)]
    { records := records.drop (records.length - maxAlertsShown)
      ids_nodup := by
        have hall : (records.map AlertRecord.id).Nodup := by
          rw [List.map_append, List.nodup_append]
          refine ⟨self.ids_nodup, List.nodup_singleton _, ?_⟩
          rintro a ha b hb rfl
          have hid : a = id := List.mem_singleton.mp hb
          exact h (hid ▸ ha)
        rw [List.map_drop]
        exact hall.sublist (List.drop_sublist _ _)
      at_most := by
        rw [List.length_drop]
        omega }

/-- Change the record of one alert. -/
def modify (self : AlertLog C) (id : List Char) (f : AlertRecord C → AlertRecord C)
    (hf : ∀ r, (f r).id = r.id) : AlertLog C where
  records := self.records.map fun r => if r.id = id then f r else r
  ids_nodup := by
    have hsame : (self.records.map fun r => if r.id = id then f r else r).map AlertRecord.id =
        self.records.map AlertRecord.id := by
      rw [List.map_map]
      refine List.map_congr_left fun r _ => ?_
      show (if r.id = id then f r else r).id = r.id
      split
      · exact hf r
      · rfl
    rw [hsame]
    exact self.ids_nodup
  at_most := by
    rw [List.length_map]
    exact self.at_most

end AlertLog

-- ============================================================================
-- The page
-- ============================================================================

/-- The condition of `maybeRipple`. -/
def AlertRecord.ripples (r : AlertRecord C) : Bool :=
  r.center.isSome && Float64.zero.lt r.delivered && !r.rippled

def AlertRecord.maybeRipple (r : AlertRecord C) : AlertRecord C :=
  if r.ripples then { r with rippled := true } else r

/-- What changes the list: an event, or the answer to an alert sent from this page. -/
inductive PageStep (C : Type) where
  | delivery (t : Delivery Float64)
  | sent (alertId : List Char) (center : C)

namespace PageStep

def alertId : PageStep C → List Char
  | .delivery t => t.alertId
  | .sent alertId _ => alertId

/-- The change to the alert's record before `maybeRipple`. -/
def change : PageStep C → AlertRecord C → AlertRecord C
  | .delivery t, r => { r with
      delivered := r.delivered.add t.delivered
      dropped := r.dropped.add t.dropped
      filteredOut := r.filteredOut.add t.filteredOut
      shards := insert t.shardPrefix r.shards
      maxUs := mathMax r.maxUs t.broadcastDurationUs }
  | .sent _ center, r => { r with center := some center }

end PageStep

namespace AlertRecord

theorem maybeRipple_id (r : AlertRecord C) : r.maybeRipple.id = r.id := by
  unfold maybeRipple
  split <;> rfl

theorem change_id (step : PageStep C) (r : AlertRecord C) : (step.change r).id = r.id := by
  cases step <;> rfl

/-- A step on the record of its alert. -/
def after (r : AlertRecord C) (step : PageStep C) : AlertRecord C := (step.change r).maybeRipple

theorem after_id (r : AlertRecord C) (step : PageStep C) : (r.after step).id = r.id := by
  rw [after, maybeRipple_id, change_id]

end AlertRecord

namespace AlertLog

/-- `onDelivery`, and what `sendAlert` does with an answer. -/
def step (self : AlertLog C) (s : PageStep C) : AlertLog C :=
  (self.alertRecord s.alertId).modify s.alertId (fun r => r.after s) fun r => r.after_id s

def run (steps : List (PageStep C)) : AlertLog C := steps.foldl step empty

end AlertLog

-- ============================================================================
-- Looking up records
-- ============================================================================

namespace AlertLog

theorem get_eq_some {self : AlertLog C} {id : List Char} {r : AlertRecord C} :
    self.get id = some r ↔ r ∈ self.records ∧ r.id = id := by
  refine ⟨?_, ?_⟩
  · intro h
    exact ⟨List.mem_of_find?_eq_some h, by simpa using List.find?_some h⟩
  · rintro ⟨hmem, hid⟩
    cases hget : self.get id with
    | none =>
        have hnone := List.find?_eq_none.mp hget r hmem
        exact absurd (decide_eq_true hid) hnone
    | some r' =>
        have hmem' := List.mem_of_find?_eq_some hget
        have hid' : r'.id = id := by simpa using List.find?_some hget
        rw [List.inj_on_of_nodup_map self.ids_nodup hmem' hmem (hid'.trans hid.symm)]

theorem get_eq_none {self : AlertLog C} {id : List Char} :
    self.get id = none ↔ id ∉ self.records.map AlertRecord.id := by
  rw [get, List.find?_eq_none]
  simp

/-- The changed log has the changed record. -/
theorem get_modify (self : AlertLog C) (id id' : List Char) (f : AlertRecord C → AlertRecord C)
    (hf : ∀ r, (f r).id = r.id) :
    (self.modify id f hf).get id' = (self.get id').map fun r => if r.id = id then f r else r := by
  have hid (r : AlertRecord C) : (if r.id = id then f r else r).id = r.id := by
    split
    · exact hf r
    · rfl
  show (self.records.map fun r => if r.id = id then f r else r).find? _ = _
  rw [List.find?_map, get]
  congr 2
  funext r
  exact congrArg (fun x => decide (x = id')) (hid r)

theorem records_alertRecord (self : AlertLog C) (id : List Char) :
    (self.alertRecord id).records = if id ∈ self.records.map AlertRecord.id then self.records
      else (self.records ++ [({ id := id } : AlertRecord C)]).drop
        (self.records.length + 1 - maxAlertsShown) := by
  unfold alertRecord
  split
  · rfl
  · have hlen : (self.records ++ [({ id := id } : AlertRecord C)]).length =
        self.records.length + 1 := List.length_append
    exact congrArg (fun n => (self.records ++ [({ id := id } : AlertRecord C)]).drop
      (n - maxAlertsShown)) hlen

/-- A record that is there stays, or is evicted for a new one. -/
theorem get_of_get_alertRecord {self : AlertLog C} {id id' : List Char} (hne : id' ≠ id)
    {r : AlertRecord C} (h : (self.alertRecord id).get id' = some r) : self.get id' = some r := by
  obtain ⟨hmem, hid⟩ := get_eq_some.mp h
  refine get_eq_some.mpr ⟨?_, hid⟩
  rw [records_alertRecord] at hmem
  split at hmem
  · exact hmem
  · rcases List.mem_append.mp (List.mem_of_mem_drop hmem) with hold | hnew
    · exact hold
    · cases List.mem_singleton.mp hnew
      exact absurd hid.symm hne

/-- The record asked for is there: the one it was, or a new one. -/
theorem get_alertRecord_self (self : AlertLog C) (id : List Char) :
    (self.alertRecord id).get id = some ((self.get id).getD { id := id }) := by
  have hlen := self.at_most
  cases hget : self.get id with
  | none =>
      refine get_eq_some.mpr ⟨?_, rfl⟩
      rw [records_alertRecord, if_neg (get_eq_none.mp hget),
        List.drop_append_of_le_length (by rw [maxAlertsShown] at hlen ⊢; omega)]
      exact List.mem_append_right _ (List.mem_singleton_self _)
  | some r =>
      obtain ⟨hmem, hid⟩ := get_eq_some.mp hget
      refine get_eq_some.mpr ⟨?_, hid⟩
      rw [records_alertRecord, if_pos (List.mem_map.mpr ⟨r, hmem, hid⟩)]
      exact hmem

/-- With room for one more, nothing is evicted. -/
theorem get_alertRecord_of_ne {self : AlertLog C} {id id' : List Char} (hne : id' ≠ id)
    (hroom : id ∉ self.records.map AlertRecord.id → self.records.length < maxAlertsShown) :
    (self.alertRecord id).get id' = self.get id' := by
  cases hget : self.get id' with
  | none =>
      cases hafter : (self.alertRecord id).get id' with
      | none => rfl
      | some r =>
          rw [get_of_get_alertRecord hne hafter] at hget
          cases hget
  | some r =>
      obtain ⟨hmem, hid⟩ := get_eq_some.mp hget
      refine get_eq_some.mpr ⟨?_, hid⟩
      rw [records_alertRecord]
      split
      · exact hmem
      · next h =>
          have hlt := hroom h
          rw [Nat.sub_eq_zero_of_le hlt, List.drop_zero]
          exact List.mem_append_left _ hmem

end AlertLog

-- ============================================================================
-- Few alerts
-- ============================================================================

/-- The record of an alert that its own steps make of a new one. -/
def ownRecord (steps : List (PageStep C)) (id : List Char) : AlertRecord C :=
  (steps.filter fun s => s.alertId = id).foldl AlertRecord.after { id }

theorem ownRecord_concat (steps : List (PageStep C)) (s : PageStep C) (id : List Char) :
    ownRecord (steps ++ [s]) id =
      if s.alertId = id then (ownRecord steps id).after s else ownRecord steps id := by
  rw [ownRecord, List.filter_append, List.foldl_append]
  by_cases h : s.alertId = id
  · rw [if_pos h, List.filter_cons_of_pos (by simpa using h), List.filter_nil]
    rfl
  · rw [if_neg h, List.filter_cons_of_neg (by simpa using h), List.filter_nil]
    rfl

theorem ownRecord_of_notMem {steps : List (PageStep C)} {id : List Char}
    (h : id ∉ steps.map PageStep.alertId) : ownRecord steps id = { id } := by
  have hnone : steps.filter (fun s => s.alertId = id) = [] := by
    refine List.filter_eq_nil_iff.mpr ?_
    intro s hs heq
    exact h (List.mem_map.mpr ⟨s, hs, of_decide_eq_true heq⟩)
  rw [ownRecord, hnone, List.foldl_nil]

namespace AlertLog

theorem run_concat (steps : List (PageStep C)) (s : PageStep C) :
    run (steps ++ [s]) = (run steps).step s := by
  rw [run, List.foldl_append]
  rfl

theorem get_step_self (self : AlertLog C) (s : PageStep C) :
    (self.step s).get s.alertId =
      some (((self.get s.alertId).getD { id := s.alertId }).after s) := by
  have hid : ((self.get s.alertId).getD { id := s.alertId }).id = s.alertId := by
    cases hget : self.get s.alertId with
    | none => rfl
    | some r => exact (get_eq_some.mp hget).2
  show ((self.alertRecord s.alertId).modify s.alertId (fun r => r.after s)
    fun r => r.after_id s).get s.alertId = _
  rw [get_modify, get_alertRecord_self, Option.map_some, if_pos hid]

theorem get_step_of_ne (self : AlertLog C) {s : PageStep C} {id : List Char} (hne : id ≠ s.alertId) :
    (self.step s).get id = (self.alertRecord s.alertId).get id := by
  show ((self.alertRecord s.alertId).modify s.alertId (fun r => r.after s)
    fun r => r.after_id s).get id = _
  rw [get_modify]
  cases hget : (self.alertRecord s.alertId).get id with
  | none => rfl
  | some r =>
      have hid := (get_eq_some.mp hget).2
      rw [Option.map_some, if_neg fun heq => hne (hid.symm.trans heq)]

/-- While there are not too many alerts, each has the record that its own steps make. -/
theorem get_run_of_few (steps : List (PageStep C))
    (hfew : (steps.map PageStep.alertId).toFinset.card ≤ maxAlertsShown) (id : List Char) :
    (run steps).get id =
      if id ∈ steps.map PageStep.alertId then some (ownRecord steps id) else none := by
  induction steps using List.reverseRecOn generalizing id with
  | nil => rfl
  | append_singleton steps s ih =>
      have hsub : (steps.map PageStep.alertId).toFinset ⊆
          ((steps ++ [s]).map PageStep.alertId).toFinset := by
        intro x hx
        rw [List.mem_toFinset, List.map_append, List.mem_append]
        exact .inl (List.mem_toFinset.mp hx)
      have hbefore := ih ((Finset.card_le_card hsub).trans hfew)
      have hids (x : List Char) : x ∈ (run steps).records.map AlertRecord.id ↔
          x ∈ steps.map PageStep.alertId := by
        rw [← not_iff_not, ← get_eq_none, hbefore]
        split
        · next h => simp [h]
        · next h => simp [h]
      rw [run_concat]
      by_cases hid : id = s.alertId
      · subst hid
        have hmem : s.alertId ∈ (steps ++ [s]).map PageStep.alertId := by simp
        rw [get_step_self, hbefore, if_pos hmem, ownRecord_concat, if_pos rfl]
        split
        · rfl
        · next hnew =>
            rw [ownRecord_of_notMem hnew]
            rfl
      · have hroom : s.alertId ∉ (run steps).records.map AlertRecord.id →
            (run steps).records.length < maxAlertsShown := by
          intro hnew
          have hcard : (s.alertId :: (run steps).records.map AlertRecord.id).toFinset ⊆
              ((steps ++ [s]).map PageStep.alertId).toFinset := by
            intro x hx
            rw [List.mem_toFinset, List.map_append, List.mem_append]
            rcases List.mem_cons.mp (List.mem_toFinset.mp hx) with rfl | hx
            · exact .inr (List.mem_singleton_self _)
            · exact .inl ((hids x).mp hx)
          have hlen := (Finset.card_le_card hcard).trans hfew
          rw [List.toFinset_card_of_nodup
            (List.nodup_cons.mpr ⟨hnew, (run steps).ids_nodup⟩)] at hlen
          simpa using hlen
        rw [get_step_of_ne _ hid, get_alertRecord_of_ne hid hroom, hbefore]
        rw [ownRecord_concat, if_neg (Ne.symm hid)]
        simp [hid]

end AlertLog

-- ============================================================================
-- What a record says
-- ============================================================================

def deliveryFor (id : List Char) : PageStep C → Option (Delivery Float64)
  | .delivery t => if t.alertId = id then some t else none
  | .sent _ _ => none

/-- The events of one alert. -/
def deliveriesOf (steps : List (PageStep C)) (id : List Char) : List (Delivery Float64) :=
  steps.filterMap (deliveryFor id)

theorem deliveriesOf_concat (steps : List (PageStep C)) (s : PageStep C) (id : List Char) :
    deliveriesOf (steps ++ [s]) id = deliveriesOf steps id ++ (deliveryFor id s).toList := by
  rw [deliveriesOf, deliveriesOf, List.filterMap_append]
  cases h : deliveryFor id s with
  | none =>
      rw [List.filterMap_cons_none h]
      rfl
  | some t =>
      rw [List.filterMap_cons_some h]
      rfl

/-- The answers for one alert. -/
def answersFor (id : List Char) : PageStep C → Bool
  | .delivery _ => false
  | .sent alertId _ => alertId = id

theorem deliveryFor_of_ne {s : PageStep C} {id : List Char} (h : s.alertId ≠ id) :
    deliveryFor id s = none := by
  cases s with
  | delivery t => exact if_neg h
  | sent alertId center => rfl

theorem answersFor_of_ne {s : PageStep C} {id : List Char} (h : s.alertId ≠ id) :
    answersFor id s = false := by
  cases s with
  | delivery t => rfl
  | sent alertId center => exact decide_eq_false h

/-- `Number.MAX_SAFE_INTEGER` is 2^53 - 1: the sums and the durations stay at most there. -/
structure SafeCounts (reports : List (Delivery Nat)) : Prop where
  delivered : (reports.map Delivery.delivered).sum < 2 ^ 53
  dropped : (reports.map Delivery.dropped).sum < 2 ^ 53
  filteredOut : (reports.map Delivery.filteredOut).sum < 2 ^ 53
  durations : ∀ t ∈ reports, t.broadcastDurationUs < 2 ^ 53

/-- The longest duration. -/
def slowest (reports : List (Delivery Nat)) : Nat :=
  (reports.map Delivery.broadcastDurationUs).foldl max 0

/-- What the record of an alert says about the reports for it. -/
structure Tells (reports : List (Delivery Nat)) (answered : Bool) (r : AlertRecord C) : Prop where
  delivered : r.delivered = .ofNat (reports.map Delivery.delivered).sum
  dropped : r.dropped = .ofNat (reports.map Delivery.dropped).sum
  filteredOut : r.filteredOut = .ofNat (reports.map Delivery.filteredOut).sum
  shards : r.shards = (reports.map Delivery.shardPrefix).toFinset
  maxUs : r.maxUs = .ofNat (slowest reports)
  center : r.center.isSome = answered
  /-- The ripple was drawn once the circle was known and a device was reached. -/
  rippled : r.rippled = (answered && decide (0 < (reports.map Delivery.delivered).sum))

theorem SafeCounts.of_append {reports more : List (Delivery Nat)}
    (h : SafeCounts (reports ++ more)) : SafeCounts reports := by
  obtain ⟨hdelivered, hdropped, hfiltered, hdurations⟩ := h
  rw [List.map_append, List.sum_append] at hdelivered hdropped hfiltered
  exact ⟨by omega, by omega, by omega, fun t ht => hdurations t (List.mem_append_left more ht)⟩

theorem slowest_concat (reports : List (Delivery Nat)) (t : Delivery Nat) :
    slowest (reports ++ [t]) = max (slowest reports) t.broadcastDurationUs := by
  rw [slowest, List.map_append, List.foldl_append]
  rfl

theorem SafeCounts.slowest_lt {reports : List (Delivery Nat)} (h : SafeCounts reports) :
    slowest reports < 2 ^ 53 := by
  induction reports using List.reverseRecOn with
  | nil => decide
  | append_singleton reports t ih =>
      rw [slowest_concat, Nat.max_lt]
      exact ⟨ih h.of_append, h.durations t (List.mem_append_right _ (List.mem_singleton_self t))⟩

theorem AlertRecord.maybeRipple_eq (r : AlertRecord C) :
    r.maybeRipple =
      { r with rippled := r.rippled || (r.center.isSome && Float64.zero.lt r.delivered) } := by
  obtain ⟨id, center, rippled, delivered, dropped, filteredOut, shards, maxUs⟩ := r
  unfold maybeRipple ripples
  cases rippled with
  | true => simp
  | false =>
      cases center with
      | none => rfl
      | some center => cases Float64.zero.lt delivered <;> rfl

theorem zero_lt_ofNat {n : Nat} (h : n < 2 ^ 53) :
    Float64.zero.lt (.ofNat n) = decide (0 < n) := by
  rw [← Float64.ofNat_zero, Float64.lt_ofNat (by decide) h]

/-- An event adds to the record of its alert. -/
theorem Tells.delivery {reports : List (Delivery Nat)} {answered : Bool} {r : AlertRecord C}
    (h : Tells reports answered r) {t : Delivery Nat} (hsafe : SafeCounts (reports ++ [t])) :
    Tells (reports ++ [t]) answered (r.after (.delivery t.toDoubles)) := by
  have hdurations := hsafe.of_append.slowest_lt
  obtain ⟨hdelivered, hdropped, hfiltered, hlast⟩ := hsafe
  have hduration := hlast t (List.mem_append_right _ (List.mem_singleton_self t))
  have hsum (count : Delivery Nat → Nat) :
      ((reports ++ [t]).map count).sum = (reports.map count).sum + count t := by
    rw [List.map_append, List.sum_append, List.map_singleton, List.sum_singleton]
  rw [hsum] at hdelivered hdropped hfiltered
  have hadded : r.delivered.add (.ofNat t.delivered) =
      .ofNat ((reports.map Delivery.delivered).sum + t.delivered) := by
    rw [h.delivered, Float64.add_ofNat hdelivered]
  rw [AlertRecord.after, AlertRecord.maybeRipple_eq]
  refine ⟨?_, ?_, ?_, ?_, ?_, h.center, ?_⟩
  · rw [hsum]
    exact hadded
  · rw [hsum, ← Float64.add_ofNat hdropped, ← h.dropped]
    rfl
  · rw [hsum, ← Float64.add_ofNat hfiltered, ← h.filteredOut]
    rfl
  · show insert t.shardPrefix r.shards = _
    rw [h.shards, List.map_append, List.toFinset_append, Finset.insert_eq, Finset.union_comm]
    rfl
  · rw [slowest_concat, ← mathMax_ofNat hdurations hduration, ← h.maxUs]
    rfl
  · show (r.rippled || (r.center.isSome && Float64.zero.lt (r.delivered.add (.ofNat t.delivered)))) = _
    rw [hsum, hadded, zero_lt_ofNat hdelivered, h.rippled, h.center]
    cases answered with
    | false => rfl
    | true =>
        by_cases hpos : 0 < (reports.map Delivery.delivered).sum
        · have hmore := Nat.add_pos_left hpos t.delivered
          simp [hpos, hmore]
        · simp [hpos]

/-- An answer says where the circle of its alert is. -/
theorem Tells.sent {reports : List (Delivery Nat)} {answered : Bool} {r : AlertRecord C}
    (h : Tells reports answered r) (hsafe : SafeCounts reports) (alertId : List Char) (center : C) :
    Tells reports true (r.after (.sent alertId center)) := by
  rw [AlertRecord.after, AlertRecord.maybeRipple_eq]
  refine ⟨h.delivered, h.dropped, h.filteredOut, h.shards, h.maxUs, rfl, ?_⟩
  show (r.rippled || (true && Float64.zero.lt r.delivered)) = _
  rw [h.delivered, zero_lt_ofNat hsafe.delivered, h.rippled]
  cases answered <;> simp

/-- The steps of one alert, one after the other. -/
theorem ownRecord_tells {steps : List (PageStep C)} {id : List Char} {reports : List (Delivery Nat)}
    (hreports : deliveriesOf steps id = reports.map Delivery.toDoubles)
    (hsafe : SafeCounts reports) :
    Tells reports (steps.any (answersFor id)) (ownRecord steps id) := by
  induction steps using List.reverseRecOn generalizing reports with
  | nil =>
      cases List.map_eq_nil_iff.mp hreports.symm
      have hzero := Float64.ofNat_zero.symm
      exact ⟨hzero, hzero, hzero, rfl, hzero, rfl, rfl⟩
  | append_singleton steps s ih =>
      rw [deliveriesOf_concat] at hreports
      rw [ownRecord_concat, List.any_append, List.any_cons, List.any_nil, Bool.or_false]
      by_cases hid : s.alertId = id
      · rw [if_pos hid]
        cases s with
        | delivery t =>
            obtain ⟨before, last, rfl, hbefore, hlast⟩ := List.map_eq_append_iff.mp hreports.symm
            have hown : deliveryFor id (PageStep.delivery (C := C) t) = some t := if_pos hid
            rw [hown] at hlast
            obtain ⟨t', rfl, rfl⟩ := List.map_eq_singleton_iff.mp hlast
            show Tells (before ++ [t']) (steps.any (answersFor id) || false) _
            rw [Bool.or_false]
            exact (ih hbefore.symm hsafe.of_append).delivery hsafe
        | sent alertId center =>
            have hnone : deliveryFor id (PageStep.sent alertId center) = none := rfl
            have hanswers : answersFor id (PageStep.sent alertId center) = true :=
              decide_eq_true hid
            rw [hnone, Option.toList_none, List.append_nil] at hreports
            rw [hanswers, Bool.or_true]
            exact (ih hreports hsafe).sent hsafe alertId center
      · rw [deliveryFor_of_ne hid, Option.toList_none, List.append_nil] at hreports
        rw [if_neg hid, answersFor_of_ne hid, Bool.or_false]
        exact ih hreports hsafe

/-- **The page tells what it was told.**  While there are events and answers of at most 25
    alerts and the counts of an alert stay below 2^53, its record has the sums over its events,
    and the ripple was drawn if and only if the alert was sent from here and reached a device. -/
theorem AlertLog.record_tells (steps : List (PageStep C))
    (hfew : (steps.map PageStep.alertId).toFinset.card ≤ maxAlertsShown) (id : List Char)
    (hid : id ∈ steps.map PageStep.alertId) (reports : List (Delivery Nat))
    (hreports : deliveriesOf steps id = reports.map Delivery.toDoubles)
    (hsafe : SafeCounts reports) :
    ∃ r, (run steps).get id = some r ∧ Tells reports (steps.any (answersFor id)) r := by
  refine ⟨ownRecord steps id, ?_, ownRecord_tells hreports hsafe⟩
  rw [get_run_of_few steps hfew, if_pos hid]

def reportA : Delivery Nat := ⟨"a".toList, "tkrt".toList, 2, 0, 1, 80⟩

def reportB : Delivery Nat := ⟨"b".toList, "tkrw".toList, 0, 1, 0, 95⟩

/-- An event before the answer, and another alert. -/
def threeSteps : List (PageStep Nat) :=
  [.delivery reportA.toDoubles, .sent "a".toList 7, .delivery reportB.toDoubles]

theorem AlertLog.record_tells_threeSteps :
    ∃ r, (run threeSteps).get "a".toList = some r ∧ Tells [reportA] true r :=
  record_tells threeSteps (by decide) "a".toList (by decide) [reportA] rfl
    ⟨by decide, by decide, by decide, by decide⟩

-- ============================================================================
-- From the workers to the page
-- ============================================================================

open Broadcast TelemetryService

/-- The events among the frames. -/
def Frame.event? {T : Type} : Frame T → Option (StreamEvent T)
  | .event e => some e
  | .keepAlive => none

/-- What reaches `onDelivery`. -/
def PageEvent.delivery? {V : Type} : PageEvent V → Option V
  | .delivery t => some t
  | .lagged _ => none

def PageStep.delivery? : PageStep C → Option (Delivery Float64)
  | .delivery t => some t
  | .sent _ _ => none

theorem deliveriesOf_eq (steps : List (PageStep C)) (id : List Char) :
    deliveriesOf steps id =
      (steps.filterMap PageStep.delivery?).filter fun t => t.alertId = id := by
  induction steps with
  | nil => rfl
  | cons s steps ih =>
      rw [deliveriesOf, List.filterMap_cons, List.filterMap_cons]
      cases s with
      | delivery t =>
          by_cases h : t.alertId = id
          · simp [deliveryFor, PageStep.delivery?, h, ← ih, deliveriesOf]
          · simp [deliveryFor, PageStep.delivery?, h, ← ih, deliveriesOf]
      | sent alertId center => exact ih

theorem filter_toDoubles (reports : List (Delivery Nat)) (id : List Char) :
    (reports.map Delivery.toDoubles).filter (fun t => t.alertId = id) =
      (reports.filter fun t => t.alertId = id).map Delivery.toDoubles := by
  rw [List.filter_map]
  rfl

section

variable {ch : BroadcastChannel DeliveryTelemetry} {w : SseWriter DeliveryTelemetry}
  {idText : Uuid → List Char} {jsonParse : List Char → Option (Delivery Float64)}
  {frames : List (Frame DeliveryTelemetry)} {stream : DashboardStream ch}

/-- What the page hears of the frames is what the stream showed. -/
theorem filterMap_shown (hframes : frames.filterMap Frame.event? = stream.events)
    (hjson : ∀ t, .event (.delivery t) ∈ frames →
      jsonParse (w.json t) = some (Delivery.ofTelemetry idText t).toDoubles) :
    (frames.filterMap (Frame.shown jsonParse w.json)).filterMap PageEvent.delivery? =
      ((deliveries stream).map (Delivery.ofTelemetry idText)).map Delivery.toDoubles := by
  rw [deliveries, ← hframes, List.filterMap_filterMap, List.filterMap_filterMap, List.map_filterMap,
    List.map_filterMap]
  refine List.filterMap_congr fun frame hmem => ?_
  cases frame with
  | event e =>
      cases e with
      | delivery t =>
          show ((jsonParse (w.json t)).map PageEvent.delivery).bind PageEvent.delivery? = _
          rw [hjson t hmem]
          rfl
      | lagged missed => rfl
  | keepAlive => rfl

/-- All of the stream has arrived. -/
theorem delivery?_readEvents (hw : w.Documented)
    (hframes : frames.filterMap Frame.event? = stream.events)
    (hjson : ∀ t, .event (.delivery t) ∈ frames →
      jsonParse (w.json t) = some (Delivery.ofTelemetry idText t).toDoubles)
    {chunks : List (List Char)} (hchunks : chunks.flatten = (frames.map w.text).flatten) :
    (readEvents jsonParse chunks).filterMap PageEvent.delivery? =
      ((deliveries stream).map (Delivery.ofTelemetry idText)).map Delivery.toDoubles := by
  have hall := hw.readEvents_eq jsonParse (hchunks ▸ List.prefix_refl _ :
    chunks.flatten <+: (frames.map w.text).flatten)
  rw [hchunks, BlockReader.complete_flatten, List.length_map, List.take_length] at hall
  rw [hall, filterMap_shown hframes hjson]

end

/-- The reports for one alert. -/
def reportsFor (idText : Uuid → List Char) (telemetry : List DeliveryTelemetry) (id : List Char) :
    List (Delivery Nat) :=
  (telemetry.map (Delivery.ofTelemetry idText)).filter fun t => t.alertId = id

theorem reportsFor_append (idText : Uuid → List Char) (telemetry more : List DeliveryTelemetry)
    (id : List Char) : reportsFor idText (telemetry ++ more) id =
      reportsFor idText telemetry id ++ reportsFor idText more id := by
  rw [reportsFor, List.map_append, List.filter_append]
  rfl

/-- **The page shows what the workers reported.**  A stream that keeps up, with comments among
    its events, is read in whatever chunks it arrives; while the page sees at most 25 alerts and
    the counts of an alert stay below 2^53, the record of the alert tells of the telemetry that
    was published for it since the stream was opened, up to where the stream is.  `jsonParse` is
    `JSON.parse` with the properties that `onDelivery` reads. -/
theorem page_tells_published {P : Type} (ch : BroadcastChannel DeliveryTelemetry)
    (Sent : ch.Sender → List DeliveryTelemetry → Nat → Prop) (position : ch.Receiver → Nat)
    (hch : ch.Documented telemetryChannelCapacity Sent position)
    (w : SseWriter DeliveryTelemetry) (hw : w.Documented) (idText : Uuid → List Char)
    (jsonParse : List Char → Option (Delivery Float64)) (parse : P → Option DeliveryTelemetry)
    (labels : List (TelemetryService.Label P)) (service : TelemetryService ch)
    (h : TelemetryService.run ch parse labels = some service) (k : Nat)
    (hkeeps : KeepsUp parse k labels) (stream : DashboardStream ch)
    (hk : service.streams[k]? = some stream) (hopen : stream.isOpen = true)
    (frames : List (Frame DeliveryTelemetry))
    (hframes : frames.filterMap Frame.event? = stream.events)
    (hjson : ∀ t, .event (.delivery t) ∈ frames →
      jsonParse (w.json t) = some (Delivery.ofTelemetry idText t).toDoubles)
    (chunks : List (List Char)) (hchunks : chunks.flatten = (frames.map w.text).flatten)
    (steps : List (PageStep C))
    (hsteps : steps.filterMap PageStep.delivery? =
      (readEvents jsonParse chunks).filterMap PageEvent.delivery?)
    (hfew : (steps.map PageStep.alertId).toFinset.card ≤ maxAlertsShown) (id : List Char)
    (hid : id ∈ steps.map PageStep.alertId)
    (hsafe : SafeCounts (reportsFor idText (Reader.published (own parse k 0 labels)) id)) :
    ∃ r log shown, (AlertLog.run steps).get id = some r ∧
      Sent service.tx log (service.streams.countP DashboardStream.isOpen) ∧
      shown ++ log.drop (position stream.rx) = Reader.published (own parse k 0 labels) ∧
      Tells (reportsFor idText shown id) (steps.any (answersFor id)) r := by
  obtain ⟨log, hinv⟩ := inv_of_run hch h
  obtain ⟨-, hshown⟩ := hinv.shown_of_keepsUp hkeeps hk hopen
  have hreports : deliveriesOf steps id =
      (reportsFor idText (deliveries stream) id).map Delivery.toDoubles := by
    rw [deliveriesOf_eq, hsteps, delivery?_readEvents hw hframes hjson hchunks, filter_toDoubles]
    rfl
  rw [← hshown, reportsFor_append] at hsafe
  refine ⟨ownRecord steps id, log, deliveries stream, ?_, hinv.sent, hshown,
    ownRecord_tells hreports hsafe.of_append⟩
  rw [AlertLog.get_run_of_few steps hfew, if_pos hid]

-- ============================================================================
-- One alert, of one worker
-- ============================================================================

open HexText (hexDigit hexDigits)

/-- A text in JSON. -/
def jsonString (s : List Char) : List Char :=
  '"' :: (s.flatMap (fun c =>
    if c = '"' ∨ c = '\\' then ['\\', c]
    else if c.toNat < 0x20 then "\\u00".toList ++ hexDigits 2 c.toNat
    else [c]) ++ ['"'])

/-- The JSON of the telemetry. -/
def telemetryText (t : DeliveryTelemetry) : List Char :=
  '\x7b' :: ("\"alert_id\":".toList ++ jsonString t.alertId.display ++
    ",\"shard_prefix\":".toList ++ jsonString t.shardPrefix.toList ++
    ",\"delivered\":".toList ++ Nat.toDigits 10 t.delivered ++
    ",\"dropped\":".toList ++ Nat.toDigits 10 t.dropped ++
    ",\"filtered_out\":".toList ++ Nat.toDigits 10 t.filteredOut ++
    ",\"broadcast_duration_us\":".toList ++ Nat.toDigits 10 t.broadcastDurationUs ++
    ",\"worker_id\":".toList ++ jsonString t.workerId.toList ++
    ",\"at\":".toList ++ jsonString t.time ++ ['\x7d'])

theorem newline_notMem_hexDigits (k n : Nat) : '\n' ∉ hexDigits k n := by
  have hdigit : ∀ d < 16, '\n' ≠ hexDigit d := by decide
  induction k with
  | zero => exact List.not_mem_nil
  | succ k ih =>
      rw [hexDigits, List.mem_cons, not_or]
      exact ⟨hdigit _ (Nat.mod_lt _ (by decide)), ih⟩

theorem newline_notMem_jsonString (s : List Char) : '\n' ∉ jsonString s := by
  have hchars : '\n' ∉ s.flatMap fun c =>
      if c = '"' ∨ c = '\\' then ['\\', c]
      else if c.toNat < 0x20 then "\\u00".toList ++ hexDigits 2 c.toNat
      else [c] := by
    rw [List.mem_flatMap]
    rintro ⟨c, -, hc⟩
    split at hc
    · next hescape => rcases hescape with rfl | rfl <;> revert hc <;> decide
    · split at hc
      · rcases List.mem_append.mp hc with hc | hc
        · revert hc
          decide
        · exact newline_notMem_hexDigits _ _ hc
      · next hvisible =>
          cases List.mem_singleton.mp hc
          exact hvisible (by decide)
  rw [jsonString, List.mem_cons, List.mem_append, not_or, not_or]
  exact ⟨by decide, hchars, by decide⟩

theorem documented_telemetryText : (SseWriter.spaced telemetryText).Documented := by
  refine SseWriter.documented_spaced (fun t => ?_) fun t => ⟨'\x7b', _, rfl, by decide⟩
  simp only [telemetryText, List.mem_cons, List.mem_append, not_or, newline_notMem_jsonString,
    newline_notMem_digits, not_false_eq_true, and_true]
  decide

def oneTelemetry : DeliveryTelemetry :=
  { alertId := 5, shardPrefix := "tkrt", delivered := 2, dropped := 1, filteredOut := 0,
    broadcastDurationUs := 80, workerId := "w1", time := "2026-01-01T00:00:00Z".toList }

def oneReport : Delivery Nat := .ofTelemetry Uuid.display oneTelemetry

/-- `JSON.parse` on the text of this telemetry. -/
def oneParse (s : List Char) : Option (Delivery Float64) :=
  if s = telemetryText oneTelemetry then some oneReport.toDoubles else none

def oneMessage : List (TelemetryService.Label Unit) := [.subscribe, .message (), .poll 0]

def afterOne : TelemetryService (Broadcast.channel DeliveryTelemetry) :=
  (TelemetryService.run (Broadcast.channel DeliveryTelemetry) (fun _ => some oneTelemetry)
    oneMessage).get (by decide +kernel)

def oneStream : DashboardStream (Broadcast.channel DeliveryTelemetry) :=
  ⟨(1 : Nat), true, [.delivery oneTelemetry]⟩

def oneFrame : List (Frame DeliveryTelemetry) := [.keepAlive, .event (.delivery oneTelemetry)]

def oneStep : List (PageStep Nat) := [.delivery oneReport.toDoubles]

theorem oneParse_telemetryText (t : DeliveryTelemetry)
    (h : Frame.event (.delivery t) ∈ oneFrame) :
    oneParse ((SseWriter.spaced telemetryText).json t) =
      some (Delivery.ofTelemetry Uuid.display t).toDoubles := by
  have ht : t = oneTelemetry := by simpa [oneFrame] using h
  subst ht
  exact if_pos rfl

/-- What the page hears is found by the theorem, as the text is too long to be read here. -/
theorem oneStep_arrived :
    oneStep.filterMap PageStep.delivery? =
      (readEvents oneParse (oneFrame.map (SseWriter.spaced telemetryText).text)).filterMap
        PageEvent.delivery? := by
  have hframes : oneFrame.filterMap Frame.event? = oneStream.events := rfl
  rw [delivery?_readEvents documented_telemetryText hframes oneParse_telemetryText rfl]
  rfl

theorem page_tells_published_oneMessage :
    ∃ r log shown, (AlertLog.run oneStep).get oneReport.alertId = some r ∧
      Broadcast.Keeps 1024 afterOne.tx log 1 ∧
      shown ++ log.drop 1 =
        Reader.published (own (fun _ => some oneTelemetry) 0 0 oneMessage) ∧
      Tells (reportsFor Uuid.display shown oneReport.alertId) false r :=
  page_tells_published (Broadcast.channel DeliveryTelemetry) _ _ (documented_channel _ _)
    (SseWriter.spaced telemetryText) documented_telemetryText Uuid.display oneParse
    (fun _ => some oneTelemetry) oneMessage afterOne (Option.some_get _).symm 0
    (.of_length_le _ _ (by decide)) oneStream rfl rfl oneFrame rfl oneParse_telemetryText
    (oneFrame.map (SseWriter.spaced telemetryText).text) rfl oneStep oneStep_arrived
    (le_trans (List.toFinset_card_le _) (by decide)) oneReport.alertId
    (List.mem_singleton_self _) ⟨by decide, by decide, by decide, by decide⟩

end PulseGrid.Coordinator
