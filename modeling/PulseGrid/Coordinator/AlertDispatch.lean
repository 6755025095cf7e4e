/-
  PulseGrid.Coordinator.AlertDispatch

  Dispatching an alert to the shards it touches
  (crates/api-coordinator/src/services/alert_dispatch_service.rs): the payload is
  published to every target shard, the devices of the shards that took it are counted,
  an audit row is written for each, and `summarize` puts the outcomes together.

  Both stages run up to `maxParallelShards` shards at once and collect them as they
  complete.  The result accounts for every target exactly once and is the same in
  every order (`dispatch_accounts`).
-/

import PulseGrid.Lib.BufferUnordered

namespace PulseGrid.Coordinator

-- ============================================================================
-- Data
-- ============================================================================

/-- `MAX_PARALLEL_SHARDS`. -/
def maxParallelShards : Nat := 16

/-- `protocol::alert_subject`. -/
def alertSubject (shardPrefix : String) : String := "alerts.geo." ++ shardPrefix

structure ShardCounts where
  inShard : Int64
  inRadius : Int64
deriving DecidableEq

structure ShardDispatch where
  shardPrefix : String
  /-- Registered devices in the whole shard cell. -/
  devicesInShard : Int64
  /-- Registered devices inside the alert circle. -/
  devicesInRadius : Int64
deriving DecidableEq

structure DispatchResult where
  alertId : String
  shardsTargeted : Nat
  shardsPublished : Nat
  devicesInRadius : Int64
  devicesInTargetedShards : Int64
  /-- Deprecated alias of `devicesInRadius`. -/
  totalDevicesNotified : Int64
  perShard : List ShardDispatch
  /-- Shards the alert could not be published to. -/
  failedShards : List String
deriving DecidableEq

def DispatchResult.isPartial (r : DispatchResult) : Bool := !r.failedShards.isEmpty

/-- The row `record_shard_delivery` writes: the counts are cast to `i32`. -/
structure DeliveryRow where
  alertId : String
  shardPrefix : String
  devicesInShard : Int32
  devicesInRadius : Int32
deriving DecidableEq

/-- The counters `dispatch` adds to. -/
structure DispatchMetrics where
  alertsDispatched : UInt64 := 0
  alertShardsPublished : UInt64 := 0
  alertShardFailures : UInt64 := 0
  alertsPartial : UInt64 := 0
deriving DecidableEq

/-- What the publisher and the database answer during one dispatch; errors are in `E`
    and payloads in `P`. -/
structure DispatchBackend (E P : Type) where
  /-- `AlertPublisher::publish`, by subject. -/
  publish : String → P → Except E Unit
  /-- `count_in_shard_and_radius` for the alert's circle, by shard. -/
  countInShardAndRadius : String → Except E ShardCounts
  recordShardDelivery : DeliveryRow → Except E Unit

/-- What comes before the first publish, each step of which may end the request:
    the alert's checks and its shards, its row, and its payload. -/
structure DispatchRequest (E P : Type) where
  alertId : String
  shardPrefixes : Except E (List String)
  insertAlert : Except E Unit
  payload : Except E P

/-- What a dispatch did: its result, the audit rows it tried to write in the order of
    completion, each with what became of it, and the counters. -/
structure Dispatched (E : Type) where
  result : DispatchResult
  audits : List (DeliveryRow × Except E Unit)
  metrics : DispatchMetrics

-- ============================================================================
-- The dispatch
-- ============================================================================

variable {E P : Type}

/-- `publish_to_shards`; `order` is the order of completion. -/
def publishToShards (backend : DispatchBackend E P) (payload : P) (order : List Nat)
    (prefixes : List String) : List (String × Except E Unit) :=
  bufferUnordered maxParallelShards order
    (prefixes.map fun shardPrefix =>
      (shardPrefix, backend.publish (alertSubject shardPrefix) payload))

/-- One turn of the loop of `dispatch` over the outcomes, which collects `ok_prefixes` and
    `failed_shards`. -/
def pushOutcome (collected : List String × List String) (outcome : String × Except E Unit) :
    List String × List String :=
  match outcome.2 with
  | .ok () => (collected.1 ++ [outcome.1], collected.2)
  | .error _ => (collected.1, collected.2 ++ [outcome.1])

def splitOutcomes (outcomes : List (String × Except E Unit)) : List String × List String :=
  outcomes.foldl pushOutcome ([], [])

/-- The counts of a shard; 0 when the query fails. -/
def shardCounts (backend : DispatchBackend E P) (shardPrefix : String) : ShardCounts :=
  match backend.countInShardAndRadius shardPrefix with
  | .ok counts => counts
  | .error _ => { inShard := 0, inRadius := 0 }

/-- The second stage for one shard: count, write the audit row, report. -/
def recordShard (backend : DispatchBackend E P) (alertId shardPrefix : String) :
    ShardDispatch × DeliveryRow × Except E Unit :=
  let counts := shardCounts backend shardPrefix
  let row : DeliveryRow :=
    { alertId := alertId
      shardPrefix := shardPrefix
      devicesInShard := counts.inShard.toInt32
      devicesInRadius := counts.inRadius.toInt32 }
  ({ shardPrefix := shardPrefix
     devicesInShard := counts.inShard
     devicesInRadius := counts.inRadius }, row, backend.recordShardDelivery row)

/-- `Iterator::sum` of `i64`, which wraps in a release build. -/
def sumI64 (xs : List Int64) : Int64 := xs.foldl (· + ·) 0

def summarize (alertId : String) (shardsTargeted : Nat) (published : List ShardDispatch)
    (failedShards : List String) : DispatchResult :=
  let published := published.mergeSort fun a b => a.shardPrefix ≤ b.shardPrefix
  let failedShards := failedShards.mergeSort fun a b => a ≤ b
  let devicesInRadius := sumI64 (published.map (·.devicesInRadius))
  { alertId := alertId
    shardsTargeted := shardsTargeted
    shardsPublished := published.length
    devicesInRadius := devicesInRadius
    devicesInTargetedShards := sumI64 (published.map (·.devicesInShard))
    totalDevicesNotified := devicesInRadius
    perShard := published
    failedShards := failedShards }

/-- The counters after a dispatch with this result. -/
def DispatchMetrics.observe (m : DispatchMetrics) (result : DispatchResult) : DispatchMetrics :=
  { alertsDispatched := m.alertsDispatched + 1
    alertShardsPublished := m.alertShardsPublished + .ofNat result.shardsPublished
    alertShardFailures := m.alertShardFailures + .ofNat result.failedShards.length
    alertsPartial := m.alertsPartial + if result.isPartial then 1 else 0 }

/-- `dispatch` from the first publish on; `publishOrder` and `countOrder` are the orders in
    which the two stages complete. -/
def dispatchTo (backend : DispatchBackend E P) (metrics : DispatchMetrics) (alertId : String)
    (shardPrefixes : List String) (payload : P) (publishOrder countOrder : List Nat) :
    Dispatched E :=
  let outcomes := splitOutcomes (publishToShards backend payload publishOrder shardPrefixes)
  let published := bufferUnordered maxParallelShards countOrder
    (outcomes.1.map (recordShard backend alertId))
  let result := summarize alertId shardPrefixes.length (published.map (·.1)) outcomes.2
  { result := result
    audits := published.map (·.2)
    metrics := metrics.observe result }

/-- `AlertDispatchService::dispatch`. -/
def dispatch (backend : DispatchBackend E P) (metrics : DispatchMetrics)
    (request : DispatchRequest E P) (publishOrder countOrder : List Nat) :
    Except E (Dispatched E) := do
  let shardPrefixes ← request.shardPrefixes
  request.insertAlert
  let payload ← request.payload
  pure (dispatchTo backend metrics request.alertId shardPrefixes payload publishOrder countOrder)

-- ============================================================================
-- What a result promises
-- ============================================================================

/-- The publish to this shard failed. -/
def PublishFails (backend : DispatchBackend E P) (payload : P) (shardPrefix : String) : Bool :=
  !(backend.publish (alertSubject shardPrefix) payload).isOk

/-- `total` is the sum of `xs` in `i64`, and their sum as integers when that is an
    `i64`. -/
def IsTotal (total : Int64) (xs : List Int64) : Prop :=
  total = sumI64 xs ∧
  (-2 ^ 63 ≤ (xs.map Int64.toInt).sum → (xs.map Int64.toInt).sum < 2 ^ 63 →
    total.toInt = (xs.map Int64.toInt).sum)

/-- Every target is accounted for once. -/
structure Accounts (backend : DispatchBackend E P) (payload : P) (prefixes : List String)
    (d : Dispatched E) : Prop where
  disjoint : (d.result.perShard.map (·.shardPrefix)).Disjoint d.result.failedShards
  perShard_sorted : (d.result.perShard.map (·.shardPrefix)).Pairwise (· < ·)
  failedShards_sorted : d.result.failedShards.Pairwise (· < ·)
  together : (d.result.perShard.map (·.shardPrefix) ++ d.result.failedShards).Perm prefixes
  mem_failedShards : ∀ x, x ∈ d.result.failedShards ↔
    x ∈ prefixes ∧ PublishFails backend payload x = true
  counted : ∀ s ∈ d.result.perShard,
    s.devicesInShard = (shardCounts backend s.shardPrefix).inShard ∧
    s.devicesInRadius = (shardCounts backend s.shardPrefix).inRadius
  published : d.result.shardsPublished = d.result.perShard.length
  targeted : d.result.shardsTargeted = prefixes.length ∧
    d.result.shardsTargeted = d.result.shardsPublished + d.result.failedShards.length
  radiusTotal : IsTotal d.result.devicesInRadius (d.result.perShard.map (·.devicesInRadius))
  shardTotal : IsTotal d.result.devicesInTargetedShards
    (d.result.perShard.map (·.devicesInShard))
  notified : d.result.totalDevicesNotified = d.result.devicesInRadius
  isPartial : d.result.isPartial = true ↔ ∃ x ∈ prefixes, PublishFails backend payload x = true
  audited : ∀ a ∈ d.audits, a.1.shardPrefix ∈ d.result.perShard.map (·.shardPrefix)

-- ============================================================================
-- The two stages
-- ============================================================================

theorem foldl_pushOutcome (outcomes : List (String × Except E Unit))
    (collected : List String × List String) :
    outcomes.foldl pushOutcome collected =
      (collected.1 ++ (outcomes.filter fun o => o.2.isOk).map (·.1),
       collected.2 ++ (outcomes.filter fun o => !o.2.isOk).map (·.1)) := by
  induction outcomes generalizing collected with
  | nil => simp
  | cons o outcomes ih =>
      obtain ⟨shardPrefix, outcome⟩ := o
      rw [List.foldl_cons, ih]
      cases outcome with
      | ok u => simp [pushOutcome, Except.isOk, Except.toBool]
      | error e => simp [pushOutcome, Except.isOk, Except.toBool]

/-- The shards that took the alert and those that did not, in any order of
    completion. -/
theorem splitOutcomes_perm (backend : DispatchBackend E P) (payload : P) (order : List Nat)
    (prefixes : List String) :
    (splitOutcomes (publishToShards backend payload order prefixes)).1.Perm
        (prefixes.filter fun x => !PublishFails backend payload x) ∧
    (splitOutcomes (publishToShards backend payload order prefixes)).2.Perm
        (prefixes.filter fun x => PublishFails backend payload x) := by
  have hperm := bufferUnordered_perm maxParallelShards order
    (prefixes.map fun x => (x, backend.publish (alertSubject x) payload))
  rw [splitOutcomes, foldl_pushOutcome]
  refine ⟨?_, ?_⟩
  · refine ((hperm.filter _).map _).trans (.of_eq ?_)
    simp [List.filter_map, Function.comp_def, PublishFails]
  · refine ((hperm.filter _).map _).trans (.of_eq ?_)
    simp [List.filter_map, Function.comp_def, PublishFails]

theorem toInt_foldl_add (xs : List Int64) (acc : Int64) :
    (xs.foldl (· + ·) acc).toInt = (acc.toInt + (xs.map Int64.toInt).sum).bmod (2 ^ 64) := by
  induction xs generalizing acc with
  | nil => simp
  | cons x xs ih =>
      rw [List.foldl_cons, ih, Int64.toInt_add, List.map_cons, List.sum_cons, ← Int.add_assoc]
      exact Int.bmod_add_bmod

theorem isTotal_sumI64 (xs : List Int64) : IsTotal (sumI64 xs) xs := by
  refine ⟨rfl, fun hlow hhigh => ?_⟩
  have hsum := toInt_foldl_add xs 0
  rw [Int64.toInt_zero, Int.zero_add] at hsum
  rw [sumI64, hsum]
  exact Int.bmod_eq_of_le (by omega) (by omega)

/-- The shards reported as published are those that took the alert. -/
theorem published_perm (backend : DispatchBackend E P) (alertId : String) (payload : P)
    (publishOrder countOrder : List Nat) (prefixes : List String) :
    ((bufferUnordered maxParallelShards countOrder
      ((splitOutcomes (publishToShards backend payload publishOrder prefixes)).1.map
        (recordShard backend alertId))).map (·.1)).Perm
      ((prefixes.filter fun x => !PublishFails backend payload x).map
        fun x => (recordShard backend alertId x).1) := by
  have hok := (splitOutcomes_perm backend payload publishOrder prefixes).1
  have hcount := (bufferUnordered_perm maxParallelShards countOrder
    ((splitOutcomes (publishToShards backend payload publishOrder prefixes)).1.map
      (recordShard backend alertId))).map (·.1)
  rw [List.map_map] at hcount
  exact hcount.trans (hok.map _)

theorem map_shardPrefix_recordShard (backend : DispatchBackend E P) (alertId : String)
    (xs : List String) :
    (xs.map fun x => (recordShard backend alertId x).1).map (·.shardPrefix) = xs := by
  rw [List.map_map]
  exact List.map_id xs

-- ============================================================================
-- The result
-- ============================================================================

section Result

variable (backend : DispatchBackend E P) (metrics : DispatchMetrics) (alertId : String)
  (payload : P) (publishOrder countOrder : List Nat) (prefixes : List String)

theorem perShard_perm :
    (dispatchTo backend metrics alertId prefixes payload publishOrder countOrder).result.perShard.Perm
      ((prefixes.filter fun x => !PublishFails backend payload x).map
        fun x => (recordShard backend alertId x).1) :=
  (List.mergeSort_perm _ _).trans
    (published_perm backend alertId payload publishOrder countOrder prefixes)

theorem perShard_prefixes_perm :
    ((dispatchTo backend metrics alertId prefixes payload publishOrder
      countOrder).result.perShard.map (·.shardPrefix)).Perm
      (prefixes.filter fun x => !PublishFails backend payload x) := by
  have hperm := (perShard_perm backend metrics alertId payload publishOrder countOrder
    prefixes).map (·.shardPrefix)
  rwa [map_shardPrefix_recordShard] at hperm

theorem failedShards_perm :
    (dispatchTo backend metrics alertId prefixes payload publishOrder
      countOrder).result.failedShards.Perm
      (prefixes.filter fun x => PublishFails backend payload x) :=
  (List.mergeSort_perm _ _).trans
    (splitOutcomes_perm backend payload publishOrder prefixes).2

variable {prefixes}

theorem published_nodup (hnodup : prefixes.Nodup) :
    (((bufferUnordered maxParallelShards countOrder
      ((splitOutcomes (publishToShards backend payload publishOrder prefixes)).1.map
        (recordShard backend alertId))).map (·.1)).map (·.shardPrefix)).Nodup := by
  have hperm := (published_perm backend alertId payload publishOrder countOrder
    prefixes).map (·.shardPrefix)
  rw [map_shardPrefix_recordShard] at hperm
  exact hperm.nodup_iff.mpr (hnodup.filter _)

theorem failed_nodup (hnodup : prefixes.Nodup) :
    ((splitOutcomes (publishToShards backend payload publishOrder prefixes)).2.map id).Nodup := by
  rw [List.map_id]
  exact (splitOutcomes_perm backend payload publishOrder prefixes).2.nodup_iff.mpr
    (hnodup.filter _)

/-- The result does not depend on the orders of completion. -/
theorem result_eq_of_orders (hnodup : prefixes.Nodup) (publishOrder' countOrder' : List Nat) :
    (dispatchTo backend metrics alertId prefixes payload publishOrder' countOrder').result =
      (dispatchTo backend metrics alertId prefixes payload publishOrder countOrder).result := by
  have hpublished := mergeSort_key_eq_of_perm (·.shardPrefix)
    ((published_perm backend alertId payload publishOrder' countOrder' prefixes).trans
      (published_perm backend alertId payload publishOrder countOrder prefixes).symm)
    (published_nodup backend alertId payload publishOrder' countOrder' hnodup)
  have hfailed := mergeSort_key_eq_of_perm id
    ((splitOutcomes_perm backend payload publishOrder' prefixes).2.trans
      (splitOutcomes_perm backend payload publishOrder prefixes).2.symm)
    (failed_nodup backend payload publishOrder' hnodup)
  simp only [id_eq] at hfailed
  simp only [dispatchTo, summarize, hpublished, hfailed]

theorem dispatchTo_accounts (hnodup : prefixes.Nodup) :
    Accounts backend payload prefixes
      (dispatchTo backend metrics alertId prefixes payload publishOrder countOrder) := by
  have hper := perShard_prefixes_perm backend metrics alertId payload publishOrder countOrder
    prefixes
  have hfailed := failedShards_perm backend metrics alertId payload publishOrder countOrder
    prefixes
  have hmem : ∀ x, x ∈ (dispatchTo backend metrics alertId prefixes payload publishOrder
      countOrder).result.failedShards ↔ x ∈ prefixes ∧ PublishFails backend payload x = true := by
    intro x
    rw [hfailed.mem_iff, List.mem_filter]
  have htogether := (hper.append hfailed).trans
    (by simpa using (List.filter_append_perm (fun x => !PublishFails backend payload x) prefixes))
  have hlength := htogether.length_eq
  rw [List.length_append, List.length_map] at hlength
  refine
    { disjoint := ?_
      perShard_sorted := pairwise_lt_map_mergeSort_key ShardDispatch.shardPrefix
        (published_nodup backend alertId payload publishOrder countOrder hnodup)
      failedShards_sorted := ?_
      together := htogether
      mem_failedShards := hmem
      counted := ?_
      published := rfl
      targeted := ⟨rfl, hlength.symm⟩
      radiusTotal := isTotal_sumI64 _
      shardTotal := isTotal_sumI64 _
      notified := rfl
      isPartial := ?_
      audited := ?_ }
  · intro x hx hx'
    have htook := (List.mem_filter.mp (hper.mem_iff.mp hx)).2
    rw [((hmem x).mp hx').2] at htook
    cases htook
  · have hsorted := pairwise_lt_map_mergeSort_key id
      (failed_nodup backend payload publishOrder hnodup)
    rwa [List.map_id] at hsorted
  · intro d hd
    obtain ⟨x, -, rfl⟩ := List.mem_map.mp ((perShard_perm backend metrics alertId payload
      publishOrder countOrder prefixes).mem_iff.mp hd)
    exact ⟨rfl, rfl⟩
  · rw [DispatchResult.isPartial, Bool.not_eq_true', List.isEmpty_eq_false_iff_exists_mem]
    exact exists_congr hmem
  · intro audit haudit
    obtain ⟨shard, hshard, rfl⟩ := List.mem_map.mp haudit
    obtain ⟨x, -, rfl⟩ := List.mem_map.mp ((bufferUnordered_perm _ _ _).mem_iff.mp hshard)
    refine List.mem_map.mpr ⟨(recordShard backend alertId x).1, ?_, rfl⟩
    exact List.mem_mergeSort.mpr (List.mem_map_of_mem hshard)

end Result

/-- Every successful dispatch accounts for every target exactly once, and ends with the
    same result whatever the orders in which its two stages complete. -/
theorem dispatch_accounts (backend : DispatchBackend E P) (metrics : DispatchMetrics)
    (request : DispatchRequest E P) {prefixes : List String} {payload : P}
    (hprefixes : request.shardPrefixes = .ok prefixes) (hnodup : prefixes.Nodup)
    (hpayload : request.payload = .ok payload) {publishOrder countOrder : List Nat}
    {d : Dispatched E} (hd : dispatch backend metrics request publishOrder countOrder = .ok d) :
    Accounts backend payload prefixes d ∧
    ∀ publishOrder' countOrder', ∃ d',
      dispatch backend metrics request publishOrder' countOrder' = .ok d' ∧
      d'.result = d.result := by
  cases hinsert : request.insertAlert with
  | error e => simp [dispatch, hprefixes, hinsert, bind, Except.bind] at hd
  | ok u =>
      have hto : ∀ publishOrder countOrder,
          dispatch backend metrics request publishOrder countOrder =
            .ok (dispatchTo backend metrics request.alertId prefixes payload publishOrder
              countOrder) := by
        intro publishOrder countOrder
        simp [dispatch, hprefixes, hinsert, hpayload, bind, Except.bind, pure, Except.pure]
      rw [hto] at hd
      cases hd
      refine ⟨dispatchTo_accounts backend metrics request.alertId payload publishOrder countOrder
        hnodup, fun publishOrder' countOrder' => ⟨_, hto publishOrder' countOrder', ?_⟩⟩
      exact result_eq_of_orders backend metrics request.alertId payload publishOrder countOrder
        hnodup publishOrder' countOrder'

/-- `s002` cannot be reached and the devices of `s003` cannot be counted. -/
def exampleBackend : DispatchBackend String Unit where
  publish subject _ := if subject = "alerts.geo.s002" then .error "s002 unreachable" else .ok ()
  countInShardAndRadius shardPrefix :=
    if shardPrefix = "s003" then .error "timeout" else .ok { inShard := 5, inRadius := 2 }
  recordShardDelivery _ := .ok ()

def exampleRequest : DispatchRequest String Unit where
  alertId := "a"
  shardPrefixes := .ok ["s003", "s001", "s002"]
  insertAlert := .ok ()
  payload := .ok ()

theorem dispatch_accounts_example :
    ∃ d, dispatch exampleBackend {} exampleRequest [2, 1] [1] = .ok d ∧
      d.result.failedShards = ["s002"] ∧
      Accounts exampleBackend () ["s003", "s001", "s002"] d := by
  refine ⟨_, rfl, by decide +kernel, ?_⟩
  exact (dispatch_accounts exampleBackend {} exampleRequest rfl (by decide) rfl rfl).1

end PulseGrid.Coordinator
