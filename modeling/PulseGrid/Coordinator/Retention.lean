/-
  PulseGrid.Coordinator.Retention

  The retention sweep: `RetentionService` (services/retention_service.rs), the two batched
  `DELETE` statements it repeats (crates/infra/src/db.rs) and the cascade from alerts to
  their delivery rows (migrations/0002_retention.sql).

  Each of the two loops is the library's batched purge on its own table
  (`sweepLoop_devices`, `sweepLoop_alerts`), so a sweep removes the oldest expired rows up
  to 100 000 of a kind, and sweeps after one another go on where the last one stopped
  (`sweeps_exact`).  Times are microseconds, which is what a `TIMESTAMPTZ` column and a
  bound timestamp hold.
-/

import PulseGrid.Lib.BatchedPurge
import PulseGrid.Lib.Chrono

namespace PulseGrid.Coordinator

open BatchedPurge

-- ============================================================================
-- The tables
-- ============================================================================

/-- A row of `devices`; `rest` are the columns no statement here looks at. -/
structure DeviceRow (D V : Type) where
  id : D
  lastSeen : Int
  rest : V
deriving DecidableEq

structure AlertRow (A V : Type) where
  id : A
  createdAt : Int
  rest : V
deriving DecidableEq

structure AlertDeliveryRow (A V : Type) where
  alertId : A
  rest : V
deriving DecidableEq

/-- The tables with their constraints: two primary keys and the foreign key of
    `alert_deliveries`. -/
structure Database (D A V : Type) where
  devices : List (DeviceRow D V)
  alerts : List (AlertRow A V)
  deliveries : List (AlertDeliveryRow A V)
  devices_key : (devices.map DeviceRow.id).Nodup
  alerts_key : (alerts.map AlertRow.id).Nodup
  deliveries_alert : ∀ r ∈ deliveries, r.alertId ∈ alerts.map AlertRow.id

variable {D A V : Type} [DecidableEq D] [DecidableEq A]

namespace Database

/-- `DeviceRepository::purge_inactive`, with the number of rows affected. -/
def purgeInactive (by_ : OrderBy (DeviceRow.lastSeen (D := D) (V := V))) (cutoff : Int)
    (batch : Nat) (db : Database D A V) : Database D A V × Nat :=
  let purged := purge DeviceRow.id by_ cutoff batch db.devices
  ({ db with
      devices := purged.1
      devices_key := (purge_purged by_ cutoff batch db.devices_key).keys_nodup db.devices_key },
    purged.2.length)

/-- A delivery row whose alert was not deleted still has its alert. -/
theorem deliveries_alert_of_purged {alerts rest deleted : List (AlertRow A V)} {cutoff : Int}
    {cap : Nat} (h : Purged AlertRow.createdAt cutoff cap alerts rest deleted)
    {deliveries : List (AlertDeliveryRow A V)}
    (hfk : ∀ r ∈ deliveries, r.alertId ∈ alerts.map AlertRow.id) :
    ∀ r ∈ deliveries.filter fun r => r.alertId ∉ deleted.map AlertRow.id,
      r.alertId ∈ rest.map AlertRow.id := by
  intro r hr
  obtain ⟨hr, hnot⟩ := List.mem_filter.mp hr
  have hin := ((h.split.map AlertRow.id).mem_iff).mp (hfk r hr)
  rw [List.map_append] at hin
  exact (List.mem_append.mp hin).resolve_left (by simpa using hnot)

/-- `AlertRepository::purge_older_than`; `ON DELETE CASCADE` takes the delivery rows of the
    deleted alerts along. -/
def purgeOlderThan (by_ : OrderBy (AlertRow.createdAt (A := A) (V := V))) (cutoff : Int)
    (batch : Nat) (db : Database D A V) : Database D A V × Nat :=
  let purged := purge AlertRow.id by_ cutoff batch db.alerts
  let spec := purge_purged by_ cutoff batch db.alerts_key
  ({ db with
      alerts := purged.1
      deliveries := db.deliveries.filter fun r => r.alertId ∉ purged.2.map AlertRow.id
      alerts_key := spec.keys_nodup db.alerts_key
      deliveries_alert := deliveries_alert_of_purged spec db.deliveries_alert },
    purged.2.length)

end Database

-- ============================================================================
-- The sweep
-- ============================================================================

/-- `BATCH_SIZE`. -/
def batchSize : Nat := 500

/-- `MAX_BATCHES_PER_SWEEP`. -/
def maxBatchesPerSweep : Nat := 200

structure SweepReport where
  devicesDeleted : Nat
  alertsDeleted : Nat
deriving DecidableEq, Repr

/-- The two counters of the coordinator's metrics that a sweep adds to. -/
structure RetentionMetrics where
  devicesDeleted : UInt64
  alertsDeleted : UInt64
deriving DecidableEq

structure RetentionService where
  deviceRetention : Int
  alertRetention : Int
deriving DecidableEq, Repr

/-- How the statements of one sweep order rows of the same time, by batches left. -/
structure Ties (D A V : Type) where
  devices : Nat → OrderBy (DeviceRow.lastSeen (D := D) (V := V))
  alerts : Nat → OrderBy (AlertRow.createdAt (A := A) (V := V))

/-- One of the two loops of `sweep`: it ends at the first statement that deletes less than a
    batch. -/
def sweepLoop (statement : Nat → Database D A V → Database D A V × Nat) :
    (batches : Nat) → Database D A V → Database D A V × Nat
  | 0, db => (db, 0)
  | batches + 1, db =>
      let (db', n) := statement batches db
      if n < batchSize then (db', n)
      else
        let (last, later) := sweepLoop statement batches db'
        (last, n + later)

namespace RetentionService

/-- `RetentionService::new`; `ChronoDuration::days` may panic. -/
def new (deviceRetentionDays alertRetentionDays : Int) : Option RetentionService := do
  let deviceRetention ← Chrono.days deviceRetentionDays
  let alertRetention ← Chrono.days alertRetentionDays
  return { deviceRetention, alertRetention }

/-- `cutoffs`; the subtraction may panic. -/
def cutoffs (self : RetentionService) (now : Int) : Option (Int × Int) := do
  let deviceCutoff ← Chrono.utc (now - self.deviceRetention)
  let alertCutoff ← Chrono.utc (now - self.alertRetention)
  return (deviceCutoff, alertCutoff)

/-- `sweep`, while no statement fails and nobody else writes. -/
def sweep (self : RetentionService) (ties : Ties D A V) (now : Int)
    (s : Database D A V × RetentionMetrics) :
    Option ((Database D A V × RetentionMetrics) × SweepReport) := do
  let (deviceCutoff, alertCutoff) ← self.cutoffs now
  let (db, devicesDeleted) := sweepLoop
    (fun b => Database.purgeInactive (ties.devices b) deviceCutoff batchSize) maxBatchesPerSweep s.1
  let (db, alertsDeleted) := sweepLoop
    (fun b => Database.purgeOlderThan (ties.alerts b) alertCutoff batchSize) maxBatchesPerSweep db
  let metrics : RetentionMetrics :=
    { devicesDeleted := s.2.devicesDeleted + UInt64.ofNat devicesDeleted
      alertsDeleted := s.2.alertsDeleted + UInt64.ofNat alertsDeleted }
  return ((db, metrics), { devicesDeleted, alertsDeleted })

/-- `k` sweeps one after another, with their reports. -/
def sweeps (self : RetentionService) (ties : Nat → Ties D A V) (now : Int) :
    (k : Nat) → Database D A V × RetentionMetrics →
      Option ((Database D A V × RetentionMetrics) × List SweepReport)
  | 0, s => some (s, [])
  | k + 1, s => do
      let (s', reports) ← self.sweeps ties now k s
      let (s'', report) ← self.sweep (ties k) now s'
      return (s'', reports ++ [report])

end RetentionService

-- ============================================================================
-- The loops
-- ============================================================================

omit [DecidableEq A] in
/-- The device loop purges the devices, in all its batches together, and nothing else. -/
theorem sweepLoop_devices (by_ : Nat → OrderBy (DeviceRow.lastSeen (D := D) (V := V)))
    (cutoff : Int) (batches : Nat) (db : Database D A V) :
    let result := sweepLoop (fun b => Database.purgeInactive (by_ b) cutoff batchSize) batches db
    ∃ gone, Purged DeviceRow.lastSeen cutoff (batches * batchSize) db.devices result.1.devices gone ∧
      result.2 = gone.length ∧ result.1.alerts = db.alerts ∧
      result.1.deliveries = db.deliveries := by
  have hloop : ∀ db : Database D A V,
      let result := sweepLoop (fun b => Database.purgeInactive (by_ b) cutoff batchSize) batches db
      result.1.devices = (purgeLoop DeviceRow.id by_ cutoff batchSize batches db.devices).1 ∧
      result.2 = (purgeLoop DeviceRow.id by_ cutoff batchSize batches db.devices).2.length ∧
      result.1.alerts = db.alerts ∧ result.1.deliveries = db.deliveries := by
    induction batches with
    | zero => exact fun db => ⟨rfl, rfl, rfl, rfl⟩
    | succ batches ih =>
        intro db
        obtain ⟨hdevices, hcount, halerts, hdeliveries⟩ :=
          ih (db.purgeInactive (by_ batches) cutoff batchSize).1
        simp only [sweepLoop, purgeLoop_succ]
        by_cases hshort : (purge DeviceRow.id (by_ batches) cutoff batchSize db.devices).2.length <
            batchSize
        · have hn : (db.purgeInactive (by_ batches) cutoff batchSize).2 < batchSize := hshort
          rw [if_pos hn, if_pos hshort]
          exact ⟨rfl, rfl, rfl, rfl⟩
        · have hn : ¬ (db.purgeInactive (by_ batches) cutoff batchSize).2 < batchSize := hshort
          rw [if_neg hn, if_neg hshort]
          refine ⟨hdevices, ?_, halerts, hdeliveries⟩
          rw [List.length_append]
          exact congrArg₂ _ rfl hcount
  obtain ⟨hdevices, hcount, halerts, hdeliveries⟩ := hloop db
  refine ⟨_, ?_, hcount, halerts, hdeliveries⟩
  rw [hdevices]
  exact purgeLoop_purged by_ cutoff batchSize batches db.devices_key

omit [DecidableEq D] in
/-- The alert loop purges the alerts and takes exactly their delivery rows along. -/
theorem sweepLoop_alerts (by_ : Nat → OrderBy (AlertRow.createdAt (A := A) (V := V)))
    (cutoff : Int) (batches : Nat) (db : Database D A V) :
    let result := sweepLoop (fun b => Database.purgeOlderThan (by_ b) cutoff batchSize) batches db
    ∃ gone, Purged AlertRow.createdAt cutoff (batches * batchSize) db.alerts result.1.alerts gone ∧
      result.2 = gone.length ∧ result.1.devices = db.devices ∧
      result.1.deliveries = db.deliveries.filter fun r => r.alertId ∉ gone.map AlertRow.id := by
  have hloop : ∀ db : Database D A V,
      let result := sweepLoop (fun b => Database.purgeOlderThan (by_ b) cutoff batchSize) batches db
      let gone := (purgeLoop AlertRow.id by_ cutoff batchSize batches db.alerts).2
      result.1.alerts = (purgeLoop AlertRow.id by_ cutoff batchSize batches db.alerts).1 ∧
      result.2 = gone.length ∧ result.1.devices = db.devices ∧
      result.1.deliveries = db.deliveries.filter fun r => r.alertId ∉ gone.map AlertRow.id := by
    induction batches with
    | zero =>
        intro db
        exact ⟨rfl, rfl, rfl, by simp [sweepLoop, purgeLoop]⟩
    | succ batches ih =>
        intro db
        obtain ⟨halerts, hcount, hdevices, hdeliveries⟩ :=
          ih (db.purgeOlderThan (by_ batches) cutoff batchSize).1
        simp only [sweepLoop, purgeLoop_succ]
        by_cases hshort : (purge AlertRow.id (by_ batches) cutoff batchSize db.alerts).2.length <
            batchSize
        · have hn : (db.purgeOlderThan (by_ batches) cutoff batchSize).2 < batchSize := hshort
          rw [if_pos hn, if_pos hshort]
          exact ⟨rfl, rfl, rfl, rfl⟩
        · have hn : ¬ (db.purgeOlderThan (by_ batches) cutoff batchSize).2 < batchSize := hshort
          rw [if_neg hn, if_neg hshort]
          refine ⟨halerts, ?_, hdevices, ?_⟩
          · rw [List.length_append]
            exact congrArg₂ _ rfl hcount
          · -- rows dropped with an earlier batch or with a later one
            rw [hdeliveries]
            show (List.filter _ (List.filter _ _)) = _
            rw [List.filter_filter]
            apply List.filter_congr
            intro r _
            simp only [List.map_append, List.mem_append, not_or, Bool.decide_and]
            rw [Bool.and_comm]
            rfl
  obtain ⟨halerts, hcount, hdevices, hdeliveries⟩ := hloop db
  refine ⟨_, ?_, hcount, hdevices, hdeliveries⟩
  rw [halerts]
  exact purgeLoop_purged by_ cutoff batchSize batches db.alerts_key

-- ============================================================================
-- Sweeps
-- ============================================================================

/-- The most rows of a kind that one sweep removes. -/
def sweepCap : Nat := maxBatchesPerSweep * batchSize

/-- From one database to another, rows of devices and alerts were purged with a cap, and
    exactly the delivery rows of the purged alerts disappeared. -/
structure Swept (deviceCutoff alertCutoff : Int) (cap : Nat) (db db' : Database D A V)
    (devices : List (DeviceRow D V)) (alerts : List (AlertRow A V)) : Prop where
  devices_purged : Purged DeviceRow.lastSeen deviceCutoff cap db.devices db'.devices devices
  alerts_purged : Purged AlertRow.createdAt alertCutoff cap db.alerts db'.alerts alerts
  deliveries_kept : db'.deliveries =
    db.deliveries.filter fun r => r.alertId ∉ alerts.map AlertRow.id

omit [DecidableEq D] in
theorem Swept.refl (deviceCutoff alertCutoff : Int) (db : Database D A V) :
    Swept deviceCutoff alertCutoff 0 db db [] [] where
  devices_purged := Purged.refl _ _
  alerts_purged := Purged.refl _ _
  deliveries_kept := by simp

omit [DecidableEq D] in
theorem Swept.trans {deviceCutoff alertCutoff : Int} {cap₁ cap₂ : Nat}
    {db mid db' : Database D A V} {devices₁ devices₂ : List (DeviceRow D V)}
    {alerts₁ alerts₂ : List (AlertRow A V)}
    (h₁ : Swept deviceCutoff alertCutoff cap₁ db mid devices₁ alerts₁)
    (h₂ : Swept deviceCutoff alertCutoff cap₂ mid db' devices₂ alerts₂) :
    Swept deviceCutoff alertCutoff (cap₁ + cap₂) db db' (devices₁ ++ devices₂)
      (alerts₁ ++ alerts₂) where
  devices_purged := h₁.devices_purged.trans h₂.devices_purged
  alerts_purged := h₁.alerts_purged.trans h₂.alerts_purged
  deliveries_kept := by
    rw [h₂.deliveries_kept, h₁.deliveries_kept, List.filter_filter]
    apply List.filter_congr
    intro r _
    simp only [List.map_append, List.mem_append, not_or, Bool.decide_and]
    exact Bool.and_comm _ _

namespace RetentionService

/-- What one sweep does, from any content of the tables. -/
theorem sweep_spec {self : RetentionService} {now deviceCutoff alertCutoff : Int}
    (hcut : self.cutoffs now = some (deviceCutoff, alertCutoff)) (ties : Ties D A V)
    (s : Database D A V × RetentionMetrics) :
    ∃ s' devices alerts, Swept deviceCutoff alertCutoff sweepCap s.1 s'.1 devices alerts ∧
      s'.2.devicesDeleted = s.2.devicesDeleted + UInt64.ofNat devices.length ∧
      s'.2.alertsDeleted = s.2.alertsDeleted + UInt64.ofNat alerts.length ∧
      self.sweep ties now s =
        some (s', { devicesDeleted := devices.length, alertsDeleted := alerts.length }) := by
  obtain ⟨devices, hdevices, hcount, halerts, hdeliveries⟩ :=
    sweepLoop_devices ties.devices deviceCutoff maxBatchesPerSweep s.1
  obtain ⟨alerts, halertsPurged, hcount', hdevices', hdeliveries'⟩ :=
    sweepLoop_alerts ties.alerts alertCutoff maxBatchesPerSweep
      (sweepLoop (fun b => Database.purgeInactive (ties.devices b) deviceCutoff batchSize)
        maxBatchesPerSweep s.1).1
  rw [halerts] at halertsPurged
  rw [hdeliveries] at hdeliveries'
  refine ⟨(_, { devicesDeleted := _, alertsDeleted := _ }), devices, alerts,
    ⟨?_, halertsPurged, hdeliveries'⟩, rfl, rfl, ?_⟩
  · rw [hdevices']
    exact hdevices
  · rw [sweep, hcut]
    simp only [Option.bind_eq_bind, Option.bind_some, hcount, hcount']
    rfl

/-- Sweeps one after another with the same `now` are one long sweep, and each reports what was
    left for it. -/
theorem sweeps_spec {self : RetentionService} {now deviceCutoff alertCutoff : Int}
    (hcut : self.cutoffs now = some (deviceCutoff, alertCutoff)) (ties : Nat → Ties D A V)
    (s : Database D A V × RetentionMetrics) (k : Nat) :
    ∃ s' devices alerts, Swept deviceCutoff alertCutoff (k * sweepCap) s.1 s'.1 devices alerts ∧
      self.sweeps ties now k s = some (s', (List.range k).map fun i =>
        { devicesDeleted :=
            min sweepCap ((expired DeviceRow.lastSeen deviceCutoff s.1.devices).length - i * sweepCap)
          alertsDeleted :=
            min sweepCap ((expired AlertRow.createdAt alertCutoff s.1.alerts).length - i * sweepCap) })
      := by
  induction k with
  | zero => exact ⟨s, [], [], by rw [Nat.zero_mul]; exact Swept.refl _ _ _, rfl⟩
  | succ k ih =>
      obtain ⟨s', devices, alerts, hswept, hsweeps⟩ := ih
      obtain ⟨s'', devices', alerts', hswept', -, -, hsweep⟩ := sweep_spec hcut (ties k) s'
      refine ⟨s'', devices ++ devices', alerts ++ alerts', ?_, ?_⟩
      · rw [Nat.succ_mul]
        exact hswept.trans hswept'
      · rw [sweeps, hsweeps]
        simp only [Option.bind_eq_bind, Option.bind_some, hsweep, List.range_succ,
          List.map_append, List.map_cons, List.map_nil]
        rw [hswept'.devices_purged.count, hswept'.alerts_purged.count, hswept.devices_purged.expired_rest,
          hswept.alerts_purged.expired_rest]
        rfl

/-- **The retention sweep is exact.**  While `cutoffs` is in range: a sweep deletes devices
    last seen, and alerts created, before their cutoff, the oldest of them first; all of them
    when there are at most `200 * 500` of the kind and `200 * 500` otherwise; exactly the
    delivery rows of deleted alerts disappear, every other row stays, and the report counts
    the deleted rows.  Further sweeps with the same `now` go on with the next oldest, and
    report zero once none is left. -/
theorem sweep_exact {self : RetentionService} {now deviceCutoff alertCutoff : Int}
    (hcut : self.cutoffs now = some (deviceCutoff, alertCutoff)) (ties : Nat → Ties D A V)
    (s : Database D A V × RetentionMetrics) :
    deviceCutoff = now - self.deviceRetention ∧ alertCutoff = now - self.alertRetention ∧
    (∃ s' devices alerts, Swept deviceCutoff alertCutoff (200 * 500) s.1 s'.1 devices alerts ∧
      self.sweep (ties 0) now s =
        some (s', { devicesDeleted := devices.length, alertsDeleted := alerts.length }) ∧
      ((expired DeviceRow.lastSeen deviceCutoff s.1.devices).length ≤ 200 * 500 →
        ∀ r ∈ s'.1.devices, ¬ r.lastSeen < deviceCutoff) ∧
      ((expired AlertRow.createdAt alertCutoff s.1.alerts).length ≤ 200 * 500 →
        ∀ r ∈ s'.1.alerts, ¬ r.createdAt < alertCutoff)) ∧
    ∀ k, ∃ s' devices alerts,
      Swept deviceCutoff alertCutoff (k * (200 * 500)) s.1 s'.1 devices alerts ∧
      self.sweeps ties now k s = some (s', (List.range k).map fun i =>
        { devicesDeleted := min (200 * 500)
            ((expired DeviceRow.lastSeen deviceCutoff s.1.devices).length - i * (200 * 500))
          alertsDeleted := min (200 * 500)
            ((expired AlertRow.createdAt alertCutoff s.1.alerts).length - i * (200 * 500)) }) := by
  have hcutoffs : deviceCutoff = now - self.deviceRetention ∧
      alertCutoff = now - self.alertRetention := by
    rw [cutoffs] at hcut
    obtain ⟨d, hd, hcut⟩ := Option.bind_eq_some_iff.mp hcut
    obtain ⟨a, ha, hcut⟩ := Option.bind_eq_some_iff.mp hcut
    obtain ⟨rfl, rfl⟩ := Prod.mk.inj (Option.some.inj hcut)
    exact ⟨(Chrono.utc_eq_some.mp hd).1, (Chrono.utc_eq_some.mp ha).1⟩
  refine ⟨hcutoffs.1, hcutoffs.2, ?_, sweeps_spec hcut ties s⟩
  obtain ⟨s', devices, alerts, hswept, -, -, hsweep⟩ := sweep_spec hcut (ties 0) s
  exact ⟨_, devices, alerts, hswept, hsweep, hswept.devices_purged.none_left, hswept.alerts_purged.none_left⟩

/-- The defaults: devices for 90 days, alerts for 365. -/
def defaultRetention : RetentionService where
  deviceRetention := 90 * Chrono.microsPerDay
  alertRetention := 365 * Chrono.microsPerDay

/-- One device and one alert past their retention, and one of each that is not. -/
def exampleDatabase : Database Nat Nat Unit where
  devices := [⟨1, 0, ()⟩, ⟨2, 400 * Chrono.microsPerDay, ()⟩]
  alerts := [⟨7, 0, ()⟩, ⟨8, 300 * Chrono.microsPerDay, ()⟩]
  deliveries := [⟨7, ()⟩, ⟨8, ()⟩, ⟨7, ()⟩]
  devices_key := by decide
  alerts_key := by decide
  deliveries_alert := by decide

def stableTies : Ties Nat Nat Unit where
  devices _ := OrderBy.stable _
  alerts _ := OrderBy.stable _

theorem cutoffs_defaults : defaultRetention.cutoffs (400 * Chrono.microsPerDay) =
    some (310 * Chrono.microsPerDay, 35 * Chrono.microsPerDay) := by
  decide +kernel

theorem sweep_exact_defaults :
    (defaultRetention.sweep stableTies (400 * Chrono.microsPerDay) (exampleDatabase, ⟨0, 0⟩)).map
      (fun r => (r.1.1.devices.map DeviceRow.id, r.1.1.alerts.map AlertRow.id,
        r.1.1.deliveries.map AlertDeliveryRow.alertId, r.2)) =
      some ([2], [8], [8], ⟨1, 1⟩) ∧
    310 * Chrono.microsPerDay =
      400 * Chrono.microsPerDay - defaultRetention.deviceRetention :=
  ⟨by decide +kernel, (sweep_exact cutoffs_defaults (fun _ => stableTies)
    (exampleDatabase, ⟨0, 0⟩)).1⟩

end RetentionService

end PulseGrid.Coordinator
