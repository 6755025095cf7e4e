/-
  PulseGrid.Worker.WorkerTasks

  The tasks of one worker that share its connection registry: the sockets, the shard
  subscribers (crates/fanout-worker/src/subscriber.rs), the control subscriber
  (control.rs), the replays and the tasks that report a fan-out.

  Every registry call is one step, as is the handling of one message.  A replay that waits
  for room is handed a slot in one step and uses it or gives it back in a later one; until
  then nobody else gets the slot.  Of the telemetry, the worker's name and the time are left
  out, and of a fan-out how long it took.
-/

import PulseGrid.Domain.Protocol
import PulseGrid.Infra.Metrics
import PulseGrid.Worker.Connect
import PulseGrid.Worker.RegistryTraffic

namespace PulseGrid.Worker

open Infra (CounterVec)

variable {F A P : Type} [CommRing F] [LinearOrder F]

/-- The registry of a worker. -/
abbrev WorkerRegistry (F P : Type) [CommRing F] [LinearOrder F] :=
  ConnectionRegistry Uuid String (Location F) P

-- ============================================================================
-- Control messages
-- ============================================================================

/-- `handle_control`. -/
def handleControlMessage (wire : ControlWire F) (registry : WorkerRegistry F P)
    (subject : List Char) (payload : List UInt8) : WorkerRegistry F P × Handled :=
  handleControl wire.toJson registry (wire.deviceIdFromControlSubject subject)
    (wire.fromSlice payload)

def Handled.label : Handled → List Char
  | .ignored => "ignored".toList
  | .locationApplied => "location_applied".toList
  | .forwarded => "forwarded".toList
  | .notConnectedHere => "not_connected_here".toList

-- ============================================================================
-- Alerts
-- ============================================================================

/-- How a worker reads an alert: `serde_json::from_slice::<Alert>`, its id, and
    `Alert::contains`. -/
structure AlertReader (F A P : Type) [CommRing F] [LinearOrder F] where
  parse : P → Option A
  id : A → Uuid
  contains : A → Location F → Bool

/-- What one fan-out is reported as. -/
structure Fanout where
  alertId : Uuid
  shardPrefix : String
  result : BroadcastResult
deriving DecidableEq

/-- The task that reports a fan-out: it calls `stats.record` and then, whatever came of it,
    `publish_telemetry`; both results are only logged. -/
inductive ReportPc where
  | record
  | publish (recorded : Bool)
  | ended (recorded published : Bool)
deriving DecidableEq

structure ReportTask where
  fanout : Fanout
  pc : ReportPc := .record
deriving DecidableEq

/-- The delivery stats were recorded. -/
def ReportTask.recorded (task : ReportTask) : Bool :=
  match task.pc with
  | .record => false
  | .publish recorded | .ended recorded _ => recorded

/-- The telemetry was published. -/
def ReportTask.published (task : ReportTask) : Bool :=
  match task.pc with
  | .record | .publish _ => false
  | .ended _ published => published

/-- The metrics of the alert and control subscribers. -/
structure WorkerMetrics where
  alertsReceived : CounterVec
  alertsDelivered : CounterVec
  alertsDropped : CounterVec
  alertsFilteredOut : CounterVec
  alertsInvalid : UInt64
  controlMessages : CounterVec

/-- `WorkerMetrics::new`. -/
def WorkerMetrics.new : WorkerMetrics :=
  let byShard : CounterVec := ⟨"shard".toList, ∅, by decide⟩
  { alertsReceived := byShard
    alertsDelivered := byShard
    alertsDropped := byShard
    alertsFilteredOut := byShard
    alertsInvalid := 0
    controlMessages := ⟨"outcome".toList, ∅, by decide⟩ }

-- ============================================================================
-- The worker
-- ============================================================================

/-- One step of a task. -/
inductive TaskLabel (F A P : Type) [CommRing F] [LinearOrder F] where
  /-- A socket's call on the registry, or an act of its receiver. -/
  | socket (call : Call Uuid String (Location F) P A)
  /-- A message on the subject of a shard. -/
  | message (shardPrefix : String) (payload : P)
  /-- A message on the subject of a device. -/
  | control (subject : List Char) (payload : List UInt8)
  /-- A replay that waits for room is handed a slot of its connection's queue. -/
  | replayGrant (conn : Nat)
  /-- A replay stores an alert in its connection's queue; `granted` says that it had to wait
      for the slot. -/
  | replaySend (conn : Nat) (payload : P) (granted : Bool)
  /-- A replay is complete and says so. -/
  | replayDone (conn replayed : Nat) (granted : Bool)
  /-- A replay that was handed a slot ends without using it. -/
  | replayGiveUp (conn : Nat)
  /-- `stats.record` of reporting task `k` returns. -/
  | record (k : Nat) (ok : Bool)
  /-- `publish_telemetry` of reporting task `k` returns. -/
  | publish (k : Nat) (ok : Bool)

/-- A message in a queue: whose connection it is, of which shard and where its device was
    when the message was stored, and the step that stored it. -/
structure Stored (F A P : Type) [CommRing F] [LinearOrder F] where
  conn : Nat
  device : Uuid
  shard : String
  location : Location F
  message : Outbound P
  storedBy : TaskLabel F A P

structure WorkerTasks (F A P : Type) [CommRing F] [LinearOrder F] where
  registry : WorkerRegistry F P := {}
  metrics : WorkerMetrics := .new
  /-- The reporting tasks, in the order in which they were spawned. -/
  reports : List ReportTask := []
  /-- What `stats.record` recorded. -/
  recorded : List Fanout := []
  /-- What `publish_telemetry` published. -/
  published : List Fanout := []
  /-- History: whose each connection is. -/
  owners : List Uuid := []
  /-- History: what was stored in the queues. -/
  stored : List (Stored F A P) := []
  /-- History: what the writers took out of the queues. -/
  taken : List (Nat × Outbound P) := []
  /-- History: all fan-outs. -/
  fanouts : List Fanout := []

namespace WorkerTasks

/-- `fanout`: `none` if the payload is not an alert. -/
def fanout (reader : AlertReader F A P) (registry : WorkerRegistry F P) (shardPrefix : String)
    (payload : P) : Option (WorkerRegistry F P × Fanout) :=
  (reader.parse payload).map fun alert =>
    let (registry, result) := registry.broadcastToShard reader.contains shardPrefix alert payload
    (registry, { alertId := reader.id alert, shardPrefix, result })

/-- The calls that sockets make themselves. -/
def isSocketCall : Call Uuid String (Location F) P A → Bool
  | .register _ _ _ | .deregister _ _ | .senderFor _ _ | .closeAll | .recv _
  | .dropReceiver _ => true
  | .updateLocation _ _ | .sendControl _ _ _ | .broadcastToShard _ _ _ => false

/-- What a step stored in the queues. -/
def gains (self : WorkerTasks F A P) (registry : WorkerRegistry F P) (label : TaskLabel F A P) :
    List (Stored F A P) :=
  (List.range self.registry.heap.length).flatMap fun n =>
    match self.registry.heap[n]?, self.owners[n]? with
    | some conn, some device =>
        (ConnectionRegistry.gainedAt self.registry registry n).map fun message =>
          ⟨n, device, conn.shard, conn.location, message, label⟩
    | _, _ => []

/-- The registry after a step, with what the step stored. -/
def withRegistry (self : WorkerTasks F A P) (registry : WorkerRegistry F P)
    (label : TaskLabel F A P) : WorkerTasks F A P :=
  { self with registry, stored := self.stored ++ self.gains registry label }

/-- `on_alert`. -/
def onAlert (reader : AlertReader F A P) (self : WorkerTasks F A P) (shardPrefix : String)
    (payload : P) : WorkerTasks F A P :=
  let shard := shardPrefix.toList
  let metrics := { self.metrics with alertsReceived := self.metrics.alertsReceived.inc shard }
  match fanout reader self.registry shardPrefix payload with
  | none => { self with metrics := { metrics with alertsInvalid := metrics.alertsInvalid + 1 } }
  | some (registry, f) =>
      { self.withRegistry registry (.message shardPrefix payload) with
        metrics := { metrics with
          alertsDelivered := metrics.alertsDelivered.add shard (.ofNat f.result.delivered)
          alertsDropped := metrics.alertsDropped.add shard (.ofNat f.result.dropped)
          alertsFilteredOut := metrics.alertsFilteredOut.add shard (.ofNat f.result.filteredOut) }
        reports := self.reports ++ [{ fanout := f }]
        fanouts := self.fanouts ++ [f] }

/-- The control subscriber's handling of one message. -/
def onControl (wire : ControlWire F) (self : WorkerTasks F A P) (subject : List Char)
    (payload : List UInt8) : WorkerTasks F A P :=
  let (registry, outcome) := handleControlMessage wire self.registry subject payload
  { self.withRegistry registry (.control subject payload) with
    metrics := { self.metrics with
      controlMessages := self.metrics.controlMessages.inc outcome.label } }

/-- Whether a replay of the connection was handed a slot. -/
def grantedAt (registry : WorkerRegistry F P) (conn : Nat) : Bool :=
  (registry.heap[conn]?).any fun c => 0 < c.channel.reserved

/-- A change to the queue of a connection. -/
def onChannel (registry : WorkerRegistry F P) (conn : Nat)
    (f : Channel (Outbound P) → Channel (Outbound P)) : WorkerRegistry F P :=
  registry.modifyConn conn fun c => { c with channel := f c.channel }

/-- `sender.send` of a replay gets through: with the slot it was handed, or without having to
    wait. -/
def replayStore (registry : WorkerRegistry F P) (conn : Nat) (granted : Bool) (m : Outbound P) :
    Option (WorkerRegistry F P) :=
  if granted then
    if grantedAt registry conn && (registry.heap[conn]?).any (fun c => c.channel.rxOpen) then
      some (onChannel registry conn fun channel => channel.sendReserved m)
    else none
  else if registry.acceptsAt conn then some (registry.offerTo conn m)
  else none

def step (wire : ControlWire F) (reader : AlertReader F A P) (self : WorkerTasks F A P) :
    TaskLabel F A P → Option (WorkerTasks F A P)
  | .socket call =>
      if isSocketCall call then
        some { self.withRegistry (self.registry.exec reader.contains call).1 (.socket call) with
          owners := match call with
            | .register deviceId _ _ => self.owners ++ [deviceId]
            | _ => self.owners
          taken := match call with
            | .recv conn =>
                self.taken ++ ((self.registry.recv conn).2.map fun m => (conn, m)).toList
            | _ => self.taken }
      else none
  | .message shardPrefix payload => some (self.onAlert reader shardPrefix payload)
  | .control subject payload => some (self.onControl wire subject payload)
  | .replayGrant conn =>
      if self.registry.acceptsAt conn then
        some (self.withRegistry (onChannel self.registry conn Channel.reserve) (.replayGrant conn))
      else none
  | .replaySend conn payload granted =>
      (replayStore self.registry conn granted (.alert payload)).map fun registry =>
        self.withRegistry registry (.replaySend conn payload granted)
  | .replayDone conn replayed granted =>
      (replayStore self.registry conn granted
          (.control (wire.toJson (.replayComplete replayed)) false)).map fun registry =>
        self.withRegistry registry (.replayDone conn replayed granted)
  | .replayGiveUp conn =>
      if grantedAt self.registry conn then
        some (self.withRegistry (onChannel self.registry conn Channel.release)
          (.replayGiveUp conn))
      else none
  | .record k ok =>
      match self.reports[k]? with
      | some { fanout, pc := .record } =>
          some { self with
            reports := self.reports.set k { fanout, pc := .publish ok }
            recorded := self.recorded ++ if ok then [fanout] else [] }
      | _ => none
  | .publish k ok =>
      match self.reports[k]? with
      | some { fanout, pc := .publish recorded } =>
          some { self with
            reports := self.reports.set k { fanout, pc := .ended recorded ok }
            published := self.published ++ if ok then [fanout] else [] }
      | _ => none

/-- A run from a fresh worker. -/
def run (wire : ControlWire F) (reader : AlertReader F A P) (labels : List (TaskLabel F A P)) :
    Option (WorkerTasks F A P) :=
  Transition.run (step wire reader) {} labels

end WorkerTasks
end PulseGrid.Worker
