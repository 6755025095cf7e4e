/-
  PulseGrid.Worker.Connect

  What a worker does about one device besides broadcasting: it authorizes and
  registers connections (`authorize` and `handle_socket` in
  crates/fanout-worker/src/ws.rs) and applies control messages (`handle_control`
  in crates/fanout-worker/src/control.rs).
-/

import PulseGrid.Coordinator.DeviceService
import PulseGrid.Worker.ConnectionRegistry

namespace PulseGrid.Worker

variable {D F P : Type} [CommRing F] [LinearOrder F]

-- ============================================================================
-- Control messages
-- ============================================================================

/-- What happened to one control message. -/
inductive Handled where
  | ignored
  | locationApplied
  | forwarded
  | notConnectedHere
deriving DecidableEq, Repr

/-- Applies one `control.device.<id>` message.  `deviceId?` is the device the
    subject names and `message?` the parsed payload, `none` if malformed; `toJson`
    is the text of the forwarded message. -/
def handleControl [DecidableEq D] (toJson : ServerMessage F → String)
    (registry : ConnectionRegistry D String (Location F) P) (deviceId? : Option D)
    (message? : Option (ServerMessage F)) :
    ConnectionRegistry D String (Location F) P × Handled :=
  match deviceId?, message? with
  | none, _ | _, none => (registry, .ignored)
  | some deviceId, some message =>
      match message with
      | .locationUpdated lat lon =>
          match Location.new (D := D) lat lon with
          | .ok location =>
              let (registry, here) := registry.updateLocation deviceId location
              (registry, if here then .locationApplied else .notConnectedHere)
          | .error _ => (registry, .ignored)
      | .shardChanged _ _ | .revoked =>
          let (registry, here) := registry.sendControl deviceId (toJson message) true
          (registry, if here then .forwarded else .notConnectedHere)
      | .replayComplete _ => (registry, .ignored)

-- ============================================================================
-- Connecting
-- ============================================================================

/-- Why a connection was refused. -/
structure Rejection where
  status : Nat
  reason : String
  message : String
  wsUrl : Option String := none
deriving DecidableEq, Repr

/-- What a successfully authorized connection knows about its device. -/
structure Authorized (F : Type) [CommRing F] [LinearOrder F] where
  shardPrefix : String
  location : Location F
deriving DecidableEq

structure ConnectParams where
  ticket : String
  shardPrefix : Option String := none
deriving DecidableEq, Repr

/-- `is_ticket_shaped`: 64 bytes, all of them hexadecimal digits. -/
def isTicketShaped (ticket : String) : Bool :=
  ticket.utf8ByteSize = 64 &&
    ticket.toList.all fun c => c.isDigit || ('a' ≤ c && c ≤ 'f') || ('A' ≤ c && c ≤ 'F')

/-- The next step of a connect. -/
inductive ConnectPc (F : Type) [CommRing F] [LinearOrder F] where
  /-- `tickets.consume`. -/
  | consume (params : ConnectParams)
  /-- `revocations.is_revoked`. -/
  | checkRevoked (params : ConnectParams)
  /-- `locations.get`. -/
  | readLocation (params : ConnectParams)
  /-- `shards.lookup_shard` for a device of another worker's shard. -/
  | lookupShard (shardPrefix : String)
  /-- `registry.register`. -/
  | register (auth : Authorized F)
  | connected (connId : UInt64)
  | rejected (rejection : Rejection)
deriving DecidableEq

def ConnectPc.returned : ConnectPc F → Bool
  | connected _ | rejected _ => true
  | _ => false

/-- What the connect is about to register, if that is its next step. -/
def ConnectPc.registers? : ConnectPc F → Option (Authorized F)
  | register auth => some auth
  | _ => none

def Rejection.invalidTicket : Rejection :=
  { status := 401, reason := "invalid_ticket",
    message := "the ticket is invalid, expired or already used" }

def Rejection.ticketDeviceMismatch : Rejection :=
  { status := 403, reason := "ticket_device_mismatch",
    message := "the ticket was issued for a different device" }

def Rejection.revoked : Rejection :=
  { status := 401, reason := "revoked", message := "this device has been revoked" }

def Rejection.locationUnknown : Rejection :=
  { status := 409, reason := "location_unknown",
    message := "the device's location is not known; request a new ticket" }

def Rejection.locationInvalid : Rejection :=
  { status := 409, reason := "location_unknown",
    message := "the device's stored location is invalid; request a new ticket" }

def Rejection.wrongShard (shardPrefix : String) (wsUrl : Option String) : Rejection :=
  { status := 421, reason := "wrong_shard"
    message := "this worker does not own shard " ++ shardPrefix ++
      "; connect to the worker that does"
    wsUrl := wsUrl }

def Rejection.staleShardHint (shardPrefix claimed : String) : Rejection :=
  { status := 421, reason := "stale_shard_hint"
    message := "the device is in shard " ++ shardPrefix ++ ", not " ++ claimed ++
      "; request a new ticket" }

/-- The checks `authorize` makes on the location record it read. -/
def checkRecord (D : Type) (owned : List String) (params : ConnectParams)
    (record : DeviceLocationRecord F) : ConnectPc F :=
  match record.location (D := D) with
  | .error _ => .rejected .locationInvalid
  | .ok location =>
      if !owned.contains record.shardPrefix then .lookupShard record.shardPrefix
      else match params.shardPrefix with
        | some claimed =>
            if claimed != record.shardPrefix then
              .rejected (.staleShardHint record.shardPrefix claimed)
            else .register { shardPrefix := record.shardPrefix, location := location }
        | none => .register { shardPrefix := record.shardPrefix, location := location }

/-- A worker, as far as one device is concerned. -/
structure WorkerState (D F P : Type) [CommRing F] [LinearOrder F] where
  registry : ConnectionRegistry D String (Location F) P := {}
  owned : List String := []
  /-- Published control messages of the device that are not handled yet. -/
  inbox : List (ServerMessage F) := []
  connects : List (ConnectPc F) := []
  /-- Connections that were sent a closing frame and are to be deregistered. -/
  closing : List UInt64 := []

namespace WorkerState

variable [DecidableEq D]

open Coordinator

/-- The id of the device's current connection. -/
def currentId (w : WorkerState D F P) (deviceId : D) : Option UInt64 :=
  (w.registry.byDevice.get deviceId).bind w.registry.idAt

/-- The next step of a connect; `none` when it has returned. -/
def advance (deviceId : D) (stores : Stores D F) (w : WorkerState D F P) :
    ConnectPc F → Option (Stores D F × ConnectionRegistry D String (Location F) P × ConnectPc F)
  | .consume params =>
      if !isTicketShaped params.ticket then
        some (stores, w.registry, .rejected .invalidTicket)
      else match stores.tickets.get params.ticket with
        | none => some (stores, w.registry, .rejected .invalidTicket)
        | some ticketDevice =>
            some ({ stores with tickets := stores.tickets.removeIf params.ticket fun _ => true },
              w.registry,
              if ticketDevice ≠ deviceId then .rejected .ticketDeviceMismatch
              else .checkRevoked params)
  | .checkRevoked params =>
      some (stores, w.registry,
        if stores.revoked then .rejected .revoked else .readLocation params)
  | .readLocation params =>
      some (stores, w.registry, match stores.record with
        | none => .rejected .locationUnknown
        | some record => checkRecord D w.owned params record)
  | .lookupShard shardPrefix =>
      some (stores, w.registry, .rejected (.wrongShard shardPrefix (stores.shards.get shardPrefix)))
  | .register auth =>
      let (registry, registered) := w.registry.register deviceId auth.shardPrefix auth.location
      some (stores, registry, .connected registered.connId)
  | .connected _ | .rejected _ => none

/-- Handle message number `k` of the inbox.  A connection that is sent a closing
    frame will be deregistered by its own task. -/
def handle (toJson : ServerMessage F → String) (deviceId : D) (w : WorkerState D F P) (k : Nat) :
    Option (WorkerState D F P) :=
  match w.inbox[k]? with
  | none => none
  | some message =>
      some { w with
        registry := (handleControl toJson w.registry (some deviceId) (some message)).1
        inbox := w.inbox.eraseIdx k
        closing := match message with
          | .shardChanged _ _ | .revoked => w.closing ++ (w.currentId deviceId).toList
          | _ => w.closing }

/-- The clean-up of a connection that was sent a closing frame. -/
def teardown (deviceId : D) (w : WorkerState D F P) (k : Nat) : Option (WorkerState D F P) :=
  match w.closing[k]? with
  | none => none
  | some connId =>
      some { w with
        registry := (w.registry.deregister deviceId connId).1
        closing := w.closing.eraseIdx k }

/-- A connection ends for a reason of its own. -/
def disconnect (deviceId : D) (w : WorkerState D F P) (connId : UInt64) : WorkerState D F P :=
  { w with registry := (w.registry.deregister deviceId connId).1 }

end WorkerState
end PulseGrid.Worker
