/-
  PulseGrid.Coordinator.DeviceService

  The requests of the coordinator's device service for one device
  (crates/api-coordinator/src/services/device_service.rs), one store command at a
  time.

  `Stores` holds what the requests share: the device's row in Postgres, its
  location record, its revocation key, the tickets and the shard owners in Redis,
  and the control messages published to NATS.  A request in progress is a program
  counter holding its local variables.  No command fails and nothing expires.
-/

import PulseGrid.Domain.Geohash
import PulseGrid.Lib.DashMap
import PulseGrid.Lib.Transition

namespace PulseGrid.Coordinator

/-- What the device service needs besides the stores. -/
structure DeviceServiceParts (F : Type) where
  geo : GeohashCrate F
  wsTicketTtlSecs : Nat

/-- The stores, as far as one device is concerned. -/
structure Stores (D F : Type) [CommRing F] [LinearOrder F] where
  row : Option (Device D F) := none
  record : Option (DeviceLocationRecord F) := none
  revoked : Bool := false
  tickets : DashMap String D := ∅
  shards : DashMap String String := ∅
  /-- The device's control messages, oldest first. -/
  published : List (ServerMessage F) := []

/-- Result of a location update. -/
structure LocationUpdate where
  shardPrefix : String
  shardChanged : Bool
  wsUrl : Option String
deriving DecidableEq, Repr

/-- A one-time WebSocket ticket and where to use it. -/
structure WsTicket where
  ticket : String
  shardPrefix : String
  wsUrl : Option String
  expiresInSecs : Nat
deriving DecidableEq, Repr

inductive Response (D F : Type) where
  | located (update : LocationUpdate)
  | ticket (ticket : WsTicket)
  | ok
  | failed (error : AppError D F)
deriving DecidableEq

/-- A request about the device; a ticket is the random value `new_ws_ticket` gives. -/
inductive Request (F : Type) where
  | updateLocation (lat lon : F)
  | heartbeat
  | issueWsTicket (ticket : String)
  | revoke
  | delete
deriving DecidableEq

/-- The next store command of a request. -/
inductive RequestPc (D F : Type) [CommRing F] [LinearOrder F] where
  /-- `repo.find_by_id` of `update_location`. -/
  | updateFind (lat lon : F)
  /-- `repo.update_location`. -/
  | updateRow (device : Device D F) (new : Location F) (moved shardChanged : Bool)
  /-- `locations.set` of `update_location`. -/
  | updateRecord (device : Device D F) (new : Location F) (moved shardChanged : Bool)
  /-- `shards.lookup_shard` of `update_location`. -/
  | updateLookup (device : Device D F)
  /-- `nats.publish_control` of `update_location`. -/
  | updateNotify (message : ServerMessage F) (update : LocationUpdate)
  | heartbeatFind
  /-- `repo.touch`. -/
  | heartbeatTouch (device : Device D F)
  | heartbeatRecord (device : Device D F)
  | ticketFind (ticket : String)
  | ticketRecord (ticket : String) (device : Device D F)
  /-- `tickets.issue`. -/
  | ticketIssue (ticket : String) (device : Device D F)
  | ticketLookup (ticket : String) (device : Device D F)
  | revokeFind
  /-- `revocations.revoke` of `revoke`. -/
  | revokeKey
  | revokeNotify
  /-- `revocations.revoke` of `delete`. -/
  | deleteKey
  /-- `repo.delete`. -/
  | deleteRow
  /-- `locations.delete`. -/
  | deleteRecord (existed : Bool)
  | deleteNotify (existed : Bool)
  | done (response : Response D F)
deriving DecidableEq

namespace RequestPc

variable {D F : Type} [CommRing F] [LinearOrder F]

def start : Request F → RequestPc D F
  | .updateLocation lat lon => updateFind lat lon
  | .heartbeat => heartbeatFind
  | .issueWsTicket ticket => ticketFind ticket
  | .revoke => revokeFind
  | .delete => deleteKey

def returned : RequestPc D F → Bool
  | done _ => true
  | _ => false

end RequestPc

variable {D F : Type} [CommRing F] [LinearOrder F]

/-- What `update_location` computes from the row it read: the device to store,
    whether it moved and whether its shard changed. -/
def planUpdate (parts : DeviceServiceParts F) (device : Device D F) (lat lon : F) :
    Except (AppError D F) (Device D F × Location F × Bool × Bool) := do
  let newLocation ← Location.new lat lon
  if newLocation = device.location then return (device, newLocation, false, false)
  let (device, shardChanged) ← device.updateLocation parts.geo newLocation
  return (device, newLocation, true, shardChanged)

/-- Where `update_location` goes on after it has stored the location. -/
def afterRecord (device : Device D F) (new : Location F) (moved shardChanged : Bool) :
    RequestPc D F :=
  if shardChanged then .updateLookup device
  else if moved then .updateNotify (.locationUpdated new.lat new.lon)
    { shardPrefix := device.shardPrefix, shardChanged := false, wsUrl := none }
  else .done (.located
    { shardPrefix := device.shardPrefix, shardChanged := false, wsUrl := none })

/-- The next store command of a request; `none` when it has returned. -/
def advance (parts : DeviceServiceParts F) (deviceId : D) (s : Stores D F) :
    RequestPc D F → Option (Stores D F × RequestPc D F)
  | .updateFind lat lon =>
      some (s, match s.row with
        | none => .done (.failed (.deviceNotFound deviceId))
        | some device => match planUpdate parts device lat lon with
          | .error e => .done (.failed e)
          | .ok (device, new, moved, shardChanged) => .updateRow device new moved shardChanged)
  | .updateRow device new moved shardChanged =>
      match s.row with
      | none => some (s, .done (.failed (.deviceNotFound deviceId)))
      | some _ => some ({ s with row := some device },
          .updateRecord device new moved shardChanged)
  | .updateRecord device new moved shardChanged =>
      some ({ s with record := some device.record }, afterRecord device new moved shardChanged)
  | .updateLookup device =>
      let wsUrl := s.shards.get device.shardPrefix
      some (s, .updateNotify (.shardChanged device.shardPrefix wsUrl)
        { shardPrefix := device.shardPrefix, shardChanged := true, wsUrl })
  | .updateNotify message update =>
      some ({ s with published := s.published ++ [message] }, .done (.located update))
  | .heartbeatFind =>
      some (s, match s.row with
        | none => .done (.failed (.deviceNotFound deviceId))
        | some device => .heartbeatTouch device)
  | .heartbeatTouch device =>
      some (s, match s.row with
        | none => .done (.failed (.deviceNotFound deviceId))
        | some _ => .heartbeatRecord device)
  | .heartbeatRecord device => some ({ s with record := some device.record }, .done .ok)
  | .ticketFind ticket =>
      some (s, match s.row with
        | none => .done (.failed (.deviceNotFound deviceId))
        | some device => .ticketRecord ticket device)
  | .ticketRecord ticket device =>
      some ({ s with record := some device.record }, .ticketIssue ticket device)
  | .ticketIssue ticket device =>
      some ({ s with tickets := s.tickets.put ticket deviceId }, .ticketLookup ticket device)
  | .ticketLookup ticket device =>
      some (s, .done (.ticket
        { ticket := ticket, shardPrefix := device.shardPrefix,
          wsUrl := s.shards.get device.shardPrefix, expiresInSecs := parts.wsTicketTtlSecs }))
  | .revokeFind =>
      some (s, match s.row with
        | none => .done (.failed (.deviceNotFound deviceId))
        | some _ => .revokeKey)
  | .revokeKey => some ({ s with revoked := true }, .revokeNotify)
  | .revokeNotify => some ({ s with published := s.published ++ [.revoked] }, .done .ok)
  | .deleteKey => some ({ s with revoked := true }, .deleteRow)
  | .deleteRow => some ({ s with row := none }, .deleteRecord s.row.isSome)
  | .deleteRecord existed => some ({ s with record := none }, .deleteNotify existed)
  | .deleteNotify existed =>
      some ({ s with published := s.published ++ [.revoked] },
        .done (if existed then .ok else .failed (.deviceNotFound deviceId)))
  | .done _ => none

/-- The stores and the requests of all coordinators. -/
structure Requests (D F : Type) [CommRing F] [LinearOrder F] where
  stores : Stores D F := {}
  requests : List (RequestPc D F) := []

namespace Requests

/-- A new request, or the next command of request number `i`. -/
inductive Label (F : Type) where
  | start (request : Request F)
  | step (i : Nat)

def step (parts : DeviceServiceParts F) (deviceId : D) (s : Requests D F) :
    Label F → Option (Requests D F)
  | .start request => some { s with requests := s.requests ++ [.start request] }
  | .step i =>
      match s.requests[i]? with
      | none => none
      | some pc => (advance parts deviceId s.stores pc).map fun (stores, pc') =>
          { stores := stores, requests := s.requests.set i pc' }

/-- No request is in progress. -/
def Quiescent (s : Requests D F) : Prop := ∀ pc ∈ s.requests, pc.returned = true

instance (s : Requests D F) : Decidable s.Quiescent :=
  inferInstanceAs (Decidable (∀ pc ∈ s.requests, pc.returned = true))

end Requests

-- ============================================================================
-- A concrete device
-- ============================================================================

/-- The service with the standard geohash. -/
def exampleParts : DeviceServiceParts ℚ where
  geo := { encode := Geohash.encode }
  wsTicketTtlSecs := 60

/-- A device in Karachi. -/
def exampleDevice : Device Nat ℚ where
  id := 1
  location := ⟨24.86, 67, by norm_num, by norm_num⟩
  geohash := "tkrtkte"
  shardPrefix := "tkrt"

end PulseGrid.Coordinator
