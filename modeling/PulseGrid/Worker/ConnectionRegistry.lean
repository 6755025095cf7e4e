/-
  PulseGrid.Worker.ConnectionRegistry

  The worker's table of WebSocket connections
  (crates/fanout-worker/src/connection_registry.rs).

  An `Arc<Connection>` is modelled by its address in `heap`: the two indexes
  `byDevice` and `byShard` store addresses, so both see the same connection, and
  a location written through one index is read through the other.  The heap only
  grows; a connection that neither index mentions is simply unreachable.  Both
  ends of a connection's queue live in its `channel`.

  `register` and `deregister` are written as compositions of the single map
  operations they are made of (`allocate`, `storeDevice`, `sendClose`,
  `removeFromShard`, `storeShard`), which are the atomic steps of the
  interleaved model in `RegistryInterleaving`.

  Device ids, shard prefixes, locations, alerts and payloads are type
  parameters; an alert is used only through `contains`.
-/

import PulseGrid.Lib.Channel
import PulseGrid.Lib.DashMap

namespace PulseGrid.Worker

/-- `CONNECTION_CHANNEL_CAPACITY`. -/
def connectionChannelCapacity : Nat := 64

/-- What a connection's writer task should send to its device. -/
inductive Outbound (P : Type*) where
  | alert (payload : P)
  | control (text : String) (close : Bool)
  | close
deriving DecidableEq, Repr

/-- What a broadcast did. -/
@[ext] structure BroadcastResult where
  delivered : Nat := 0
  dropped : Nat := 0
  filteredOut : Nat := 0
deriving DecidableEq, Repr

structure Connection (S L P : Type*) where
  id : UInt64
  shard : S
  location : L
  channel : Channel (Outbound P)
deriving DecidableEq

/-- The receiving half handed to a connection's writer task: the connection's id
    and the address its receiver reads from. -/
structure Registered where
  connId : UInt64
  receiver : Nat
deriving DecidableEq, Repr

structure ConnectionRegistry (D S L P : Type*) where
  heap : List (Connection S L P) := []
  byDevice : DashMap D Nat := ∅
  byShard : DashMap S (DashMap D Nat) := ∅
  nextId : UInt64 := 0

namespace ConnectionRegistry

variable {D S L P A : Type*}

/-- The id of the connection at an address (`c.id`). -/
def idAt (r : ConnectionRegistry D S L P) (addr : Nat) : Option UInt64 :=
  (r.heap[addr]?).map Connection.id

/-- The shard of the connection at an address (`c.shard`). -/
def shardAt (r : ConnectionRegistry D S L P) (addr : Nat) : Option S :=
  (r.heap[addr]?).map Connection.shard

/-- Apply a change to the connection at an address. -/
def modifyConn (r : ConnectionRegistry D S L P) (addr : Nat)
    (f : Connection S L P → Connection S L P) : ConnectionRegistry D S L P :=
  { r with heap := r.heap.modify addr f }

/-- A `try_send` to the connection at an address, ignoring the outcome. -/
def offerTo (r : ConnectionRegistry D S L P) (addr : Nat) (m : Outbound P) :
    ConnectionRegistry D S L P :=
  r.modifyConn addr fun c => { c with channel := c.channel.offer m }

/-- Whether a `try_send` to the connection at an address would succeed. -/
def acceptsAt (r : ConnectionRegistry D S L P) (addr : Nat) : Bool :=
  (r.heap[addr]?).any fun c => c.channel.accepts

/-! ## The single map operations -/

/-- Build the new connection: `next_id.fetch_add(1) + 1`, an empty channel. -/
def allocate (r : ConnectionRegistry D S L P) (shardPrefix : S) (location : L) :
    ConnectionRegistry D S L P :=
  { r with
    heap := r.heap ++ [{
      id := r.nextId + 1
      shard := shardPrefix
      location := location
      channel := { capacity := connectionChannelCapacity } }]
    nextId := r.nextId + 1 }

variable [DecidableEq D] [DecidableEq S]

/-- `by_device.insert(device_id, conn)`. -/
def storeDevice (r : ConnectionRegistry D S L P) (deviceId : D) (addr : Nat) :
    ConnectionRegistry D S L P :=
  { r with byDevice := r.byDevice.put deviceId addr }

/-- `previous.sender.try_send(Outbound::Close)`. -/
def sendClose (r : ConnectionRegistry D S L P) (addr : Nat) : ConnectionRegistry D S L P :=
  r.offerTo addr .close

/-- `by_shard.get(&conn.shard)` and, if that shard has an index,
    `shard.remove_if(&device_id, |_, c| c.id == conn.id)`. -/
def removeFromShard (r : ConnectionRegistry D S L P) (deviceId : D) (addr : Nat) :
    ConnectionRegistry D S L P :=
  match r.heap[addr]? with
  | none => r
  | some conn =>
      { r with
        byShard := r.byShard.removeIfIn conn.shard deviceId fun a => r.idAt a == some conn.id }

/-- `by_shard.entry(shard_prefix).or_default().insert(device_id, conn)`. -/
def storeShard (r : ConnectionRegistry D S L P) (shardPrefix : S) (deviceId : D) (addr : Nat) :
    ConnectionRegistry D S L P :=
  { r with byShard := r.byShard.entryInsert shardPrefix deviceId addr }

/-! ## The registry's methods -/

/-- Registers a connection.  If the device already has one, the old one is told
    to close and replaced. -/
def register (r : ConnectionRegistry D S L P) (deviceId : D) (shardPrefix : S) (location : L) :
    ConnectionRegistry D S L P × Registered :=
  let addr := r.heap.length
  let previous := r.byDevice.get deviceId
  let r1 := (r.allocate shardPrefix location).storeDevice deviceId addr
  let r2 := match previous with
    | some prev => (r1.sendClose prev).removeFromShard deviceId prev
    | none => r1
  (r2.storeShard shardPrefix deviceId addr, { connId := r.nextId + 1, receiver := addr })

/-- Removes the connection, but only if it is still the one identified by
    `connId`.  Returns whether anything was removed. -/
def deregister (r : ConnectionRegistry D S L P) (deviceId : D) (connId : UInt64) :
    ConnectionRegistry D S L P × Bool :=
  match r.byDevice.get deviceId with
  | some addr =>
      if r.idAt addr = some connId then
        let r1 := { r with
          byDevice := r.byDevice.removeIf deviceId fun a => r.idAt a == some connId }
        (r1.removeFromShard deviceId addr, true)
      else (r, false)
  | none => (r, false)

/-- One iteration of the broadcast loop. -/
def broadcastOne (contains : A → L → Bool) (alert : A) (payload : P)
    (acc : ConnectionRegistry D S L P × BroadcastResult) (entry : D × Nat) :
    ConnectionRegistry D S L P × BroadcastResult :=
  match acc.1.heap[entry.2]? with
  | none => acc
  | some conn =>
      if !contains alert conn.location then
        (acc.1, { acc.2 with filteredOut := acc.2.filteredOut + 1 })
      else match conn.channel.trySend (.alert payload) with
        | .ok _ => (acc.1.offerTo entry.2 (.alert payload),
            { acc.2 with delivered := acc.2.delivered + 1 })
        | .error _ => (acc.1, { acc.2 with dropped := acc.2.dropped + 1 })

/-- Queues `payload` to every connection of `shardPrefix` whose device is inside
    the alert circle; a full queue means that one device misses this alert. -/
def broadcastToShard (contains : A → L → Bool) (r : ConnectionRegistry D S L P)
    (shardPrefix : S) (alert : A) (payload : P) :
    ConnectionRegistry D S L P × BroadcastResult :=
  match r.byShard.get shardPrefix with
  | none => (r, {})
  | some shard => shard.iter.foldl (broadcastOne contains alert payload) (r, {})

/-- Records where a connected device now is.  Returns whether it is here. -/
def updateLocation (r : ConnectionRegistry D S L P) (deviceId : D) (location : L) :
    ConnectionRegistry D S L P × Bool :=
  match r.byDevice.get deviceId with
  | some addr => (r.modifyConn addr fun c => { c with location := location }, true)
  | none => (r, false)

/-- Sends a text frame to a connected device, optionally closing it afterwards.
    If its queue does not take the frame, a closing request drops the
    connection.  Returns whether the device is here. -/
def sendControl (r : ConnectionRegistry D S L P) (deviceId : D) (text : String) (close : Bool) :
    ConnectionRegistry D S L P × Bool :=
  match r.byDevice.get deviceId with
  | none => (r, false)
  | some addr =>
      match r.heap[addr]? with
      | none => (r, true)
      | some conn =>
          match conn.channel.trySend (.control text close) with
          | .ok _ => (r.offerTo addr (.control text close), true)
          | .error _ => if close then ((r.deregister deviceId conn.id).1, true) else (r, true)

/-- A sender for the connection identified by `connId`: its address. -/
def senderFor (r : ConnectionRegistry D S L P) (deviceId : D) (connId : UInt64) : Option Nat :=
  (r.byDevice.get deviceId).filter fun addr => r.idAt addr == some connId

/-- Closes every connection. -/
def closeAll (r : ConnectionRegistry D S L P) : ConnectionRegistry D S L P :=
  { r.byDevice.iter.foldl (fun acc entry => acc.sendClose entry.2) r with
    byDevice := ∅
    byShard := ∅ }

/-- A connection's writer task takes the oldest message out of its queue. -/
def recv (r : ConnectionRegistry D S L P) (addr : Nat) :
    ConnectionRegistry D S L P × Option (Outbound P) :=
  (r.modifyConn addr fun c => { c with channel := c.channel.recv.2 },
    (r.heap[addr]?).bind fun c => c.channel.recv.1)

/-- A connection's writer task ends and its receiver is dropped. -/
def dropReceiver (r : ConnectionRegistry D S L P) (addr : Nat) : ConnectionRegistry D S L P :=
  r.modifyConn addr fun c => { c with channel := c.channel.dropReceiver }

def connectionCount (r : ConnectionRegistry D S L P) : Nat := r.byDevice.len

def shardConnectionCount (r : ConnectionRegistry D S L P) (shardPrefix : S) : Nat :=
  ((r.byShard.get shardPrefix).map DashMap.len).getD 0

end ConnectionRegistry

end PulseGrid.Worker
