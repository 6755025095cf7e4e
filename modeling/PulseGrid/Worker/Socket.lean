/-
  PulseGrid.Worker.Socket

  The tasks behind one WebSocket connection (`handle_socket` in
  crates/fanout-worker/src/ws.rs and `run_replay` in
  crates/fanout-worker/src/replay.rs): the writer, which is the only one to take
  messages out of the connection's queue and write them to the socket, and the
  replay task, which holds a sender of its own and waits for room.

  A `Cell` is one connection's queue together with its tasks; `Sockets` is the
  worker's registry with the tasks of every connection it ever made.

  `taken` counts the messages the writer took out of the queue so far, so the
  message at position `k` of the queue is the one that entered as number
  `taken + k`; the alerts written to the socket are recorded with that number.
-/

import PulseGrid.Worker.ConnectionRegistry
import PulseGrid.Lib.Transition

namespace PulseGrid.Worker

/-- Where the `sender.send(..)` of a replay task is: not called, waiting for room,
    or holding a permit for a slot. -/
inductive SendState where
  | idle
  | waiting
  | granted
deriving DecidableEq, Repr

/-- The replay task of a connection. -/
inductive ReplayTask (P : Type*) where
  /-- `sender_for` has not been called yet. -/
  | unspawned
  /-- Reading the cursor and the stored alerts. -/
  | reading
  /-- Sending what `plan_replay` chose and the final `ReplayComplete`. -/
  | sending (rest : List (Outbound P)) (send : SendState)
  | ended
deriving DecidableEq

/-- The tasks of one connection. -/
structure Tasks (P : Type*) where
  replay : ReplayTask P := .unspawned
  /-- The message the writer is sending, with its number. -/
  hand : Option (Nat × Outbound P) := none
  /-- How many messages the writer has taken out of the queue. -/
  taken : Nat := 0
  /-- The alerts written to the socket, with their numbers. -/
  written : List (Nat × P) := []
deriving DecidableEq

/-- One connection's queue and tasks. -/
structure Cell (P : Type*) where
  channel : Channel (Outbound P)
  tasks : Tasks P

namespace Outbound

variable {P : Type*}

/-- The writer stops after this message whether or not it could be sent. -/
def stops : Outbound P → Bool
  | close => true
  | control _ c => c
  | alert _ => false

def isAlert : Outbound P → Bool
  | alert _ => true
  | _ => false

end Outbound

namespace Cell

variable {P : Type*}

/-- How many messages have entered the queue. -/
def entered (c : Cell P) : Nat := c.tasks.taken + c.channel.queue.length

/-- `try_send`, ignoring the outcome. -/
def offer (c : Cell P) (m : Outbound P) : Cell P := { c with channel := c.channel.offer m }

/-- `tokio::spawn(run_replay(..))`, with the sender `sender_for` returned, if any. -/
def spawnReplay (hasSender : Bool) (c : Cell P) : Option (Cell P) :=
  match c.tasks.replay with
  | .unspawned =>
      some { c with tasks := { c.tasks with replay := if hasSender then .reading else .ended } }
  | _ => none

/-- `plan_replay` returned `payloads`, at most `replay_max_alerts` of them. -/
def fetched (replayComplete : Nat → String) (replayMaxAlerts : Nat) (payloads : List P)
    (c : Cell P) : Option (Cell P) :=
  match c.tasks.replay with
  | .reading =>
      if payloads.length ≤ replayMaxAlerts then
        some { c with tasks := { c.tasks with
          replay := .sending (payloads.map .alert ++
            [.control (replayComplete payloads.length) false]) .idle } }
      else none
  | _ => none

/-- The replay task after one more message was sent. -/
def afterSend (rest : List (Outbound P)) : ReplayTask P :=
  if rest = [] then .ended else .sending rest .idle

/-- The replay task calls `sender.send(..)` for its next message. -/
def sendNext (c : Cell P) : Option (Cell P) :=
  match c.tasks.replay with
  | .sending (m :: rest) .idle =>
      if !c.channel.rxOpen then some { c with tasks := { c.tasks with replay := .ended } }
      else if c.channel.hasRoom then
        some { channel := { c.channel with queue := c.channel.queue ++ [m] }
               tasks := { c.tasks with replay := afterSend rest } }
      else some { c with tasks := { c.tasks with replay := .sending (m :: rest) .waiting } }
  | _ => none

/-- The replay task, given a permit, stores its message. -/
def sendGranted (c : Cell P) : Option (Cell P) :=
  match c.tasks.replay with
  | .sending (m :: rest) .granted =>
      if !c.channel.rxOpen then
        some { channel := { c.channel with reserved := c.channel.reserved - 1 }
               tasks := { c.tasks with replay := .ended } }
      else some { channel := c.channel.sendReserved m
                  tasks := { c.tasks with replay := afterSend rest } }
  | _ => none

/-- The replay task ends early: a read failed, its `send` timed out or failed, or
    it was aborted.  A permit it holds goes back. -/
def endReplay (c : Cell P) : Option (Cell P) :=
  match c.tasks.replay with
  | .sending _ .granted =>
      some { channel := { c.channel with reserved := c.channel.reserved - 1 }
             tasks := { c.tasks with replay := .ended } }
  | _ => some { c with tasks := { c.tasks with replay := .ended } }

/-- The writer takes the oldest message; a slot that becomes free goes to a
    waiting sender first. -/
def take (c : Cell P) : Option (Cell P) :=
  match c.channel.rxOpen, c.tasks.hand, c.channel.queue with
  | true, none, m :: queue =>
      let tasks := { c.tasks with hand := some (c.tasks.taken, m), taken := c.tasks.taken + 1 }
      match c.tasks.replay with
      | .sending rest .waiting =>
          some { channel := { c.channel with queue := queue }.reserve
                 tasks := { tasks with replay := .sending rest .granted } }
      | _ => some { channel := { c.channel with queue := queue }, tasks := tasks }
  | _, _, _ => none

/-- The writer task ends: its receiver is dropped. -/
def stop (c : Cell P) : Cell P :=
  { channel := c.channel.dropReceiver, tasks := { c.tasks with hand := none } }

/-- The write of the message in hand returned; `sent` says whether it succeeded. -/
def sent (sent : Bool) (c : Cell P) : Option (Cell P) :=
  match c.tasks.hand with
  | none => none
  | some (n, .alert payload) =>
      if sent then
        some { c with tasks := { c.tasks with
          hand := none, written := c.tasks.written ++ [(n, payload)] } }
      else some c.stop
  | some (_, .control _ close) =>
      if close || !sent then some c.stop
      else some { c with tasks := { c.tasks with hand := none } }
  | some (_, .close) => some c.stop

/-- The next operation of a task of one connection. -/
inductive TaskOp (P : Type*) where
  | fetched (payloads : List P)
  | sendNext
  | sendGranted
  | endReplay
  | take
  | sent (ok : Bool)
  | stop

/-- `replayComplete` is the text of the final control frame of a replay and
    `replayMaxAlerts` the configured limit of one replay. -/
def exec (replayComplete : Nat → String) (replayMaxAlerts : Nat) (c : Cell P) :
    TaskOp P → Option (Cell P)
  | .fetched payloads => c.fetched replayComplete replayMaxAlerts payloads
  | .sendNext => c.sendNext
  | .sendGranted => c.sendGranted
  | .endReplay => c.endReplay
  | .take => c.take
  | .sent ok => c.sent ok
  | .stop => some c.stop

end Cell

/-- The replay task may still put an alert into the queue. -/
def ReplayTask.alertLeft {P : Type*} (replayMaxAlerts : Nat) : ReplayTask P → Bool
  | .reading => 0 < replayMaxAlerts
  | .sending rest _ => rest.any Outbound.isAlert
  | .unspawned | .ended => false

/-- The registry and the tasks of every connection made so far, by address. -/
structure Sockets (D S L P : Type*) where
  reg : ConnectionRegistry D S L P := {}
  /-- The device, the connection id and the tasks of each connection. -/
  tasks : List (D × UInt64 × Tasks P) := []

namespace Sockets

variable {D S L P A : Type*}

/-- A call on the registry, or the next operation of a task of connection `conn`. -/
inductive Label (D S L P A : Type*) where
  | register (deviceId : D) (shardPrefix : S) (location : L)
  | deregister (deviceId : D) (connId : UInt64)
  | updateLocation (deviceId : D) (location : L)
  | sendControl (deviceId : D) (text : String) (close : Bool)
  | broadcastToShard (shardPrefix : S) (alert : A) (payload : P)
  | closeAll
  | spawnReplay (conn : Nat)
  | task (conn : Nat) (op : Cell.TaskOp P)

/-- The queue and tasks of a connection. -/
def cell (s : Sockets D S L P) (a : Nat) : Option (Cell P) :=
  match s.reg.heap[a]?, s.tasks[a]? with
  | some conn, some (_, _, tasks) => some { channel := conn.channel, tasks := tasks }
  | _, _ => none

def setCell (s : Sockets D S L P) (a : Nat) (c : Cell P) : Sockets D S L P :=
  { reg := s.reg.modifyConn a fun conn => { conn with channel := c.channel }
    tasks := s.tasks.modify a fun (d, i, _) => (d, i, c.tasks) }

/-- An operation of one connection's tasks. -/
def onCell (s : Sockets D S L P) (a : Nat) (f : Cell P → Option (Cell P)) :
    Option (Sockets D S L P) :=
  (s.cell a).bind fun c => (f c).map (s.setCell a)

variable [DecidableEq D] [DecidableEq S]

/-- Whether `sender_for` of the connection's own device and id finds it. -/
def hasSender (s : Sockets D S L P) (a : Nat) : Bool :=
  match s.tasks[a]? with
  | some (d, i, _) => (s.reg.senderFor d i).isSome
  | none => false

/-- `contains` is the alert filter.  Connection ids are 64-bit numbers; a process
    that makes so many connections that they repeat is not considered. -/
def step (contains : A → L → Bool) (replayComplete : Nat → String) (replayMaxAlerts : Nat)
    (s : Sockets D S L P) : Label D S L P A → Option (Sockets D S L P)
  | .register d sh l =>
      if s.reg.heap.length + 1 < 2 ^ 64 then
        some { reg := (s.reg.register d sh l).1
               tasks := s.tasks ++ [(d, (s.reg.register d sh l).2.connId, {})] }
      else none
  | .deregister d i => some { s with reg := (s.reg.deregister d i).1 }
  | .updateLocation d l => some { s with reg := (s.reg.updateLocation d l).1 }
  | .sendControl d text close => some { s with reg := (s.reg.sendControl d text close).1 }
  | .broadcastToShard sh alert payload =>
      some { s with reg := (s.reg.broadcastToShard contains sh alert payload).1 }
  | .closeAll => some { s with reg := s.reg.closeAll }
  | .spawnReplay a => s.onCell a (Cell.spawnReplay (s.hasSender a))
  | .task a op => s.onCell a fun c => c.exec replayComplete replayMaxAlerts op

end Sockets
end PulseGrid.Worker
