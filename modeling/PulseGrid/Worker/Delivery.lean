/-
  PulseGrid.Worker.Delivery

  Alerts on their way to one device that stays where it is and comes and goes:
  stored in the shard's stream, broadcast live to its connections, replayed when it
  connects (`run_replay` in crates/fanout-worker/src/replay.rs), and acknowledged
  (`on_client_text` and the end of `handle_socket` in ws.rs), which moves its cursor.

  Clocks are not part of the state: every reading is given with the step that makes
  it.
-/

import PulseGrid.Worker.Replay
import PulseGrid.Worker.ConnectionRegistry
import PulseGrid.Lib.Transition

namespace PulseGrid.Worker

variable {A L P : Type}

/-- The next step of a replay.  `before` is how many messages the stream had when the
    replay started. -/
inductive ReplayPc (P : Type) where
  /-- `ack_cursors.get`. -/
  | readCursor
  /-- `replay_alerts`. -/
  | readStream (since : Int) (before : Nat)
  /-- `sender.send` of the first of `todo`; `ReplayComplete` if there is none. -/
  | send (before : Nat) (todo : List P) (replayed : Nat)
  | complete (before replayed : Nat)
  | failed
deriving DecidableEq

/-- A connection of the device. -/
structure DeviceConnection (P : Type) where
  connectedAt : Int
  isOpen : Bool := true
  channel : Channel (Outbound P) := { capacity := connectionChannelCapacity }
  batcher : AckBatcher := {}
  replay : ReplayPc P := .readCursor
deriving DecidableEq

structure Delivery (P : Type) where
  /-- The texts of the alerts created so far. -/
  alerts : List P := []
  stream : List (StoredAlert P) := []
  cursor : Option Int
  conns : List (DeviceConnection P) := []
  /-- Cursor writes on their way to Redis. -/
  writes : List Int := []
  /-- Alert texts that were put into a queue of the device. -/
  placed : List P := []
  /-- Alert texts that the device received. -/
  received : List P := []

/-- What is fixed in a run. -/
structure DeliveryParts (A L P : Type) where
  codec : AlertCodec A P L
  location : L
  replayMaxAlerts : Nat
  /-- The text of `ServerMessage::ReplayComplete`. -/
  replayComplete : Nat → String

namespace Delivery

inductive Label (P : Type) where
  | create (payload : P)
  /-- The stream stores alert `n`. -/
  | store (n serverTime : Nat)
  /-- The live broadcast of alert `n` comes to connection `k`. -/
  | broadcast (n k : Nat)
  | connect (connectedAt : Int)
  | disconnect (k : Nat)
  /-- The writer of connection `k` sends the oldest message. -/
  | deliver (k : Nat)
  /-- The device acknowledges an alert on connection `k`. -/
  | ack (k : Nat) (payload : P) (wallNow now : Int)
  /-- A cursor write reaches Redis. -/
  | writeCursor (j : Nat)
  | replayStep (k : Nat)
  /-- A send of the replay times out. -/
  | replayTimeout (k : Nat)
deriving DecidableEq

/-- The part of a broadcast that is about one connection. -/
def broadcastTo (parts : DeliveryParts A L P) (s : Delivery P) (k : Nat)
    (conn : DeviceConnection P) (payload : P) : Delivery P :=
  match parts.codec.parse payload with
  | none => s
  | some alert =>
      if conn.isOpen && parts.codec.contains alert parts.location && conn.channel.accepts then
        { s with
          conns := s.conns.set k { conn with channel := conn.channel.offer (.alert payload) }
          placed := s.placed ++ [payload] }
      else s

/-- The next step of the replay of connection `k`; `none` if it has to wait or is over. -/
def advanceReplay (parts : DeliveryParts A L P) (s : Delivery P) (k : Nat)
    (conn : DeviceConnection P) : Option (Delivery P) :=
  match conn.replay with
  | .readCursor =>
      some { s with conns := s.conns.set k { conn with
        replay := .readStream (replaySince s.cursor conn.connectedAt) s.stream.length } }
  | .readStream since before =>
      let todo := replayPayloads parts.codec s.stream parts.location conn.connectedAt since
        parts.replayMaxAlerts
      some { s with conns := s.conns.set k { conn with replay := .send before todo 0 } }
  | .send before [] replayed =>
      if conn.channel.accepts then
        some { s with conns := s.conns.set k { conn with
          channel := conn.channel.offer (.control (parts.replayComplete replayed) false)
          replay := .complete before replayed } }
      else none
  | .send before (payload :: todo) replayed =>
      if conn.channel.accepts then
        some { s with
          conns := s.conns.set k { conn with
            channel := conn.channel.offer (.alert payload)
            replay := .send before todo (replayed + 1) }
          placed := s.placed ++ [payload] }
      else none
  | .complete _ _ | .failed => none

/-- The end of a connection: its replay is aborted and the last acknowledgement that
    waited is written. -/
def close (s : Delivery P) (k : Nat) (conn : DeviceConnection P) : Delivery P :=
  { s with
    conns := s.conns.set k { conn with
      isOpen := false
      channel := conn.channel.dropReceiver
      batcher := conn.batcher.takePending.1
      replay := match conn.replay with
        | .complete before replayed => .complete before replayed
        | _ => .failed }
    writes := s.writes ++ conn.batcher.takePending.2.toList }

variable [DecidableEq P]

def step (parts : DeliveryParts A L P) (s : Delivery P) : Label P → Option (Delivery P)
  | .create payload => some { s with alerts := s.alerts ++ [payload] }
  | .store n serverTime =>
      (s.alerts[n]?).map fun payload =>
        { s with stream := s.stream ++ [{ serverTime := serverTime, payload := payload }] }
  | .broadcast n k =>
      (s.alerts[n]?).bind fun payload =>
        (s.conns[k]?).map fun conn => s.broadcastTo parts k conn payload
  | .connect connectedAt => some { s with conns := s.conns ++ [{ connectedAt := connectedAt }] }
  | .disconnect k =>
      (s.conns[k]?).bind fun conn => if conn.isOpen then some (s.close k conn) else none
  | .deliver k =>
      (s.conns[k]?).bind fun conn => match conn.channel.recv with
        | (none, _) => none
        | (some message, channel) => some { s with
            conns := s.conns.set k { conn with channel := channel }
            received := match message with
              | .alert payload => s.received ++ [payload]
              | _ => s.received }
  | .ack k payload wallNow now =>
      (s.conns[k]?).bind fun conn =>
        if conn.isOpen && s.received.contains payload then
          (parts.codec.parse payload).map fun alert =>
            let (batcher, outcome) :=
              conn.batcher.offer (parts.codec.createdAt alert) wallNow now
            { s with
              conns := s.conns.set k { conn with batcher := batcher }
              writes := match outcome with
                | .write cursor => s.writes ++ [cursor]
                | _ => s.writes }
        else none
  | .writeCursor j =>
      (s.writes[j]?).map fun ts =>
        { s with cursor := advanceCursor s.cursor ts, writes := s.writes.eraseIdx j }
  | .replayStep k =>
      (s.conns[k]?).bind fun conn => if conn.isOpen then s.advanceReplay parts k conn else none
  | .replayTimeout k =>
      (s.conns[k]?).bind fun conn => match conn.replay with
        | .send _ _ _ => some { s with conns := s.conns.set k { conn with replay := .failed } }
        | _ => none

/-- The alert is in a queue of the device, or was: as it was published or as a replay
    writes it. -/
def Placed (parts : DeliveryParts A L P) (s : Delivery P) (payload : P) (alert : A) : Prop :=
  payload ∈ s.placed ∨ ∃ text ∈ s.placed, parts.codec.toVec alert = some text

/-- The runs in question: alerts are created after the initial cursor, and there are
    fewer stored alerts than a replay may read and send. -/
def InScope (parts : DeliveryParts A L P) (cursor : Int) (s : Delivery P) : Label P → Prop
  | .create payload => ∀ alert ∈ parts.codec.parse payload, cursor < parts.codec.createdAt alert
  | .store _ _ =>
      s.stream.length + 1 < parts.replayMaxAlerts ∧ s.stream.length + 1 < maxReplayFetch
  | _ => True

/-- Whether a replay may start now: every stored alert of the circle that is not placed
    yet, nor too new for the replay, was created after the cursor it reads (to the
    microsecond) and stored no earlier than the clock tolerance before it. -/
def CursorOk (parts : DeliveryParts A L P) (s : Delivery P) : Label P → Prop
  | .replayStep k => ∀ conn ∈ s.conns[k]?, conn.replay = .readCursor → ∀ m ∈ s.stream,
      ∀ alert ∈ parts.codec.parse m.payload, parts.codec.contains alert parts.location = true →
        parts.codec.createdAt alert < conn.connectedAt + replayOverlap →
        s.Placed parts m.payload alert ∨
          (truncMicros (replaySince s.cursor conn.connectedAt) <
              truncMicros (parts.codec.createdAt alert) ∧
            replaySince s.cursor conn.connectedAt - replayClockSkewTolerance ≤ m.serverTime)
  | _ => True

instance (parts : DeliveryParts A L P) (s : Delivery P) (payload : P) (alert : A) :
    Decidable (s.Placed parts payload alert) :=
  inferInstanceAs (Decidable (payload ∈ s.placed ∨
    ∃ text ∈ s.placed, parts.codec.toVec alert = some text))

instance (parts : DeliveryParts A L P) (cursor : Int) (s : Delivery P) :
    DecidablePred (InScope parts cursor s)
  | .create payload => inferInstanceAs (Decidable (∀ alert ∈ parts.codec.parse payload,
      cursor < parts.codec.createdAt alert))
  | .store _ _ => inferInstanceAs (Decidable (_ ∧ _))
  | .broadcast _ _ | .connect _ | .disconnect _ | .deliver _ | .ack _ _ _ _ | .writeCursor _
  | .replayStep _ | .replayTimeout _ => inferInstanceAs (Decidable True)

instance (parts : DeliveryParts A L P) (s : Delivery P) : DecidablePred (CursorOk parts s)
  | .replayStep k => inferInstanceAs (Decidable (∀ conn ∈ s.conns[k]?, conn.replay = .readCursor →
      ∀ m ∈ s.stream, ∀ alert ∈ parts.codec.parse m.payload,
        parts.codec.contains alert parts.location = true →
        parts.codec.createdAt alert < conn.connectedAt + replayOverlap →
        s.Placed parts m.payload alert ∨
          (truncMicros (replaySince s.cursor conn.connectedAt) <
              truncMicros (parts.codec.createdAt alert) ∧
            replaySince s.cursor conn.connectedAt - replayClockSkewTolerance ≤ m.serverTime)))
  | .create _ | .store _ _ | .broadcast _ _ | .connect _ | .disconnect _ | .deliver _
  | .ack _ _ _ _ | .writeCursor _ | .replayTimeout _ => inferInstanceAs (Decidable True)

end Delivery
end PulseGrid.Worker
