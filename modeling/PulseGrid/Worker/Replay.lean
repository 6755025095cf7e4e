/-
  PulseGrid.Worker.Replay

  What a worker sends to a device that reconnects: `plan_replay` and the choice of
  `since` (crates/fanout-worker/src/replay.rs), `replay_alerts`
  (crates/infra/src/nats.rs), the acknowledgement batcher and the cursor.

  Times are nanoseconds since the epoch, as integers.  An alert is whatever its
  JSON text parses to; the model needs its creation time and its circle only.
-/

import Mathlib

namespace PulseGrid.Worker

/-- What replay and fan-out use of alerts `A`, their JSON texts `P` and locations `L`. -/
structure AlertCodec (A P L : Type) where
  /-- `serde_json::from_slice`. -/
  parse : P → Option A
  /-- `serde_json::to_vec`. -/
  toVec : A → Option P
  createdAt : A → Int
  contains : A → L → Bool

/-- A message of the shard's subject in the stream. -/
structure StoredAlert (P : Type) where
  serverTime : Nat
  payload : P
deriving DecidableEq

variable {A P L : Type}

def secs (n : Int) : Int := n * 1000000000

/-- `trunc_subsecs(6)`. -/
def truncMicros (t : Int) : Int := t - t % 1000

-- ============================================================================
-- Constants
-- ============================================================================

/-- `MAX_STREAM_READ`. -/
def maxStreamRead : Nat := 500

/-- `MAX_REPLAY_FETCH`. -/
def maxReplayFetch : Nat := 500

/-- `REPLAY_CLOCK_SKEW_TOLERANCE_SECS`. -/
def replayClockSkewTolerance : Int := secs 60

def noCursorWindow : Int := secs 300

def replayOverlap : Int := secs 5

def futureAckTolerance : Int := secs 60

/-- `ACK_MIN_INTERVAL`. -/
def ackMinInterval : Int := secs 1

-- ============================================================================
-- Reading the stream
-- ============================================================================

/-- The consumer's start time: `timestamp_nanos_opt().unwrap_or(0).max(0)`, where the
    nanoseconds may not fit in an `i64`. -/
def startNanos (since : Int) : Int :=
  let serverStart := since - replayClockSkewTolerance
  if -(2 ^ 63) ≤ serverStart ∧ serverStart < 2 ^ 63 then max serverStart 0 else 0

/-- The messages a fetch returns: from the start time on, oldest first, at most
    `MAX_REPLAY_FETCH` of them. -/
def fetch (stream : List (StoredAlert P)) (since : Int) : List (StoredAlert P) :=
  (stream.filter fun m => startNanos since ≤ m.serverTime).take maxReplayFetch

/-- The stored alerts of the shard created after `since`. -/
def replayAlerts (codec : AlertCodec A P L) (stream : List (StoredAlert P)) (since : Int)
    (max : Nat) : List A :=
  let fetched := (fetch stream since).filterMap fun m =>
    (codec.parse m.payload).filter fun alert =>
      truncMicros since < truncMicros (codec.createdAt alert)
  fetched.take (Nat.min (Nat.max max 1) maxReplayFetch)

/-- The texts of the alerts in the circle that are not too new. -/
def replayCandidates (codec : AlertCodec A P L) (alerts : List A) (location : L)
    (connectedAt : Int) : List P :=
  (alerts.filter fun alert => codec.createdAt alert < connectedAt + replayOverlap &&
    codec.contains alert location).filterMap codec.toVec

def planReplay (codec : AlertCodec A P L) (alerts : List A) (location : L) (connectedAt : Int)
    (limit : Nat) : List P :=
  let payloads := replayCandidates codec alerts location connectedAt
  payloads.drop (payloads.length - limit)

/-- Where `run_replay` starts from. -/
def replaySince (cursor : Option Int) (connectedAt : Int) : Int :=
  cursor.getD (connectedAt - noCursorWindow)

/-- What `run_replay` sends. -/
def replayPayloads (codec : AlertCodec A P L) (stream : List (StoredAlert P)) (location : L)
    (connectedAt since : Int) (replayMaxAlerts : Nat) : List P :=
  planReplay codec (replayAlerts codec stream since maxStreamRead) location connectedAt
    replayMaxAlerts

-- ============================================================================
-- Acknowledgements
-- ============================================================================

inductive AckOutcome where
  | ignored
  | buffered
  | write (cursor : Int)
deriving DecidableEq, Repr

structure AckBatcher where
  minInterval : Int := ackMinInterval
  lastWrite : Option Int := none
  pending : Option Int := none
deriving DecidableEq, Repr

namespace AckBatcher

/-- `ts` is the acknowledged alert's creation time, `wallNow` the current time and
    `now` a monotonic clock reading. -/
def offer (b : AckBatcher) (ts wallNow now : Int) : AckBatcher × AckOutcome :=
  if ts > wallNow + futureAckTolerance then (b, .ignored)
  else
    let best := match b.pending with
      | some pending => if pending ≥ ts then pending else ts
      | none => ts
    let due := match b.lastWrite with
      -- `duration_since` is zero for a reading before the last one
      | some last => decide (max (now - last) 0 ≥ b.minInterval)
      | none => true
    if due then ({ b with lastWrite := some now, pending := none }, .write best)
    else ({ b with pending := some best }, .buffered)

def takePending (b : AckBatcher) : AckBatcher × Option Int :=
  ({ b with pending := none }, b.pending)

end AckBatcher

/-- `AckCursorStore::advance`: the cursor is kept to the microsecond and never moves
    back. -/
def advanceCursor (cursor : Option Int) (ts : Int) : Option Int :=
  match cursor with
  | none => some (truncMicros ts)
  | some cur => if truncMicros ts > cur then some (truncMicros ts) else some cur

-- ============================================================================
-- What a replay sends
-- ============================================================================

theorem lt_of_truncMicros_lt {s t : Int} (h : truncMicros s < truncMicros t) : s < t := by
  unfold truncMicros at h
  omega

/-- A message that the server stored at or after `since` less the tolerance is within
    the fetched range. -/
theorem startNanos_le {since : Int} {serverTime : Nat}
    (h : since - replayClockSkewTolerance ≤ serverTime) : startNanos since ≤ serverTime := by
  unfold startNanos
  dsimp only
  split
  · exact max_le h (by omega)
  · omega

/-- Nothing is cut off when there is no more than the limit. -/
theorem planReplay_eq {codec : AlertCodec A P L} {alerts : List A} {location : L}
    {connectedAt : Int} {limit : Nat}
    (h : (replayCandidates codec alerts location connectedAt).length ≤ limit) :
    planReplay codec alerts location connectedAt limit =
      replayCandidates codec alerts location connectedAt := by
  unfold planReplay
  dsimp only
  rw [Nat.sub_eq_zero_of_le h, List.drop_zero]

/-- With at most `MAX_REPLAY_FETCH` messages in range, every alert of theirs created
    after `since` is read. -/
theorem mem_replayAlerts {codec : AlertCodec A P L} {stream : List (StoredAlert P)} {since : Int}
    (hlen : (stream.filter fun m => startNanos since ≤ m.serverTime).length ≤ maxReplayFetch)
    {m : StoredAlert P} (hm : m ∈ stream) (hstart : startNanos since ≤ m.serverTime) {alert : A}
    (hparse : codec.parse m.payload = some alert)
    (hsince : truncMicros since < truncMicros (codec.createdAt alert)) :
    alert ∈ replayAlerts codec stream since maxStreamRead := by
  have hfetch : fetch stream since = stream.filter fun m => startNanos since ≤ m.serverTime := by
    unfold fetch
    exact List.take_of_length_le hlen
  have hall : alert ∈ (fetch stream since).filterMap fun m =>
      (codec.parse m.payload).filter fun alert =>
        truncMicros since < truncMicros (codec.createdAt alert) := by
    rw [hfetch, List.mem_filterMap]
    refine ⟨m, List.mem_filter.mpr ⟨hm, by simpa using hstart⟩, ?_⟩
    simp [hparse, Option.filter, hsince]
  have htake : ∀ l : List A, l.length ≤ maxReplayFetch →
      l.take (Nat.min (Nat.max maxStreamRead 1) maxReplayFetch) = l := by
    intro l hl
    exact List.take_of_length_le hl
  unfold replayAlerts
  rw [htake]
  · exact hall
  · refine Nat.le_trans (List.length_filterMap_le ..) ?_
    rw [hfetch]
    exact hlen

/-- A stored alert of the circle in range, after `since` and not too new, is sent. -/
theorem mem_replayPayloads {codec : AlertCodec A P L} {stream : List (StoredAlert P)}
    {location : L} {connectedAt since : Int} {limit : Nat}
    (hlen : (stream.filter fun m => startNanos since ≤ m.serverTime).length ≤ maxReplayFetch)
    (hlimit : (replayCandidates codec (replayAlerts codec stream since maxStreamRead) location
      connectedAt).length ≤ limit)
    {m : StoredAlert P} (hm : m ∈ stream) (hstart : startNanos since ≤ m.serverTime) {alert : A}
    (hparse : codec.parse m.payload = some alert)
    (hsince : truncMicros since < truncMicros (codec.createdAt alert))
    (hupper : codec.createdAt alert < connectedAt + replayOverlap)
    (hin : codec.contains alert location = true) {payload : P}
    (hvec : codec.toVec alert = some payload) :
    payload ∈ replayPayloads codec stream location connectedAt since limit := by
  unfold replayPayloads
  rw [planReplay_eq hlimit]
  refine List.mem_filterMap.mpr ⟨alert, List.mem_filter.mpr ⟨?_, ?_⟩, hvec⟩
  · exact mem_replayAlerts hlen hm hstart hparse hsince
  · simp [hupper, hin]

end PulseGrid.Worker
