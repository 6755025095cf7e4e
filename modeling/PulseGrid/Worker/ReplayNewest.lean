/-
  PulseGrid.Worker.ReplayNewest

  What `run_replay` sends (crates/fanout-worker/src/replay.rs) against what it is for:
  the newest of the stored alerts the device has missed.

  `replay_alerts` reads the first `MAX_REPLAY_FETCH` messages of the shard from a minute
  before `since` on, and `plan_replay` keeps the newest of what was read.  The two agree
  when no alert of interest stands after those messages (`runReplay_sends_newest`).
-/

import PulseGrid.Worker.Replay

namespace PulseGrid.Worker

variable {A P L : Type}

-- ============================================================================
-- The task
-- ============================================================================

/-- What a replay put into the device's queue, and the count in its `ReplayComplete` if
    it got that far. -/
structure ReplayRun (P : Type) where
  sent : List P
  complete : Option Nat
deriving DecidableEq, Repr

/-- The loop of `run_replay`, which ends at the first send that fails; `sendOk i` tells
    whether send `i` succeeds. -/
def sendPayloads (sendOk : Nat → Bool) (replayed : Nat) : List P → ReplayRun P
  | [] => { sent := [], complete := some replayed }
  | payload :: payloads =>
      if sendOk replayed then
        let rest := sendPayloads sendOk (replayed + 1) payloads
        { rest with sent := payload :: rest.sent }
      else { sent := [], complete := none }

/-- `run_replay`; reading the cursor or the stream may fail. -/
def runReplay (codec : AlertCodec A P L) (cursor : Except Unit (Option Int))
    (stream : Except Unit (List (StoredAlert P))) (location : L) (connectedAt : Int)
    (replayMaxAlerts : Nat) (sendOk : Nat → Bool) : ReplayRun P :=
  match cursor, stream with
  | .error _, _ | _, .error _ => { sent := [], complete := none }
  | .ok cursor, .ok stream =>
      sendPayloads sendOk 0 (replayPayloads codec stream location connectedAt
        (replaySince cursor connectedAt) replayMaxAlerts)

theorem sendPayloads_of_all_ok {sendOk : Nat → Bool} (hsend : ∀ i, sendOk i = true)
    (replayed : Nat) (payloads : List P) :
    (sendPayloads sendOk replayed payloads).sent = payloads := by
  induction payloads generalizing replayed with
  | nil => rfl
  | cons payload payloads ih =>
      rw [sendPayloads, if_pos (hsend replayed)]
      dsimp only
      rw [ih]

-- ============================================================================
-- What it is for
-- ============================================================================

/-- The device has missed this alert: created after the cursor, not well after the
    connection, and around the device. -/
def missed (codec : AlertCodec A P L) (location : L) (connectedAt since : Int) (alert : A) :
    Bool :=
  truncMicros since < truncMicros (codec.createdAt alert) &&
    (codec.createdAt alert < connectedAt + replayOverlap && codec.contains alert location)

/-- The missed alerts among some messages of the shard, in their order. -/
def missedAlerts (codec : AlertCodec A P L) (location : L) (connectedAt since : Int)
    (messages : List (StoredAlert P)) : List A :=
  (messages.filterMap fun m => codec.parse m.payload).filter
    (missed codec location connectedAt since)

/-- The last `limit` of a list. -/
def newest {α : Type} (limit : Nat) (xs : List α) : List α := xs.drop (xs.length - limit)

/-- The messages of the shard from the consumer's start time on that the fetch leaves
    behind. -/
def notFetched (stream : List (StoredAlert P)) (since : Int) : List (StoredAlert P) :=
  (stream.filter fun m => startNanos since ≤ m.serverTime).drop maxReplayFetch

-- ============================================================================
-- The newest of a list and of a part of it
-- ============================================================================

theorem newest_map {α β : Type} (f : α → β) (limit : Nat) (xs : List α) :
    newest limit (xs.map f) = (newest limit xs).map f := by
  rw [newest, newest, List.length_map, List.map_drop]

/-- With distinct elements the newest of a list are among an initial part of it only if
    that part is the whole list. -/
theorem eq_nil_of_newest_append_eq {α : Type} {limit : Nat} (hlimit : 1 ≤ limit) {xs ys : List α}
    (hnodup : (xs ++ ys).Nodup) (h : newest limit (xs ++ ys) = newest limit xs) : ys = [] := by
  by_contra hne
  obtain ⟨zs, y, rfl⟩ := (List.eq_nil_or_concat' ys).resolve_left hne
  have hy : y ∈ newest limit (xs ++ (zs ++ [y])) := by
    rw [newest, ← List.append_assoc, List.drop_append_of_le_length]
    · simp
    · simp
      omega
  rw [h] at hy
  have hxs : y ∈ xs := List.mem_of_mem_drop hy
  exact (List.nodup_append.mp hnodup).2.2 y hxs y (by simp) rfl

-- ============================================================================
-- What is sent
-- ============================================================================

variable {codec : AlertCodec A P L} {location : L} {connectedAt since : Int}

/-- Whatever the device has missed is within the consumer's range: its server time is at
    most the tolerance behind its creation time. -/
theorem missedAlerts_filter_start {stream : List (StoredAlert P)}
    (hskew : ∀ m ∈ stream, ∀ alert, codec.parse m.payload = some alert →
      codec.createdAt alert ≤ m.serverTime + replayClockSkewTolerance) :
    missedAlerts codec location connectedAt since
        (stream.filter fun m => startNanos since ≤ m.serverTime) =
      missedAlerts codec location connectedAt since stream := by
  induction stream with
  | nil => rfl
  | cons m stream ih =>
      have ih := ih fun m hm => hskew m (List.mem_cons_of_mem _ hm)
      rw [List.filter_cons]
      split
      · unfold missedAlerts at ih ⊢
        cases hparse : codec.parse m.payload with
        | none => simpa [hparse] using ih
        | some alert => simp [hparse, List.filter_cons, ih]
      · next hstart =>
        rw [ih]
        unfold missedAlerts
        cases hparse : codec.parse m.payload with
        | none => simp [hparse]
        | some alert =>
            have hnot : missed codec location connectedAt since alert = false := by
              by_contra hmissed
              rw [Bool.not_eq_false, missed, Bool.and_eq_true, decide_eq_true_iff] at hmissed
              have hafter := lt_of_truncMicros_lt hmissed.1
              have hserver := hskew m List.mem_cons_self alert hparse
              refine hstart (decide_eq_true (startNanos_le ?_))
              omega
            simp [hparse, hnot]

theorem missedAlerts_append (xs ys : List (StoredAlert P)) :
    missedAlerts codec location connectedAt since (xs ++ ys) =
      missedAlerts codec location connectedAt since xs ++
        missedAlerts codec location connectedAt since ys := by
  rw [missedAlerts, List.filterMap_append, List.filter_append]
  rfl

/-- The missed alerts are those that were fetched and those that were left behind. -/
theorem missedAlerts_eq_append {stream : List (StoredAlert P)}
    (hskew : ∀ m ∈ stream, ∀ alert, codec.parse m.payload = some alert →
      codec.createdAt alert ≤ m.serverTime + replayClockSkewTolerance) :
    missedAlerts codec location connectedAt since stream =
      missedAlerts codec location connectedAt since (fetch stream since) ++
        missedAlerts codec location connectedAt since (notFetched stream since) := by
  rw [← missedAlerts_filter_start hskew, ← missedAlerts_append, fetch, notFetched,
    List.take_append_drop]

/-- A replay sends the newest of the missed alerts it fetched. -/
theorem replayPayloads_eq {toText : A → P} (htext : ∀ alert, codec.toVec alert = some (toText alert))
    (stream : List (StoredAlert P)) (limit : Nat) :
    replayPayloads codec stream location connectedAt since limit =
      newest limit ((missedAlerts codec location connectedAt since
        (fetch stream since)).map toText) := by
  have hvec : codec.toVec = fun alert => some (toText alert) := funext htext
  have hread : replayAlerts codec stream since maxStreamRead =
      ((fetch stream since).filterMap fun m => codec.parse m.payload).filter fun alert =>
        truncMicros since < truncMicros (codec.createdAt alert) := by
    rw [List.filter_filterMap]
    refine List.take_of_length_le (Nat.le_trans (List.length_filterMap_le ..) ?_)
    exact List.length_take_le _ _
  have hcandidates : replayCandidates codec (replayAlerts codec stream since maxStreamRead)
      location connectedAt =
        (missedAlerts codec location connectedAt since (fetch stream since)).map toText := by
    rw [replayCandidates, hread, hvec, List.filterMap_eq_map', List.filter_filter, missedAlerts]
    congr 2
    funext alert
    rw [missed, Bool.and_comm]
  rw [replayPayloads, planReplay, hcandidates]
  rfl

/-- If what a replay sends is the newest of the missed alerts, and these are all different,
    it has left none behind. -/
theorem missedAlerts_notFetched_eq_nil {toText : A → P}
    (htext : ∀ alert, codec.toVec alert = some (toText alert)) {stream : List (StoredAlert P)}
    (hskew : ∀ m ∈ stream, ∀ alert, codec.parse m.payload = some alert →
      codec.createdAt alert ≤ m.serverTime + replayClockSkewTolerance)
    {limit : Nat} (hlimit : 1 ≤ limit)
    (hdistinct : ((missedAlerts codec location connectedAt since stream).map toText).Nodup)
    (hsent : replayPayloads codec stream location connectedAt since limit =
      (newest limit (missedAlerts codec location connectedAt since stream)).map toText) :
    missedAlerts codec location connectedAt since (notFetched stream since) = [] := by
  rw [replayPayloads_eq htext, ← newest_map, missedAlerts_eq_append hskew, List.map_append] at hsent
  rw [missedAlerts_eq_append hskew, List.map_append] at hdistinct
  exact List.map_eq_nil_iff.mp (eq_nil_of_newest_append_eq hlimit hdistinct hsent.symm)

/-- A replay whose sends all succeed sends the newest of the missed alerts exactly when none
    of them stands after the messages the fetch returns.  (Alerts with one text cannot be
    told apart, so the second part is about different ones.) -/
theorem runReplay_sends_newest (codec : AlertCodec A P L) {toText : A → P}
    (htext : ∀ alert, codec.toVec alert = some (toText alert)) {stream : List (StoredAlert P)}
    (hskew : ∀ m ∈ stream, ∀ alert, codec.parse m.payload = some alert →
      codec.createdAt alert ≤ m.serverTime + replayClockSkewTolerance)
    (cursor : Option Int) (location : L) (connectedAt : Int) {limit : Nat}
    (hlimit : 1 ≤ limit ∧ limit ≤ 500) {sendOk : Nat → Bool} (hsend : ∀ i, sendOk i = true) :
    (missedAlerts codec location connectedAt (replaySince cursor connectedAt)
        (notFetched stream (replaySince cursor connectedAt)) = [] →
      (runReplay codec (.ok cursor) (.ok stream) location connectedAt limit sendOk).sent =
        (newest limit (missedAlerts codec location connectedAt (replaySince cursor connectedAt)
          stream)).map toText) ∧
    (((missedAlerts codec location connectedAt (replaySince cursor connectedAt)
        stream).map toText).Nodup →
      (runReplay codec (.ok cursor) (.ok stream) location connectedAt limit sendOk).sent =
        (newest limit (missedAlerts codec location connectedAt (replaySince cursor connectedAt)
          stream)).map toText →
      missedAlerts codec location connectedAt (replaySince cursor connectedAt)
        (notFetched stream (replaySince cursor connectedAt)) = []) := by
  have hsent : (runReplay codec (.ok cursor) (.ok stream) location connectedAt limit
      sendOk).sent = replayPayloads codec stream location connectedAt
        (replaySince cursor connectedAt) limit :=
    sendPayloads_of_all_ok hsend 0 _
  rw [hsent]
  refine ⟨fun hnone => ?_, missedAlerts_notFetched_eq_nil htext hskew hlimit.1⟩
  rw [replayPayloads_eq htext, missedAlerts_eq_append hskew, hnone, List.append_nil, newest_map]

/-- Alerts that are nothing but their creation time, around every device. -/
def clockCodec : AlertCodec Int Int Unit where
  parse created := some created
  toVec created := some created
  createdAt created := created
  contains _ _ := true

/-- One alert every millisecond from one second on, stored when it was created. -/
def denseStream (n : Nat) : List (StoredAlert Int) :=
  (List.range n).map fun i =>
    { serverTime := 1000000000 + i * 1000000, payload := 1000000000 + i * 1000000 }

theorem denseStream_skew (n : Nat) :
    ∀ m ∈ denseStream n, ∀ alert, clockCodec.parse m.payload = some alert →
      clockCodec.createdAt alert ≤ m.serverTime + replayClockSkewTolerance := by
  intro m hm alert halert
  obtain ⟨i, -, rfl⟩ := List.mem_map.mp hm
  cases halert
  show (1000000000 + i * 1000000 : Int) ≤ ((1000000000 + i * 1000000 : Nat) : Int) + secs 60
  rw [secs]
  omega

theorem denseStream_ordered (n : Nat) :
    ((denseStream n).filterMap fun m => clockCodec.parse m.payload).Pairwise fun a b =>
      clockCodec.createdAt a ≤ clockCodec.createdAt b := by
  rw [denseStream, List.filterMap_map]
  refine List.Pairwise.filterMap _ ?_ (List.pairwise_lt_range (n := n))
  intro i j hij a ha b hb
  cases ha
  cases hb
  show (1000000000 + i * 1000000 : Int) ≤ 1000000000 + j * 1000000
  omega

/-- Three stored alerts, of which the newest two are sent. -/
theorem runReplay_sends_newest_two :
    (runReplay clockCodec (.ok none) (.ok (denseStream 3)) () 2000000000 2 fun _ => true).sent =
      (newest 2 (missedAlerts clockCodec () 2000000000 (replaySince none 2000000000)
        (denseStream 3))).map id :=
  (runReplay_sends_newest clockCodec (fun _ => rfl) (denseStream_skew 3) none () 2000000000
    (by decide) fun _ => rfl).1 (by decide)

/-- 501 stored alerts: the newest is never read, and the newest 50 are not what is sent. -/
theorem runReplay_misses_newest :
    ¬∀ (codec : AlertCodec Int Int Unit) (toText : Int → Int),
      (∀ alert, codec.toVec alert = some (toText alert)) →
      ∀ stream : List (StoredAlert Int),
        ((stream.filterMap fun m => codec.parse m.payload).Pairwise fun a b =>
          codec.createdAt a ≤ codec.createdAt b) →
        (∀ m ∈ stream, ∀ alert, codec.parse m.payload = some alert →
          codec.createdAt alert ≤ m.serverTime + replayClockSkewTolerance) →
        ∀ (cursor : Option Int) (location : Unit) (connectedAt : Int) (limit : Nat),
          1 ≤ limit ∧ limit ≤ 500 →
          (runReplay codec (.ok cursor) (.ok stream) location connectedAt limit
              fun _ => true).sent =
            (newest limit (missedAlerts codec location connectedAt
              (replaySince cursor connectedAt) stream)).map toText := by
  intro h
  have hsent := h clockCodec id (fun _ => rfl) (denseStream 501) (denseStream_ordered 501)
    (denseStream_skew 501) none () 2000000000 50 (by decide)
  have hlast := congrArg List.getLast? hsent
  revert hlast
  decide +kernel

end PulseGrid.Worker
