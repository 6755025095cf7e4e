/-
  PulseGrid.Worker.LiveAndReplay

  One connection (`handle_socket` in crates/fanout-worker/src/ws.rs) and the alerts
  of its shard: published, stored in the stream, handed to the worker and broadcast
  (`fanout` and `run_shard` in crates/fanout-worker/src/subscriber.rs), while the
  connection registers, reads the clock and replays.

  `no_gap_between_replay_and_live` says that no alert falls between the two paths.
-/

import PulseGrid.Worker.Replay
import PulseGrid.Worker.RegistryRuns
import PulseGrid.Worker.CurrentConnection
import PulseGrid.Lib.TaskPool
import PulseGrid.Lib.Transition

namespace PulseGrid.Worker

variable {A D L P : Type}

/-- Parses an alert once and queues it to every connection of the shard inside its
    circle; `none` for a text that is not an alert. -/
def fanout [DecidableEq D] (codec : AlertCodec A P L)
    (registry : ConnectionRegistry D String L P) (shardPrefix : String) (payload : P) :
    Option (ConnectionRegistry D String L P × BroadcastResult) :=
  (codec.parse payload).map fun alert =>
    registry.broadcastToShard codec.contains shardPrefix alert payload

/-- An alert of the shard and how far it got. -/
structure Published (P : Type) where
  payload : P
  stored : Bool := false
  handed : Bool := false

/-- How far the connection got. -/
inductive ConnPhase (P : Type) where
  | connecting
  | registered (connId : UInt64)
  | connected (connId : UInt64) (connectedAt : Int)
  /-- The replay has read the stream and sends `output`. -/
  | replaying (connId : UInt64) (connectedAt since : Int) (output : List P)

def ConnPhase.connId? : ConnPhase P → Option UInt64
  | connecting => none
  | registered connId | connected connId _ | replaying connId _ _ _ => some connId

/-- The connection, its worker's registry, the shard's alerts and stream, and the
    clocks of the NATS server and of the worker. -/
structure LiveReplay (D L P : Type) where
  registry : ConnectionRegistry D String L P := {}
  natsNow : Nat
  workerNow : Int
  alerts : List (Published P) := []
  stream : List (StoredAlert P) := []
  phase : ConnPhase P := .connecting

/-- What the connection is about. -/
structure LiveReplayParts (A D L P : Type) where
  codec : AlertCodec A P L
  deviceId : D
  /-- The shard and the location `authorize` returned. -/
  shardPrefix : String
  location : L
  replayMaxAlerts : Nat

namespace LiveReplay

inductive Label (A D L P : Type) where
  | tick (nats worker : Nat)
  /-- A coordinator creates an alert of the shard. -/
  | publish (payload : P)
  /-- The stream stores alert `n`. -/
  | store (n : Nat)
  /-- Alert `n` is handed to `run_shard`. -/
  | hand (n : Nat)
  /-- Any call on the registry, or act of a connection's receiver. -/
  | call (c : Call D String L P A)
  | register
  /-- `connected_at = Utc::now()`. -/
  | readClock
  /-- `run_replay` reads the cursor and then the stream. -/
  | replay (cursor : Option Int)

variable [DecidableEq D]

def step (parts : LiveReplayParts A D L P) (s : LiveReplay D L P) :
    Label A D L P → Option (LiveReplay D L P)
  | .tick nats worker =>
      some { s with natsNow := s.natsNow + nats, workerNow := s.workerNow + worker }
  | .publish payload => some { s with alerts := s.alerts ++ [{ payload := payload }] }
  | .store n =>
      match s.alerts[n]? with
      | none => none
      | some alert =>
          some { s with
            stream := s.stream ++ [{ serverTime := s.natsNow, payload := alert.payload }]
            alerts := s.alerts.set n { alert with stored := true } }
  | .hand n =>
      match s.alerts[n]? with
      | none => none
      | some alert =>
          some { s with
            registry := match fanout parts.codec s.registry parts.shardPrefix alert.payload with
              | some (registry, _) => registry
              | none => s.registry
            alerts := s.alerts.set n { alert with handed := true } }
  | .call c => some { s with registry := (s.registry.exec parts.codec.contains c).1 }
  | .register =>
      match s.phase with
      | .connecting =>
          let (registry, registered) :=
            s.registry.register parts.deviceId parts.shardPrefix parts.location
          some { s with registry := registry, phase := .registered registered.connId }
      | _ => none
  | .readClock =>
      match s.phase with
      | .registered connId => some { s with phase := .connected connId s.workerNow }
      | _ => none
  | .replay cursor =>
      match s.phase with
      | .connected connId connectedAt =>
          let since := replaySince cursor connectedAt
          let output := replayPayloads parts.codec s.stream parts.location connectedAt since
            parts.replayMaxAlerts
          some { s with phase := .replaying connId connectedAt since output }
      | _ => none

/-- What is assumed of a step: a publisher's clock is at most 60 s ahead of the NATS
    server's and less than 5 s ahead of the worker's; an alert is stored before it is
    handed to subscribers; once registered, the connection stays and its device does
    not move; and the replay's limits are not exceeded. -/
def Assumed (parts : LiveReplayParts A D L P) (s : LiveReplay D L P) : Label A D L P → Prop
  | .publish payload => ∀ alert ∈ parts.codec.parse payload,
      parts.codec.createdAt alert ≤ s.natsNow + secs 60 ∧
        parts.codec.createdAt alert < s.workerNow + secs 5
  | .hand n => ∀ alert ∈ s.alerts[n]?, alert.stored = true
  | .call c => s.phase.connId?.isSome = true →
      (s.registry.exec parts.codec.contains c).1.current parts.deviceId =
        s.registry.current parts.deviceId
  | .replay cursor =>
      match s.phase with
      | .connected _ connectedAt =>
          let since := replaySince cursor connectedAt
          (s.stream.filter fun m => startNanos since ≤ m.serverTime).length ≤ maxReplayFetch ∧
            (replayCandidates parts.codec (replayAlerts parts.codec s.stream since maxStreamRead)
              parts.location connectedAt).length ≤ parts.replayMaxAlerts
      | _ => True
  | _ => True

instance [DecidableEq L] (parts : LiveReplayParts A D L P) (s : LiveReplay D L P) :
    DecidablePred (s.Assumed parts)
  | .publish payload => inferInstanceAs (Decidable (∀ alert ∈ parts.codec.parse payload,
      parts.codec.createdAt alert ≤ s.natsNow + secs 60 ∧
        parts.codec.createdAt alert < s.workerNow + secs 5))
  | .hand n => inferInstanceAs (Decidable (∀ alert ∈ s.alerts[n]?, alert.stored = true))
  | .call c => inferInstanceAs (Decidable (s.phase.connId?.isSome = true →
      (s.registry.exec parts.codec.contains c).1.current parts.deviceId =
        s.registry.current parts.deviceId))
  | .replay cursor =>
      match hphase : s.phase with
      | .connected _ connectedAt =>
          decidable_of_iff ((s.stream.filter fun m => startNanos (replaySince cursor connectedAt) ≤
              m.serverTime).length ≤ maxReplayFetch ∧
            (replayCandidates parts.codec (replayAlerts parts.codec s.stream
                (replaySince cursor connectedAt) maxStreamRead) parts.location
              connectedAt).length ≤ parts.replayMaxAlerts) (by simp [Assumed, hphase])
      | .connecting | .registered _ | .replaying _ _ _ _ => isTrue (by simp [Assumed, hphase])
  | .tick _ _ | .store _ | .register | .readClock => inferInstanceAs (Decidable True)

/-- The connection is one of those in the shard's index that a broadcast on `before`
    counts as `outcome`, and `count` is the number of these. -/
def CountedIn (parts : LiveReplayParts A D L P) (before : ConnectionRegistry D String L P)
    (alert : A) (outcome : ConnectionRegistry.Outcome) (count a : Nat) : Prop :=
  (parts.deviceId, a) ∈ before.shardEntries parts.shardPrefix ∧
    before.outcomeAt parts.codec.contains alert (parts.deviceId, a) = some outcome ∧
    count = (before.shardEntries parts.shardPrefix).countP fun e =>
      before.outcomeAt parts.codec.contains alert e == some outcome

/-- The broadcast of `payload` that turned `before` into `after` and returned `result`
    met the connection: `after` has the payload at the end of its queue and `result`
    counts it as delivered, or `result` counts it as dropped. -/
def Met (parts : LiveReplayParts A D L P) (before after : ConnectionRegistry D String L P)
    (result : BroadcastResult) (alert : A) (payload : P) (connId : UInt64) : Prop :=
  ∃ a conn, before.heap[a]? = some conn ∧ conn.id = connId ∧
    ((CountedIn parts before alert .delivered result.delivered a ∧
        after.heap[a]? = some { conn with channel := { conn.channel with
          queue := conn.channel.queue ++ [.alert payload] } }) ∨
      CountedIn parts before alert .dropped result.dropped a)

-- ============================================================================
-- The live path
-- ============================================================================

/-- A registered connection inside the circle is met by a broadcast to its shard. -/
theorem met_of_current {parts : LiveReplayParts A D L P} {r r' : ConnectionRegistry D String L P}
    (h : r.Indexed) {connId : UInt64}
    (hcur : r.current parts.deviceId = some (connId, parts.shardPrefix, parts.location))
    {alert : A} (hin : parts.codec.contains alert parts.location = true) {payload : P}
    {result : BroadcastResult}
    (hbroadcast : r.broadcastToShard parts.codec.contains parts.shardPrefix alert payload =
      (r', result)) :
    Met parts r r' result alert payload connId := by
  obtain ⟨a, conn, ha, hconn, hx⟩ := ConnectionRegistry.current_eq_some.mp hcur
  obtain ⟨hid, hshard, hloc⟩ : conn.id = connId ∧ conn.shard = parts.shardPrefix ∧
      conn.location = parts.location := by simpa using hx
  have hentry : (parts.deviceId, a) ∈ r.shardEntries parts.shardPrefix :=
    ConnectionRegistry.mem_shardEntries.mpr
      ((h.agree _ _ _).mpr ⟨ha, by simp [ConnectionRegistry.shardAt, hconn, hshard]⟩)
  have hresult := (ConnectionRegistry.broadcastToShard_eq h parts.codec.contains
    parts.shardPrefix alert payload).symm.trans hbroadcast
  obtain rfl := (Prod.mk.inj hresult).2
  refine ⟨a, conn, hconn, hid, ?_⟩
  cases haccepts : conn.channel.accepts with
  | true =>
    refine .inl ⟨⟨hentry, ?_, rfl⟩, ?_⟩
    · simp [ConnectionRegistry.outcomeAt, hconn, ConnectionRegistry.outcome, hloc, hin, haccepts]
    · have hmem : a ∈ (r.shardEntries parts.shardPrefix).map Prod.snd :=
        List.mem_map.mpr ⟨_, hentry, rfl⟩
      have hheap := ConnectionRegistry.broadcastToShard_heap h parts.codec.contains
        parts.shardPrefix alert payload a
      rw [hbroadcast] at hheap
      rw [hheap, hconn, Option.map_some, if_pos hmem, ConnectionRegistry.deliver, hloc, if_pos hin,
        Channel.offer_eq, if_pos haccepts]
  | false =>
    refine .inr ⟨hentry, ?_, rfl⟩
    simp [ConnectionRegistry.outcomeAt, hconn, ConnectionRegistry.outcome, hloc, hin, haccepts]

/-- What holds in every state. -/
structure Ok (parts : LiveReplayParts A D L P) (s : LiveReplay D L P) : Prop where
  registry : s.registry.Inv
  current : ∀ connId ∈ s.phase.connId?,
    s.registry.current parts.deviceId = some (connId, parts.shardPrefix, parts.location)
  clocks : ∀ al ∈ s.alerts, ∀ alert ∈ parts.codec.parse al.payload,
    parts.codec.createdAt alert ≤ s.natsNow + secs 60 ∧
      parts.codec.createdAt alert < s.workerNow + secs 5
  stored : ∀ al ∈ s.alerts, al.stored = true → ∃ m ∈ s.stream, m.payload = al.payload ∧
    ∀ alert ∈ parts.codec.parse al.payload,
      parts.codec.createdAt alert - secs 60 ≤ m.serverTime

theorem current_fanout {codec : AlertCodec A P L} {r r' : ConnectionRegistry D String L P}
    (h : r.Inv) {shardPrefix : String} {payload : P} {result : BroadcastResult}
    (hfan : fanout codec r shardPrefix payload = some (r', result)) :
    r'.Inv ∧ ∀ d, r'.current d = r.current d := by
  obtain ⟨alert, -, hbroadcast⟩ := Option.map_eq_some_iff.mp hfan
  obtain rfl : (r.broadcastToShard codec.contains shardPrefix alert payload).1 = r' := by
    rw [hbroadcast]
  refine ⟨h.broadcastToShard codec.contains shardPrefix alert payload, fun d => ?_⟩
  unfold ConnectionRegistry.current
  rw [ConnectionRegistry.broadcastToShard_byDevice h.toIndexed]
  congr 1
  funext a
  rw [ConnectionRegistry.broadcastToShard_heap h.toIndexed, Option.map_map]
  congr 1
  funext c
  simp only [Function.comp_apply, ConnectionRegistry.deliver]
  split
  · split <;> rfl
  · rfl

theorem mem_set_alerts {alerts : List (Published P)} {n : Nat} {al al' x : Published P}
    (hn : alerts[n]? = some al) (hx : x ∈ alerts.set n al') (hpayload : al'.payload = al.payload) :
    (x = al' ∨ x ∈ alerts) ∧ ∃ y ∈ alerts, x.payload = y.payload := by
  rcases List.mem_or_eq_of_mem_set hx with hx | rfl
  · exact ⟨.inr hx, x, hx, rfl⟩
  · exact ⟨.inl rfl, al, List.mem_of_getElem? hn, hpayload⟩

theorem Ok.step {parts : LiveReplayParts A D L P} {s t : LiveReplay D L P} (h : s.Ok parts)
    {label : Label A D L P} (hassumed : s.Assumed parts label)
    (hstep : s.step parts label = some t) : t.Ok parts := by
  cases label with
  | tick nats worker =>
    obtain rfl := Option.some.inj hstep
    refine ⟨h.registry, h.current, fun al hal alert halert => ?_, h.stored⟩
    have hclock := h.clocks al hal alert halert
    dsimp only
    omega
  | publish payload =>
    obtain rfl := Option.some.inj hstep
    refine ⟨h.registry, h.current, fun al hal => ?_, fun al hal hstored => ?_⟩
    · rcases List.mem_append.mp hal with hold | hnew
      · exact h.clocks al hold
      · rw [List.mem_singleton.mp hnew]
        exact hassumed
    · rcases List.mem_append.mp hal with hold | hnew
      · exact h.stored al hold hstored
      · rw [List.mem_singleton.mp hnew] at hstored
        cases hstored
  | store n =>
    simp only [LiveReplay.step] at hstep
    split at hstep
    · cases hstep
    · next al hn =>
      obtain rfl := Option.some.inj hstep
      refine ⟨h.registry, h.current, fun x hx => ?_, fun x hx hstored => ?_⟩
      · obtain ⟨-, y, hy, hpayload⟩ := mem_set_alerts hn hx rfl
        rw [hpayload]
        exact h.clocks y hy
      · obtain ⟨rfl | hold, -⟩ := mem_set_alerts hn hx rfl
        · refine ⟨_, List.mem_append_right _ (List.mem_singleton.mpr rfl), rfl,
            fun alert halert => ?_⟩
          have hclock := h.clocks al (List.mem_of_getElem? hn) alert halert
          dsimp only
          omega
        · obtain ⟨m, hm, hrest⟩ := h.stored x hold hstored
          exact ⟨m, List.mem_append_left _ hm, hrest⟩
  | hand n =>
    simp only [LiveReplay.step] at hstep
    split at hstep
    · cases hstep
    · next al hn =>
      obtain rfl := Option.some.inj hstep
      have hreg : ∀ r', (match fanout parts.codec s.registry parts.shardPrefix al.payload with
          | some (registry, _) => registry
          | none => s.registry) = r' → r'.Inv ∧ ∀ d, r'.current d = s.registry.current d := by
        rintro r' rfl
        split
        · next registry result hfan => exact current_fanout h.registry hfan
        · exact ⟨h.registry, fun _ => rfl⟩
      refine ⟨(hreg _ rfl).1, fun connId hid => ?_, fun x hx => ?_, fun x hx hstored => ?_⟩
      · exact ((hreg _ rfl).2 _).trans (h.current connId hid)
      · obtain ⟨-, y, hy, hpayload⟩ := mem_set_alerts hn hx rfl
        rw [hpayload]
        exact h.clocks y hy
      · obtain ⟨rfl | hold, -⟩ := mem_set_alerts hn hx rfl
        · exact h.stored al (List.mem_of_getElem? hn) hstored
        · exact h.stored x hold hstored
  | call c =>
    obtain rfl := Option.some.inj hstep
    refine ⟨h.registry.exec _ c, fun connId hid => ?_, h.clocks, h.stored⟩
    have hkeep := hassumed (by rw [show s.phase.connId? = some connId from hid]; rfl)
    exact hkeep.trans (h.current connId hid)
  | register =>
    simp only [LiveReplay.step] at hstep
    split at hstep
    · obtain rfl := Option.some.inj hstep
      refine ⟨h.registry.register _ _ _, fun connId hid => ?_, h.clocks, h.stored⟩
      obtain rfl := Option.some.inj hid
      exact ConnectionRegistry.current_register h.registry.toIndexed _ _ _
    · cases hstep
  | readClock =>
    simp only [LiveReplay.step] at hstep
    split at hstep
    · next connId hphase =>
      obtain rfl := Option.some.inj hstep
      exact ⟨h.registry, fun i hi => h.current i (by rw [hphase]; exact hi), h.clocks, h.stored⟩
    · cases hstep
  | replay cursor =>
    simp only [LiveReplay.step] at hstep
    split at hstep
    · next connId connectedAt hphase =>
      obtain rfl := Option.some.inj hstep
      exact ⟨h.registry, fun i hi => h.current i (by rw [hphase]; exact hi), h.clocks, h.stored⟩
    · cases hstep

-- ============================================================================
-- The replay path
-- ============================================================================

/-- What holds from the moment an alert was handed to subscribers, if the connection
    was not registered then: the alert is in the stream, and in time for the replay. -/
def Early (parts : LiveReplayParts A D L P) (alert : A) (payload : P) (s : LiveReplay D L P) :
    Prop :=
  (∃ m ∈ s.stream, m.payload = payload ∧ parts.codec.createdAt alert - secs 60 ≤ m.serverTime) ∧
    match s.phase with
    | .connecting | .registered _ => parts.codec.createdAt alert < s.workerNow + secs 5
    | .connected _ connectedAt => parts.codec.createdAt alert < connectedAt + secs 5
    | .replaying _ _ since output =>
        truncMicros since < truncMicros (parts.codec.createdAt alert) →
          ∃ text ∈ output, parts.codec.toVec alert = some text

theorem Early.step {parts : LiveReplayParts A D L P}
    (hvec : ∀ alert, (parts.codec.toVec alert).isSome = true) {alert : A} {payload : P}
    (hparse : parts.codec.parse payload = some alert)
    (hin : parts.codec.contains alert parts.location = true) {s t : LiveReplay D L P}
    (h : s.Early parts alert payload) {label : Label A D L P} (hassumed : s.Assumed parts label)
    (hstep : s.step parts label = some t) : t.Early parts alert payload := by
  obtain ⟨⟨m, hm, hpayload, hserver⟩, hphase⟩ := h
  cases label with
  | tick nats worker =>
    obtain rfl := Option.some.inj hstep
    refine ⟨⟨m, hm, hpayload, hserver⟩, ?_⟩
    dsimp only
    split at hphase
    all_goals first | exact hphase | omega
  | publish payload =>
    obtain rfl := Option.some.inj hstep
    exact ⟨⟨m, hm, hpayload, hserver⟩, hphase⟩
  | store n =>
    simp only [LiveReplay.step] at hstep
    split at hstep
    · cases hstep
    · obtain rfl := Option.some.inj hstep
      exact ⟨⟨m, List.mem_append_left _ hm, hpayload, hserver⟩, hphase⟩
  | hand n =>
    simp only [LiveReplay.step] at hstep
    split at hstep
    · cases hstep
    · obtain rfl := Option.some.inj hstep
      exact ⟨⟨m, hm, hpayload, hserver⟩, hphase⟩
  | call c =>
    obtain rfl := Option.some.inj hstep
    exact ⟨⟨m, hm, hpayload, hserver⟩, hphase⟩
  | register =>
    simp only [LiveReplay.step] at hstep
    split at hstep
    · next hcon =>
      obtain rfl := Option.some.inj hstep
      rw [hcon] at hphase
      exact ⟨⟨m, hm, hpayload, hserver⟩, hphase⟩
    · cases hstep
  | readClock =>
    simp only [LiveReplay.step] at hstep
    split at hstep
    · next connId hcon =>
      obtain rfl := Option.some.inj hstep
      rw [hcon] at hphase
      exact ⟨⟨m, hm, hpayload, hserver⟩, hphase⟩
    · cases hstep
  | replay cursor =>
    simp only [LiveReplay.step] at hstep
    split at hstep
    · next connId connectedAt hcon =>
      obtain rfl := Option.some.inj hstep
      simp only [Assumed, hcon] at hassumed
      rw [hcon] at hphase
      refine ⟨⟨m, hm, hpayload, hserver⟩, fun hsince => ?_⟩
      obtain ⟨text, htext⟩ := Option.isSome_iff_exists.mp (hvec alert)
      -- created after `since`, so stored no earlier than the tolerance before it
      have hstart : startNanos (replaySince cursor connectedAt) ≤ m.serverTime := by
        refine startNanos_le ?_
        have hlt := lt_of_truncMicros_lt hsince
        unfold replayClockSkewTolerance
        omega
      exact ⟨text, mem_replayPayloads hassumed.1 hassumed.2 hm hstart (hpayload ▸ hparse) hsince
        hphase hin htext, htext⟩
    · cases hstep

-- ============================================================================
-- Runs
-- ============================================================================

/-- Alerts are only ever added, and keep their payload. -/
theorem payload_step {parts : LiveReplayParts A D L P} {s t : LiveReplay D L P}
    {label : Label A D L P} (hstep : s.step parts label = some t) {n : Nat} {al : Published P}
    (hn : s.alerts[n]? = some al) :
    ∃ al', t.alerts[n]? = some al' ∧ al'.payload = al.payload := by
  have hlt : n < s.alerts.length := (List.getElem?_eq_some_iff.mp hn).1
  have hset : ∀ k al₀ al₁, s.alerts[k]? = some al₀ → al₁.payload = al₀.payload →
      ∃ al', (s.alerts.set k al₁)[n]? = some al' ∧ al'.payload = al.payload := by
    intro k al₀ al₁ hk hpayload
    by_cases hkn : k = n
    · subst hkn
      obtain rfl : al₀ = al := Option.some.inj (hk.symm.trans hn)
      exact ⟨al₁, List.getElem?_set_self hlt, hpayload⟩
    · exact ⟨al, by rw [List.getElem?_set_ne hkn, hn], rfl⟩
  cases label with
  | publish payload =>
    obtain rfl := Option.some.inj hstep
    exact ⟨al, by rw [List.getElem?_append_left hlt, hn], rfl⟩
  | store k =>
    simp only [LiveReplay.step] at hstep
    split at hstep
    · cases hstep
    · next al₀ hk =>
      obtain rfl := Option.some.inj hstep
      exact hset k al₀ { al₀ with stored := true } hk rfl
  | hand k =>
    simp only [LiveReplay.step] at hstep
    split at hstep
    · cases hstep
    · next al₀ hk =>
      obtain rfl := Option.some.inj hstep
      exact hset k al₀ { al₀ with handed := true } hk rfl
  | tick nats worker =>
    obtain rfl := Option.some.inj hstep
    exact ⟨al, hn, rfl⟩
  | call c =>
    obtain rfl := Option.some.inj hstep
    exact ⟨al, hn, rfl⟩
  | _ =>
    simp only [LiveReplay.step] at hstep
    split at hstep
    · obtain rfl := Option.some.inj hstep
      exact ⟨al, hn, rfl⟩
    · cases hstep

theorem payload_run {parts : LiveReplayParts A D L P} {s t : LiveReplay D L P}
    {labels : List (Label A D L P)} (hrun : Transition.run (step parts) s labels = some t)
    {n : Nat} {al al' : Published P} (hn : s.alerts[n]? = some al)
    (hn' : t.alerts[n]? = some al') : al'.payload = al.payload := by
  have hinv : ∃ x, t.alerts[n]? = some x ∧ x.payload = al.payload := by
    refine @Transition.run_invariant_all _ _ (step parts)
      (fun s => ∃ x, s.alerts[n]? = some x ∧ x.payload = al.payload) ?_ s t labels
      ⟨al, hn, rfl⟩ hrun
    rintro s label s' ⟨x, hx, hpayload⟩ hstep
    obtain ⟨x', hx', hsame⟩ := payload_step hstep hx
    exact ⟨x', hx', hsame.trans hpayload⟩
  obtain ⟨x, hx, hpayload⟩ := hinv
  obtain rfl : x = al' := Option.some.inj (hx.symm.trans hn')
  exact hpayload

/-- Alert `n` has been handed to `run_shard`. -/
def Handed (n : Nat) (s : LiveReplay D L P) : Prop :=
  ∃ al, s.alerts[n]? = some al ∧ al.handed = true

/-- Only handing it makes an alert handed. -/
theorem handed_step {parts : LiveReplayParts A D L P} {s t : LiveReplay D L P}
    {label : Label A D L P} (hstep : s.step parts label = some t) {n : Nat}
    (hs : ¬s.Handed n) (ht : t.Handed n) :
    label = .hand n ∧ ∃ al, s.alerts[n]? = some al := by
  obtain ⟨al, hn, hhanded⟩ := ht
  cases label with
  | publish payload =>
    obtain rfl := Option.some.inj hstep
    rcases TaskPool.getElem?_append_cases hn with hn | ⟨-, rfl⟩
    · exact absurd ⟨al, hn, hhanded⟩ hs
    · cases hhanded
  | store k =>
    simp only [LiveReplay.step] at hstep
    split at hstep
    · cases hstep
    · next al₀ hk =>
      obtain rfl := Option.some.inj hstep
      rcases TaskPool.getElem?_set_cases hk hn with ⟨rfl, rfl⟩ | ⟨-, hn⟩
      · exact absurd ⟨al₀, hk, hhanded⟩ hs
      · exact absurd ⟨al, hn, hhanded⟩ hs
  | hand k =>
    simp only [LiveReplay.step] at hstep
    split at hstep
    · cases hstep
    · next al₀ hk =>
      obtain rfl := Option.some.inj hstep
      rcases TaskPool.getElem?_set_cases hk hn with ⟨rfl, -⟩ | ⟨-, hn⟩
      · exact ⟨rfl, al₀, hk⟩
      · exact absurd ⟨al, hn, hhanded⟩ hs
  | tick nats worker =>
    obtain rfl := Option.some.inj hstep
    exact absurd ⟨al, hn, hhanded⟩ hs
  | call c =>
    obtain rfl := Option.some.inj hstep
    exact absurd ⟨al, hn, hhanded⟩ hs
  | _ =>
    simp only [LiveReplay.step] at hstep
    split at hstep
    · obtain rfl := Option.some.inj hstep
      exact absurd ⟨al, hn, hhanded⟩ hs
    · cases hstep

/-- A run after which an alert is handed has a step that hands it for the first time. -/
theorem exists_hand {parts : LiveReplayParts A D L P} {t : LiveReplay D L P} {n : Nat}
    (ht : t.Handed n) {labels : List (Label A D L P)} {s : LiveReplay D L P} (hs : ¬s.Handed n)
    (hrun : Transition.run (step parts) s labels = some t) :
    ∃ pre s₁ post al, labels = pre ++ .hand n :: post ∧
      Transition.run (step parts) s pre = some s₁ ∧
      Transition.run (step parts) s₁ (.hand n :: post) = some t ∧ s₁.alerts[n]? = some al := by
  induction labels generalizing s with
  | nil =>
    obtain rfl := Option.some.inj hrun
    exact absurd ht hs
  | cons label labels ih =>
    obtain ⟨s', hstep, hrest⟩ := Transition.run_cons_eq_some.mp hrun
    by_cases hs' : s'.Handed n
    · obtain ⟨rfl, al, hal⟩ := handed_step hstep hs hs'
      exact ⟨[], s, labels, al, rfl, rfl, hrun, hal⟩
    · obtain ⟨pre, s₁, post, al, rfl, hpre, hpost, hal⟩ := ih hs' hrest
      exact ⟨label :: pre, s₁, post, al, rfl,
        Transition.run_cons_eq_some.mpr ⟨s', hstep, hpre⟩, hpost, hal⟩

/-- Handing an alert over leaves the registry that `fanout` returns. -/
theorem fanout_of_hand {parts : LiveReplayParts A D L P} {s s' : LiveReplay D L P} {n : Nat}
    (hstep : s.step parts (.hand n) = some s') {al : Published P} (hal : s.alerts[n]? = some al)
    {alert : A} (hparse : parts.codec.parse al.payload = some alert) :
    ∃ result, fanout parts.codec s.registry parts.shardPrefix al.payload =
        some (s'.registry, result) ∧
      s.registry.broadcastToShard parts.codec.contains parts.shardPrefix alert al.payload =
        (s'.registry, result) := by
  have hfan : fanout parts.codec s.registry parts.shardPrefix al.payload = some
      (s.registry.broadcastToShard parts.codec.contains parts.shardPrefix alert al.payload) := by
    simp [fanout, hparse]
  simp only [LiveReplay.step, hal, hfan] at hstep
  obtain rfl := Option.some.inj hstep
  exact ⟨_, hfan, rfl⟩

/-- A registered connection keeps its id. -/
theorem connId_step {parts : LiveReplayParts A D L P} {s t : LiveReplay D L P}
    {label : Label A D L P} (hstep : s.step parts label = some t) {connId : UInt64}
    (hid : s.phase.connId? = some connId) : t.phase.connId? = some connId := by
  cases label with
  | register =>
    simp only [LiveReplay.step] at hstep
    split at hstep
    · next hphase =>
      rw [hphase] at hid
      cases hid
    · cases hstep
  | readClock =>
    simp only [LiveReplay.step] at hstep
    split at hstep
    · next i hphase =>
      obtain rfl := Option.some.inj hstep
      rw [hphase] at hid
      exact hid
    · cases hstep
  | replay cursor =>
    simp only [LiveReplay.step] at hstep
    split at hstep
    · next i connectedAt hphase =>
      obtain rfl := Option.some.inj hstep
      rw [hphase] at hid
      exact hid
    · cases hstep
  | tick nats worker =>
    obtain rfl := Option.some.inj hstep
    exact hid
  | publish payload =>
    obtain rfl := Option.some.inj hstep
    exact hid
  | call c =>
    obtain rfl := Option.some.inj hstep
    exact hid
  | _ =>
    simp only [LiveReplay.step] at hstep
    split at hstep
    · cases hstep
    · obtain rfl := Option.some.inj hstep
      exact hid

/-- **No gap between replay and live.**  Take any interleaving of alerts being
    published, stored and handed to the worker, of calls on the worker's registry and
    of a connection's registration, clock reading and replay, under the assumptions on
    clocks, order and limits.  Once the replay has read the stream, every alert that
    was handed to the worker, whose circle contains the authorized location and which
    was created after the replay's `since` met the connection when it was broadcast,
    or is in what the replay sends. -/
theorem no_gap_between_replay_and_live {parts : LiveReplayParts A D L P}
    (hvec : ∀ alert, (parts.codec.toVec alert).isSome = true) {natsNow : Nat} {workerNow : Int}
    {labels : List (Label A D L P)} {t : LiveReplay D L P}
    (hok : Transition.RunOk (step parts) (Assumed parts)
      ({ natsNow := natsNow, workerNow := workerNow } : LiveReplay D L P) labels)
    (hrun : Transition.run (step parts) { natsNow := natsNow, workerNow := workerNow } labels =
      some t)
    {connId : UInt64} {connectedAt since : Int} {output : List P}
    (hphase : t.phase = .replaying connId connectedAt since output) {n : Nat} {al : Published P}
    (hal : t.alerts[n]? = some al) (hhanded : al.handed = true) {alert : A}
    (hparse : parts.codec.parse al.payload = some alert)
    (hin : parts.codec.contains alert parts.location = true)
    (hsince : truncMicros since < truncMicros (parts.codec.createdAt alert)) :
    (∃ pre s s' result post, labels = pre ++ .hand n :: post ∧
      Transition.run (step parts) { natsNow := natsNow, workerNow := workerNow } pre = some s ∧
      s.step parts (.hand n) = some s' ∧ s.phase.connId? = some connId ∧
      fanout parts.codec s.registry parts.shardPrefix al.payload = some (s'.registry, result) ∧
      Met parts s.registry s'.registry result alert al.payload connId) ∨
    ∃ text ∈ output, parts.codec.toVec alert = some text := by
  obtain ⟨pre, s, post, al₀, rfl, hpre, hpost, hal₀⟩ :=
    exists_hand ⟨al, hal, hhanded⟩ (by simp [Handed]) hrun
  obtain ⟨hokPre, hokPost⟩ := Transition.runOk_append hpre hok
  have hpayload : al.payload = al₀.payload := payload_run hpost hal₀ hal
  have hs : s.Ok parts := by
    refine Transition.run_invariant (fun _ _ _ h hassumed hstep => h.step hassumed hstep) ?_
      hokPre hpre
    exact ⟨.empty, nofun, nofun, nofun⟩
  cases hid : s.phase.connId? with
  | some i =>
    -- it was registered when the alert came
    have hsame : t.phase.connId? = some i :=
      Transition.run_invariant_all (fun _ _ _ h hstep => connId_step hstep h) hid hpost
    obtain rfl : connId = i := by
      rw [hphase] at hsame
      exact Option.some.inj hsame
    obtain ⟨s', hstep, -⟩ := Transition.run_cons_eq_some.mp hpost
    obtain ⟨result, hfan, hbroadcast⟩ := fanout_of_hand hstep hal₀ (hpayload ▸ hparse)
    rw [← hpayload] at hfan hbroadcast
    exact .inl ⟨pre, s, s', result, post, rfl, hpre, hstep, hid, hfan,
      met_of_current hs.registry.toIndexed (hs.current connId hid) hin hbroadcast⟩
  | none =>
    -- the alert was stored before, and the replay reads it
    have hmem := List.mem_of_getElem? hal₀
    have hearly : s.Early parts alert al.payload := by
      have hstored : al₀.stored = true := hokPost.1 al₀ hal₀
      obtain ⟨m, hm, hmp, hserver⟩ := hs.stored al₀ hmem hstored
      refine ⟨⟨m, hm, hmp.trans hpayload.symm, hserver alert (hpayload ▸ hparse)⟩, ?_⟩
      have hclock := (hs.clocks al₀ hmem alert (hpayload ▸ hparse)).2
      cases hcon : s.phase with
      | connecting => exact hclock
      | registered i => simp [hcon, ConnPhase.connId?] at hid
      | connected i connectedAt => simp [hcon, ConnPhase.connId?] at hid
      | replaying i connectedAt since output => simp [hcon, ConnPhase.connId?] at hid
    have hend : t.Early parts alert al.payload :=
      Transition.run_invariant (fun _ _ _ h hassumed hstep =>
        h.step hvec hparse hin hassumed hstep) hearly hokPost hpost
    unfold Early at hend
    rw [hphase] at hend
    exact .inr (hend.2 hsince)

/-- Alerts that are just their creation time, with a circle around everything. -/
def exampleParts : LiveReplayParts Int Nat Unit Int where
  codec := { parse := some, toVec := some, createdAt := id, contains := fun _ _ => true }
  deviceId := 1
  shardPrefix := "tkrt"
  location := ()
  replayMaxAlerts := 50

/-- One alert is handed to the worker before the connection registers, one after the
    replay has read the stream. -/
def exampleRun : List (Label Int Nat Unit Int) :=
  [.publish 101000000000, .store 0, .hand 0, .publish 102000000000, .register, .readClock,
   .replay (some 50000000000), .store 1, .hand 1]

/-- The second alert is not replayed, so the connection met it live. -/
theorem exampleRun_has_no_gap :
    ∃ t : LiveReplay Nat Unit Int, Transition.run (step exampleParts)
        { natsNow := 100000000000, workerNow := 100000000000 } exampleRun = some t ∧
      t.phase = .replaying 1 100000000000 50000000000 [101000000000] ∧
      ∃ pre s s' result post, exampleRun = pre ++ .hand 1 :: post ∧
        Transition.run (step exampleParts)
          { natsNow := 100000000000, workerNow := 100000000000 } pre = some s ∧
        s.step exampleParts (.hand 1) = some s' ∧ s.phase.connId? = some 1 ∧
        fanout exampleParts.codec s.registry exampleParts.shardPrefix 102000000000 =
          some (s'.registry, result) ∧
        Met exampleParts s.registry s'.registry result 102000000000 102000000000 1 :=
  ⟨_, rfl, rfl, (@no_gap_between_replay_and_live Int Nat Unit Int _ exampleParts (fun _ => rfl)
    100000000000 100000000000 exampleRun _ (by decide) rfl 1 100000000000 50000000000
    [101000000000] rfl 1 ⟨102000000000, true, true⟩ rfl rfl 102000000000 rfl rfl
    (by decide)).resolve_right (by decide)⟩

end LiveReplay
end PulseGrid.Worker
