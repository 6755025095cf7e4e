/-
  PulseGrid.Worker.AtLeastOnce

  Does every alert reach the device at least once?

  The cursor is one creation time, and an alert at or below it is not replayed, no
  matter whether the device ever got it: one that a full queue dropped, or that was
  stored after a newer alert was acknowledged.  `alerts_placed_when_replay_completes`
  says that this is the only way to lose one.
-/

import PulseGrid.Worker.Delivery

namespace PulseGrid.Worker

variable {A L P : Type}

namespace Delivery

-- ============================================================================
-- The invariant of one connection
-- ============================================================================

/-- An alert that a replay of the connection is answerable for. -/
structure Due (parts : DeliveryParts A L P) (s : Delivery P) (connectedAt : Int) (i : Nat)
    (m : StoredAlert P) (alert : A) : Prop where
  stored : s.stream[i]? = some m
  parse : parts.codec.parse m.payload = some alert
  inside : parts.codec.contains alert parts.location = true
  upper : parts.codec.createdAt alert < connectedAt + replayOverlap

/-- What holds of the alerts stored before the connection's replay started. -/
def ReplayOk (parts : DeliveryParts A L P) (s : Delivery P) (conn : DeviceConnection P) : Prop :=
  match conn.replay with
  | .readCursor | .failed => True
  | .readStream since before => before ≤ s.stream.length ∧
      ∀ i < before, ∀ m alert, Due parts s conn.connectedAt i m alert →
        s.Placed parts m.payload alert ∨
          (truncMicros since < truncMicros (parts.codec.createdAt alert) ∧
            startNanos since ≤ m.serverTime)
  | .send before todo _ => before ≤ s.stream.length ∧
      ∀ i < before, ∀ m alert, Due parts s conn.connectedAt i m alert →
        s.Placed parts m.payload alert ∨ ∃ text ∈ todo, parts.codec.toVec alert = some text
  | .complete before _ => before ≤ s.stream.length ∧
      ∀ i < before, ∀ m alert, Due parts s conn.connectedAt i m alert →
        s.Placed parts m.payload alert

/-- The later state has at least the same messages stored and placed. -/
structure Grows (s t : Delivery P) : Prop where
  stream : ∃ more, t.stream = s.stream ++ more
  placed : ∀ payload ∈ s.placed, payload ∈ t.placed

theorem Grows.refl (s : Delivery P) : Grows s s := ⟨⟨[], by simp⟩, fun _ h => h⟩

theorem Grows.placed_of {parts : DeliveryParts A L P} {s t : Delivery P} (h : Grows s t)
    {payload : P} {alert : A} (hp : s.Placed parts payload alert) :
    t.Placed parts payload alert := by
  rcases hp with hpayload | ⟨text, htext, hvec⟩
  · exact .inl (h.placed payload hpayload)
  · exact .inr ⟨text, h.placed text htext, hvec⟩

theorem Grows.due {parts : DeliveryParts A L P} {s t : Delivery P} (h : Grows s t)
    {connectedAt : Int} {i before : Nat} (hi : i < before) (hbefore : before ≤ s.stream.length)
    {m : StoredAlert P} {alert : A} (hdue : Due parts t connectedAt i m alert) :
    Due parts s connectedAt i m alert := by
  obtain ⟨more, hmore⟩ := h.stream
  refine ⟨?_, hdue.parse, hdue.inside, hdue.upper⟩
  have hstored := hdue.stored
  rwa [hmore, List.getElem?_append_left (by omega)] at hstored

/-- What a replay is answerable for does not grow, and what is placed stays placed. -/
theorem ReplayOk.grows {parts : DeliveryParts A L P} {s t : Delivery P} (h : Grows s t)
    {conn : DeviceConnection P} (hconn : s.ReplayOk parts conn) : t.ReplayOk parts conn := by
  have hlen : s.stream.length ≤ t.stream.length := by
    obtain ⟨more, hmore⟩ := h.stream
    rw [hmore, List.length_append]
    omega
  unfold ReplayOk at hconn ⊢
  split at hconn
  · trivial
  · trivial
  · refine ⟨by omega, fun i hi m alert hdue => ?_⟩
    exact (hconn.2 i hi m alert (h.due hi hconn.1 hdue)).imp_left h.placed_of
  · refine ⟨by omega, fun i hi m alert hdue => ?_⟩
    exact (hconn.2 i hi m alert (h.due hi hconn.1 hdue)).imp_left h.placed_of
  · refine ⟨by omega, fun i hi m alert hdue => ?_⟩
    exact h.placed_of (hconn.2 i hi m alert (h.due hi hconn.1 hdue))

/-- Only the connection's replay and start time matter. -/
theorem ReplayOk.congr {parts : DeliveryParts A L P} {s : Delivery P}
    {conn conn' : DeviceConnection P} (h : s.ReplayOk parts conn)
    (hreplay : conn'.replay = conn.replay) (hat : conn'.connectedAt = conn.connectedAt) :
    s.ReplayOk parts conn' := by
  unfold ReplayOk at h ⊢
  rw [hreplay, hat]
  exact h

-- ============================================================================
-- The steps of a replay
-- ============================================================================

theorem ReplayOk.readCursor {parts : DeliveryParts A L P} {s : Delivery P}
    {conn : DeviceConnection P}
    (hok : ∀ m ∈ s.stream, ∀ alert ∈ parts.codec.parse m.payload,
      parts.codec.contains alert parts.location = true →
      parts.codec.createdAt alert < conn.connectedAt + replayOverlap →
      s.Placed parts m.payload alert ∨
        (truncMicros (replaySince s.cursor conn.connectedAt) <
            truncMicros (parts.codec.createdAt alert) ∧
          replaySince s.cursor conn.connectedAt - replayClockSkewTolerance ≤ m.serverTime)) :
    s.ReplayOk parts { conn with
      replay := .readStream (replaySince s.cursor conn.connectedAt) s.stream.length } := by
  refine ⟨le_refl _, fun i _ m alert hdue => ?_⟩
  refine (hok m (List.mem_of_getElem? hdue.stored) alert hdue.parse hdue.inside hdue.upper).imp_right
    fun ⟨hsince, hserver⟩ => ⟨hsince, startNanos_le hserver⟩

/-- No more messages than the limits, so no more candidates either. -/
theorem length_replayCandidates_le (codec : AlertCodec A P L) (stream : List (StoredAlert P))
    (location : L) (connectedAt since : Int) :
    (replayCandidates codec (replayAlerts codec stream since maxStreamRead) location
      connectedAt).length ≤ stream.length := by
  calc (replayCandidates codec (replayAlerts codec stream since maxStreamRead) location
      connectedAt).length
      ≤ (replayAlerts codec stream since maxStreamRead).length :=
        (List.length_filterMap_le ..).trans (List.length_filter_le ..)
    _ ≤ (fetch stream since).length :=
        (List.length_take_le' ..).trans (List.length_filterMap_le ..)
    _ ≤ stream.length := (List.length_take_le' ..).trans (List.length_filter_le ..)

theorem ReplayOk.readStream {parts : DeliveryParts A L P}
    (hvec : ∀ alert, (parts.codec.toVec alert).isSome = true) {s : Delivery P}
    {conn : DeviceConnection P} {since : Int} {before : Nat}
    (hreplay : conn.replay = .readStream since before) (h : s.ReplayOk parts conn)
    (hlimit : s.stream.length ≤ parts.replayMaxAlerts) (hfetch : s.stream.length ≤ maxReplayFetch) :
    s.ReplayOk parts { conn with
      replay := .send before (replayPayloads parts.codec s.stream parts.location conn.connectedAt
        since parts.replayMaxAlerts) 0 } := by
  unfold ReplayOk at h
  rw [hreplay] at h
  refine ⟨h.1, fun i hi m alert hdue => ?_⟩
  refine (h.2 i hi m alert hdue).imp_right fun ⟨hsince, hstart⟩ => ?_
  obtain ⟨text, htext⟩ := Option.isSome_iff_exists.mp (hvec alert)
  refine ⟨text, ?_, htext⟩
  exact mem_replayPayloads ((List.length_filter_le ..).trans hfetch)
    ((length_replayCandidates_le ..).trans hlimit) (List.mem_of_getElem? hdue.stored) hstart
    hdue.parse hsince hdue.upper hdue.inside htext

/-- The next text goes into the queue. -/
theorem ReplayOk.send {parts : DeliveryParts A L P} {s t : Delivery P}
    {conn conn' : DeviceConnection P} {before replayed replayed' : Nat} {payload : P}
    {todo : List P} (hreplay : conn.replay = .send before (payload :: todo) replayed)
    (h : s.ReplayOk parts conn) (hstream : t.stream = s.stream)
    (hplaced : t.placed = s.placed ++ [payload])
    (hreplay' : conn'.replay = .send before todo replayed')
    (hat : conn'.connectedAt = conn.connectedAt) : t.ReplayOk parts conn' := by
  have hgrows : Grows s t := ⟨⟨[], by simp [hstream]⟩, fun p hp => by simp [hplaced, hp]⟩
  unfold ReplayOk at h ⊢
  rw [hreplay] at h
  rw [hreplay', hat]
  refine ⟨hstream ▸ h.1, fun i hi m alert hdue => ?_⟩
  rcases h.2 i hi m alert (hgrows.due hi h.1 hdue) with hold | ⟨text, htext, hvec⟩
  · exact .inl (hgrows.placed_of hold)
  · rcases List.mem_cons.mp htext with rfl | hrest
    · exact .inl (.inr ⟨text, by simp [hplaced], hvec⟩)
    · exact .inr ⟨text, hrest, hvec⟩

theorem ReplayOk.complete {parts : DeliveryParts A L P} {s : Delivery P}
    {conn conn' : DeviceConnection P} {before replayed replayed' : Nat}
    (hreplay : conn.replay = .send before [] replayed) (h : s.ReplayOk parts conn)
    (hreplay' : conn'.replay = .complete before replayed')
    (hat : conn'.connectedAt = conn.connectedAt) : s.ReplayOk parts conn' := by
  unfold ReplayOk at h ⊢
  rw [hreplay] at h
  rw [hreplay', hat]
  refine ⟨h.1, fun i hi m alert hdue => ?_⟩
  rcases h.2 i hi m alert hdue with hold | ⟨text, htext, -⟩
  · exact hold
  · cases htext

-- ============================================================================
-- Runs
-- ============================================================================

/-- The invariant of every run. -/
structure Inv (parts : DeliveryParts A L P) (s : Delivery P) : Prop where
  limit : s.stream.length ≤ parts.replayMaxAlerts
  fetch : s.stream.length ≤ maxReplayFetch
  conns : ∀ conn ∈ s.conns, s.ReplayOk parts conn

/-- A step that stores nothing and leaves every connection's replay as it may be. -/
theorem Inv.keep {parts : DeliveryParts A L P} {s t : Delivery P} (h : s.Inv parts)
    (hstream : t.stream = s.stream) (hplaced : ∀ payload ∈ s.placed, payload ∈ t.placed)
    (hconns : ∀ conn ∈ t.conns, s.ReplayOk parts conn) : t.Inv parts := by
  have hgrows : Grows s t := ⟨⟨[], by simp [hstream]⟩, hplaced⟩
  exact ⟨hstream ▸ h.limit, hstream ▸ h.fetch, fun conn hconn => (hconns conn hconn).grows hgrows⟩

/-- The same for a step that changes one connection. -/
theorem Inv.set {parts : DeliveryParts A L P} {s t : Delivery P} (h : s.Inv parts)
    (hstream : t.stream = s.stream) (hplaced : ∀ payload ∈ s.placed, payload ∈ t.placed) {k : Nat}
    {conn' : DeviceConnection P} (hconns : t.conns = s.conns.set k conn')
    (hconn' : s.ReplayOk parts conn') : t.Inv parts := by
  refine h.keep hstream hplaced fun conn hconn => ?_
  rw [hconns] at hconn
  rcases List.mem_or_eq_of_mem_set hconn with hold | rfl
  · exact h.conns conn hold
  · exact hconn'

theorem Inv.advanceReplay {parts : DeliveryParts A L P}
    (hvec : ∀ alert, (parts.codec.toVec alert).isSome = true) {s t : Delivery P}
    (h : s.Inv parts) {k : Nat} {conn : DeviceConnection P} (hk : s.conns[k]? = some conn)
    (hok : CursorOk parts s (.replayStep k))
    (hadv : s.advanceReplay parts k conn = some t) : t.Inv parts := by
  have hconn := h.conns conn (List.mem_of_getElem? hk)
  unfold Delivery.advanceReplay at hadv
  split at hadv
  · next hreplay =>
    obtain rfl := Option.some.inj hadv
    have hnext := ReplayOk.readCursor (hok conn hk hreplay)
    exact h.set rfl (fun _ hp => hp) rfl hnext
  · next since before hreplay =>
    obtain rfl := Option.some.inj hadv
    have hnext := hconn.readStream hvec hreplay h.limit h.fetch
    exact h.set rfl (fun _ hp => hp) rfl hnext
  · next before replayed hreplay =>
    split at hadv
    · obtain rfl := Option.some.inj hadv
      have hnext : s.ReplayOk parts { conn with
          channel := conn.channel.offer (.control (parts.replayComplete replayed) false)
          replay := .complete before replayed } := hconn.complete hreplay rfl rfl
      exact h.set rfl (fun _ hp => hp) rfl hnext
    · cases hadv
  · next before payload todo replayed hreplay =>
    split at hadv
    · obtain rfl := Option.some.inj hadv
      refine ⟨h.limit, h.fetch, fun other hother => ?_⟩
      rcases List.mem_or_eq_of_mem_set hother with hold | rfl
      · have hgrows : Grows s { s with
            conns := s.conns.set k { conn with
              channel := conn.channel.offer (.alert payload)
              replay := .send before todo (replayed + 1) }
            placed := s.placed ++ [payload] } :=
          ⟨⟨[], by simp⟩, fun _ hp => List.mem_append_left _ hp⟩
        exact (h.conns other hold).grows hgrows
      · exact hconn.send hreplay rfl rfl rfl rfl
    · cases hadv
  · cases hadv
  · cases hadv

variable [DecidableEq P]

theorem Inv.step {parts : DeliveryParts A L P}
    (hvec : ∀ alert, (parts.codec.toVec alert).isSome = true) {cursor : Int} {s t : Delivery P}
    (h : s.Inv parts) {label : Label P} (hscope : InScope parts cursor s label)
    (hok : CursorOk parts s label) (hstep : s.step parts label = some t) : t.Inv parts := by
  cases label with
  | create payload =>
    obtain rfl := Option.some.inj hstep
    exact h.keep rfl (fun _ hp => hp) h.conns
  | store n serverTime =>
    obtain ⟨payload, -, rfl⟩ := Option.map_eq_some_iff.mp hstep
    obtain ⟨hlimit, hfetch⟩ := hscope
    have hgrows : Grows s { s with
        stream := s.stream ++ [{ serverTime := serverTime, payload := payload }] } :=
      ⟨⟨_, rfl⟩, fun _ hp => hp⟩
    refine ⟨?_, ?_, fun conn hconn => (h.conns conn hconn).grows hgrows⟩
    · rw [List.length_append, List.length_singleton]
      omega
    · rw [List.length_append, List.length_singleton]
      omega
  | broadcast n k =>
    obtain ⟨payload, -, hstep⟩ := Option.bind_eq_some_iff.mp hstep
    obtain ⟨conn, hk, rfl⟩ := Option.map_eq_some_iff.mp hstep
    unfold broadcastTo
    split
    · exact h
    · split
      · exact h.set rfl (fun _ hp => List.mem_append_left _ hp) rfl
          ((h.conns conn (List.mem_of_getElem? hk)).congr rfl rfl)
      · exact h
  | connect connectedAt =>
    obtain rfl := Option.some.inj hstep
    refine h.keep rfl (fun _ hp => hp) fun conn hconn => ?_
    rcases List.mem_append.mp hconn with hold | hnew
    · exact h.conns conn hold
    · rw [List.mem_singleton.mp hnew]
      trivial
  | disconnect k =>
    obtain ⟨conn, hk, hstep⟩ := Option.bind_eq_some_iff.mp hstep
    split at hstep
    · obtain rfl := Option.some.inj hstep
      refine h.set rfl (fun _ hp => hp) rfl ?_
      have hconn := h.conns conn (List.mem_of_getElem? hk)
      cases hreplay : conn.replay with
      | complete before replayed => exact hconn.congr (by rw [hreplay]) rfl
      | _ => trivial
    · cases hstep
  | deliver k =>
    obtain ⟨conn, hk, hstep⟩ := Option.bind_eq_some_iff.mp hstep
    split at hstep
    · cases hstep
    · next message channel hrecv =>
      obtain rfl := Option.some.inj hstep
      exact h.set rfl (fun _ hp => hp) rfl
        ((h.conns conn (List.mem_of_getElem? hk)).congr rfl rfl)
  | ack k payload wallNow now =>
    obtain ⟨conn, hk, hstep⟩ := Option.bind_eq_some_iff.mp hstep
    split at hstep
    · obtain ⟨alert, -, rfl⟩ := Option.map_eq_some_iff.mp hstep
      exact h.set rfl (fun _ hp => hp) rfl
        ((h.conns conn (List.mem_of_getElem? hk)).congr rfl rfl)
    · cases hstep
  | writeCursor j =>
    obtain ⟨ts, -, rfl⟩ := Option.map_eq_some_iff.mp hstep
    exact h.keep rfl (fun _ hp => hp) h.conns
  | replayStep k =>
    obtain ⟨conn, hk, hstep⟩ := Option.bind_eq_some_iff.mp hstep
    split at hstep
    · exact h.advanceReplay hvec hk hok hstep
    · cases hstep
  | replayTimeout k =>
    obtain ⟨conn, hk, hstep⟩ := Option.bind_eq_some_iff.mp hstep
    split at hstep
    · obtain rfl := Option.some.inj hstep
      have hnext : s.ReplayOk parts { conn with replay := .failed } := trivial
      exact h.set rfl (fun _ hp => hp) rfl hnext
    · cases hstep

/-- **At-least-once delivery.**  Take any run of alerts being created, stored in any
    order and broadcast live, of connections of the device that open, replay, deliver
    and close, and of acknowledgements, from an empty stream and a stored cursor, with
    fewer stored alerts than the replay limits.  If every replay starts in a state in
    which each stored alert of the circle that is not placed yet was created after the
    cursor and stored no earlier than a minute before it, then in every state, for
    every completed replay, each alert of the circle that was stored before the replay
    started (and not created 5 s or more after the connection was made) has been placed
    in a queue of the device. -/
theorem alerts_placed_when_replay_completes {parts : DeliveryParts A L P}
    (hvec : ∀ alert, (parts.codec.toVec alert).isSome = true) {cursor : Int}
    {labels : List (Label P)} {t : Delivery P}
    (hok : Transition.RunOk (step parts) (fun s l => InScope parts cursor s l ∧ CursorOk parts s l)
      ({ cursor := some cursor } : Delivery P) labels)
    (hrun : Transition.run (step parts) { cursor := some cursor } labels = some t) :
    ∀ conn ∈ t.conns, ∀ before replayed, conn.replay = .complete before replayed →
      ∀ i < before, ∀ m, t.stream[i]? = some m → ∀ alert, parts.codec.parse m.payload = some alert →
        parts.codec.contains alert parts.location = true →
        parts.codec.createdAt alert < conn.connectedAt + secs 5 →
        t.Placed parts m.payload alert := by
  have hinv : t.Inv parts := by
    refine Transition.run_invariant (fun _ _ _ h hok hstep => h.step hvec hok.1 hok.2 hstep) ?_
      hok hrun
    exact ⟨Nat.zero_le _, Nat.zero_le _, nofun⟩
  intro conn hconn before replayed hreplay i hi m hm alert hparse hin hupper
  have hdone := hinv.conns conn hconn
  unfold ReplayOk at hdone
  rw [hreplay] at hdone
  exact hdone.2 i hi m alert ⟨hm, hparse, hin, hupper⟩

/-- Alerts that are just their creation time, with a circle around everything. -/
def exampleParts : DeliveryParts Int Unit Int where
  codec := { parse := some, toVec := some, createdAt := id, contains := fun _ _ => true }
  location := ()
  replayMaxAlerts := 50
  replayComplete := fun _ => ""

/-- An alert is stored while the device is away; then it connects. -/
def missedWhileAway : List (Label Int) :=
  [.create 1000000000, .store 0 1000000000, .connect 10000000000, .replayStep 0, .replayStep 0,
   .replayStep 0, .replayStep 0]

theorem missedWhileAway_is_replayed :
    ∃ t : Delivery Int, Transition.run (step exampleParts) { cursor := some 0 } missedWhileAway =
        some t ∧
      (∃ conn ∈ t.conns, conn.replay = .complete 1 1) ∧
      ∀ conn ∈ t.conns, ∀ before replayed, conn.replay = .complete before replayed →
        ∀ i < before, ∀ m, t.stream[i]? = some m → ∀ alert,
          exampleParts.codec.parse m.payload = some alert →
          exampleParts.codec.contains alert exampleParts.location = true →
          exampleParts.codec.createdAt alert < conn.connectedAt + secs 5 →
          t.Placed exampleParts m.payload alert :=
  ⟨_, rfl, by decide, @alerts_placed_when_replay_completes Int Unit Int _ exampleParts
    (fun _ => rfl) 0 missedWhileAway _ (by decide) rfl⟩

/-- The device gets and acknowledges the newer of two alerts and leaves; the older one
    is stored only then, and the device connects again. -/
def olderStoredLater : List (Label Int) :=
  [.create 1000000000, .create 2000000000, .connect 10000000000, .replayStep 0, .replayStep 0,
   .replayStep 0, .store 1 10000000000, .broadcast 1 0, .deliver 0, .deliver 0,
   .ack 0 2000000000 11000000000 11000000000, .writeCursor 0, .disconnect 0,
   .store 0 12000000000, .connect 20000000000, .replayStep 1, .replayStep 1, .replayStep 1]

theorem olderStoredLater_is_lost :
    ¬∀ (labels : List (Label Int)) (t : Delivery Int),
      Transition.RunOk (step exampleParts) (InScope exampleParts 0)
        ({ cursor := some 0 } : Delivery Int) labels →
      Transition.run (step exampleParts) { cursor := some 0 } labels = some t →
      ∀ conn ∈ t.conns, ∀ before replayed, conn.replay = .complete before replayed →
        ∀ i < before, ∀ m, t.stream[i]? = some m → ∀ alert,
          exampleParts.codec.parse m.payload = some alert →
          exampleParts.codec.contains alert exampleParts.location = true →
          exampleParts.codec.createdAt alert < conn.connectedAt + secs 5 →
          t.Placed exampleParts m.payload alert := by
  intro h
  have hrun : ∃ t, Transition.run (step exampleParts) { cursor := some 0 } olderStoredLater =
      some t ∧ (∃ conn ∈ t.conns, conn.connectedAt = 20000000000 ∧ conn.replay = .complete 2 0) ∧
      t.stream[1]? = some ⟨12000000000, 1000000000⟩ ∧
      ¬t.Placed exampleParts 1000000000 1000000000 :=
    ⟨_, rfl, by decide, rfl, by decide⟩
  obtain ⟨t, hrun, ⟨conn, hconn, hat, hreplay⟩, hstored, hlost⟩ := hrun
  have hupper : exampleParts.codec.createdAt 1000000000 < conn.connectedAt + secs 5 := by
    rw [hat]
    decide
  exact hlost (h olderStoredLater t (by decide) hrun conn hconn 2 0 hreplay 1 (by decide) _ hstored
    1000000000 rfl rfl hupper)

end Delivery
end PulseGrid.Worker
