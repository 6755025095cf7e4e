/-
  PulseGrid.Coordinator.Telemetry

  Delivery telemetry for the dashboards (crates/api-coordinator/src/services/
  telemetry_service.rs and `stream` of handlers/dashboard.rs): every message that can be
  parsed goes into one broadcast channel, and each dashboard stream turns what it reads into
  `delivery` and `lagged` events.

  The channel is a parameter.  A stream shows what a queue of its own would
  (`StreamInv.events`), so a slow dashboard loses only its own events, and it is told how many
  (`stream_accounts`).
-/

import PulseGrid.Lib.Broadcast
import PulseGrid.Lib.TaskPool
import PulseGrid.Lib.Transition

namespace PulseGrid.Coordinator

open Broadcast TaskPool

-- ============================================================================
-- The service
-- ============================================================================

/-- `CHANNEL_CAPACITY`. -/
def telemetryChannelCapacity : Nat := 1024

/-- A Server-Sent Event of `GET /dashboard/stream`. -/
inductive StreamEvent (T : Type) where
  | delivery (telemetry : T)
  | lagged (missed : Nat)
deriving DecidableEq, Repr

/-- A dashboard that follows the telemetry, and the events it was sent. -/
structure DashboardStream {T : Type} (ch : BroadcastChannel T) where
  rx : ch.Receiver
  isOpen : Bool := true
  events : List (StreamEvent T) := []

structure TelemetryService {T : Type} (ch : BroadcastChannel T) where
  tx : ch.Sender := ch.new telemetryChannelCapacity
  streams : List (DashboardStream ch) := []

/-- The `filter_map` of `stream`; a stream that finds nothing new waits.  Telemetry can always
    be written as JSON. -/
def streamEvent {T : Type} : Recv T → Option (StreamEvent T)
  | .value telemetry => some (.delivery telemetry)
  | .lagged missed => some (.lagged missed)
  | .empty => none

namespace TelemetryService

variable {P T : Type} {ch : BroadcastChannel T}

/-- `subscribe`: the stream sees every event published from now on. -/
def subscribe (self : TelemetryService ch) : TelemetryService ch :=
  let (tx, rx) := ch.subscribe self.tx
  { tx, streams := self.streams ++ [{ rx }] }

/-- `publish`, with the number of subscribers; having none is normal. -/
def publish (self : TelemetryService ch) (telemetry : T) : TelemetryService ch × Nat :=
  match ch.send self.tx telemetry with
  | some (tx, subscribers) => ({ self with tx }, subscribers)
  | none => (self, 0)

/-- One message on `telemetry.delivery`; unparseable ones are ignored. -/
def onMessage (parse : P → Option T) (self : TelemetryService ch) (payload : P) :
    TelemetryService ch :=
  match parse payload with
  | some telemetry => (self.publish telemetry).1
  | none => self

/-- Stream `k` is polled. -/
def poll (self : TelemetryService ch) (k : Nat) : Option (TelemetryService ch) :=
  match self.streams[k]? with
  | some stream =>
      if stream.isOpen then
        let (item, tx, rx) := ch.recv self.tx stream.rx
        some { tx, streams := self.streams.set k { stream with
          rx, events := stream.events ++ (streamEvent item).toList } }
      else none
  | none => none

/-- The client of stream `k` goes away. -/
def close (self : TelemetryService ch) (k : Nat) : Option (TelemetryService ch) :=
  match self.streams[k]? with
  | some stream =>
      if stream.isOpen then
        some {
          tx := ch.drop self.tx stream.rx
          streams := self.streams.set k { stream with isOpen := false } }
      else none
  | none => none

inductive Label (P : Type) where
  | message (payload : P)
  | subscribe
  | poll (k : Nat)
  | close (k : Nat)
deriving DecidableEq, Repr

def step (parse : P → Option T) (self : TelemetryService ch) :
    Label P → Option (TelemetryService ch)
  | .message payload => some (self.onMessage parse payload)
  | .subscribe => some self.subscribe
  | .poll k => self.poll k
  | .close k => self.close k

variable (ch) in
def run (parse : P → Option T) (labels : List (Label P)) : Option (TelemetryService ch) :=
  Transition.run (step parse) {} labels

-- ============================================================================
-- One stream by itself
-- ============================================================================

/-- How many streams were opened. -/
def opened (labels : List (Label P)) : Nat :=
  labels.countP fun
    | .subscribe => true
    | _ => false

/-- What one more action is to stream `k` when `n` streams were opened. -/
def ownAct (parse : P → Option T) (k n : Nat) : Label P → List (Reader.Act T)
  | .message payload => if k < n then (parse payload).toList.map .publish else []
  | .poll j => if j = k then [.read] else []
  | .subscribe | .close _ => []

/-- What happens to stream `k`: the messages from its subscription on, and its own polls. -/
def own (parse : P → Option T) (k : Nat) : (n : Nat) → List (Label P) → List (Reader.Act T)
  | _, [] => []
  | n, label :: labels => ownAct parse k n label ++ own parse k (n + opened [label]) labels

theorem own_append (parse : P → Option T) (k n : Nat) (labels more : List (Label P)) :
    own parse k n (labels ++ more) =
      own parse k n labels ++ own parse k (n + opened labels) more := by
  induction labels generalizing n with
  | nil => rfl
  | cons label labels ih =>
      have hopened : opened (label :: labels) = opened [label] + opened labels := by
        rw [opened, opened, opened, ← List.countP_append]
        rfl
      rw [List.cons_append, own, own, ih, hopened, List.append_assoc, Nat.add_assoc]

-- ============================================================================
-- The invariant
-- ============================================================================

/-- Stream `k` after the labels, as its own queue has it. -/
def alone (parse : P → Option T) (k : Nat) (labels : List (Label P)) : Reader T :=
  Reader.run telemetryChannelCapacity (own parse k 0 labels)

/-- A stream shows what its own queue would, and while it is open it is to read the same.
    `log` is everything that the channel was sent. -/
structure StreamInv (position : ch.Receiver → Nat) (log : List T) (r : Reader T)
    (stream : DashboardStream ch) : Prop where
  events : stream.events = r.got.filterMap streamEvent
  position_le : stream.isOpen = true → position stream.rx ≤ log.length
  pending : stream.isOpen = true → r.pending = log.drop (position stream.rx)

structure Inv (Sent : ch.Sender → List T → Nat → Prop) (position : ch.Receiver → Nat)
    (parse : P → Option T) (labels : List (Label P)) (log : List T)
    (service : TelemetryService ch) : Prop where
  sent : Sent service.tx log (service.streams.countP DashboardStream.isOpen)
  streams_length : service.streams.length = opened labels
  fresh : ∀ k, opened labels ≤ k → own parse k 0 labels = []
  streams : ∀ k stream, service.streams[k]? = some stream →
    StreamInv position log (alone parse k labels) stream

theorem alone_append (parse : P → Option T) (k : Nat) (labels : List (Label P))
    (label : Label P) :
    alone parse k (labels ++ [label]) =
      (ownAct parse k (opened labels) label).foldl (Reader.act telemetryChannelCapacity)
        (alone parse k labels) := by
  have hown : own parse k (0 + opened labels) [label] = ownAct parse k (opened labels) label := by
    rw [own, own, List.append_nil, Nat.zero_add]
  rw [alone, own_append, Reader.run_append, hown]
  rfl

/-- A label that is nothing to a stream leaves its queue alone. -/
theorem alone_of_nil {parse : P → Option T} {k : Nat} {labels : List (Label P)} {label : Label P}
    (h : ownAct parse k (opened labels) label = []) :
    alone parse k (labels ++ [label]) = alone parse k labels := by
  rw [alone_append, h]
  rfl

theorem own_nil_append {parse : P → Option T} {k : Nat} {labels : List (Label P)}
    {label : Label P} (h : own parse k 0 labels = [])
    (hact : ownAct parse k (opened labels) label = []) :
    own parse k 0 (labels ++ [label]) = [] := by
  rw [own_append, h, own, own, Nat.zero_add, hact]
  rfl

theorem opened_append (labels more : List (Label P)) :
    opened (labels ++ more) = opened labels + opened more := List.countP_append

variable {Sent : ch.Sender → List T → Nat → Prop} {position : ch.Receiver → Nat}
  {parse : P → Option T} {labels : List (Label P)} {log : List T}
  {self self' : TelemetryService ch}

theorem Inv.initial (hch : ch.Documented telemetryChannelCapacity Sent position)
    (parse : P → Option T) : Inv Sent position parse [] [] ({} : TelemetryService ch) where
  sent := hch.new
  streams_length := rfl
  fresh _ _ := rfl
  streams k stream h := by cases h

/-- Nothing is sent without an open stream, and what is sent is new to every open one. -/
theorem Inv.publish (hch : ch.Documented telemetryChannelCapacity Sent position)
    (h : Inv Sent position parse labels log self) {payload : P} {telemetry : T}
    (hparse : parse payload = some telemetry) :
    ∃ log', Inv Sent position parse (labels ++ [.message payload]) log'
      (self.publish telemetry).1 := by
  have hown (k : Nat) (hk : k < opened labels) :
      alone parse k (labels ++ [.message payload]) = (alone parse k labels).publish telemetry := by
    rw [alone_append, ownAct, if_pos hk, hparse]
    rfl
  have hcount : opened (labels ++ [Label.message payload]) = opened labels := opened_append _ _
  have hlength := h.streams_length.trans hcount.symm
  have hfresh (k : Nat) (hk : opened (labels ++ [Label.message payload]) ≤ k) :
      own parse k 0 (labels ++ [.message payload]) = [] := by
    rw [hcount] at hk
    exact own_nil_append (h.fresh k hk) (if_neg (Nat.not_lt.mpr hk))
  have hlt {k : Nat} {stream : DashboardStream ch} (hk : self.streams[k]? = some stream) :
      k < opened labels := by
    rw [← h.streams_length]
    exact (List.getElem?_eq_some_iff.mp hk).1
  unfold TelemetryService.publish
  cases hopened : self.streams.countP DashboardStream.isOpen with
  | zero =>
      rw [hch.send_none self.tx log telemetry (hopened ▸ h.sent)]
      refine ⟨log, h.sent, hlength, hfresh, ?_⟩
      intro k stream hk
      have hclosed : ¬stream.isOpen = true :=
        List.countP_eq_zero.mp hopened stream (List.mem_of_getElem? hk)
      rw [hown k (hlt hk)]
      exact ⟨(h.streams k stream hk).events, fun hopen => absurd hopen hclosed,
        fun hopen => absurd hopen hclosed⟩
  | succ n =>
      obtain ⟨tx, hsend, hsent⟩ := hch.send_some self.tx log n telemetry (hopened ▸ h.sent)
      rw [hsend]
      refine ⟨log ++ [telemetry], ?_, hlength, hfresh, ?_⟩
      · show Sent tx _ (self.streams.countP DashboardStream.isOpen)
        rw [hopened]
        exact hsent
      · intro k stream hk
        obtain ⟨hevents, hposition, hpending⟩ := h.streams k stream hk
        rw [hown k (hlt hk)]
        refine ⟨hevents, ?_, ?_⟩
        · intro hopen
          rw [List.length_append]
          exact Nat.le_add_right_of_le (hposition hopen)
        · intro hopen
          rw [List.drop_append_of_le_length (hposition hopen), ← hpending hopen]
          rfl

theorem Inv.onMessage (hch : ch.Documented telemetryChannelCapacity Sent position)
    (h : Inv Sent position parse labels log self) (payload : P) :
    ∃ log', Inv Sent position parse (labels ++ [.message payload]) log'
      (self.onMessage parse payload) := by
  cases hparse : parse payload with
  | some telemetry =>
      have hmessage : self.onMessage parse payload = (self.publish telemetry).1 := by
        rw [TelemetryService.onMessage, hparse]
      rw [hmessage]
      exact h.publish hch hparse
  | none =>
      have hmessage : self.onMessage parse payload = self := by
        rw [TelemetryService.onMessage, hparse]
      have hact (k : Nat) : ownAct parse k (opened labels) (.message payload) = [] := by
        rw [ownAct, hparse]
        exact ite_self _
      have hcount : opened (labels ++ [Label.message payload]) = opened labels :=
        opened_append _ _
      rw [hmessage]
      refine ⟨log, h.sent, h.streams_length.trans hcount.symm, ?_, ?_⟩
      · intro k hk
        rw [hcount] at hk
        exact own_nil_append (h.fresh k hk) (hact k)
      · intro k stream hk
        rw [alone_of_nil (hact k)]
        exact h.streams k stream hk

theorem Inv.subscribe (hch : ch.Documented telemetryChannelCapacity Sent position)
    (h : Inv Sent position parse labels log self) :
    Inv Sent position parse (labels ++ [.subscribe]) log self.subscribe := by
  have hcount : opened (labels ++ [Label.subscribe]) = opened labels + 1 := opened_append _ _
  obtain ⟨hsent, hstart⟩ := hch.subscribe self.tx log _ h.sent
  refine ⟨?_, ?_, ?_, ?_⟩
  · show Sent _ log ((self.streams ++ [_]).countP DashboardStream.isOpen)
    rw [List.countP_append]
    exact hsent
  · rw [hcount, ← h.streams_length]
    exact List.length_append
  · intro k hk
    rw [hcount] at hk
    exact own_nil_append (h.fresh k (by omega)) rfl
  · intro k stream hk
    rw [alone_of_nil rfl]
    rcases getElem?_append_cases hk with hk | ⟨rfl, rfl⟩
    · exact h.streams k stream hk
    · -- the new stream starts at the end, with nothing to read
      have hfresh : alone parse self.streams.length labels = {} := by
        rw [alone, h.fresh _ (by rw [h.streams_length])]
        rfl
      rw [hfresh]
      exact ⟨rfl, fun _ => Nat.le_of_eq hstart,
        fun _ => (List.drop_of_length_le (Nat.le_of_eq hstart.symm)).symm⟩

theorem Inv.poll (hch : ch.Documented telemetryChannelCapacity Sent position)
    (h : Inv Sent position parse labels log self) {j : Nat} (hpoll : self.poll j = some self') :
    Inv Sent position parse (labels ++ [.poll j]) log self' := by
  rw [TelemetryService.poll] at hpoll
  split at hpoll
  · next stream hj =>
      split at hpoll
      · next hopen =>
          cases hpoll
          obtain ⟨hbound, hget⟩ := List.getElem?_eq_some_iff.mp hj
          have hlt : j < opened labels := h.streams_length ▸ hbound
          have hcount : opened (labels ++ [Label.poll j]) = opened labels := opened_append _ _
          obtain ⟨hevents, hposition, hpending⟩ := h.streams j stream hj
          refine ⟨?_, ?_, ?_, ?_⟩
          · rw [List.countP_set hbound, hget, hopen]
            have hpos : 0 < self.streams.countP DashboardStream.isOpen :=
              List.countP_pos_iff.mpr ⟨stream, List.mem_of_getElem? hj, hopen⟩
            have hsame : self.streams.countP DashboardStream.isOpen - 1 + 1 =
                self.streams.countP DashboardStream.isOpen := Nat.sub_add_cancel hpos
            simp only [if_true, hsame]
            exact hch.recv self.tx log _ stream.rx h.sent
          · rw [List.length_set, h.streams_length, hcount]
          · intro k hk
            rw [hcount] at hk
            have hne : j ≠ k := by omega
            exact own_nil_append (h.fresh k hk) (if_neg hne)
          · intro k stream' hk
            rcases getElem?_set_cases hj hk with ⟨rfl, rfl⟩ | ⟨hne, hk⟩
            · obtain ⟨hitem, hrest, hle⟩ := hch.recv_eq_look h.sent (hposition hopen)
              have hown : alone parse k (labels ++ [.poll k]) =
                  (alone parse k labels).read telemetryChannelCapacity := by
                rw [alone_append, ownAct, if_pos rfl]
                rfl
              rw [← hpending hopen] at hitem hrest
              rw [hown]
              refine ⟨?_, fun _ => hle, fun _ => hrest.symm⟩
              show stream.events ++ (streamEvent _).toList = List.filterMap _ (_ ++ [_])
              rw [List.filterMap_append, hevents, hitem]
              rfl
            · have hact : ownAct parse k (opened labels) (.poll j) = [] := if_neg (Ne.symm hne)
              rw [alone_of_nil hact]
              exact h.streams k stream' hk
      · cases hpoll
  · cases hpoll

theorem Inv.close (hch : ch.Documented telemetryChannelCapacity Sent position)
    (h : Inv Sent position parse labels log self) {j : Nat} (hclose : self.close j = some self') :
    Inv Sent position parse (labels ++ [.close j]) log self' := by
  rw [TelemetryService.close] at hclose
  split at hclose
  · next stream hj =>
      split at hclose
      · next hopen =>
          cases hclose
          obtain ⟨hbound, hget⟩ := List.getElem?_eq_some_iff.mp hj
          have hcount : opened (labels ++ [Label.close j]) = opened labels := opened_append _ _
          refine ⟨?_, ?_, ?_, ?_⟩
          · have hpos : 0 < self.streams.countP DashboardStream.isOpen :=
              List.countP_pos_iff.mpr ⟨stream, List.mem_of_getElem? hj, hopen⟩
            have hsame : self.streams.countP DashboardStream.isOpen - 1 + 1 =
                self.streams.countP DashboardStream.isOpen := Nat.sub_add_cancel hpos
            rw [List.countP_set hbound, hget, hopen]
            exact hch.drop self.tx log _ stream.rx (hsame ▸ h.sent)
          · rw [List.length_set, h.streams_length, hcount]
          · intro k hk
            rw [hcount] at hk
            exact own_nil_append (h.fresh k hk) rfl
          · intro k stream' hk
            rw [alone_of_nil rfl]
            rcases getElem?_set_cases hj hk with ⟨rfl, rfl⟩ | ⟨-, hk⟩
            · have hclosed : ¬(false = true) := Bool.false_ne_true
              exact ⟨(h.streams k stream hj).events, fun hopen => absurd hopen hclosed,
                fun hopen => absurd hopen hclosed⟩
            · exact h.streams k stream' hk
      · cases hclose
  · cases hclose

theorem Inv.step (hch : ch.Documented telemetryChannelCapacity Sent position)
    (h : Inv Sent position parse labels log self) {label : Label P}
    (hstep : step parse self label = some self') :
    ∃ log', Inv Sent position parse (labels ++ [label]) log' self' := by
  cases label with
  | message payload =>
      cases hstep
      exact h.onMessage hch payload
  | subscribe =>
      cases hstep
      exact ⟨log, h.subscribe hch⟩
  | poll k => exact ⟨log, h.poll hch hstep⟩
  | close k => exact ⟨log, h.close hch hstep⟩

theorem inv_of_run (hch : ch.Documented telemetryChannelCapacity Sent position)
    (h : run ch parse labels = some self) : ∃ log, Inv Sent position parse labels log self := by
  induction labels using List.reverseRecOn generalizing self with
  | nil =>
      cases h
      exact ⟨[], Inv.initial hch parse⟩
  | append_singleton labels label ih =>
      rw [run, Transition.run_append] at h
      obtain ⟨before, hbefore, hlast⟩ := Option.bind_eq_some_iff.mp h
      obtain ⟨self', hstep, hend⟩ := Transition.run_cons_eq_some.mp hlast
      cases hend
      obtain ⟨log, hinv⟩ := ih hbefore
      exact hinv.step hch hstep

-- ============================================================================
-- What a dashboard is shown
-- ============================================================================

/-- The telemetry that a stream showed. -/
def deliveries (stream : DashboardStream ch) : List T :=
  stream.events.filterMap fun
    | .delivery telemetry => some telemetry
    | .lagged _ => none

/-- How many events it said were missed. -/
def missed (stream : DashboardStream ch) : Nat :=
  (stream.events.map fun
    | .delivery _ => 0
    | .lagged n => n).sum

/-- The books of a stream for what was published since it subscribed, when it has yet to read
    `pending`. -/
structure StreamAccounts (stream : DashboardStream ch) (pending published : List T) :
    Prop where
  in_order : (deliveries stream ++ pending).Sublist published
  total : (deliveries stream).length + missed stream + pending.length = published.length
  complete : missed stream = 0 → deliveries stream ++ pending = published

theorem deliveries_eq {stream : DashboardStream ch} {r : Reader T}
    (h : stream.events = r.got.filterMap streamEvent) : deliveries stream = r.values := by
  rw [deliveries, h, List.filterMap_filterMap]
  congr 1
  funext item
  cases item <;> rfl

theorem missed_eq {stream : DashboardStream ch} {r : Reader T}
    (h : stream.events = r.got.filterMap streamEvent) : missed stream = r.missed := by
  rw [missed, h, Reader.missed]
  induction r.got with
  | nil => rfl
  | cons item got ih =>
      cases item with
      | value m => simpa [streamEvent] using ih
      | lagged n => simpa [streamEvent] using ih
      | empty =>
          rw [List.filterMap_cons_none rfl]
          simpa using ih

theorem Inv.streamAccounts (hinv : Inv Sent position parse labels log self) {k : Nat}
    {stream : DashboardStream ch} (hk : self.streams[k]? = some stream)
    (hopen : stream.isOpen = true) :
    StreamAccounts stream (log.drop (position stream.rx))
      (Reader.published (own parse k 0 labels)) := by
  obtain ⟨hevents, -, hpending⟩ := hinv.streams k stream hk
  have haccounts : (alone parse k labels).Accounts (Reader.published (own parse k 0 labels)) :=
    Reader.accounts_run _ _
  have hdeliveries := deliveries_eq hevents
  have hmissed := missed_eq hevents
  rw [← hpending hopen]
  refine ⟨?_, ?_, ?_⟩
  · rw [hdeliveries]
    exact haccounts.ordered
  · rw [hdeliveries, hmissed]
    exact haccounts.total
  · intro hzero
    rw [hmissed] at hzero
    rw [hdeliveries]
    exact haccounts.eq_of_missed_eq_zero hzero

/-- **Nothing is lost silently.**  What an open stream showed and what it has yet to read is part
    of what was published since it subscribed, in order; together with what it said was missed
    it is all of it. -/
theorem stream_accounts (ch : BroadcastChannel T) (Sent : ch.Sender → List T → Nat → Prop)
    (position : ch.Receiver → Nat)
    (hch : ch.Documented telemetryChannelCapacity Sent position) (parse : P → Option T)
    (labels : List (Label P)) (service : TelemetryService ch)
    (h : run ch parse labels = some service) (k : Nat) (stream : DashboardStream ch)
    (hk : service.streams[k]? = some stream) (hopen : stream.isOpen = true) :
    ∃ log, Sent service.tx log (service.streams.countP DashboardStream.isOpen) ∧
      StreamAccounts stream (log.drop (position stream.rx))
        (Reader.published (own parse k 0 labels)) := by
  obtain ⟨log, hinv⟩ := inv_of_run hch h
  exact ⟨log, hinv.sent, hinv.streamAccounts hk hopen⟩

/-- Messages below a hundred can be parsed. -/
def belowHundred (n : Nat) : Option Nat := if n < 100 then some n else none

/-- Two dashboards, the second opened after the first message. -/
def twoDashboards : List (Label Nat) :=
  [.subscribe, .message 3, .subscribe, .message 100, .message 4, .poll 0, .poll 0, .poll 1]

def afterTwo : TelemetryService (Broadcast.channel Nat) :=
  (run (Broadcast.channel Nat) belowHundred twoDashboards).get (by decide)

theorem stream_accounts_twoDashboards :
    ∃ log, Broadcast.Keeps 1024 afterTwo.tx log 2 ∧
      StreamAccounts (⟨(2 : Nat), true, [.delivery 3, .delivery 4]⟩ :
          DashboardStream (Broadcast.channel Nat)) (log.drop 2)
        (Reader.published (own belowHundred 0 0 twoDashboards)) :=
  stream_accounts (Broadcast.channel Nat) _ _ (documented_channel Nat _) belowHundred
    twoDashboards afterTwo (Option.some_get _).symm 0 _ rfl rfl

-- ============================================================================
-- Streams that keep up
-- ============================================================================

/-- Whenever a message comes in, fewer of the messages since its subscription than the channel
    reaches are still to be read by stream `k`. -/
def KeepsUp (parse : P → Option T) (k : Nat) (labels : List (Label P)) : Prop :=
  ∀ before payload, (before ++ [.message payload]) <+: labels →
    (alone parse k before).pending.length < telemetryChannelCapacity

theorem KeepsUp.init {label : Label P} {k : Nat} (h : KeepsUp parse k (labels ++ [label])) :
    KeepsUp parse k labels :=
  fun before payload hpre => h before payload (hpre.trans (List.prefix_append _ _))

theorem alone_message (parse : P → Option T) (k : Nat) (labels : List (Label P)) (payload : P) :
    alone parse k (labels ++ [.message payload]) = alone parse k labels ∨
      ∃ telemetry, alone parse k (labels ++ [.message payload]) =
        (alone parse k labels).publish telemetry := by
  rw [alone_append, ownAct]
  split
  · cases parse payload with
    | none => exact .inl rfl
    | some telemetry => exact .inr ⟨telemetry, rfl⟩
  · exact .inl rfl

/-- The queue of a stream that keeps up has let go of nothing. -/
theorem KeepsUp.missed_eq_zero {k : Nat} (h : KeepsUp parse k labels) :
    (alone parse k labels).missed = 0 ∧
      (alone parse k labels).pending.length ≤ telemetryChannelCapacity := by
  induction labels using List.reverseRecOn with
  | nil => exact ⟨rfl, Nat.zero_le _⟩
  | append_singleton labels label ih =>
      obtain ⟨hmissed, hpending⟩ := ih h.init
      cases label with
      | message payload =>
          have hroom := h labels payload (List.prefix_refl _)
          rcases alone_message parse k labels payload with hsame | ⟨telemetry, hpublish⟩
          · rw [hsame]
            exact ⟨hmissed, hpending⟩
          · rw [hpublish]
            refine ⟨hmissed, ?_⟩
            show (_ ++ [telemetry]).length ≤ _
            rw [List.length_append, List.length_singleton]
            exact hroom
      | poll j =>
          by_cases hj : j = k
          · have hread : alone parse k (labels ++ [.poll j]) =
                (alone parse k labels).read telemetryChannelCapacity := by
              rw [alone_append, ownAct, if_pos hj]
              rfl
            rw [hread, Reader.missed_read_of_le hpending]
            exact ⟨hmissed, (Reader.pending_read_length_le _ _).trans hpending⟩
          · have hact : ownAct parse k (opened labels) (.poll j) = [] := if_neg hj
            rw [alone_of_nil hact]
            exact ⟨hmissed, hpending⟩
      | subscribe =>
          rw [alone_of_nil rfl]
          exact ⟨hmissed, hpending⟩
      | close j =>
          rw [alone_of_nil rfl]
          exact ⟨hmissed, hpending⟩

theorem length_published_le (parse : P → Option T) (k n : Nat) (labels : List (Label P)) :
    (Reader.published (own parse k n labels)).length ≤ labels.length := by
  induction labels generalizing n with
  | nil => exact Nat.le_refl 0
  | cons label labels ih =>
      have hrest := ih (n + opened [label])
      have hact : (Reader.published (ownAct parse k n label)).length ≤ 1 := by
        cases label with
        | message payload =>
            rw [ownAct]
            split
            · cases parse payload with
              | none => exact Nat.zero_le 1
              | some telemetry => exact Nat.le_refl 1
            · exact Nat.zero_le 1
        | poll j =>
            rw [ownAct]
            split <;> exact Nat.zero_le 1
        | _ => exact Nat.zero_le 1
      rw [own, Reader.published, List.filterMap_append, ← Reader.published, ← Reader.published,
        List.length_append, List.length_cons]
      omega

/-- A run that is no longer than the channel reaches. -/
theorem KeepsUp.of_length_le (parse : P → Option T) (k : Nat) {labels : List (Label P)}
    (h : labels.length ≤ telemetryChannelCapacity) : KeepsUp parse k labels := by
  intro before payload hpre
  have hlen := hpre.length_le
  rw [List.length_append, List.length_singleton] at hlen
  have htotal := (Reader.accounts_run telemetryChannelCapacity (own parse k 0 before)).total
  have hpublished := length_published_le parse k 0 before
  unfold alone
  omega

/-- A stream that keeps up showed everything up to where it is. -/
theorem Inv.shown_of_keepsUp (hinv : Inv Sent position parse labels log self) {k : Nat}
    (hkeeps : KeepsUp parse k labels) {stream : DashboardStream ch}
    (hk : self.streams[k]? = some stream) (hopen : stream.isOpen = true) :
    missed stream = 0 ∧ deliveries stream ++ log.drop (position stream.rx) =
      Reader.published (own parse k 0 labels) := by
  have hmissed : missed stream = 0 := by
    rw [missed_eq (hinv.streams k stream hk).events]
    exact hkeeps.missed_eq_zero.1
  exact ⟨hmissed, (hinv.streamAccounts hk hopen).complete hmissed⟩

/-- **A dashboard that keeps up sees everything once.**  If a stream is less than the channel's
    capacity behind whenever a message comes in, then it is never told that it missed anything,
    and what it showed and has yet to read is what was published since it subscribed. -/
theorem stream_complete (ch : BroadcastChannel T) (Sent : ch.Sender → List T → Nat → Prop)
    (position : ch.Receiver → Nat)
    (hch : ch.Documented telemetryChannelCapacity Sent position) (parse : P → Option T)
    (labels : List (Label P)) (service : TelemetryService ch)
    (h : run ch parse labels = some service) (k : Nat) (hkeeps : KeepsUp parse k labels)
    (stream : DashboardStream ch) (hk : service.streams[k]? = some stream)
    (hopen : stream.isOpen = true) :
    missed stream = 0 ∧
      ∃ log, Sent service.tx log (service.streams.countP DashboardStream.isOpen) ∧
        deliveries stream ++ log.drop (position stream.rx) =
          Reader.published (own parse k 0 labels) := by
  obtain ⟨log, hinv⟩ := inv_of_run hch h
  obtain ⟨hmissed, hshown⟩ := hinv.shown_of_keepsUp hkeeps hk hopen
  exact ⟨hmissed, log, hinv.sent, hshown⟩

theorem stream_complete_twoDashboards :
    missed (⟨(2 : Nat), true, [.delivery 4]⟩ : DashboardStream (Broadcast.channel Nat)) = 0 ∧
      ∃ log, Broadcast.Keeps 1024 afterTwo.tx log 2 ∧
        deliveries (⟨(2 : Nat), true, [.delivery 4]⟩ : DashboardStream (Broadcast.channel Nat)) ++
            log.drop 2 =
          Reader.published (own belowHundred 1 0 twoDashboards) :=
  stream_complete (Broadcast.channel Nat) _ _ (documented_channel Nat _) belowHundred
    twoDashboards afterTwo (Option.some_get _).symm 1 (.of_length_le _ _ (by decide)) _ rfl rfl

end TelemetryService

end PulseGrid.Coordinator
