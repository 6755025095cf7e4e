/-
  PulseGrid.Worker.WorkerTraffic

  What the tasks of a worker put into the queues of its connections, over whole runs.

  Whatever the order of the tasks' steps, a message in a queue was stored by a step that had
  the right to (`Stored.Justified`), a writer takes out what was stored in its queue and in
  that order (`Fifo`), and the metrics and reports count what happened (`Accounted`).
-/

import PulseGrid.Lib.RunHistory
import PulseGrid.Worker.CurrentConnection
import PulseGrid.Worker.WorkerTasks

namespace PulseGrid.Worker

open ConnectionRegistry (gainedAt KeepsOwners OfferedAt)

variable {F A P : Type} [CommRing F] [LinearOrder F]

-- ============================================================================
-- One call
-- ============================================================================

/-- What a control message does to the registry. -/
theorem handleControlMessage_cases (wire : ControlWire F) (registry : WorkerRegistry F P)
    (subject : List Char) (payload : List UInt8) :
    (handleControlMessage wire registry subject payload).1 = registry ∨
    (∃ deviceId location, (handleControlMessage wire registry subject payload).1 =
      (registry.updateLocation deviceId location).1) ∨
    ∃ deviceId message, wire.deviceIdFromControlSubject subject = some deviceId ∧
      wire.fromSlice payload = some message ∧ closesConnection message = true ∧
      (handleControlMessage wire registry subject payload).1 =
        (registry.sendControl deviceId (wire.toJson message) true).1 := by
  unfold handleControlMessage
  cases hd : wire.deviceIdFromControlSubject subject with
  | none => exact .inl rfl
  | some deviceId =>
      cases hm : wire.fromSlice payload with
      | none => exact .inl rfl
      | some message =>
          cases message with
          | locationUpdated lat lon =>
              unfold handleControl
              dsimp only
              cases Location.new (D := Uuid) lat lon with
              | ok location => exact .inr (.inl ⟨deviceId, location, rfl⟩)
              | error e => exact .inl rfl
          | shardChanged shardPrefix wsUrl => exact .inr (.inr ⟨deviceId, _, rfl, rfl, rfl, rfl⟩)
          | revoked => exact .inr (.inr ⟨deviceId, _, rfl, rfl, rfl, rfl⟩)
          | replayComplete replayed => exact .inl rfl

/-- A change to the registry that takes nothing out of a queue. -/
structure Offers (r r' : WorkerRegistry F P) : Prop extends KeepsOwners r r' where
  indexed : r'.Indexed
  offered : ∀ n, OfferedAt r r' n

namespace Offers

variable {r : WorkerRegistry F P}

theorem refl (h : r.Indexed) : Offers r r := ⟨.refl r, h, fun _ => .of_heap rfl⟩

theorem offerTo (h : r.Indexed) (addr : Nat) (m : Outbound P) : Offers r (r.offerTo addr m) :=
  ⟨.modifyConn r _ _, h.offerTo addr m, fun n => .offerTo r addr n m⟩

theorem deregister (h : r.Indexed) (d : Uuid) (connId : UInt64) : Offers r (r.deregister d connId).1 :=
  ⟨.deregister r d connId, h.deregister d connId,
    fun _ => .of_heap (by rw [ConnectionRegistry.deregister_heap])⟩

theorem closeAll (h : r.Indexed) : Offers r r.closeAll :=
  ⟨.closeAll r, h.closeAll, fun n => .closeAll h n⟩

theorem broadcastToShard (h : r.Indexed) (contains : A → Location F → Bool) (s : String) (alert : A)
    (payload : P) : Offers r (r.broadcastToShard contains s alert payload).1 :=
  ⟨.broadcastToShard h contains s alert payload,
    h.broadcastToShard contains s alert payload,
    fun n => .broadcastToShard h contains s alert payload n⟩

theorem handleControlMessage (h : r.Indexed) (wire : ControlWire F) (subject : List Char)
    (payload : List UInt8) : Offers r (handleControlMessage wire r subject payload).1 := by
  rcases handleControlMessage_cases wire r subject payload with heq | ⟨d, l, heq⟩ |
    ⟨d, message, -, -, -, heq⟩
  · rw [heq]
    exact .refl h
  · rw [heq]
    exact ⟨.updateLocation r d l, h.updateLocation d l, fun n => .updateLocation r d l n⟩
  · rw [heq]
    exact ⟨.sendControl r d _ true, h.sendControl d _ true, fun n => .sendControl r d _ true n⟩

end Offers

-- ============================================================================
-- What a step stored
-- ============================================================================

/-- What the step that stored a message had to do with it. -/
def Stored.Justified (wire : ControlWire F) (reader : AlertReader F A P) (e : Stored F A P) : Prop :=
  match e.storedBy with
  | .socket _ => e.message = .close
  | .message shardPrefix payload =>
      e.shard = shardPrefix ∧ e.message = .alert payload ∧
        ∃ alert, reader.parse payload = some alert ∧ reader.contains alert e.location = true
  | .control subject payload =>
      wire.deviceIdFromControlSubject subject = some e.device ∧
        ∃ message, wire.fromSlice payload = some message ∧
          closesConnection message = true ∧ e.message = .control (wire.toJson message) true
  | .replaySend conn payload _ => e.conn = conn ∧ e.message = .alert payload
  | .replayDone conn replayed _ =>
      e.conn = conn ∧ e.message = .control (wire.toJson (.replayComplete replayed)) false
  | .replayGrant _ | .replayGiveUp _ | .record _ _ | .publish _ _ => False

/-- Of lists in a row, one for each index, those with one index. -/
theorem filter_flatMap_range {β : Type*} (key : β → Nat) (g : Nat → List β)
    (hkey : ∀ i, ∀ x ∈ g i, key x = i) (N n : Nat) :
    ((List.range N).flatMap g).filter (fun x => key x = n) = if n < N then g n else [] := by
  induction N with
  | zero => rfl
  | succ N ih =>
      rw [List.range_succ, List.flatMap_append, List.filter_append, ih, List.flatMap_singleton]
      by_cases hn : N = n
      · subst hn
        have hall : (g N).filter (fun x => key x = N) = g N :=
          List.filter_eq_self.mpr fun x hx => decide_eq_true (hkey N x hx)
        rw [if_neg (Nat.lt_irrefl N), if_pos (Nat.lt_succ_self N), hall, List.nil_append]
      · have hnone : (g N).filter (fun x => key x = n) = [] :=
          List.filter_eq_nil_iff.mpr fun x hx => by simpa [hkey N x hx] using hn
        rw [hnone, List.append_nil]
        by_cases hlt : n < N
        · rw [if_pos hlt, if_pos (by omega)]
        · rw [if_neg hlt, if_neg (by omega)]

namespace WorkerTasks

/-- What was stored in the queue of a connection. -/
def storedIn (self : WorkerTasks F A P) (n : Nat) : List (Outbound P) :=
  (self.stored.filter fun e => e.conn = n).map Stored.message

/-- What the writer of a connection took out of its queue. -/
def takenFrom (self : WorkerTasks F A P) (n : Nat) : List (Outbound P) :=
  (self.taken.filter fun e => e.1 = n).map Prod.snd

theorem mem_gains {self : WorkerTasks F A P} {registry : WorkerRegistry F P}
    {label : TaskLabel F A P} {e : Stored F A P} :
    e ∈ self.gains registry label ↔ ∃ conn, self.registry.heap[e.conn]? = some conn ∧
      self.owners[e.conn]? = some e.device ∧ e.message ∈ gainedAt self.registry registry e.conn ∧
      conn.shard = e.shard ∧ conn.location = e.location ∧ label = e.storedBy := by
  rw [gains, List.mem_flatMap]
  refine ⟨?_, ?_⟩
  · rintro ⟨n, -, he⟩
    cases hc : self.registry.heap[n]? with
    | none => simp [hc] at he
    | some conn =>
        cases hd : self.owners[n]? with
        | none => simp [hc, hd] at he
        | some device =>
            rw [hc, hd] at he
            obtain ⟨message, hmem, rfl⟩ := List.mem_map.mp he
            exact ⟨conn, hc, hd, hmem, rfl, rfl, rfl⟩
  · rintro ⟨conn, hc, hd, hmem, hshard, hlocation, hlabel⟩
    refine ⟨e.conn, List.mem_range.mpr (List.getElem?_eq_some_iff.mp hc).1, ?_⟩
    rw [hc, hd]
    refine List.mem_map.mpr ⟨e.message, hmem, ?_⟩
    rw [hshard, hlocation, hlabel]

/-- What a step stored in one queue is what the queue gained. -/
theorem filter_gains (self : WorkerTasks F A P) (registry : WorkerRegistry F P)
    (label : TaskLabel F A P) (n : Nat)
    (howners : self.owners.length = self.registry.heap.length) :
    ((self.gains registry label).filter fun e => e.conn = n).map Stored.message =
      if n < self.registry.heap.length then gainedAt self.registry registry n else [] := by
  rw [gains, filter_flatMap_range Stored.conn]
  · by_cases hn : n < self.registry.heap.length
    · rw [if_pos hn, if_pos hn, List.getElem?_eq_getElem hn,
        List.getElem?_eq_getElem (howners ▸ hn), List.map_map]
      exact List.map_id _
    · rw [if_neg hn, if_neg hn, List.map_nil]
  · intro i x hx
    split at hx
    · obtain ⟨message, -, rfl⟩ := List.mem_map.mp hx
      rfl
    · cases hx

-- ============================================================================
-- The queues over a run
-- ============================================================================

/-- What was stored in the queue of a connection is what its writer took out, what waits in the
    queue and what was lost with the receiver, in this order. -/
structure Fifo (w : WorkerTasks F A P) (n : Nat) : Prop where
  fresh : w.registry.heap.length ≤ n → w.storedIn n = [] ∧ w.takenFrom n = []
  queue : ∀ c, w.registry.heap[n]? = some c →
    ∃ lost, w.storedIn n = w.takenFrom n ++ c.channel.queue ++ lost ∧
      (c.channel.rxOpen = true → lost = [])

/-- What holds after the steps of `labels`. -/
structure Inv (wire : ControlWire F) (reader : AlertReader F A P) (labels : List (TaskLabel F A P))
    (w : WorkerTasks F A P) : Prop where
  registry : w.registry.Indexed
  owners_length : w.owners.length = w.registry.heap.length
  /-- A device's connection is its own. -/
  owner : ∀ d a, w.registry.byDevice.get d = some a → w.owners[a]? = some d
  stored : ∀ e ∈ w.stored, e.storedBy ∈ labels ∧ w.owners[e.conn]? = some e.device ∧
    e.Justified wire reader
  fifo : ∀ n, w.Fifo n

variable {wire : ControlWire F} {reader : AlertReader F A P} {labels : List (TaskLabel F A P)}
  {self self' : WorkerTasks F A P}

theorem Inv.initial : Inv wire reader [] ({} : WorkerTasks F A P) where
  registry := .empty
  owners_length := rfl
  owner := fun d a h => by cases h
  stored := fun e he => by cases he
  fifo := fun n => ⟨fun _ => ⟨rfl, rfl⟩, fun c hc => by cases hc⟩

theorem Fifo.congr {n : Nat} (h : self.Fifo n) (hregistry : self'.registry = self.registry)
    (hstored : self'.stored = self.stored) (htaken : self'.taken = self.taken) : self'.Fifo n := by
  have hin : self'.storedIn n = self.storedIn n := by rw [storedIn, storedIn, hstored]
  have hfrom : self'.takenFrom n = self.takenFrom n := by rw [takenFrom, takenFrom, htaken]
  refine ⟨?_, ?_⟩
  · rw [hregistry, hin, hfrom]
    exact h.fresh
  · rw [hregistry, hin, hfrom]
    exact h.queue

/-- What is offered to a queue goes to its end. -/
theorem Fifo.withRegistry {n : Nat} (h : self.Fifo n)
    (howners : self.owners.length = self.registry.heap.length) {registry : WorkerRegistry F P}
    (label : TaskLabel F A P) (hlen : self.registry.heap.length ≤ registry.heap.length)
    (hoffered : OfferedAt self.registry registry n)
    (hnew : self.registry.heap.length ≤ n →
      ∀ c, registry.heap[n]? = some c → c.channel.queue = []) :
    (self.withRegistry registry label).Fifo n := by
  have hin : (self.withRegistry registry label).storedIn n =
      self.storedIn n ++ ((self.gains registry label).filter fun e => e.conn = n).map
        Stored.message := by
    show ((self.stored ++ _).filter _).map _ = _
    rw [List.filter_append, List.map_append]
    rfl
  have hfrom : (self.withRegistry registry label).takenFrom n = self.takenFrom n := rfl
  rw [filter_gains self registry label n howners] at hin
  by_cases hlt : n < self.registry.heap.length
  · rw [if_pos hlt] at hin
    refine ⟨?_, ?_⟩
    · intro hn
      have hle : registry.heap.length ≤ n := hn
      omega
    · intro c' hc'
      have hc := List.getElem?_eq_getElem hlt
      obtain ⟨c'', hc'', hopen, hqueue, hclosed⟩ := hoffered.queue hc
      cases Option.some.inj (hc'.symm.trans hc'')
      obtain ⟨lost, hstored, hlost⟩ := h.queue _ hc
      refine ⟨lost, ?_, fun ho => hlost (hopen ▸ ho)⟩
      rw [hin, hstored, hqueue, hfrom]
      cases ho : (self.registry.heap[n]).channel.rxOpen with
      | true => rw [hlost ho, List.append_nil, List.append_nil, List.append_assoc]
      | false => rw [hclosed ho, List.append_nil, List.append_nil]
  · obtain ⟨hstored, htaken⟩ := h.fresh (by omega)
    rw [if_neg hlt, hstored, List.append_nil] at hin
    rw [htaken] at hfrom
    refine ⟨fun _ => ⟨hin, hfrom⟩, ?_⟩
    intro c' hc'
    refine ⟨[], ?_, fun _ => rfl⟩
    rw [hin, hfrom, hnew (by omega) c' hc']
    rfl

/-- Only these parts of the state matter. -/
theorem Inv.congr (h : Inv wire reader labels self) (hregistry : self'.registry = self.registry)
    (howners : self'.owners = self.owners) (hstored : self'.stored = self.stored)
    (htaken : self'.taken = self.taken) : Inv wire reader labels self' := by
  refine ⟨?_, ?_, ?_, ?_, fun n => (h.fifo n).congr hregistry hstored htaken⟩
  · rw [hregistry]
    exact h.registry
  · rw [hregistry, howners]
    exact h.owners_length
  · rw [hregistry, howners]
    exact h.owner
  · rw [hstored, howners]
    exact h.stored

/-- A step that stores and does not take anything out. -/
theorem Inv.withRegistry (h : Inv wire reader labels self) {registry : WorkerRegistry F P}
    {label : TaskLabel F A P} (hoffers : Offers self.registry registry)
    (hjust : ∀ e ∈ self.gains registry label, e.Justified wire reader) :
    Inv wire reader (labels ++ [label]) (self.withRegistry registry label) where
  registry := hoffers.indexed
  owners_length := by
    show self.owners.length = registry.heap.length
    rw [hoffers.length]
    exact h.owners_length
  owner := fun d a hd => h.owner d a (hoffers.get d a hd)
  stored := by
    intro e he
    rcases List.mem_append.mp he with hold | hnew
    · obtain ⟨hby, hdevice, hjustified⟩ := h.stored e hold
      exact ⟨List.mem_append_left _ hby, hdevice, hjustified⟩
    · obtain ⟨conn, -, hdevice, -, -, -, hlabel⟩ := mem_gains.mp hnew
      exact ⟨List.mem_append_right _ (by rw [← hlabel]; exact List.mem_singleton_self _), hdevice,
        hjust e hnew⟩
  fifo := by
    intro n
    refine (h.fifo n).withRegistry h.owners_length label hoffers.length.ge (hoffers.offered n) ?_
    intro hle c hc
    have hlt := (List.getElem?_eq_some_iff.mp hc).1
    rw [hoffers.length] at hlt
    omega

/-- A broadcast stores alerts inside the circle and in its shard. -/
theorem Inv.broadcast_justified (h : Inv wire reader labels self) {shardPrefix : String}
    {payload : P} {alert : A} (hparse : reader.parse payload = some alert) :
    ∀ e ∈ self.gains
        (self.registry.broadcastToShard reader.contains shardPrefix alert payload).1
        (.message shardPrefix payload), e.Justified wire reader := by
  intro e he
  obtain ⟨conn, hc, -, hmem, hshard, hlocation, hlabel⟩ := mem_gains.mp he
  rw [ConnectionRegistry.gainedAt_broadcastToShard h.registry] at hmem
  split at hmem
  · next hreach =>
      obtain ⟨hentry, hout⟩ := hreach
      obtain ⟨⟨d, a⟩, hx, ha⟩ := List.mem_map.mp hentry
      obtain ⟨-, hs⟩ := h.registry.shardEntries_byDevice hx
      have ha' : a = e.conn := ha
      rw [ha', ConnectionRegistry.shardAt, hc] at hs
      rw [hc, Option.map_some] at hout
      have hin : reader.contains alert conn.location = true := by
        unfold ConnectionRegistry.outcome at hout
        cases hcont : reader.contains alert conn.location with
        | true => rfl
        | false => simp [hcont] at hout
      rw [Stored.Justified, ← hlabel]
      refine ⟨hshard.symm.trans (Option.some.inj hs), List.mem_singleton.mp hmem, alert, hparse, ?_⟩
      rw [← hlocation]
      exact hin
  · cases hmem

/-- A control message stores a frame for the device of its subject. -/
theorem Inv.control_justified (h : Inv wire reader labels self) (subject : List Char)
    (payload : List UInt8) :
    ∀ e ∈ self.gains (handleControlMessage wire self.registry subject payload).1
        (.control subject payload), e.Justified wire reader := by
  intro e he
  obtain ⟨conn, -, hdevice, hmem, -, -, hlabel⟩ := mem_gains.mp he
  rcases handleControlMessage_cases wire self.registry subject payload with heq | ⟨d, l, heq⟩ |
    ⟨d, message, hsubject, hmessage, hcloses, heq⟩
  · rw [heq, ConnectionRegistry.gainedAt_of_heap rfl] at hmem
    cases hmem
  · rw [heq, ConnectionRegistry.gainedAt_updateLocation] at hmem
    cases hmem
  · rw [heq] at hmem
    obtain ⟨htext, hd⟩ := ConnectionRegistry.gainedAt_sendControl _ _ _ _ _ _ hmem
    have hsame : d = e.device := Option.some.inj ((h.owner d _ hd).symm.trans hdevice)
    rw [Stored.Justified, ← hlabel]
    exact ⟨hsame ▸ hsubject, message, hmessage, hcloses, htext⟩

/-- A change to one channel that lets its queue grow. -/
theorem offers_onChannel {r : WorkerRegistry F P} (h : r.Indexed) (conn : Nat)
    {f : Channel (Outbound P) → Channel (Outbound P)}
    (hf : ∀ c, r.heap[conn]? = some c → c.channel.Grew (f c.channel)) :
    Offers r (onChannel r conn f) :=
  ⟨.modifyConn r _ _, h.modifyConn conn (fun _ => rfl) fun _ => rfl,
    fun _ _ hc => OfferedAt.modify hf hc⟩

theorem gainedAt_onChannel (r : WorkerRegistry F P) (conn n : Nat)
    {f : Channel (Outbound P) → Channel (Outbound P)} {more : List (Outbound P)}
    (hf : ∀ channel, (f channel).queue = channel.queue ++ more) :
    ∀ m ∈ gainedAt r (onChannel r conn f) n, n = conn ∧ m ∈ more := by
  intro m hm
  rw [onChannel, ConnectionRegistry.gainedAt_modifyConn] at hm
  split at hm
  · next heq =>
      refine ⟨heq.symm, ?_⟩
      cases hc : r.heap[n]? with
      | none =>
          rw [hc] at hm
          cases hm
      | some c =>
          rw [hc] at hm
          dsimp only [Option.map_some, Option.getD_some] at hm
          rwa [hf, gained_append] at hm
  · cases hm

/-- The message of a replay goes to its own connection and nowhere else. -/
theorem replayStore_eq_some {r r' : WorkerRegistry F P} (h : r.Indexed) {conn : Nat}
    {granted : Bool} {m : Outbound P} (hstore : replayStore r conn granted m = some r') :
    Offers r r' ∧ ∀ n, ∀ x ∈ gainedAt r r' n, n = conn ∧ x = m := by
  unfold replayStore at hstore
  split at hstore
  · split at hstore
    · next hslot =>
        cases hstore
        obtain ⟨-, hopen⟩ := Bool.and_eq_true_iff.mp hslot
        refine ⟨offers_onChannel h conn fun c hc => ?_, fun n x hx => ?_⟩
        · rw [hc, Option.any_some] at hopen
          exact .sendReserved hopen m
        · obtain ⟨hn, hmem⟩ := gainedAt_onChannel r conn n (fun _ => rfl) x hx
          exact ⟨hn, List.mem_singleton.mp hmem⟩
    · cases hstore
  · split at hstore
    · cases hstore
      refine ⟨.offerTo h conn m, fun n x hx => ?_⟩
      rw [ConnectionRegistry.gainedAt_offerTo] at hx
      split at hx
      · next hconn => exact ⟨hconn.1.symm, List.mem_singleton.mp hx⟩
      · cases hx
    · cases hstore

theorem Inv.replayStore (h : Inv wire reader labels self) {conn : Nat} {granted : Bool}
    {m : Outbound P} {registry : WorkerRegistry F P}
    (hstore : replayStore self.registry conn granted m = some registry) {label : TaskLabel F A P}
    (hjust : ∀ e : Stored F A P, e.conn = conn → e.message = m → e.storedBy = label →
      e.Justified wire reader) :
    Inv wire reader (labels ++ [label]) (self.withRegistry registry label) := by
  obtain ⟨hoffers, hgained⟩ := replayStore_eq_some h.registry hstore
  refine h.withRegistry hoffers ?_
  intro e he
  obtain ⟨-, -, -, hmem, -, -, hlabel⟩ := mem_gains.mp he
  obtain ⟨hconn, hmessage⟩ := hgained _ _ hmem
  exact hjust e hconn hmessage hlabel.symm

/-- A slot is handed to a waiting replay, or comes back. -/
theorem Inv.onChannel (h : Inv wire reader labels self) {conn : Nat}
    {f : Channel (Outbound P) → Channel (Outbound P)} (hqueue : ∀ c, (f c).queue = c.queue)
    (hopen : ∀ c, (f c).rxOpen = c.rxOpen) (label : TaskLabel F A P) :
    Inv wire reader (labels ++ [label])
      (self.withRegistry (onChannel self.registry conn f) label) := by
  refine h.withRegistry
    (offers_onChannel h.registry conn fun c _ => ⟨hopen c.channel, .inl (hqueue c.channel)⟩) ?_
  intro e he
  obtain ⟨-, -, -, hmem, -, -, -⟩ := mem_gains.mp he
  obtain ⟨-, hnone⟩ := gainedAt_onChannel self.registry conn e.conn
    (fun channel => (hqueue channel).trans (List.append_nil _).symm) _ hmem
  cases hnone

/-- A socket's call that only closes connections. -/
theorem Inv.socket_offers (h : Inv wire reader labels self) {registry : WorkerRegistry F P}
    {call : Call Uuid String (Location F) P A} (hoffers : Offers self.registry registry)
    (hclose : ∀ n, ∀ m ∈ gainedAt self.registry registry n, m = .close) :
    Inv wire reader (labels ++ [.socket call]) (self.withRegistry registry (.socket call)) := by
  refine h.withRegistry hoffers ?_
  intro e he
  obtain ⟨-, -, -, hmem, -, -, hlabel⟩ := mem_gains.mp he
  rw [Stored.Justified, ← hlabel]
  exact hclose _ _ hmem

-- ============================================================================
-- The sockets' steps
-- ============================================================================

theorem gains_eq_nil {registry : WorkerRegistry F P} {label : TaskLabel F A P}
    (h : ∀ n, gainedAt self.registry registry n = []) : self.gains registry label = [] := by
  refine List.eq_nil_iff_forall_not_mem.mpr ?_
  intro e he
  obtain ⟨-, -, -, hmem, -⟩ := mem_gains.mp he
  rw [h] at hmem
  cases hmem

/-- A registration numbers the new connection by its place in the heap. -/
theorem Inv.register (h : Inv wire reader labels self) (d : Uuid) (s : String) (l : Location F)
    (hself : self' = { self.withRegistry (self.registry.register d s l).1
      (.socket (.register d s l)) with owners := self.owners ++ [d] }) :
    Inv wire reader (labels ++ [.socket (.register d s l)]) self' := by
  have hlen : (self.registry.register d s l).1.heap.length = self.registry.heap.length + 1 := by
    rw [ConnectionRegistry.register_heap]
    cases self.registry.byDevice.get d <;> simp
  have hold : ∀ {n : Nat} {x : Uuid}, self.owners[n]? = some x →
      (self.owners ++ [d])[n]? = some x := by
    intro n x hx
    rw [List.getElem?_append_left (List.getElem?_eq_some_iff.mp hx).1, hx]
  subst hself
  refine ⟨h.registry.register d s l, ?_, ?_, ?_, ?_⟩
  · show (self.owners ++ [d]).length = (self.registry.register d s l).1.heap.length
    rw [hlen, List.length_append, h.owners_length]
    rfl
  · intro d' a hd'
    have hget : (self.registry.register d s l).1.byDevice.get d' = some a := hd'
    rw [ConnectionRegistry.register_byDevice_get] at hget
    show (self.owners ++ [d])[a]? = some d'
    split at hget
    · next heq =>
        cases hget
        rw [← h.owners_length, List.getElem?_concat_length, heq]
    · exact hold (h.owner d' a hget)
  · intro e he
    rcases List.mem_append.mp he with hmem | hnew
    · obtain ⟨hby, hdevice, hjustified⟩ := h.stored e hmem
      exact ⟨List.mem_append_left _ hby, hold hdevice, hjustified⟩
    · obtain ⟨-, -, hdevice, hmem, -, -, hlabel⟩ := mem_gains.mp hnew
      refine ⟨List.mem_append_right _ (by rw [← hlabel]; exact List.mem_singleton_self _),
        hold hdevice, ?_⟩
      rw [Stored.Justified, ← hlabel]
      exact ConnectionRegistry.gainedAt_register d s l _ _ hmem
  · intro n
    have hfifo : (self.withRegistry (self.registry.register d s l).1
        (.socket (.register d s l))).Fifo n := by
      refine (h.fifo n).withRegistry h.owners_length _ (by omega)
        (OfferedAt.register self.registry d s l n) ?_
      intro hle c hc
      have hlast := (List.getElem?_eq_some_iff.mp hc).1
      obtain rfl : n = self.registry.heap.length := by omega
      rw [ConnectionRegistry.register_getElem?_length (h.registry.valid d)] at hc
      cases hc
      rfl
    exact hfifo.congr rfl rfl rfl

/-- A step that stores nothing. -/
theorem Inv.receiver (h : Inv wire reader labels self) (label : TaskLabel F A P)
    (hregistry : self'.registry.Indexed) (hkeeps : KeepsOwners self.registry self'.registry)
    (howners : self'.owners = self.owners) (hstored : self'.stored = self.stored)
    (hfifo : ∀ n, self'.Fifo n) : Inv wire reader (labels ++ [label]) self' := by
  refine ⟨hregistry, ?_, ?_, ?_, hfifo⟩
  · rw [howners, hkeeps.length]
    exact h.owners_length
  · rw [howners]
    exact fun d a hd => h.owner d a (hkeeps.get d a hd)
  · rw [hstored, howners]
    intro e he
    obtain ⟨hby, hrest⟩ := h.stored e he
    exact ⟨List.mem_append_left _ hby, hrest⟩

theorem recv_append {μ : Type*} (c : Channel μ) : c.recv.1.toList ++ c.recv.2.queue = c.queue := by
  unfold Channel.recv
  split
  · next h => rw [h]; rfl
  · next h => rw [h]; rfl

/-- The writer of connection `n` takes the oldest message. -/
theorem Inv.recv (h : Inv wire reader labels self) (n : Nat)
    (hself : self' = { self.withRegistry (self.registry.recv n).1 (.socket (.recv n)) with
      taken := self.taken ++ ((self.registry.recv n).2.map fun m => (n, m)).toList }) :
    Inv wire reader (labels ++ [.socket (.recv n)]) self' := by
  have hregistry : self'.registry = (self.registry.recv n).1 := by rw [hself]; rfl
  have hkeeps : KeepsOwners self.registry self'.registry := hregistry ▸ .modifyConn _ _ _
  have hstored : self'.stored = self.stored := by
    rw [hself]
    show self.stored ++ self.gains _ _ = _
    rw [gains_eq_nil fun m => ConnectionRegistry.gainedAt_recv self.registry n m, List.append_nil]
  have hindexed : self'.registry.Indexed :=
    hregistry ▸ h.registry.modifyConn n (fun _ => rfl) fun _ => rfl
  refine h.receiver _ hindexed hkeeps (by rw [hself]; rfl) hstored ?_
  intro k
  have hin : self'.storedIn k = self.storedIn k := by rw [storedIn, storedIn, hstored]
  have hfrom : self'.takenFrom k = self.takenFrom k ++
      if n = k then (self.registry.recv n).2.toList else [] := by
    rw [hself]
    show ((self.taken ++ _).filter _).map _ = _
    rw [List.filter_append, List.map_append]
    congr 1
    cases (self.registry.recv n).2 with
    | none => split <;> rfl
    | some m => by_cases heq : n = k <;> simp [heq]
  refine ⟨?_, ?_⟩
  · intro hle
    rw [hkeeps.length] at hle
    obtain ⟨hstoredNil, htakenNil⟩ := (h.fifo k).fresh hle
    refine ⟨hin.trans hstoredNil, ?_⟩
    rw [hfrom, htakenNil]
    by_cases heq : n = k
    · subst heq
      rw [if_pos rfl, ConnectionRegistry.recv, List.getElem?_eq_none hle]
      rfl
    · rw [if_neg heq]
      rfl
  · intro c' hc'
    rw [hregistry] at hc'
    simp only [ConnectionRegistry.recv, ConnectionRegistry.modifyConn, List.getElem?_modify] at hc'
    obtain ⟨c, hc, rfl⟩ := Option.map_eq_some_iff.mp hc'
    obtain ⟨lost, hqueue, hlost⟩ := (h.fifo k).queue c hc
    refine ⟨lost, ?_, ?_⟩
    · rw [hin, hfrom, hqueue]
      by_cases heq : n = k
      · subst heq
        rw [if_pos rfl, if_pos rfl, ConnectionRegistry.recv, hc, Option.bind_some,
          List.append_assoc (self.takenFrom n) _ (Channel.queue _)]
        show _ = self.takenFrom n ++ (c.channel.recv.1.toList ++ c.channel.recv.2.queue) ++ lost
        rw [recv_append]
      · rw [if_neg heq, if_neg heq, List.append_nil]
    · intro hopen
      refine hlost ?_
      by_cases heq : n = k
      · rw [if_pos heq] at hopen
        unfold Channel.recv at hopen
        split at hopen <;> exact hopen
      · rw [if_neg heq] at hopen
        exact hopen

/-- The writer ends; what it had not taken is lost. -/
theorem Inv.dropReceiver (h : Inv wire reader labels self) (n : Nat) :
    Inv wire reader (labels ++ [.socket (.dropReceiver n)])
      (self.withRegistry (self.registry.dropReceiver n) (.socket (.dropReceiver n))) := by
  have hstored : (self.withRegistry (self.registry.dropReceiver n)
      (.socket (.dropReceiver n))).stored = self.stored := by
    show self.stored ++ self.gains _ _ = _
    rw [gains_eq_nil fun m => ConnectionRegistry.gainedAt_dropReceiver self.registry n m,
      List.append_nil]
  have hkeeps : KeepsOwners self.registry (self.registry.dropReceiver n) := .modifyConn _ _ _
  refine h.receiver _ (h.registry.modifyConn n (fun _ => rfl) fun _ => rfl) hkeeps rfl hstored ?_
  intro k
  have hin : (self.withRegistry (self.registry.dropReceiver n)
      (.socket (.dropReceiver n))).storedIn k = self.storedIn k := by
    rw [storedIn, storedIn, hstored]
  refine ⟨?_, ?_⟩
  · intro hle
    rw [hin]
    exact (h.fifo k).fresh (hkeeps.length ▸ hle)
  · intro c' hc'
    have hget : (self.registry.dropReceiver n).heap[k]? = some c' := hc'
    simp only [ConnectionRegistry.dropReceiver, ConnectionRegistry.modifyConn,
      List.getElem?_modify] at hget
    obtain ⟨c, hc, rfl⟩ := Option.map_eq_some_iff.mp hget
    obtain ⟨lost, hqueue, hlost⟩ := (h.fifo k).queue c hc
    by_cases heq : n = k
    · rw [if_pos heq]
      refine ⟨c.channel.queue ++ lost, ?_, fun hopen => absurd hopen Bool.false_ne_true⟩
      rw [hin, hqueue]
      show _ = self.takenFrom k ++ [] ++ (c.channel.queue ++ lost)
      rw [List.append_nil, List.append_assoc]
    · rw [if_neg heq]
      exact ⟨lost, hin.trans hqueue, hlost⟩

-- ============================================================================
-- Whole runs
-- ============================================================================

theorem Inv.socket (h : Inv wire reader labels self) (call : Call Uuid String (Location F) P A)
    (hstep : step wire reader self (.socket call) = some self') :
    Inv wire reader (labels ++ [.socket call]) self' := by
  dsimp only [step] at hstep
  split at hstep
  · next hcall =>
      cases hstep
      cases call with
      | register d s l => exact h.register d s l rfl
      | deregister d connId =>
          refine (h.socket_offers (.deregister h.registry d connId) ?_).congr rfl rfl rfl rfl
          intro n m hm
          rw [ConnectionRegistry.gainedAt_deregister] at hm
          cases hm
      | senderFor d connId =>
          refine (h.socket_offers (.refl h.registry) ?_).congr rfl rfl rfl rfl
          intro n m hm
          rw [ConnectionRegistry.gainedAt_of_heap rfl] at hm
          cases hm
      | closeAll =>
          exact (h.socket_offers (.closeAll h.registry)
            (ConnectionRegistry.gainedAt_closeAll h.registry)).congr rfl rfl rfl rfl
      | recv n => exact h.recv n rfl
      | dropReceiver n => exact (h.dropReceiver n).congr rfl rfl rfl rfl
      | updateLocation d l => cases hcall
      | sendControl d text close => cases hcall
      | broadcastToShard s alert payload => cases hcall
  · cases hstep

theorem fanout_eq_some {registry registry' : WorkerRegistry F P} {shardPrefix : String}
    {payload : P} {f : Fanout}
    (h : fanout reader registry shardPrefix payload = some (registry', f)) :
    ∃ alert, reader.parse payload = some alert ∧
      registry' = (registry.broadcastToShard reader.contains shardPrefix alert payload).1 ∧
      f = ⟨reader.id alert, shardPrefix,
        (registry.broadcastToShard reader.contains shardPrefix alert payload).2⟩ := by
  obtain ⟨alert, halert, heq⟩ := Option.map_eq_some_iff.mp h
  cases heq
  exact ⟨alert, halert, rfl, rfl⟩

theorem Inv.onAlert (h : Inv wire reader labels self) (shardPrefix : String) (payload : P) :
    Inv wire reader (labels ++ [.message shardPrefix payload])
      (self.onAlert reader shardPrefix payload) := by
  unfold WorkerTasks.onAlert
  cases hf : fanout reader self.registry shardPrefix payload with
  | none => exact h.receiver _ h.registry (.refl _) rfl rfl fun n => (h.fifo n).congr rfl rfl rfl
  | some out =>
      obtain ⟨alert, hparse, hregistry, -⟩ := fanout_eq_some hf
      have hstored : Inv wire reader (labels ++ [.message shardPrefix payload])
          (self.withRegistry out.1 (.message shardPrefix payload)) := by
        rw [hregistry]
        exact h.withRegistry (.broadcastToShard h.registry _ _ _ _) (h.broadcast_justified hparse)
      exact hstored.congr rfl rfl rfl rfl

theorem Inv.step (h : Inv wire reader labels self) {label : TaskLabel F A P}
    (hstep : step wire reader self label = some self') :
    Inv wire reader (labels ++ [label]) self' := by
  cases label with
  | socket call => exact h.socket call hstep
  | message shardPrefix payload =>
      cases hstep
      exact h.onAlert shardPrefix payload
  | control subject payload =>
      cases hstep
      exact (h.withRegistry (.handleControlMessage h.registry wire subject payload)
        (h.control_justified subject payload)).congr rfl rfl rfl rfl
  | replayGrant conn =>
      dsimp only [WorkerTasks.step] at hstep
      split at hstep
      · cases hstep
        exact h.onChannel (f := Channel.reserve) (fun _ => rfl) (fun _ => rfl) _
      · cases hstep
  | replaySend conn payload granted =>
      obtain ⟨registry, hstore, rfl⟩ := Option.map_eq_some_iff.mp hstep
      refine h.replayStore hstore ?_
      intro e hconn hmessage hlabel
      rw [Stored.Justified, hlabel]
      exact ⟨hconn, hmessage⟩
  | replayDone conn replayed granted =>
      obtain ⟨registry, hstore, rfl⟩ := Option.map_eq_some_iff.mp hstep
      refine h.replayStore hstore ?_
      intro e hconn hmessage hlabel
      rw [Stored.Justified, hlabel]
      exact ⟨hconn, hmessage⟩
  | replayGiveUp conn =>
      dsimp only [WorkerTasks.step] at hstep
      split at hstep
      · cases hstep
        exact h.onChannel (f := Channel.release) (fun _ => rfl) (fun _ => rfl) _
      · cases hstep
  | record k ok =>
      dsimp only [WorkerTasks.step] at hstep
      split at hstep
      · cases hstep
        exact h.receiver _ h.registry (.refl _) rfl rfl fun n => (h.fifo n).congr rfl rfl rfl
      · cases hstep
  | publish k ok =>
      dsimp only [WorkerTasks.step] at hstep
      split at hstep
      · cases hstep
        exact h.receiver _ h.registry (.refl _) rfl rfl fun n => (h.fifo n).congr rfl rfl rfl
      · cases hstep

theorem inv_of_run (h : run wire reader labels = some self) : Inv wire reader labels self :=
  Transition.run_history_all (Inv wire reader) (fun _ _ _ _ hinv hstep => hinv.step hstep) .initial h

theorem Inv.exists_stored (h : Inv wire reader labels self) {n : Nat} {m : Outbound P}
    (hm : (n, m) ∈ self.taken) :
    ∃ e ∈ self.stored, e.conn = n ∧ e.message = m ∧ self.owners[n]? = some e.device ∧
      e.storedBy ∈ labels ∧ e.Justified wire reader := by
  have htaken : m ∈ self.takenFrom n :=
    List.mem_map.mpr ⟨(n, m), List.mem_filter.mpr ⟨hm, decide_eq_true rfl⟩, rfl⟩
  have hstored : m ∈ self.storedIn n := by
    cases hc : self.registry.heap[n]? with
    | none =>
        rw [((h.fifo n).fresh (List.getElem?_eq_none_iff.mp hc)).2] at htaken
        cases htaken
    | some c =>
        obtain ⟨lost, hqueue, -⟩ := (h.fifo n).queue c hc
        rw [hqueue, List.append_assoc]
        exact List.mem_append_left _ htaken
  obtain ⟨e, hmem, hmessage⟩ := List.mem_map.mp hstored
  obtain ⟨he, hconn⟩ := List.mem_filter.mp hmem
  obtain ⟨hby, hdevice, hjustified⟩ := h.stored e he
  rw [of_decide_eq_true hconn] at hdevice
  exact ⟨e, he, of_decide_eq_true hconn, hmessage, hdevice, hby, hjustified⟩

/-- An alert up to a latitude. -/
def upToLatitude : AlertReader ℤ Nat Nat where
  parse p := if p < 90 then some p else none
  id a := BitVec.ofNat 128 a
  contains a l := decide (l.lat ≤ a)

/-- One device is sent one alert. -/
def oneAlert : List (TaskLabel ℤ Nat Nat) :=
  [.socket (.register 1 "tkrt" ⟨0, 0, by decide, by decide⟩), .message "tkrt" 5,
    .message "tkrt" 100, .socket (.recv 0), .record 0 false, .publish 0 true]

def afterOneAlert : WorkerTasks ℤ Nat Nat :=
  (run .wholeNumbers upToLatitude oneAlert).get (by decide +kernel)

/-- **A queue loses and repeats nothing.**  As long as a connection's receiver is there, what was
    stored for it is what its writer took out and what still waits, in the order of storing. -/
theorem stored_eq_taken_append (wire : ControlWire F) (reader : AlertReader F A P)
    (labels : List (TaskLabel F A P)) (worker : WorkerTasks F A P)
    (h : run wire reader labels = some worker) (n : Nat) (c : Connection String (Location F) P)
    (hc : worker.registry.heap[n]? = some c) :
    ∃ lost, worker.storedIn n = worker.takenFrom n ++ c.channel.queue ++ lost ∧
      (c.channel.rxOpen = true → lost = []) :=
  ((inv_of_run h).fifo n).queue c hc

theorem stored_eq_taken_append_oneAlert :
    ∃ c, afterOneAlert.registry.heap[0]? = some c ∧ ∃ lost,
      afterOneAlert.storedIn 0 = afterOneAlert.takenFrom 0 ++ c.channel.queue ++ lost ∧
        (c.channel.rxOpen = true → lost = []) :=
  ⟨_, rfl, stored_eq_taken_append .wholeNumbers upToLatitude oneAlert afterOneAlert
    (Option.some_get _).symm 0 _ rfl⟩

omit [CommRing F] [LinearOrder F] in
/-- A closing message is read as it was written. -/
theorem eq_of_sameTexts {message read : ServerMessage F} (h : message.SameTexts read)
    (hcloses : closesConnection read = true) : message = read := by
  cases read with
  | shardChanged shardPrefix wsUrl =>
      cases message with
      | shardChanged shardPrefix' wsUrl' =>
          obtain ⟨rfl, rfl⟩ := h
          rfl
      | _ => cases h
  | revoked =>
      cases message with
      | revoked => rfl
      | _ => cases h
  | _ => cases hcloses

/-- **Closing frames are the published ones, word for word.**  If the control messages are what
    the coordinator published, then a closing frame that a writer takes out was published on the
    subject of the writer's device. -/
theorem closing_frame_published (wire : ControlWire F) (hwire : wire.Documented)
    (reader : AlertReader F A P) (labels : List (TaskLabel F A P)) (worker : WorkerTasks F A P)
    (h : run wire reader labels = some worker) (published : List (Uuid × ServerMessage F))
    (hpublished : ∀ subject payload, .control subject payload ∈ labels →
      ∃ x ∈ published, subject = wire.controlSubject x.1 ∧ payload = wire.payload x.2)
    (n : Nat) (deviceId : Uuid) (text : String) (hn : worker.owners[n]? = some deviceId)
    (hm : (n, .control text true) ∈ worker.taken) :
    ∃ message, (deviceId, message) ∈ published ∧ closesConnection message = true ∧
      text = wire.toJson message := by
  obtain ⟨e, -, -, hmessage, hdevice, hby, hjustified⟩ := (inv_of_run h).exists_stored hm
  cases Option.some.inj (hn.symm.trans hdevice)
  rw [Stored.Justified] at hjustified
  cases hlabel : e.storedBy with
  | control subject payload =>
      rw [hlabel] at hjustified hby
      obtain ⟨hsubject, read, hread, hcloses, htext⟩ := hjustified
      obtain ⟨⟨d, message⟩, hx, rfl, rfl⟩ := hpublished subject payload hby
      rw [hwire.deviceIdFromControlSubject_controlSubject] at hsubject
      obtain rfl := eq_of_sameTexts (hwire.fromSlice_toJson message read hread) hcloses
      rw [hmessage] at htext
      refine ⟨message, ?_, hcloses, (Outbound.control.inj htext).1⟩
      rw [← Option.some.inj hsubject]
      exact hx
  | socket call =>
      rw [hlabel, hmessage] at hjustified
      cases hjustified
  | message shardPrefix payload =>
      rw [hlabel, hmessage] at hjustified
      cases hjustified.2.1
  | replaySend conn payload granted =>
      rw [hlabel, hmessage] at hjustified
      cases hjustified.2
  | replayDone conn replayed granted =>
      rw [hlabel, hmessage] at hjustified
      cases hjustified.2
  | _ =>
      rw [hlabel] at hjustified
      cases hjustified

/-- A revocation reaches the writer of a connected device. -/
theorem run_forwards {wire : ControlWire ℤ} {subject : List Char} {payload : List UInt8}
    (hsubject : wire.deviceIdFromControlSubject subject = some 1)
    (hpayload : wire.fromSlice payload = some .revoked) :
    ∃ worker, run wire upToLatitude
        [.socket (.register 1 "tkrt" ⟨0, 0, by decide, by decide⟩), .control subject payload,
          .socket (.recv 0)] = some worker ∧
      worker.owners[0]? = some 1 ∧ (0, .control (wire.toJson .revoked) true) ∈ worker.taken := by
  have hhandle (registry : WorkerRegistry ℤ Nat) :
      (handleControlMessage wire registry subject payload).1 =
        (registry.sendControl 1 (wire.toJson .revoked) true).1 := by
    rw [handleControlMessage, hsubject, hpayload]
    rfl
  refine ⟨_, rfl, rfl, ?_⟩
  show _ ∈ [] ++ ((ConnectionRegistry.recv
    (handleControlMessage wire _ subject payload).1 0).2.map fun m => (0, m)).toList
  rw [hhandle]
  generalize wire.toJson .revoked = frame
  exact List.mem_singleton_self _

theorem closing_frame_published_revoked :
    ∃ worker message, run .wholeNumbers upToLatitude
        [.socket (.register 1 "tkrt" ⟨0, 0, by decide, by decide⟩),
          .control (ControlWire.wholeNumbers.controlSubject 1)
            (ControlWire.wholeNumbers.payload .revoked),
          .socket (.recv 0)] = some worker ∧
      (1, message) ∈ [((1 : Uuid), (ServerMessage.revoked : ServerMessage ℤ))] ∧
      closesConnection message = true ∧
      ControlWire.wholeNumbers.toJson .revoked = ControlWire.wholeNumbers.toJson message := by
  have hwire := ControlWire.documented_wholeNumbers
  obtain ⟨worker, hrun, howner, htaken⟩ :=
    run_forwards (hwire.deviceIdFromControlSubject_controlSubject 1)
      ControlWire.fromSlice_wholeNumbers
  obtain ⟨message, hmem, hcloses, htext⟩ :=
    closing_frame_published .wholeNumbers hwire upToLatitude _ worker hrun [(1, .revoked)] (by
      intro subject payload hmem
      simp only [List.mem_cons, reduceCtorEq, List.not_mem_nil, or_false, false_or,
        TaskLabel.control.injEq] at hmem
      exact ⟨_, List.mem_singleton_self _, hmem⟩) 0 1 _ howner htaken
  exact ⟨worker, message, hrun, hmem, hcloses, htext⟩

end WorkerTasks
end PulseGrid.Worker
