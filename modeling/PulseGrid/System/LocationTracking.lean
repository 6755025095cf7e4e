/-
  PulseGrid.System.LocationTracking

  Do workers know where their devices are?

  A worker copies the location record when it authorizes a connection and learns
  of later moves by control messages, which it drops while the device is not
  registered.  `connections_have_current_location` says when every connection ends
  up with the current record: if each is registered with a record that the control
  messages still ahead of the worker turn into the current one (or close the
  connection).
-/

import PulseGrid.System.Fleet
import PulseGrid.Worker.CurrentConnection
import PulseGrid.Lib.TaskPool

namespace PulseGrid.System

open Coordinator Worker TaskPool

variable {D F P : Type} [CommRing F] [LinearOrder F]

-- ============================================================================
-- What control messages make of a connection
-- ============================================================================

/-- What a control message makes of the shard and location of a connection, as a
    location record; `none` once the connection is closed. -/
def applyControl (D : Type) : Option (DeviceLocationRecord F) → ServerMessage F →
    Option (DeviceLocationRecord F)
  | none, _ | some _, .shardChanged _ _ | some _, .revoked => none
  | some r, .locationUpdated lat lon => match Location.new (D := D) lat lon with
      | .ok l => some { r with lat := l.lat, lon := l.lon }
      | .error _ => some r
  | some r, .replayComplete _ => some r

/-- After these messages a connection registered with `r` is closed or has the
    record `record`. -/
def LeadsTo (D : Type) (record : Option (DeviceLocationRecord F))
    (messages : List (ServerMessage F)) (r : DeviceLocationRecord F) : Prop :=
  ∀ r' ∈ messages.foldl (applyControl D) (some r), record = some r'

instance (record : Option (DeviceLocationRecord F)) (messages : List (ServerMessage F))
    (r : DeviceLocationRecord F) : Decidable (LeadsTo D record messages r) :=
  inferInstanceAs (Decidable (∀ r' ∈ messages.foldl (applyControl D) (some r), record = some r'))

theorem leadsTo_nil (record : Option (DeviceLocationRecord F)) (r : DeviceLocationRecord F) :
    LeadsTo D record [] r ↔ record = some r := by
  simp [LeadsTo]

theorem foldl_applyControl_none (messages : List (ServerMessage F)) :
    messages.foldl (applyControl D) none = none := by
  induction messages with
  | nil => rfl
  | cons m messages ih => exact ih

theorem leadsTo_append (record : Option (DeviceLocationRecord F))
    (ms ms' : List (ServerMessage F)) (r : DeviceLocationRecord F) :
    LeadsTo D record (ms ++ ms') r ↔
      ∀ r' ∈ ms.foldl (applyControl D) (some r), LeadsTo D record ms' r' := by
  unfold LeadsTo
  rw [List.foldl_append]
  cases ms.foldl (applyControl D) (some r) with
  | none => simp [foldl_applyControl_none]
  | some r' => simp

/-- The record a connection was authorized with. -/
def authRecord (auth : Authorized F) : DeviceLocationRecord F :=
  { lat := auth.location.lat, lon := auth.location.lon, shardPrefix := auth.shardPrefix }

/-- Shard and location of a connection, as a location record. -/
def heldRecord (x : UInt64 × String × Location F) : DeviceLocationRecord F :=
  { lat := x.2.2.lat, lon := x.2.2.lon, shardPrefix := x.2.1 }

/-- The message of a location update that has written the location record and not
    yet published it. -/
def owes : RequestPc D F → List (ServerMessage F)
  | .updateLookup device => [.shardChanged device.shardPrefix none]
  | .updateNotify message _ => [message]
  | _ => []

namespace Fleet

/-- The runs in question: one location update at a time and no other request, and
    control messages handled in the order of their publication. -/
def InScope (s : Fleet D F P) : Label F → Prop
  | .request (.start (.updateLocation _ _)) => s.coord.Quiescent
  | .request (.start _) => False
  | .handle _ k => k = 0
  | _ => True

/-- Whether a connection may be registered now: the control messages still ahead of
    the worker, published or not, close it or give it the current record. -/
def RegistersCurrent (s : Fleet D F P) : Label F → Prop
  | .connectStep w i => ∀ worker ∈ s.workers[w]?, ∀ pc ∈ worker.connects[i]?,
      ∀ auth ∈ pc.registers?, LeadsTo D s.coord.stores.record
        (worker.inbox ++ s.coord.requests.flatMap owes) (authRecord auth)
  | _ => True

instance (s : Fleet D F P) : DecidablePred s.InScope
  | .request (.start (.updateLocation _ _)) => inferInstanceAs (Decidable s.coord.Quiescent)
  | .request (.start .heartbeat) | .request (.start (.issueWsTicket _))
  | .request (.start .revoke) | .request (.start .delete) => inferInstanceAs (Decidable False)
  | .handle _ k => inferInstanceAs (Decidable (k = 0))
  | .request (.step _) | .connect _ _ | .connectStep _ _ | .teardown _ _ | .disconnect _ _ =>
      inferInstanceAs (Decidable True)

instance (s : Fleet D F P) : DecidablePred s.RegistersCurrent
  | .connectStep w i => inferInstanceAs (Decidable (∀ worker ∈ s.workers[w]?,
      ∀ pc ∈ worker.connects[i]?, ∀ auth ∈ pc.registers?, LeadsTo D s.coord.stores.record
        (worker.inbox ++ s.coord.requests.flatMap owes) (authRecord auth)))
  | .request _ | .connect _ _ | .handle _ _ | .teardown _ _ | .disconnect _ _ =>
      inferInstanceAs (Decidable True)

-- ============================================================================
-- One location update at a time
-- ============================================================================

/-- Row and location record, where both are there, agree. -/
def RowAgrees (s : Stores D F) : Prop :=
  ∀ record ∈ s.record, ∀ device ∈ s.row, record = device.record

/-- What `update_location` found out about the device it read. -/
def Planned (old device : Device D F) (new : Location F) (moved shardChanged : Bool) : Prop :=
  if moved then device.location = new ∧
    (shardChanged = false → device.shardPrefix = old.shardPrefix)
  else device = old ∧ shardChanged = false

theorem planned_planUpdate {parts : DeviceServiceParts F} {old device : Device D F} {lat lon : F}
    {new : Location F} {moved shardChanged : Bool}
    (h : planUpdate parts old lat lon = .ok (device, new, moved, shardChanged)) :
    Planned old device new moved shardChanged := by
  unfold planUpdate at h
  cases hnew : Location.new (D := D) lat lon with
  | error e => simp [hnew, bind, Except.bind] at h
  | ok l =>
    simp only [hnew, bind, Except.bind, pure, Except.pure] at h
    split at h
    · obtain ⟨rfl, rfl, rfl, rfl⟩ := by simpa using h
      exact ⟨rfl, rfl⟩
    · cases hmove : old.updateLocation parts.geo l with
      | error e => simp [hmove] at h
      | ok p =>
        obtain ⟨device', changed⟩ := p
        obtain ⟨rfl, rfl, rfl, rfl⟩ := by simpa [hmove] using h
        unfold Device.updateLocation at hmove
        cases henc : encodeLocation (D := D) parts.geo l with
        | error e => simp [henc, bind, Except.bind] at hmove
        | ok geohash =>
          obtain ⟨rfl, rfl⟩ := by simpa [henc, bind, Except.bind, pure, Except.pure] using hmove
          exact ⟨rfl, by simp⟩

/-- What holds of the stores while a location update is at this point. -/
def PhaseOk (s : Stores D F) : RequestPc D F → Prop
  | .updateFind _ _ | .updateLookup _ | .updateNotify _ _ | .done _ => RowAgrees s
  | .updateRow device new moved shardChanged =>
      RowAgrees s ∧ ∀ old ∈ s.row, Planned old device new moved shardChanged
  | .updateRecord device new moved shardChanged =>
      s.row = some device ∧ ∃ old : Device D F, (∀ record ∈ s.record, record = old.record) ∧
        Planned old device new moved shardChanged
  | _ => False

theorem PhaseOk.advance {parts : DeviceServiceParts F} {deviceId : D} {s s' : Stores D F}
    {pc pc' : RequestPc D F} (h : PhaseOk s pc)
    (hadv : Coordinator.advance parts deviceId s pc = some (s', pc')) : PhaseOk s' pc' := by
  cases pc with
  | updateFind lat lon =>
    obtain ⟨rfl, rfl⟩ := by simpa [Coordinator.advance] using hadv
    cases hrow : s.row with
    | none => exact h
    | some old =>
      dsimp only
      split
      · exact h
      · next device new moved shardChanged hplan =>
        refine ⟨h, fun old' hold' => ?_⟩
        obtain rfl : old = old' := by simpa [hrow] using hold'
        exact planned_planUpdate hplan
  | updateRow device new moved shardChanged =>
    obtain ⟨hagree, hplanned⟩ := h
    simp only [Coordinator.advance] at hadv
    split at hadv
    · obtain ⟨rfl, rfl⟩ := by simpa using hadv
      exact hagree
    · next old hrow =>
      obtain ⟨rfl, rfl⟩ := by simpa using hadv
      exact ⟨rfl, old, fun record hrecord => hagree record hrecord old hrow, hplanned old hrow⟩
  | updateRecord device new moved shardChanged =>
    obtain ⟨hrow, -⟩ := h
    obtain ⟨rfl, rfl⟩ := by simpa [Coordinator.advance] using hadv
    have hagree : RowAgrees { s with record := some device.record } := by
      intro record hrecord device' hdevice'
      obtain rfl : device.record = record := by simpa using hrecord
      obtain rfl : device = device' := by simpa [hrow] using hdevice'
      rfl
    unfold afterRecord
    split
    · exact hagree
    · split <;> exact hagree
  | updateLookup device =>
    obtain ⟨rfl, rfl⟩ := by simpa [Coordinator.advance] using hadv
    exact h
  | updateNotify message update =>
    obtain ⟨rfl, rfl⟩ := by simpa [Coordinator.advance] using hadv
    exact h
  | done response => simp [Coordinator.advance] at hadv
  | _ => cases h

/-- Before and after a step of a location update, the messages it published and still
    owes make the same of the record the step found. -/
theorem leadsTo_advance {parts : DeviceServiceParts F} {deviceId : D} {s s' : Stores D F}
    {pc pc' : RequestPc D F} (h : PhaseOk s pc)
    (hadv : Coordinator.advance parts deviceId s pc = some (s', pc')) {r : DeviceLocationRecord F}
    (hr : LeadsTo D s.record (owes pc) r) :
    LeadsTo D s'.record (s'.published.drop s.published.length ++ owes pc') r := by
  cases pc with
  | updateFind lat lon =>
    obtain ⟨rfl, rfl⟩ := by simpa [Coordinator.advance] using hadv
    rw [List.drop_length, List.nil_append]
    split
    · exact hr
    · split <;> exact hr
  | updateRow device new moved shardChanged =>
    simp only [Coordinator.advance] at hadv
    split at hadv <;>
    · obtain ⟨rfl, rfl⟩ := by simpa using hadv
      rw [List.drop_length, List.nil_append]
      exact hr
  | updateRecord device new moved shardChanged =>
    obtain ⟨-, old, hold, hplanned⟩ := h
    obtain ⟨rfl, rfl⟩ := by simpa [Coordinator.advance] using hadv
    rw [List.drop_length, List.nil_append]
    -- the connection has the record the update is about to replace
    obtain rfl : r = old.record := hold r ((leadsTo_nil _ _).mp hr)
    unfold afterRecord
    cases shardChanged with
    | true =>
      rw [if_pos rfl]
      intro r' hr'
      cases hr'
    | false =>
      rw [if_neg Bool.false_ne_true]
      cases moved with
      | true =>
        obtain ⟨rfl, hprefix⟩ : device.location = new ∧ _ := by simpa [Planned] using hplanned
        rw [if_pos rfl]
        intro r' hr'
        obtain rfl := by simpa [owes, applyControl] using hr'
        simp [Device.record, hprefix]
      | false =>
        obtain rfl : device = old := by simpa [Planned] using hplanned
        exact (leadsTo_nil _ _).mpr rfl
  | updateLookup device =>
    obtain ⟨rfl, rfl⟩ := by simpa [Coordinator.advance] using hadv
    rw [List.drop_length, List.nil_append]
    intro r' hr'
    cases hr'
  | updateNotify message update =>
    obtain ⟨rfl, rfl⟩ := by simpa [Coordinator.advance] using hadv
    rw [List.drop_left]
    exact hr
  | done response => simp [Coordinator.advance] at hadv
  | _ => cases h

/-- At most one request, number `i`, is in progress, and it is a location update. -/
def Sequential (c : Requests D F) : Prop :=
  ∃ i : Nat, (∀ (j : Nat) (pc : RequestPc D F), j ≠ i → c.requests[j]? = some pc → pc.returned = true) ∧
    match c.requests[i]? with
    | none => RowAgrees c.stores
    | some pc => PhaseOk c.stores pc

/-- Only row and location record matter. -/
theorem Sequential.of_stores {c : Requests D F} (h : Sequential c) {stores : Stores D F}
    (hrow : stores.row = c.stores.row) (hrecord : stores.record = c.stores.record) :
    Sequential { c with stores := stores } := by
  obtain ⟨i, hothers, hphase⟩ := h
  have hagree : RowAgrees c.stores → RowAgrees stores := by
    unfold RowAgrees
    rw [hrow, hrecord]
    exact id
  refine ⟨i, hothers, ?_⟩
  split at hphase
  · next hi =>
    dsimp only
    rw [hi]
    exact hagree hphase
  · next pc hi =>
    dsimp only
    rw [hi]
    cases pc with
    | updateRow device new moved shardChanged =>
      exact ⟨hagree hphase.1, by rw [hrow]; exact hphase.2⟩
    | updateRecord device new moved shardChanged =>
      exact ⟨by rw [hrow]; exact hphase.1, by rw [hrecord]; exact hphase.2⟩
    | updateFind lat lon => exact hagree hphase
    | updateLookup device => exact hagree hphase
    | updateNotify message update => exact hagree hphase
    | done response => exact hagree hphase
    | _ => cases hphase

theorem owes_of_returned {pc : RequestPc D F} (h : pc.returned = true) : owes pc = [] := by
  cases pc <;> first | rfl | cases h

/-- Nothing in progress, so row and record agree. -/
theorem Sequential.rowAgrees {c : Requests D F} (h : Sequential c) (hq : c.Quiescent) :
    RowAgrees c.stores := by
  obtain ⟨i, -, hphase⟩ := h
  split at hphase
  · exact hphase
  · next pc hi =>
    have hret := hq pc (List.mem_of_getElem? hi)
    cases pc <;> first | exact hphase | cases hret

theorem flatMap_owes_of_quiescent {c : Requests D F} (hq : c.Quiescent) :
    c.requests.flatMap owes = [] :=
  List.flatMap_eq_nil_iff.mpr fun pc hpc => owes_of_returned (hq pc hpc)

theorem Sequential.start {c : Requests D F} (h : Sequential c) (hq : c.Quiescent) (lat lon : F) :
    Sequential { c with requests := c.requests ++ [.start (.updateLocation lat lon)] } := by
  refine ⟨c.requests.length, fun j pc hj hpc => ?_, ?_⟩
  · refine hq pc ?_
    obtain hmem | hmem := List.mem_append.mp (List.mem_of_getElem? hpc)
    · exact hmem
    · have hlt := (List.getElem?_eq_some_iff.mp hpc).1
      rw [List.length_append, List.length_singleton] at hlt
      have hj' : j < c.requests.length := by omega
      rw [List.getElem?_append_left hj'] at hpc
      exact List.mem_of_getElem? hpc
  · dsimp only
    rw [List.getElem?_concat_length]
    exact h.rowAgrees hq

/-- A step of a request: it is the one in progress. -/
theorem Sequential.advance {parts : DeviceServiceParts F} {deviceId : D} {c : Requests D F}
    (h : Sequential c) {i : Nat} {pc pc' : RequestPc D F} {stores : Stores D F}
    (hi : c.requests[i]? = some pc)
    (hadv : Coordinator.advance parts deviceId c.stores pc = some (stores, pc')) :
    PhaseOk c.stores pc ∧ c.requests.flatMap owes = owes pc ∧
      (c.requests.set i pc').flatMap owes = owes pc' ∧
      Sequential { stores := stores, requests := c.requests.set i pc' } := by
  obtain ⟨k, hothers, hphase⟩ := h
  obtain rfl : i = k := by
    by_contra hne
    have hret := hothers i pc hne hi
    cases pc with
    | done response => simp [Coordinator.advance] at hadv
    | _ => cases hret
  rw [hi] at hphase
  have hlt : i < c.requests.length := (List.getElem?_eq_some_iff.mp hi).1
  have hset : (c.requests.set i pc')[i]? = some pc' := by simp [hlt]
  have hothers' : ∀ j q, j ≠ i → (c.requests.set i pc')[j]? = some q → q.returned = true :=
    fun j q hj hq => hothers j q hj (by simpa [List.getElem?_set_ne (Ne.symm hj)] using hq)
  refine ⟨hphase, ?_, ?_, i, hothers', ?_⟩
  · exact flatMap_eq_of_others_nil hi fun j q hj hq => owes_of_returned (hothers j q hj hq)
  · exact flatMap_eq_of_others_nil hset fun j q hj hq => owes_of_returned (hothers' j q hj hq)
  · dsimp only
    rw [hset]
    exact PhaseOk.advance hphase hadv

-- ============================================================================
-- The workers
-- ============================================================================

variable [DecidableEq D]

/-- The worker's connection of the device is being closed, or the messages ahead of
    it lead to the record. -/
def Tracks (deviceId : D) (record : Option (DeviceLocationRecord F))
    (owed : List (ServerMessage F)) (w : WorkerState D F P) : Prop :=
  ∀ x, w.registry.current deviceId = some x →
    x.1 ∈ w.closing ∨ LeadsTo D record (w.inbox ++ owed) (heldRecord x)

/-- A message that keeps the connection does to it what `applyControl` says. -/
theorem heldRecord_handleControl {toJson : ServerMessage F → String}
    {r : ConnectionRegistry D String (Location F) P} {deviceId : D} {m : ServerMessage F}
    (hm : closesConnection m = false) {x : UInt64 × String × Location F}
    (hx : (handleControl toJson r (some deviceId) (some m)).1.current deviceId = some x) :
    ∃ y, r.current deviceId = some y ∧ y.1 = x.1 ∧
      applyControl D (some (heldRecord y)) m = some (heldRecord x) := by
  rw [current_handleControl_of_not_closes r deviceId hm] at hx
  cases m with
  | locationUpdated lat lon =>
    dsimp only at hx
    split at hx
    · next l hl =>
      obtain ⟨y, hy, rfl⟩ := Option.map_eq_some_iff.mp hx
      exact ⟨y, hy, rfl, by simp [applyControl, hl, heldRecord]⟩
    · next e he => exact ⟨x, hx, rfl, by simp [applyControl, he]⟩
  | replayComplete n => exact ⟨x, hx, rfl, rfl⟩
  | shardChanged shardPrefix wsUrl => cases hm
  | revoked => cases hm

/-- The first message of the inbox is handled. -/
theorem Tracks.handle {toJson : ServerMessage F → String} {deviceId : D}
    {record : Option (DeviceLocationRecord F)} {owed : List (ServerMessage F)}
    {w w' : WorkerState D F P} (h : Tracks deviceId record owed w)
    (hw : w.handle toJson deviceId 0 = some w') : Tracks deviceId record owed w' := by
  obtain ⟨m, hm, rfl⟩ := WorkerState.handle_eq_some hw
  obtain ⟨rest, hinbox⟩ : ∃ rest, w.inbox = m :: rest := by
    cases hw : w.inbox with
    | nil => simp [hw] at hm
    | cons m' rest => exact ⟨rest, by simpa [hw] using hm⟩
  intro x hx
  dsimp only at hx ⊢
  cases hcloses : closesConnection m with
  | true =>
    left
    obtain ⟨y, hy, hyx⟩ := current_handleControl_eq_some hx
    rw [if_pos rfl, WorkerState.currentId, ConnectionRegistry.currentId_eq, hy]
    simp [hyx]
  | false =>
    obtain ⟨y, hy, hyx, happly⟩ := heldRecord_handleControl hcloses hx
    rw [if_neg Bool.false_ne_true, ← hyx]
    refine (h y hy).imp_right fun hleads => ?_
    rw [hinbox, List.eraseIdx_zero, List.tail_cons]
    unfold LeadsTo at hleads
    rw [hinbox, List.cons_append, List.foldl_cons, happly] at hleads
    exact hleads

theorem Tracks.deregister {deviceId : D} {record : Option (DeviceLocationRecord F)}
    {owed : List (ServerMessage F)} {w : WorkerState D F P} (h : Tracks deviceId record owed w)
    (connId : UInt64) {closing : List UInt64}
    (hclosing : ∀ i ∈ w.closing, i ≠ connId → i ∈ closing) :
    Tracks deviceId record owed { w with
      registry := (w.registry.deregister deviceId connId).1, closing := closing } := by
  intro x hx
  dsimp only at hx
  rw [ConnectionRegistry.current_deregister, Option.filter_eq_some_iff] at hx
  exact (h x hx.1).imp_left fun hold => hclosing x.1 hold (by simpa using hx.2)

/-- The condition on registrations is what keeps the invariant at a connect's step. -/
theorem Tracks.connectStep {deviceId : D} {stores stores' : Stores D F}
    {owed : List (ServerMessage F)} {w : WorkerState D F P} {i : Nat} {pc pc' : ConnectPc F}
    {registry : ConnectionRegistry D String (Location F) P} (hindexed : w.registry.Indexed)
    (h : Tracks deviceId stores.record owed w)
    (hadv : w.advance deviceId stores pc = some (stores', registry, pc'))
    (hok : ∀ auth ∈ pc.registers?,
      LeadsTo D stores.record (w.inbox ++ owed) (authRecord auth)) :
    Tracks deviceId stores'.record owed
      { w with registry := registry, connects := w.connects.set i pc' } := by
  cases hpc : pc.registers? with
  | none =>
    obtain ⟨rfl, -, -, hrecord, -⟩ := WorkerState.advance_of_not_registers hadv hpc
    rw [hrecord]
    exact h
  | some auth =>
    obtain ⟨rfl, rfl⟩ := WorkerState.advance_of_registers hadv hpc
    intro x hx
    dsimp only at hx
    rw [ConnectionRegistry.current_register hindexed] at hx
    obtain rfl := Option.some.inj hx
    exact .inr (hok auth hpc)

-- ============================================================================
-- Runs
-- ============================================================================

/-- The invariant of every run. -/
structure TrackingInv (deviceId : D) (s : Fleet D F P) : Prop where
  sequential : Sequential s.coord
  indexed : ∀ w ∈ s.workers, w.registry.Indexed
  tracks : ∀ w ∈ s.workers,
    Tracks deviceId s.coord.stores.record (s.coord.requests.flatMap owes) w

theorem TrackingInv.request {parts : DeviceServiceParts F} {deviceId : D} {s : Fleet D F P}
    (h : s.TrackingInv deviceId) {label : Requests.Label F} (hscope : s.InScope (.request label))
    {coord : Requests D F} (hcoord : s.coord.step parts deviceId label = some coord) :
    (s.deliver coord).TrackingInv deviceId := by
  -- enough: the messages a connection has ahead of it lead to the new record
  suffices hnew : Sequential coord ∧ ∀ r, LeadsTo D s.coord.stores.record
      (s.coord.requests.flatMap owes) r → LeadsTo D coord.stores.record
        (coord.stores.published.drop s.coord.stores.published.length ++
          coord.requests.flatMap owes) r by
    refine ⟨hnew.1, fun w hw => ?_, fun w hw => ?_⟩
    · obtain ⟨w₀, hw₀, rfl⟩ := List.mem_map.mp hw
      exact h.indexed w₀ hw₀
    · obtain ⟨w₀, hw₀, rfl⟩ := List.mem_map.mp hw
      intro x hx
      refine (h.tracks w₀ hw₀ x hx).imp_right fun hleads => ?_
      rw [List.append_assoc, leadsTo_append]
      exact fun r hr => hnew.2 r ((leadsTo_append _ _ _ _).mp hleads r hr)
  cases label with
  | start request =>
    obtain rfl := by simpa [Requests.step] using hcoord
    cases request with
    | updateLocation lat lon =>
      refine ⟨h.sequential.start hscope lat lon, fun r hr => ?_⟩
      rw [List.drop_length, List.nil_append, List.flatMap_append]
      simpa [owes, RequestPc.start] using hr
    | _ => cases hscope
  | step i =>
    simp only [Requests.step] at hcoord
    split at hcoord
    · cases hcoord
    · next pc hi =>
      obtain ⟨⟨stores, pc'⟩, hadv, rfl⟩ := Option.map_eq_some_iff.mp hcoord
      obtain ⟨hphase, howed, howed', hseq⟩ := h.sequential.advance hi hadv
      refine ⟨hseq, fun r hr => ?_⟩
      rw [howed] at hr
      rw [howed']
      exact leadsTo_advance hphase hadv hr

theorem TrackingInv.step {parts : DeviceServiceParts F} {toJson : ServerMessage F → String}
    {deviceId : D} {s t : Fleet D F P} (h : s.TrackingInv deviceId) {l : Label F}
    (hscope : s.InScope l) (hok : s.RegistersCurrent l)
    (hstep : s.step parts toJson deviceId l = some t) : t.TrackingInv deviceId := by
  cases l with
  | request label =>
    obtain ⟨coord, hcoord, rfl⟩ := Option.map_eq_some_iff.mp hstep
    exact h.request hscope hcoord
  | connect w params =>
    obtain ⟨w₀, w', hw₀, hw', rfl⟩ := onWorker_eq_some.mp hstep
    obtain rfl := Option.some.inj hw'
    have hmem := List.mem_of_getElem? hw₀
    exact ⟨h.sequential, forall_mem_set (h.indexed w₀ hmem) h.indexed,
      forall_mem_set (h.tracks w₀ hmem) h.tracks⟩
  | connectStep w i =>
    obtain ⟨w₀, pc, stores, registry, pc', hw₀, hi, hadv, rfl⟩ := connectStep_eq_some hstep
    have hmem := List.mem_of_getElem? hw₀
    -- a connect changes nothing the requests look at
    have hsame : stores.row = s.coord.stores.row ∧ stores.record = s.coord.stores.record := by
      cases hpc : pc.registers? with
      | none =>
        obtain ⟨-, -, hrow, hrecord, -⟩ := WorkerState.advance_of_not_registers hadv hpc
        exact ⟨hrow, hrecord⟩
      | some auth => simp [(WorkerState.advance_of_registers hadv hpc).1]
    refine ⟨h.sequential.of_stores hsame.1 hsame.2,
      forall_mem_set (WorkerState.indexed_advance (h.indexed w₀ hmem) hadv) h.indexed,
      forall_mem_set ((h.tracks w₀ hmem).connectStep (h.indexed w₀ hmem) hadv
        (hok w₀ hw₀ pc hi)) fun v hv => ?_⟩
    dsimp only
    rw [hsame.2]
    exact h.tracks v hv
  | handle w k =>
    obtain rfl : k = 0 := hscope
    obtain ⟨w₀, w', hw₀, hw', rfl⟩ := onWorker_eq_some.mp hstep
    have hmem := List.mem_of_getElem? hw₀
    refine ⟨h.sequential, forall_mem_set ?_ h.indexed,
      forall_mem_set ((h.tracks w₀ hmem).handle hw') h.tracks⟩
    obtain ⟨m, -, rfl⟩ := WorkerState.handle_eq_some hw'
    exact indexed_handleControl (h.indexed w₀ hmem) _ _
  | teardown w k =>
    obtain ⟨w₀, w', hw₀, hw', rfl⟩ := onWorker_eq_some.mp hstep
    have hmem := List.mem_of_getElem? hw₀
    obtain ⟨connId, hk, rfl⟩ := WorkerState.teardown_eq_some hw'
    exact ⟨h.sequential, forall_mem_set ((h.indexed w₀ hmem).deregister deviceId connId) h.indexed,
      forall_mem_set ((h.tracks w₀ hmem).deregister connId
        (WorkerState.mem_eraseIdx_closing hk)) h.tracks⟩
  | disconnect w connId =>
    obtain ⟨w₀, w', hw₀, hw', rfl⟩ := onWorker_eq_some.mp hstep
    obtain rfl := Option.some.inj hw'
    have hmem := List.mem_of_getElem? hw₀
    exact ⟨h.sequential, forall_mem_set ((h.indexed w₀ hmem).deregister deviceId connId) h.indexed,
      forall_mem_set ((h.tracks w₀ hmem).deregister connId fun _ hi _ => hi) h.tracks⟩

/-- **Workers know where their devices are.**  Take any run of location updates of one
    device one after another, of its connects and of control messages handled in
    order on any workers, from stores whose row and location record agree.  If every
    connection is registered with a record that the control messages still ahead of
    its worker (the one an update in progress has yet to publish included) turn into
    the current record, or that they close, then in every state with nothing
    pending every registered connection of the device has the shard and the location
    of its current record. -/
theorem connections_have_current_location {parts : DeviceServiceParts F}
    {toJson : ServerMessage F → String} {deviceId : D} {stores : Stores D F}
    (hagree : ∀ record ∈ stores.record, ∀ device ∈ stores.row, record = device.record)
    {owned : List (List String)} {labels : List (Label F)} {t : Fleet D F P}
    (hok : Transition.RunOk (step parts toJson deviceId)
      (fun s l => s.InScope l ∧ s.RegistersCurrent l) (initial stores owned : Fleet D F P) labels)
    (hrun : Transition.run (step parts toJson deviceId) (initial stores owned) labels = some t)
    (hq : t.Quiescent) :
    ∀ w ∈ t.workers, ∀ a conn, w.registry.byDevice.get deviceId = some a →
      w.registry.heap[a]? = some conn →
      t.coord.stores.record = some
        { lat := conn.location.lat, lon := conn.location.lon, shardPrefix := conn.shard } := by
  have hinit : TrackingInv deviceId (initial stores owned : Fleet D F P) := by
    refine ⟨⟨0, by simp [initial], hagree⟩, fun w hw => ?_, fun w hw => ?_⟩
    · obtain ⟨prefixes, -, rfl⟩ := List.mem_map.mp hw
      exact .empty
    · obtain ⟨prefixes, -, rfl⟩ := List.mem_map.mp hw
      simp [Tracks, ConnectionRegistry.current]
  have hinv : t.TrackingInv deviceId :=
    Transition.run_invariant (fun _ _ _ h hok hstep => h.step hok.1 hok.2 hstep) hinit hok hrun
  intro w hw a conn ha hconn
  obtain ⟨hinbox, hclosing, -⟩ := hq.2 w hw
  have htracks := hinv.tracks w hw (conn.id, conn.shard, conn.location)
    (ConnectionRegistry.current_eq_some.mpr ⟨a, conn, ha, hconn, rfl⟩)
  rw [hinbox, hclosing, flatMap_owes_of_quiescent hq.1] at htracks
  obtain hmem | hleads := htracks
  · cases hmem
  · exact (leadsTo_nil _ _).mp hleads

/-- The device moves inside its shard and the worker handles the message. -/
def moves : List (Label ℚ) :=
  [.request (.start (.updateLocation 24.87 67.01)), .request (.step 0), .request (.step 0),
   .request (.step 0), .request (.step 0), .handle 0 0]

/-- The device is connected when it moves. -/
def connectThenMove : List (Label ℚ) :=
  authorizes ++ [.connectStep 0 0] ++ moves

theorem connectThenMove_runs :
    (Transition.run (step exampleParts (fun _ => "") 1) exampleStart connectThenMove).isSome =
      true := by
  decide +kernel

theorem connectThenMove_updates_connection :
    ∃ t : Fleet Nat ℚ Unit, Transition.run (step exampleParts (fun _ => "") 1) exampleStart
        connectThenMove = some t ∧
      (∃ w ∈ t.workers, w.registry.byDevice.get 1 = some 0) ∧
      ∀ w ∈ t.workers, ∀ a conn, w.registry.byDevice.get 1 = some a →
        w.registry.heap[a]? = some conn →
        t.coord.stores.record = some
          { lat := conn.location.lat, lon := conn.location.lon, shardPrefix := conn.shard } := by
  have hrun := (Option.some_get connectThenMove_runs).symm
  refine ⟨_, hrun, by decide +kernel, ?_⟩
  exact @connections_have_current_location Nat ℚ Unit _ _ _ exampleParts (fun _ => "") 1
    exampleStart.coord.stores (by decide +kernel) [["tkrt"]] connectThenMove _ (by decide +kernel)
    hrun (by decide +kernel)

/-- The device moves after its connect read the record and before it registers. -/
def moveInsideConnect : List (Label ℚ) :=
  authorizes ++ moves ++ [.connectStep 0 0]

theorem moveInsideConnect_runs :
    (Transition.run (step exampleParts (fun _ => "") 1) exampleStart moveInsideConnect).isSome =
      true := by
  decide +kernel

theorem moveInsideConnect_leaves_old_location :
    ¬∀ (labels : List (Label ℚ)) (t : Fleet Nat ℚ Unit),
      Transition.RunOk (step exampleParts (fun _ => "") 1) InScope exampleStart labels →
      Transition.run (step exampleParts (fun _ => "") 1) exampleStart labels = some t →
      t.Quiescent →
      ∀ w ∈ t.workers, ∀ a ∈ w.registry.byDevice.get 1, ∀ conn ∈ w.registry.heap[a]?,
        t.coord.stores.record = some
          { lat := conn.location.lat, lon := conn.location.lon, shardPrefix := conn.shard } := by
  intro h
  have hrun := (Option.some_get moveInsideConnect_runs).symm
  exact absurd (h moveInsideConnect _ (by decide +kernel) hrun (by decide +kernel))
    (by decide +kernel)

end Fleet
end PulseGrid.System
