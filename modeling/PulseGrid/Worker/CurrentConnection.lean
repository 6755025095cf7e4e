/-
  PulseGrid.Worker.CurrentConnection

  A device's current connection on a worker (its id, shard and location) and what
  each operation of the registry and each control message does to it.
-/

import PulseGrid.Worker.Connect
import PulseGrid.Worker.RegistryLemmas

namespace PulseGrid.Worker

namespace ConnectionRegistry

variable {D S L P : Type*} [DecidableEq D]

/-- The id, shard and location of the device's current connection. -/
def current (r : ConnectionRegistry D S L P) (d : D) : Option (UInt64 × S × L) :=
  (r.byDevice.get d).bind fun a => (r.heap[a]?).map fun c => (c.id, c.shard, c.location)

theorem current_eq_some {r : ConnectionRegistry D S L P} {d : D} {x : UInt64 × S × L} :
    r.current d = some x ↔ ∃ a c, r.byDevice.get d = some a ∧ r.heap[a]? = some c ∧
      (c.id, c.shard, c.location) = x := by
  simp only [current, Option.bind_eq_some_iff, Option.map_eq_some_iff]
  constructor
  · rintro ⟨a, ha, c, hc, rfl⟩
    exact ⟨a, c, ha, hc, rfl⟩
  · rintro ⟨a, c, ha, hc, rfl⟩
    exact ⟨a, ha, c, hc, rfl⟩

theorem currentId_eq (r : ConnectionRegistry D S L P) (d : D) :
    (r.byDevice.get d).bind r.idAt = (r.current d).map Prod.fst := by
  unfold current
  cases r.byDevice.get d with
  | none => rfl
  | some a =>
    simp only [Option.bind_some, idAt, Option.map_map]
    rfl

variable [DecidableEq S]

/-- Under the invariant there is a current connection exactly when the index has one. -/
theorem Indexed.get_eq_none {r : ConnectionRegistry D S L P} (h : r.Indexed) {d : D}
    (hcur : r.current d = none) : r.byDevice.get d = none := by
  cases hd : r.byDevice.get d with
  | none => rfl
  | some a =>
    obtain ⟨c, hc⟩ := h.getElem?_some hd
    simp [current, hd, hc] at hcur

theorem current_register {r : ConnectionRegistry D S L P} (h : r.Indexed) (d : D) (s : S) (l : L) :
    (r.register d s l).1.current d = some (r.nextId + 1, s, l) := by
  refine current_eq_some.mpr ⟨r.heap.length, r.newConnection s l, ?_, ?_, rfl⟩
  · rw [register_byDevice_get, if_pos rfl]
  · exact register_getElem?_length (h.valid d) s l

/-- `deregister` leaves the current connection alone unless it has this id. -/
theorem current_deregister (r : ConnectionRegistry D S L P) (d : D) (connId : UInt64) :
    (r.deregister d connId).1.current d =
      (r.current d).filter fun x => x.1 != connId := by
  by_cases hcur : ∃ a, r.byDevice.get d = some a ∧ r.idAt a = some connId
  · obtain ⟨a, ha, hid⟩ := hcur
    obtain ⟨c, hc, hcid⟩ := idAt_eq_some.mp hid
    simp [current, (deregister_current ha hid).2, ha, hc, hcid, Option.filter]
  · rw [deregister_of_ne fun a ha hid => hcur ⟨a, ha, hid⟩]
    cases hx : r.current d with
    | none => rfl
    | some x =>
      obtain ⟨a, c, ha, hc, rfl⟩ := current_eq_some.mp hx
      have hne : c.id ≠ connId := fun hid => hcur ⟨a, ha, idAt_eq_some.mpr ⟨c, hc, hid⟩⟩
      simp [Option.filter, hne]

omit [DecidableEq S] in
theorem current_updateLocation (r : ConnectionRegistry D S L P) (d : D) (l : L) :
    (r.updateLocation d l).1.current d = (r.current d).map fun x => (x.1, x.2.1, l) := by
  unfold updateLocation
  cases hd : r.byDevice.get d with
  | none => simp [current, hd]
  | some a =>
    have hget : (r.modifyConn a fun c => { c with location := l }).byDevice.get d = some a := hd
    simp only [current, hget, hd, Option.bind_some]
    cases hc : r.heap[a]? <;> simp [modifyConn, hc]

/-- A closing control frame leaves the current connection or drops it. -/
theorem current_sendControl_close (r : ConnectionRegistry D S L P) (d : D) (text : String) :
    (r.sendControl d text true).1.current d = r.current d ∨
      (r.sendControl d text true).1.current d = none := by
  unfold sendControl
  cases hd : r.byDevice.get d with
  | none => exact .inl rfl
  | some a =>
    cases hc : r.heap[a]? with
    | none => simp [hc]
    | some conn =>
      cases hsend : conn.channel.trySend (.control text true) with
      | ok c' =>
        left
        simp [hc, hsend, current, hd, offerTo, modifyConn]
      | error e =>
        right
        simp only [hc, hsend, if_true]
        rw [current_deregister]
        simp [current, hd, hc, Option.filter]

end ConnectionRegistry

variable {D F P : Type} [CommRing F] [LinearOrder F] [DecidableEq D]

open Coordinator

/-- A message that makes the worker close the connection. -/
def closesConnection : ServerMessage F → Bool
  | .shardChanged _ _ | .revoked => true
  | _ => false

theorem indexed_handleControl {toJson : ServerMessage F → String}
    {r : ConnectionRegistry D String (Location F) P} (h : r.Indexed) (d? : Option D)
    (m? : Option (ServerMessage F)) : (handleControl toJson r d? m?).1.Indexed := by
  unfold Worker.handleControl
  split
  · exact h
  · exact h
  · next d m =>
    cases m with
    | locationUpdated lat lon =>
      dsimp only
      split
      · exact h.updateLocation d _
      · exact h
    | shardChanged shardPrefix wsUrl => exact h.sendControl d _ true
    | revoked => exact h.sendControl d _ true
    | replayComplete n => exact h

/-- A message that closes leaves the current connection or drops it. -/
theorem current_handleControl_of_closes {toJson : ServerMessage F → String}
    (r : ConnectionRegistry D String (Location F) P) (d : D) {m : ServerMessage F}
    (hm : closesConnection m = true) :
    (handleControl toJson r (some d) (some m)).1.current d = r.current d ∨
      (handleControl toJson r (some d) (some m)).1.current d = none := by
  cases m with
  | shardChanged shardPrefix wsUrl => exact r.current_sendControl_close d _
  | revoked => exact r.current_sendControl_close d _
  | locationUpdated lat lon => cases hm
  | replayComplete n => cases hm

/-- Any other message keeps the id and shard of the current connection. -/
theorem current_handleControl_of_not_closes {toJson : ServerMessage F → String}
    (r : ConnectionRegistry D String (Location F) P) (d : D) {m : ServerMessage F}
    (hm : closesConnection m = false) :
    (handleControl toJson r (some d) (some m)).1.current d =
      match m with
      | .locationUpdated lat lon => match Location.new (D := D) lat lon with
        | .ok l => (r.current d).map fun x => (x.1, x.2.1, l)
        | .error _ => r.current d
      | _ => r.current d := by
  cases m with
  | shardChanged shardPrefix wsUrl => cases hm
  | revoked => cases hm
  | locationUpdated lat lon =>
    simp only [Worker.handleControl]
    cases Location.new (D := D) lat lon with
    | ok l => exact r.current_updateLocation d l
    | error e => rfl
  | replayComplete n => rfl

/-- No control message makes another connection the current one. -/
theorem current_handleControl_eq_some {toJson : ServerMessage F → String}
    {r : ConnectionRegistry D String (Location F) P} {d : D} {m : ServerMessage F}
    {x : UInt64 × String × Location F}
    (hx : (handleControl toJson r (some d) (some m)).1.current d = some x) :
    ∃ y, r.current d = some y ∧ y.1 = x.1 := by
  cases hm : closesConnection m with
  | true =>
    rcases current_handleControl_of_closes r d hm with heq | hnone
    · rw [heq] at hx
      exact ⟨x, hx, rfl⟩
    · rw [hnone] at hx
      cases hx
  | false =>
    rw [current_handleControl_of_not_closes r d hm] at hx
    cases m with
    | locationUpdated lat lon =>
      dsimp only at hx
      split at hx
      · obtain ⟨y, hy, rfl⟩ := Option.map_eq_some_iff.mp hx
        exact ⟨y, hy, rfl⟩
      · exact ⟨x, hx, rfl⟩
    | shardChanged shardPrefix wsUrl => cases hm
    | revoked => cases hm
    | replayComplete n => exact ⟨x, hx, rfl⟩

namespace WorkerState

theorem handle_eq_some {toJson : ServerMessage F → String} {deviceId : D}
    {w w' : WorkerState D F P} {k : Nat} (h : w.handle toJson deviceId k = some w') :
    ∃ m, w.inbox[k]? = some m ∧
      w' = { w with
        registry := (handleControl toJson w.registry (some deviceId) (some m)).1
        inbox := w.inbox.eraseIdx k
        closing := if closesConnection m then w.closing ++ (w.currentId deviceId).toList
          else w.closing } := by
  unfold WorkerState.handle at h
  split at h
  · cases h
  · next m hm =>
    obtain rfl := Option.some.inj h
    exact ⟨m, hm, by cases m <;> rfl⟩

theorem teardown_eq_some {deviceId : D} {w w' : WorkerState D F P} {k : Nat}
    (h : w.teardown deviceId k = some w') :
    ∃ connId, w.closing[k]? = some connId ∧
      w' = { w with
        registry := (w.registry.deregister deviceId connId).1
        closing := w.closing.eraseIdx k } := by
  unfold WorkerState.teardown at h
  split at h
  · cases h
  · next connId hk =>
    obtain rfl := Option.some.inj h
    exact ⟨connId, hk, rfl⟩

omit [DecidableEq D] in
/-- The clean-up of one connection leaves the others that are being closed. -/
theorem mem_eraseIdx_closing {w : WorkerState D F P} {k : Nat} {connId : UInt64}
    (hk : w.closing[k]? = some connId) : ∀ i ∈ w.closing, i ≠ connId → i ∈ w.closing.eraseIdx k := by
  intro i hi hne
  obtain ⟨j, hj⟩ := List.mem_iff_getElem?.mp hi
  refine List.mem_eraseIdx_iff_getElem?.mpr ⟨j, ?_, hj⟩
  rintro rfl
  exact hne (by simpa [hk] using hj.symm)

/-- Unless a connect registers, it changes neither registry nor what its device's
    requests wrote. -/
theorem advance_of_not_registers {deviceId : D} {stores stores' : Stores D F}
    {w : WorkerState D F P} {registry : ConnectionRegistry D String (Location F) P}
    {pc pc' : ConnectPc F} (h : w.advance deviceId stores pc = some (stores', registry, pc'))
    (hpc : pc.registers? = none) :
    registry = w.registry ∧ stores'.revoked = stores.revoked ∧ stores'.row = stores.row ∧
      stores'.record = stores.record ∧ stores'.published = stores.published := by
  cases pc with
  | consume params =>
    simp only [WorkerState.advance] at h
    split at h
    · obtain ⟨rfl, rfl, -⟩ := by simpa using h
      exact ⟨rfl, rfl, rfl, rfl, rfl⟩
    · split at h <;>
      · obtain ⟨rfl, rfl, -⟩ := by simpa using h
        exact ⟨rfl, rfl, rfl, rfl, rfl⟩
  | register auth => cases hpc
  | connected connId => simp [WorkerState.advance] at h
  | rejected rejection => simp [WorkerState.advance] at h
  | _ =>
    obtain ⟨rfl, rfl, -⟩ := by simpa [WorkerState.advance] using h
    exact ⟨rfl, rfl, rfl, rfl, rfl⟩

theorem advance_of_registers {deviceId : D} {stores stores' : Stores D F}
    {w : WorkerState D F P} {registry : ConnectionRegistry D String (Location F) P}
    {pc pc' : ConnectPc F} (h : w.advance deviceId stores pc = some (stores', registry, pc'))
    {auth : Authorized F} (hpc : pc.registers? = some auth) :
    stores' = stores ∧
      registry = (w.registry.register deviceId auth.shardPrefix auth.location).1 := by
  cases pc with
  | register auth' =>
    obtain rfl : auth' = auth := by simpa [ConnectPc.registers?] using hpc
    obtain ⟨rfl, rfl, -⟩ := by simpa [WorkerState.advance] using h
    exact ⟨rfl, rfl⟩
  | _ => cases hpc

theorem indexed_advance {deviceId : D} {stores stores' : Stores D F} {w : WorkerState D F P}
    {registry : ConnectionRegistry D String (Location F) P} {pc pc' : ConnectPc F}
    (h : w.registry.Indexed)
    (hadv : w.advance deviceId stores pc = some (stores', registry, pc')) : registry.Indexed := by
  cases hpc : pc.registers? with
  | none =>
    obtain ⟨rfl, -⟩ := advance_of_not_registers hadv hpc
    exact h
  | some auth =>
    obtain ⟨-, rfl⟩ := advance_of_registers hadv hpc
    exact h.register deviceId _ _

end WorkerState
end PulseGrid.Worker
