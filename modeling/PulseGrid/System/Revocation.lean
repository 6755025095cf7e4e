/-
  PulseGrid.System.Revocation

  Does a revocation close the device's connections?

  A worker acts on the `Revoked` message only if it holds the device's connection
  at that moment, and a connect that passed the revocation check registers later.
  `revoked_device_is_not_connected` says when no connection of a revoked device
  stays: if every registration that happens while the key is present still has a
  `Revoked` message ahead of it.
-/

import PulseGrid.System.Fleet
import PulseGrid.Worker.CurrentConnection
import PulseGrid.Lib.TaskPool

namespace PulseGrid.System

open Coordinator Worker TaskPool

variable {D F P : Type} [CommRing F] [LinearOrder F]

/-- A request that has written the revocation key and not yet published `Revoked`. -/
def announces : RequestPc D F → Bool
  | .revokeNotify | .deleteRow | .deleteRecord _ | .deleteNotify _ => true
  | _ => false

namespace Fleet

/-- What a connect's next step asks of the fleet: a connection is registered while
    the device is not revoked, or while some request has yet to publish `Revoked`,
    or while the worker has yet to handle one. -/
def RevocationOk (s : Fleet D F P) : Label F → Prop
  | .connectStep w i => ∀ worker ∈ s.workers[w]?, ∀ pc ∈ worker.connects[i]?,
      pc.registers?.isSome = true → s.coord.stores.revoked = false ∨
        (∃ request ∈ s.coord.requests, announces request = true) ∨
        ServerMessage.revoked ∈ worker.inbox
  | _ => True

instance (s : Fleet D F P) : DecidablePred s.RevocationOk
  | .connectStep w i => inferInstanceAs (Decidable (∀ worker ∈ s.workers[w]?,
      ∀ pc ∈ worker.connects[i]?, pc.registers?.isSome = true → s.coord.stores.revoked = false ∨
        (∃ request ∈ s.coord.requests, announces request = true) ∨
        ServerMessage.revoked ∈ worker.inbox))
  | .request _ | .connect _ _ | .handle _ _ | .teardown _ _ | .disconnect _ _ =>
      inferInstanceAs (Decidable True)

variable [DecidableEq D]

/-- While the device is revoked, a request is going to publish `Revoked`, or the
    worker is going to handle one, or the worker's connection of the device is
    being closed. -/
def Covered (deviceId : D) (coord : Requests D F) (w : WorkerState D F P) : Prop :=
  coord.stores.revoked = true →
    SomeTask coord.requests (fun request => announces request = true) ∨
      ServerMessage.revoked ∈ w.inbox ∨
      ∀ x, w.registry.current deviceId = some x → x.1 ∈ w.closing

/-- The invariant of every run. -/
def RevocationInv (deviceId : D) (s : Fleet D F P) : Prop :=
  ∀ w ∈ s.workers, w.registry.Indexed ∧ Covered deviceId s.coord w

-- ============================================================================
-- The coordinators
-- ============================================================================

omit [DecidableEq D] in
/-- After a step of a request on a revoked device, some request is going to publish
    `Revoked`, as before, or has just done so. -/
theorem announces_advance {parts : DeviceServiceParts F} {deviceId : D} {s : Requests D F} {i : Nat}
    {pc pc' : RequestPc D F} {stores : Stores D F} (hi : s.requests[i]? = some pc)
    (hadv : advance parts deviceId s.stores pc = some (stores, pc'))
    (hrevoked : stores.revoked = true) :
    SomeTask (s.requests.set i pc') (fun request => announces request = true) ∨
      ServerMessage.revoked ∈ stores.published.drop s.stores.published.length ∨
      (s.stores.revoked = true ∧
        ¬SomeTask s.requests (fun request => announces request = true)) := by
  rw [someTask_set hi, someTask_iff hi]
  by_cases hother : OtherTask s.requests i (fun request => announces request = true)
  · exact .inl (.inr hother)
  · cases pc with
    | revokeKey =>
      obtain ⟨rfl, rfl⟩ := by simpa [advance] using hadv
      exact .inl (.inl rfl)
    | deleteKey =>
      obtain ⟨rfl, rfl⟩ := by simpa [advance] using hadv
      exact .inl (.inl rfl)
    | deleteRow =>
      obtain ⟨rfl, rfl⟩ := by simpa [advance] using hadv
      exact .inl (.inl rfl)
    | deleteRecord existed =>
      obtain ⟨rfl, rfl⟩ := by simpa [advance] using hadv
      exact .inl (.inl rfl)
    | revokeNotify =>
      obtain ⟨rfl, -⟩ := by simpa [advance] using hadv
      exact .inr (.inl (by simp))
    | deleteNotify existed =>
      obtain ⟨rfl, -⟩ := by simpa [advance] using hadv
      exact .inr (.inl (by simp))
    | updateRow device new moved shardChanged =>
      simp only [advance] at hadv
      split at hadv <;>
      · obtain ⟨rfl, -⟩ := by simpa using hadv
        exact .inr (.inr ⟨hrevoked, fun h => h.elim Bool.false_ne_true hother⟩)
    | done response => simp [advance] at hadv
    | _ =>
      obtain ⟨rfl, -⟩ := by simpa [advance] using hadv
      exact .inr (.inr ⟨hrevoked, fun h => h.elim Bool.false_ne_true hother⟩)

theorem Covered.request {parts : DeviceServiceParts F} {deviceId : D} {coord coord' : Requests D F}
    {label : Requests.Label F} {w : WorkerState D F P} (h : Covered deviceId coord w)
    (hstep : coord.step parts deviceId label = some coord') :
    Covered deviceId coord' { w with
      inbox := w.inbox ++ coord'.stores.published.drop coord.stores.published.length } := by
  intro hrevoked
  cases label with
  | start request =>
    obtain rfl := by simpa [Requests.step] using hstep
    obtain hsome | hinbox | hclosing := h hrevoked
    · exact .inl ((someTask_append _ _ _).mpr (.inl hsome))
    · exact .inr (.inl (List.mem_append_left _ hinbox))
    · exact .inr (.inr hclosing)
  | step i =>
    simp only [Requests.step] at hstep
    split at hstep
    · cases hstep
    · next pc hi =>
      obtain ⟨⟨stores, pc'⟩, hadv, rfl⟩ := Option.map_eq_some_iff.mp hstep
      obtain hsome | hpub | ⟨hold, hnone⟩ := announces_advance hi hadv hrevoked
      · exact .inl hsome
      · exact .inr (.inl (List.mem_append_right _ hpub))
      · obtain hsome | hinbox | hclosing := h hold
        · exact absurd hsome hnone
        · exact .inr (.inl (List.mem_append_left _ hinbox))
        · exact .inr (.inr hclosing)

-- ============================================================================
-- The workers
-- ============================================================================

/-- A handled `Revoked` message makes the worker close the current connection. -/
theorem Covered.handle {toJson : ServerMessage F → String} {deviceId : D} {coord : Requests D F}
    {w w' : WorkerState D F P} {k : Nat} (h : Covered deviceId coord w)
    (hw : w.handle toJson deviceId k = some w') : Covered deviceId coord w' := by
  obtain ⟨m, hm, rfl⟩ := WorkerState.handle_eq_some hw
  intro hrevoked
  obtain hsome | hinbox | hclosing := h hrevoked
  · exact .inl hsome
  · by_cases hmr : m = .revoked
    · -- this is the message: the current connection is being closed from now on
      subst hmr
      refine .inr (.inr fun x hx => ?_)
      obtain ⟨y, hy, hyx⟩ := current_handleControl_eq_some hx
      refine List.mem_append_right _ ?_
      rw [WorkerState.currentId, ConnectionRegistry.currentId_eq, hy]
      simp [hyx]
    · refine .inr (.inl ?_)
      obtain ⟨j, hj⟩ := List.mem_iff_getElem?.mp hinbox
      refine List.mem_eraseIdx_iff_getElem?.mpr ⟨j, ?_, hj⟩
      rintro rfl
      exact hmr (by simpa [hm] using hj)
  · refine .inr (.inr fun x hx => ?_)
    obtain ⟨y, hy, hyx⟩ := current_handleControl_eq_some hx
    have hold : x.1 ∈ w.closing := hyx ▸ hclosing y hy
    dsimp only
    split
    · exact List.mem_append_left _ hold
    · exact hold

/-- A deregistered connection is no longer current, and every other one that is being
    closed still is. -/
theorem Covered.deregister {deviceId : D} {coord : Requests D F} {w : WorkerState D F P}
    (h : Covered deviceId coord w) (connId : UInt64) {closing : List UInt64}
    (hclosing : ∀ i ∈ w.closing, i ≠ connId → i ∈ closing) :
    Covered deviceId coord { w with
      registry := (w.registry.deregister deviceId connId).1, closing := closing } := by
  intro hrevoked
  refine (h hrevoked).imp_right (Or.imp_right fun hold x hx => ?_)
  dsimp only at hx
  rw [ConnectionRegistry.current_deregister, Option.filter_eq_some_iff] at hx
  exact hclosing x.1 (hold x hx.1) (by simpa using hx.2)

theorem Covered.teardown {deviceId : D} {coord : Requests D F} {w w' : WorkerState D F P} {k : Nat}
    (h : Covered deviceId coord w) (hw : w.teardown deviceId k = some w') :
    Covered deviceId coord w' := by
  obtain ⟨connId, hk, rfl⟩ := WorkerState.teardown_eq_some hw
  exact h.deregister connId (WorkerState.mem_eraseIdx_closing hk)

/-- The condition on registrations is what keeps the invariant at a connect's step. -/
theorem Covered.connectStep {deviceId : D} {coord : Requests D F} {stores : Stores D F}
    {w : WorkerState D F P} {i : Nat} {pc pc' : ConnectPc F}
    {registry : ConnectionRegistry D String (Location F) P} (h : Covered deviceId coord w)
    (hadv : w.advance deviceId coord.stores pc = some (stores, registry, pc'))
    (hok : pc.registers?.isSome = true → coord.stores.revoked = false ∨
      (∃ request ∈ coord.requests, announces request = true) ∨ ServerMessage.revoked ∈ w.inbox) :
    Covered deviceId { coord with stores := stores }
      { w with registry := registry, connects := w.connects.set i pc' } := by
  intro hrevoked
  cases hpc : pc.registers? with
  | none =>
    obtain ⟨rfl, hsame, -⟩ := WorkerState.advance_of_not_registers hadv hpc
    exact h (hsame ▸ hrevoked)
  | some auth =>
    obtain ⟨rfl, -⟩ := WorkerState.advance_of_registers hadv hpc
    obtain hfree | hsome | hinbox := hok (by simp [hpc])
    · exact absurd hrevoked (by simp [hfree])
    · exact .inl hsome
    · exact .inr (.inl hinbox)

-- ============================================================================
-- Runs
-- ============================================================================

theorem RevocationInv.step {parts : DeviceServiceParts F} {toJson : ServerMessage F → String}
    {deviceId : D} {s t : Fleet D F P} (h : s.RevocationInv deviceId) {l : Label F}
    (hok : s.RevocationOk l) (hstep : s.step parts toJson deviceId l = some t) :
    t.RevocationInv deviceId := by
  cases l with
  | request label =>
    obtain ⟨coord, hcoord, rfl⟩ := Option.map_eq_some_iff.mp hstep
    intro w hw
    obtain ⟨w₀, hw₀, rfl⟩ := List.mem_map.mp hw
    exact ⟨(h w₀ hw₀).1, (h w₀ hw₀).2.request hcoord⟩
  | connect w params =>
    obtain ⟨w₀, w', hw₀, hw', rfl⟩ := onWorker_eq_some.mp hstep
    obtain rfl := Option.some.inj hw'
    exact forall_mem_set (h w₀ (List.mem_of_getElem? hw₀)) h
  | connectStep w i =>
    obtain ⟨w₀, pc, stores, registry, pc', hw₀, hi, hadv, rfl⟩ := connectStep_eq_some hstep
    obtain ⟨hindexed, hcovered⟩ := h w₀ (List.mem_of_getElem? hw₀)
    refine forall_mem_set ⟨WorkerState.indexed_advance hindexed hadv,
      hcovered.connectStep hadv (hok w₀ hw₀ pc hi)⟩ fun v hv => ⟨(h v hv).1, ?_⟩
    -- the other workers see only that a ticket is gone
    have hsame : stores.revoked = s.coord.stores.revoked := by
      cases hpc : pc.registers? with
      | none => exact (WorkerState.advance_of_not_registers hadv hpc).2.1
      | some auth => rw [(WorkerState.advance_of_registers hadv hpc).1]
    exact fun hrevoked => (h v hv).2 (hsame ▸ hrevoked)
  | handle w k =>
    obtain ⟨w₀, w', hw₀, hw', rfl⟩ := onWorker_eq_some.mp hstep
    obtain ⟨hindexed, hcovered⟩ := h w₀ (List.mem_of_getElem? hw₀)
    refine forall_mem_set ⟨?_, hcovered.handle hw'⟩ h
    obtain ⟨m, -, rfl⟩ := WorkerState.handle_eq_some hw'
    exact indexed_handleControl hindexed _ _
  | teardown w k =>
    obtain ⟨w₀, w', hw₀, hw', rfl⟩ := onWorker_eq_some.mp hstep
    obtain ⟨hindexed, hcovered⟩ := h w₀ (List.mem_of_getElem? hw₀)
    refine forall_mem_set ⟨?_, hcovered.teardown hw'⟩ h
    obtain ⟨connId, -, rfl⟩ := WorkerState.teardown_eq_some hw'
    exact hindexed.deregister deviceId connId
  | disconnect w connId =>
    obtain ⟨w₀, w', hw₀, hw', rfl⟩ := onWorker_eq_some.mp hstep
    obtain rfl := Option.some.inj hw'
    obtain ⟨hindexed, hcovered⟩ := h w₀ (List.mem_of_getElem? hw₀)
    exact forall_mem_set ⟨hindexed.deregister deviceId connId,
      hcovered.deregister connId fun _ hi _ => hi⟩ h

/-- **A revocation closes the device's connections.**  Take any run of requests about
    a device, of its connects and of control messages on any workers, in which a
    connection is registered only while the revocation key is absent, or some
    request has yet to publish `Revoked`, or the worker has yet to handle it.  In
    every state of it with nothing pending, if the key is present then no worker
    holds a connection of the device. -/
theorem revoked_device_is_not_connected {parts : DeviceServiceParts F}
    {toJson : ServerMessage F → String} {deviceId : D} {stores : Stores D F}
    {owned : List (List String)} {labels : List (Label F)} {t : Fleet D F P}
    (hok : Transition.RunOk (step parts toJson deviceId) RevocationOk
      (initial stores owned : Fleet D F P) labels)
    (hrun : Transition.run (step parts toJson deviceId) (initial stores owned) labels = some t)
    (hq : t.Quiescent) (hrevoked : t.coord.stores.revoked = true) :
    ∀ w ∈ t.workers, w.registry.byDevice.get deviceId = none ∧
      ∀ shard, w.registry.byShard.getIn shard deviceId = none := by
  have hinit : RevocationInv deviceId (initial stores owned : Fleet D F P) := by
    intro w hw
    obtain ⟨prefixes, -, rfl⟩ := List.mem_map.mp hw
    exact ⟨.empty, fun _ => .inr (.inr (by simp [ConnectionRegistry.current]))⟩
  have hinv : t.RevocationInv deviceId :=
    Transition.run_invariant (fun _ _ _ h hok hstep => h.step hok hstep) hinit hok hrun
  intro w hw
  obtain ⟨hindexed, hcovered⟩ := hinv w hw
  obtain ⟨hinbox, hclosing, -⟩ := hq.2 w hw
  have hget : w.registry.byDevice.get deviceId = none := by
    refine hindexed.get_eq_none ?_
    obtain ⟨pc, hpc, hann⟩ | hmem | hcur := hcovered hrevoked
    · have hret := hq.1 pc hpc
      cases pc <;> simp_all [RequestPc.returned, announces]
    · simp [hinbox] at hmem
    · cases hx : w.registry.current deviceId with
      | none => rfl
      | some x => simpa [hclosing] using hcur x hx
  refine ⟨hget, fun shard => ?_⟩
  cases hin : w.registry.byShard.getIn shard deviceId with
  | none => rfl
  | some a => simpa [hget] using (hindexed.agree shard deviceId a).mp hin

/-- The device is revoked and the worker handles the message. -/
def revokes : List (Label ℚ) :=
  [.request (.start .revoke), .request (.step 0), .request (.step 0), .request (.step 0),
   .handle 0 0]

/-- The device is connected when it is revoked; the closed connection is cleaned up. -/
def connectThenRevoke : List (Label ℚ) :=
  authorizes ++ [.connectStep 0 0] ++ revokes ++ [.teardown 0 0]

theorem connectThenRevoke_runs :
    (Transition.run (step exampleParts (fun _ => "") 1) exampleStart connectThenRevoke).isSome =
      true := by
  decide +kernel

theorem connectThenRevoke_disconnects :
    ∃ t : Fleet Nat ℚ Unit, Transition.run (step exampleParts (fun _ => "") 1) exampleStart
        connectThenRevoke = some t ∧
      t.coord.stores.revoked = true ∧
      ∀ w ∈ t.workers, w.registry.byDevice.get 1 = none ∧
        ∀ shard, w.registry.byShard.getIn shard 1 = none := by
  have hrun := (Option.some_get connectThenRevoke_runs).symm
  refine ⟨_, hrun, by decide +kernel, ?_⟩
  exact @revoked_device_is_not_connected Nat ℚ Unit _ _ _ exampleParts (fun _ => "") 1
    exampleStart.coord.stores [["tkrt"]] connectThenRevoke _ (by decide +kernel) hrun
    (by decide +kernel) (by decide +kernel)

/-- The device is revoked after its connect passed the check and before it registers. -/
def revokeInsideConnect : List (Label ℚ) :=
  authorizes ++ revokes ++ [.connectStep 0 0]

theorem revokeInsideConnect_runs :
    (Transition.run (step exampleParts (fun _ => "") 1) exampleStart revokeInsideConnect).isSome =
      true := by
  decide +kernel

theorem revokeInsideConnect_leaves_connection :
    ¬∀ (labels : List (Label ℚ)) (t : Fleet Nat ℚ Unit),
      Transition.run (step exampleParts (fun _ => "") 1) exampleStart labels = some t →
      t.Quiescent → t.coord.stores.revoked = true →
      ∀ w ∈ t.workers, w.registry.byDevice.get 1 = none := by
  intro h
  have hrun := (Option.some_get revokeInsideConnect_runs).symm
  exact absurd (h revokeInsideConnect _ hrun (by decide +kernel) (by decide +kernel))
    (by decide +kernel)

end Fleet
end PulseGrid.System
