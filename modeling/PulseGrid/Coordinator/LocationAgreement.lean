/-
  PulseGrid.Coordinator.LocationAgreement

  Do Postgres and Redis agree on where a device is?

  Requests write the location record from a copy of the row they read earlier, so
  a stale copy can be written back.  `location_stores_agree_when_quiescent` says
  when they do agree: if no request writes a record that contradicts the row while
  no other request is about to write the right one.
-/

import PulseGrid.Coordinator.DeviceService
import PulseGrid.Lib.TaskPool

namespace PulseGrid.Coordinator

open TaskPool

variable {D F : Type} [CommRing F] [LinearOrder F]

/-- What the device's location record should be: the row's, or none. -/
def Stores.expected (s : Stores D F) : Option (DeviceLocationRecord F) :=
  s.row.map Device.record

namespace RequestPc

/-- The location record the request's next command writes (`some none`: it deletes
    the record). -/
def writes? : RequestPc D F → Option (Option (DeviceLocationRecord F))
  | updateRecord device _ _ _ | heartbeatRecord device | ticketRecord _ device =>
      some (some device.record)
  | deleteRecord _ => some none
  | _ => none

/-- The location record the request is going to write without touching the row
    before. -/
def pending? : RequestPc D F → Option (Option (DeviceLocationRecord F))
  | updateRecord device _ _ _ | heartbeatTouch device | heartbeatRecord device
  | ticketRecord _ device => some (some device.record)
  | deleteRecord _ => some none
  | _ => none

end RequestPc

namespace Requests

/-- Whether request `i` may take its next step: a write of the location record
    agrees with the row, or another request in progress holds one that does and is going
    to write it. -/
def StepOk (s : Requests D F) : Label F → Prop
  | .start _ => True
  | .step i => ∀ pc ∈ s.requests[i]?, ∀ v ∈ pc.writes?,
      v = s.stores.expected ∨
        ∃ other ∈ s.requests.eraseIdx i, other.pending? = some s.stores.expected

instance (s : Requests D F) : DecidablePred s.StepOk
  | .start _ => inferInstanceAs (Decidable True)
  | .step i => inferInstanceAs (Decidable (∀ pc ∈ s.requests[i]?, ∀ v ∈ pc.writes?,
      v = s.stores.expected ∨
        ∃ other ∈ s.requests.eraseIdx i, other.pending? = some s.stores.expected))

/-- The record is the row's, or some request in progress will make it so. -/
def Settling (s : Requests D F) : Prop :=
  s.stores.record = s.stores.expected ∨
    ∃ pc ∈ s.requests, pc.pending? = some s.stores.expected

/-- A step that leaves row and record alone, and what the request is going to write. -/
theorem Settling.keep {s : Requests D F} (h : s.Settling) {i : Nat} {pc pc' : RequestPc D F}
    (hi : s.requests[i]? = some pc) {stores : Stores D F} (hrow : stores.row = s.stores.row)
    (hrecord : stores.record = s.stores.record)
    (hpending : pc.pending? = some s.stores.expected → pc'.pending? = pc.pending?) :
    Settling { stores := stores, requests := s.requests.set i pc' } := by
  have hexp : stores.expected = s.stores.expected := by rw [Stores.expected, hrow, Stores.expected]
  obtain hagree | hsome := h
  · exact .inl (by rw [hrecord, hexp, hagree])
  · refine .inr ((someTask_set hi pc' _).mpr ?_)
    rw [hexp]
    exact ((someTask_iff hi _).mp hsome).imp_left fun hpc => (hpending hpc).trans hpc

/-- A write of the location record. -/
theorem Settling.write {s : Requests D F} {i : Nat} {pc pc' : RequestPc D F}
    (hi : s.requests[i]? = some pc) (hok : s.StepOk (.step i)) {v : Option (DeviceLocationRecord F)}
    (hv : pc.writes? = some v) {stores : Stores D F} (hrow : stores.row = s.stores.row)
    (hrecord : stores.record = v) :
    Settling { stores := stores, requests := s.requests.set i pc' } := by
  have hexp : stores.expected = s.stores.expected := by rw [Stores.expected, hrow, Stores.expected]
  obtain heq | hother := hok pc hi v hv
  · exact .inl (by rw [hrecord, heq, hexp])
  · refine .inr ((someTask_set hi pc' _).mpr (.inr ?_))
    rw [hexp]
    exact (otherTask_iff_mem_eraseIdx _ _ _).mpr hother

/-- A write of the row, after which the request is going to write the same location. -/
theorem Settling.of_row {s : Requests D F} {i : Nat} {pc pc' : RequestPc D F}
    (hi : s.requests[i]? = some pc) {stores : Stores D F}
    (hpending : pc'.pending? = some stores.expected) :
    Settling { stores := stores, requests := s.requests.set i pc' } :=
  .inr ((someTask_set hi pc' _).mpr (.inl hpending))

theorem Settling.advance {parts : DeviceServiceParts F} {deviceId : D} {s : Requests D F}
    (h : s.Settling) {i : Nat} {pc pc' : RequestPc D F} {stores : Stores D F}
    (hi : s.requests[i]? = some pc) (hok : s.StepOk (.step i))
    (hadv : Coordinator.advance parts deviceId s.stores pc = some (stores, pc')) :
    Settling { stores := stores, requests := s.requests.set i pc' } := by
  cases pc with
  | updateRow device new moved shardChanged =>
    simp only [Coordinator.advance] at hadv
    split at hadv
    · obtain ⟨rfl, rfl⟩ := by simpa using hadv
      exact h.keep hi rfl rfl (by simp [RequestPc.pending?])
    · obtain ⟨rfl, rfl⟩ := by simpa using hadv
      exact .of_row hi rfl
  | deleteRow =>
    obtain ⟨rfl, rfl⟩ := by simpa [Coordinator.advance] using hadv
    exact .of_row hi rfl
  | updateRecord device new moved shardChanged =>
    obtain ⟨rfl, -⟩ := by simpa [Coordinator.advance] using hadv
    exact .write hi hok rfl rfl rfl
  | heartbeatRecord device =>
    obtain ⟨rfl, -⟩ := by simpa [Coordinator.advance] using hadv
    exact .write hi hok rfl rfl rfl
  | ticketRecord ticket device =>
    obtain ⟨rfl, -⟩ := by simpa [Coordinator.advance] using hadv
    exact .write hi hok rfl rfl rfl
  | deleteRecord existed =>
    obtain ⟨rfl, -⟩ := by simpa [Coordinator.advance] using hadv
    exact .write hi hok rfl rfl rfl
  | heartbeatTouch device =>
    obtain ⟨rfl, rfl⟩ := by simpa [Coordinator.advance] using hadv
    refine h.keep hi rfl rfl fun hpending => ?_
    -- the row exists, since the request's copy is what it holds
    cases hrow : s.stores.row with
    | none => simp [RequestPc.pending?, Stores.expected, hrow] at hpending
    | some device' => rfl
  | done response => simp [Coordinator.advance] at hadv
  | _ =>
    obtain ⟨rfl, -⟩ := by simpa [Coordinator.advance] using hadv
    exact h.keep hi rfl rfl (by simp [RequestPc.pending?])

theorem Settling.step {parts : DeviceServiceParts F} {deviceId : D} {s t : Requests D F}
    (h : s.Settling) {l : Label F} (hok : s.StepOk l)
    (hstep : s.step parts deviceId l = some t) : t.Settling := by
  cases l with
  | start request =>
    obtain rfl := by simpa [Requests.step] using hstep
    exact h.imp_right fun ⟨pc, hpc, hv⟩ => ⟨pc, List.mem_append_left _ hpc, hv⟩
  | step i =>
    simp only [Requests.step] at hstep
    split at hstep
    · cases hstep
    · next pc hi =>
      obtain ⟨⟨stores, pc'⟩, hadv, rfl⟩ := Option.map_eq_some_iff.mp hstep
      exact h.advance hi hok hadv

/-- **Postgres and Redis agree.**  Take any run of concurrent requests about one
    device from a state in which its row and its location record agree, in which
    every write of the record agrees with the row at that moment, or happens while
    another request in progress is going to write a record that does.  In every
    state of it without a request in progress, the record holds exactly the row's
    latitude, longitude and shard prefix, and there is none if there is no row. -/
theorem location_stores_agree_when_quiescent {parts : DeviceServiceParts F} {deviceId : D}
    {stores : Stores D F} (hinit : stores.record = stores.row.map Device.record)
    {labels : List (Label F)} {t : Requests D F}
    (hok : Transition.RunOk (Requests.step parts deviceId) StepOk
      { stores := stores, requests := [] } labels)
    (hrun : Transition.run (Requests.step parts deviceId) { stores := stores, requests := [] }
      labels = some t)
    (hq : t.Quiescent) : t.stores.record = t.stores.row.map Device.record := by
  have hsettling : t.Settling :=
    Transition.run_invariant (fun _ _ _ h hok hstep => h.step hok hstep) (.inl hinit) hok hrun
  obtain hagree | ⟨pc, hpc, hpending⟩ := hsettling
  · exact hagree
  · have hret := hq pc hpc
    cases pc <;> simp_all [RequestPc.returned, RequestPc.pending?]

/-- The device, registered. -/
def exampleStart : Requests Nat ℚ where
  stores := { row := some exampleDevice, record := some exampleDevice.record }

/-- The device moves inside its shard and sends a heartbeat afterwards. -/
def moveThenHeartbeat : List (Label ℚ) :=
  [.start (.updateLocation 24.87 67.01), .step 0, .step 0, .step 0, .step 0, .start .heartbeat,
   .step 1, .step 1, .step 1]

theorem moveThenHeartbeat_runs :
    (Transition.run (Requests.step exampleParts 1) exampleStart moveThenHeartbeat).isSome = true := by
  decide +kernel

theorem location_stores_agree_after_moveThenHeartbeat :
    ∃ t : Requests Nat ℚ, Transition.run (Requests.step exampleParts 1) exampleStart
        moveThenHeartbeat = some t ∧
      t.stores.record = some ⟨24.87, 67.01, "tkrt"⟩ ∧
      t.stores.record = t.stores.row.map Device.record := by
  have hrun := (Option.some_get moveThenHeartbeat_runs).symm
  refine ⟨_, hrun, by decide +kernel, ?_⟩
  exact @location_stores_agree_when_quiescent Nat ℚ _ _ exampleParts 1 exampleStart.stores
    (by decide +kernel) moveThenHeartbeat _ (by decide +kernel) hrun (by decide +kernel)

/-- A heartbeat reads the row, the device moves, and the heartbeat writes the old
    location back. -/
def moveInsideHeartbeat : List (Label ℚ) :=
  [.start .heartbeat, .step 0, .step 0, .start (.updateLocation 24.87 67.01), .step 1, .step 1,
   .step 1, .step 1, .step 0]

theorem moveInsideHeartbeat_runs :
    (Transition.run (Requests.step exampleParts 1) exampleStart moveInsideHeartbeat).isSome =
      true := by
  decide +kernel

theorem moveInsideHeartbeat_leaves_stale_record :
    ¬∀ (labels : List (Label ℚ)) (t : Requests Nat ℚ),
      Transition.run (Requests.step exampleParts 1) exampleStart labels = some t →
      t.Quiescent → t.stores.record = t.stores.row.map Device.record := by
  intro h
  have hrun := (Option.some_get moveInsideHeartbeat_runs).symm
  exact absurd (h moveInsideHeartbeat _ hrun (by decide +kernel)) (by decide +kernel)

end Requests
end PulseGrid.Coordinator
