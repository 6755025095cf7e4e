/-
  PulseGrid.Coordinator.ShardChangeReport

  `DeviceService::update_location` (crates/api-coordinator/src/services/device_service.rs)
  called again and again for one device, one call at a time, where any store command may
  fail without effect.

  The row is written before the location record.  A call that fails in between leaves the
  device's row in the new shard without having told anyone, and a retry with the same
  coordinates finds that the device has not moved.  `shardChange_reported_iff` says when
  every successful call reports the change of shard since the last successful one.
-/

import PulseGrid.Coordinator.DeviceService

namespace PulseGrid.Coordinator

variable {D F : Type} [CommRing F] [LinearOrder F]

-- ============================================================================
-- One call
-- ============================================================================

/-- Which store commands of a call fail. -/
structure UpdateFaults where
  /-- `repo.find_by_id`. -/
  find : Bool := false
  /-- `repo.update_location`. -/
  updateRow : Bool := false
  /-- `locations.set`. -/
  publishLocation : Bool := false
  /-- `shards.lookup_shard`. -/
  lookupShard : Bool := false
  /-- `nats.publish_control`. -/
  notify : Bool := false
deriving DecidableEq, Repr

inductive UpdateError (D F : Type) where
  | app (error : AppError D F)
  /-- `AppError::Database`. -/
  | database
  /-- `AppError::Cache`. -/
  | cache
deriving DecidableEq

/-- `notify_device`, which never fails the request. -/
def notifyDevice (s : Stores D F) (faults : UpdateFaults) (message : ServerMessage F) :
    Stores D F :=
  if faults.notify then s else { s with published := s.published ++ [message] }

/-- What follows once the row and the record are written. -/
def reportUpdate (s : Stores D F) (faults : UpdateFaults) (device : Device D F)
    (new : Location F) (moved shardChanged : Bool) : Stores D F × LocationUpdate :=
  if shardChanged then
    let wsUrl := if faults.lookupShard then none else s.shards.get device.shardPrefix
    (notifyDevice s faults (.shardChanged device.shardPrefix wsUrl),
      { shardPrefix := device.shardPrefix, shardChanged := true, wsUrl := wsUrl })
  else
    (if moved then notifyDevice s faults (.locationUpdated new.lat new.lon) else s,
      { shardPrefix := device.shardPrefix, shardChanged := false, wsUrl := none })

/-- `update_location`. -/
def updateLocation (parts : DeviceServiceParts F) (deviceId : D) (s : Stores D F) (lat lon : F)
    (faults : UpdateFaults) : Stores D F × Except (UpdateError D F) LocationUpdate :=
  if faults.find then (s, .error .database) else
  match s.row with
  | none => (s, .error (.app (.deviceNotFound deviceId)))
  | some row => match planUpdate parts row lat lon with
    | .error e => (s, .error (.app e))
    | .ok (device, new, moved, shardChanged) =>
        if faults.updateRow then (s, .error .database)
        else if faults.publishLocation then ({ s with row := some device }, .error .cache)
        else
          let (s, update) := reportUpdate { s with row := some device, record := some device.record }
            faults device new moved shardChanged
          (s, .ok update)

/-- The response of a request that ended like this. -/
def UpdateError.response : Except (UpdateError D F) LocationUpdate → Option (Response D F)
  | .ok update => some (.located update)
  | .error (.app e) => some (.failed e)
  | .error _ => none

/-- Without a fault the call does what the request does command by command. -/
theorem updateLocation_eq_request (parts : DeviceServiceParts F) (deviceId : D) (s : Stores D F)
    (lat lon : F) :
    ∃ n response,
      Transition.run (Requests.step parts deviceId)
        { stores := s, requests := [.start (.updateLocation lat lon)] }
        (List.replicate n (.step 0)) =
          some { stores := (updateLocation parts deviceId s lat lon {}).1
                 requests := [.done response] } ∧
      UpdateError.response (updateLocation parts deviceId s lat lon {}).2 = some response := by
  cases hrow : s.row with
  | none =>
      refine ⟨1, .failed (.deviceNotFound deviceId), ?_, ?_⟩
      · simp [Transition.run, Requests.step, RequestPc.start, advance, updateLocation, hrow]
      · simp [updateLocation, hrow, UpdateError.response]
  | some row =>
      cases hplan : planUpdate parts row lat lon with
      | error e =>
          refine ⟨1, .failed e, ?_, ?_⟩
          · simp [Transition.run, Requests.step, RequestPc.start, advance, updateLocation, hrow,
              hplan]
          · simp [updateLocation, hrow, hplan, UpdateError.response]
      | ok plan =>
          obtain ⟨device, new, moved, shardChanged⟩ := plan
          cases shardChanged with
          | true =>
              refine ⟨5, _, ?_, by simp [updateLocation, hrow, hplan, UpdateError.response]; rfl⟩
              simp [Transition.run, Requests.step, RequestPc.start, advance, updateLocation, hrow,
                hplan, afterRecord, reportUpdate, notifyDevice]
          | false =>
              cases moved with
              | true =>
                  refine ⟨4, _, ?_, by simp [updateLocation, hrow, hplan, UpdateError.response]; rfl⟩
                  simp [Transition.run, Requests.step, RequestPc.start, advance, updateLocation,
                    hrow, hplan, afterRecord, reportUpdate, notifyDevice]
              | false =>
                  refine ⟨3, _, ?_, by simp [updateLocation, hrow, hplan, UpdateError.response]; rfl⟩
                  simp [Transition.run, Requests.step, RequestPc.start, advance, updateLocation,
                    hrow, hplan, afterRecord, reportUpdate]

theorem planUpdate_eq_ok {parts : DeviceServiceParts F} {row device : Device D F} {lat lon : F}
    {new : Location F} {moved shardChanged : Bool}
    (h : planUpdate parts row lat lon = .ok (device, new, moved, shardChanged)) :
    Location.new (D := D) lat lon = .ok new ∧
    ((new = row.location ∧ device.shardPrefix = row.shardPrefix ∧ shardChanged = false) ∨
      (new ≠ row.location ∧ ∃ hash, encodeLocation (D := D) parts.geo new = .ok hash ∧
        device.shardPrefix = shardPrefixOf hash ∧
        shardChanged = (shardPrefixOf hash != row.shardPrefix))) := by
  unfold planUpdate at h
  cases hnew : Location.new (D := D) lat lon with
  | error e => simp [hnew, bind, Except.bind] at h
  | ok location =>
      simp only [hnew, bind, Except.bind] at h
      split at h
      · next hsame =>
        cases h
        exact ⟨rfl, .inl ⟨hsame, rfl, rfl⟩⟩
      · next hmoved =>
        unfold Device.updateLocation at h
        cases hhash : encodeLocation (D := D) parts.geo location with
        | error e => simp [hhash, bind, Except.bind] at h
        | ok hash =>
            simp only [hhash, bind, Except.bind] at h
            cases h
            exact ⟨rfl, .inr ⟨hmoved, hash, hhash, rfl, rfl⟩⟩

/-- A plan for every location that is accepted and can be encoded if it is new. -/
theorem exists_planUpdate {parts : DeviceServiceParts F} {row : Device D F} {lat lon : F}
    {new : Location F} (hnew : Location.new (D := D) lat lon = .ok new)
    (hencode : new ≠ row.location → ∃ hash, encodeLocation (D := D) parts.geo new = .ok hash) :
    ∃ device moved shardChanged,
      planUpdate parts row lat lon = .ok (device, new, moved, shardChanged) := by
  unfold planUpdate
  simp only [hnew, bind, Except.bind]
  by_cases hsame : new = row.location
  · exact ⟨row, false, false, if_pos hsame⟩
  · obtain ⟨hash, hhash⟩ := hencode hsame
    rw [if_neg hsame]
    simp only [Device.updateLocation, hhash, bind, Except.bind]
    exact ⟨_, true, _, rfl⟩

theorem reportUpdate_snd (s : Stores D F) (faults : UpdateFaults) (device : Device D F)
    (new : Location F) (moved shardChanged : Bool) :
    (reportUpdate s faults device new moved shardChanged).2.shardPrefix = device.shardPrefix ∧
      (reportUpdate s faults device new moved shardChanged).2.shardChanged = shardChanged := by
  cases shardChanged <;> exact ⟨rfl, rfl⟩

-- ============================================================================
-- A sequence of calls
-- ============================================================================

structure UpdateCall (F : Type) where
  lat : F
  lon : F
  faults : UpdateFaults := {}
deriving DecidableEq

/-- The stores between two calls, and the shard prefix that the last successful call, or
    the registration, returned. -/
structure UpdateRun (D F : Type) [CommRing F] [LinearOrder F] where
  stores : Stores D F
  reported : String

namespace UpdateRun

/-- After the registration of a device. -/
def registered (stores : Stores D F) (device : Device D F) : UpdateRun D F where
  stores := { stores with row := some device, record := some device.record }
  reported := device.shardPrefix

/-- The next call. -/
def step (parts : DeviceServiceParts F) (deviceId : D) (s : UpdateRun D F) (c : UpdateCall F) :
    Option (UpdateRun D F) :=
  match updateLocation parts deviceId s.stores c.lat c.lon c.faults with
  | (stores, .ok update) => some { stores := stores, reported := update.shardPrefix }
  | (stores, .error _) => some { stores := stores, reported := s.reported }

/-- If the call succeeds, it says whether the shard is another one than was last
    reported. -/
def ReportsChange (parts : DeviceServiceParts F) (deviceId : D) (s : UpdateRun D F)
    (c : UpdateCall F) : Prop :=
  ∀ update, (updateLocation parts deviceId s.stores c.lat c.lon c.faults).2 = .ok update →
    (update.shardChanged = true ↔ update.shardPrefix ≠ s.reported)

/-- Before a call that no fault stops, the row is in the shard that was last reported, or
    the call takes the device away from the row's location into a shard that is neither
    the row's nor the one last reported. -/
def RowReported (parts : DeviceServiceParts F) (s : UpdateRun D F) (c : UpdateCall F) : Prop :=
  c.faults.find = false → c.faults.updateRow = false → c.faults.publishLocation = false →
    ∀ row, s.stores.row = some row → ∀ new, Location.new (D := D) c.lat c.lon = .ok new →
      (new = row.location → row.shardPrefix = s.reported) ∧
      (new ≠ row.location → ∀ hash, encodeLocation (D := D) parts.geo new = .ok hash →
        row.shardPrefix = s.reported ∨
          (shardPrefixOf hash ≠ row.shardPrefix ∧ shardPrefixOf hash ≠ s.reported))

/-- What a successful call returns. -/
theorem updateLocation_eq_ok {parts : DeviceServiceParts F} {deviceId : D} {s : Stores D F}
    {lat lon : F} {faults : UpdateFaults} {update : LocationUpdate}
    (h : (updateLocation parts deviceId s lat lon faults).2 = .ok update) :
    (faults.find = false ∧ faults.updateRow = false ∧ faults.publishLocation = false) ∧
    ∃ row device new moved, s.row = some row ∧
      planUpdate parts row lat lon = .ok (device, new, moved, update.shardChanged) ∧
      update.shardPrefix = device.shardPrefix := by
  unfold updateLocation at h
  split at h
  · cases h
  · next hfind =>
    split at h
    · cases h
    · next row hrow =>
      split at h
      · cases h
      · next device new moved shardChanged hplan =>
        split at h
        · cases h
        · next hupdate =>
          split at h
          · cases h
          · next hpublish =>
            obtain rfl := Except.ok.inj h
            have hreport := reportUpdate_snd
              { s with row := some device, record := some device.record } faults device new
              moved shardChanged
            refine ⟨⟨by simpa using hfind, by simpa using hupdate, by simpa using hpublish⟩,
              row, device, new, moved, hrow, ?_, hreport.1⟩
            rw [hreport.2]
            exact hplan

/-- A call that no fault stops, with a plan, succeeds. -/
theorem updateLocation_of_plan {parts : DeviceServiceParts F} (deviceId : D) {s : Stores D F}
    {lat lon : F} {faults : UpdateFaults} (hfind : faults.find = false)
    (hupdate : faults.updateRow = false) (hpublish : faults.publishLocation = false)
    {row device : Device D F} {new : Location F} {moved shardChanged : Bool}
    (hrow : s.row = some row)
    (hplan : planUpdate parts row lat lon = .ok (device, new, moved, shardChanged)) :
    ∃ update, (updateLocation parts deviceId s lat lon faults).2 = .ok update ∧
      update.shardPrefix = device.shardPrefix ∧ update.shardChanged = shardChanged := by
  refine ⟨_, ?_, reportUpdate_snd { s with row := some device, record := some device.record }
    faults device new moved shardChanged⟩
  simp [updateLocation, hfind, hupdate, hpublish, hrow, hplan]

theorem reportsChange_iff (parts : DeviceServiceParts F) (deviceId : D) (s : UpdateRun D F)
    (c : UpdateCall F) : ReportsChange parts deviceId s c ↔ RowReported parts s c := by
  constructor
  · intro h hfind hupdate hpublish row hrow new hnew
    -- a call that goes through reports against the row's shard, not the reported one
    have hreport : ∀ device moved shardChanged,
        planUpdate parts row c.lat c.lon = .ok (device, new, moved, shardChanged) →
        (shardChanged = true ↔ device.shardPrefix ≠ s.reported) := by
      intro device moved shardChanged hplan
      obtain ⟨update, hok, hshard, hchanged⟩ :=
        updateLocation_of_plan deviceId hfind hupdate hpublish hrow hplan
      rw [← hshard, ← hchanged]
      exact h update hok
    refine ⟨fun hsame => ?_, fun hmoved hash hhash => ?_⟩
    · obtain ⟨device, moved, shardChanged, hplan⟩ :=
        exists_planUpdate hnew fun hne => absurd hsame hne
      rcases (planUpdate_eq_ok hplan).2 with ⟨-, hshard, hchanged⟩ | ⟨hne, -⟩
      · have hiff := hreport device moved shardChanged hplan
        rw [hshard, hchanged] at hiff
        simpa using hiff
      · exact absurd hsame hne
    · obtain ⟨device, moved, shardChanged, hplan⟩ : ∃ device moved shardChanged,
          planUpdate parts row c.lat c.lon = .ok (device, new, moved, shardChanged) :=
        exists_planUpdate hnew fun _ => ⟨hash, hhash⟩
      rcases (planUpdate_eq_ok hplan).2 with ⟨hsame, -⟩ | ⟨-, hash', hhash', hshard, hchanged⟩
      · exact absurd hsame hmoved
      · obtain rfl := Except.ok.inj (hhash.symm.trans hhash')
        have hiff := hreport device moved shardChanged hplan
        rw [hshard, hchanged, bne_iff_ne] at hiff
        by_cases hrowPrefix : row.shardPrefix = s.reported
        · exact .inl hrowPrefix
        · right
          by_cases hstays : shardPrefixOf hash = row.shardPrefix
          · have hback : shardPrefixOf hash = s.reported := by
              by_contra hne
              exact hiff.mpr hne hstays
            exact absurd (hstays.symm.trans hback) hrowPrefix
          · exact ⟨hstays, hiff.mp hstays⟩
  · intro h update hok
    obtain ⟨⟨hfind, hupdate, hpublish⟩, row, device, new, moved, hrow, hplan, hshard⟩ :=
      updateLocation_eq_ok hok
    obtain ⟨hnew, hcases⟩ := planUpdate_eq_ok hplan
    have hrowReported := h hfind hupdate hpublish row hrow new hnew
    rw [hshard]
    rcases hcases with ⟨hsame, hdevice, hchanged⟩ | ⟨hmoved, hash, hhash, hdevice, hchanged⟩
    · rw [hdevice, hchanged, hrowReported.1 hsame]
      simp
    · rw [hdevice, hchanged, bne_iff_ne]
      rcases hrowReported.2 hmoved hash hhash with hsame | ⟨hrowNe, hrepNe⟩
      · rw [hsame]
      · exact iff_of_true hrowNe hrepNe

/-- After any registration and any calls, every successful call reports a change of shard
    exactly when there was one since the last successful call, if and only if before each
    call the row was in order. -/
theorem shardChange_reported_iff (parts : DeviceServiceParts F) (deviceId : D)
    (stores : Stores D F) (device : Device D F) (calls : List (UpdateCall F)) :
    Transition.RunOk (step parts deviceId) (ReportsChange parts deviceId)
        (registered stores device) calls ↔
      Transition.RunOk (step parts deviceId) (RowReported parts) (registered stores device)
        calls := by
  have hsame : ReportsChange parts deviceId = RowReported parts := by
    funext s c
    exact propext (reportsChange_iff parts deviceId s c)
  rw [hsame]

-- ============================================================================
-- Calls that do not fail between the row and the record
-- ============================================================================

/-- The row is in the shard that was last reported. -/
def InOrder (s : UpdateRun D F) : Prop :=
  ∀ row, s.stores.row = some row → row.shardPrefix = s.reported

theorem notifyDevice_row (s : Stores D F) (faults : UpdateFaults) (message : ServerMessage F) :
    (notifyDevice s faults message).row = s.row := by
  unfold notifyDevice
  split <;> rfl

theorem reportUpdate_row (s : Stores D F) (faults : UpdateFaults) (device : Device D F)
    (new : Location F) (moved shardChanged : Bool) :
    (reportUpdate s faults device new moved shardChanged).1.row = s.row := by
  unfold reportUpdate
  split
  · exact notifyDevice_row _ _ _
  · split
    · exact notifyDevice_row _ _ _
    · rfl

/-- Where a call leaves the row if the record can be written. -/
theorem updateLocation_row {parts : DeviceServiceParts F} {deviceId : D} {s : Stores D F}
    {lat lon : F} {faults : UpdateFaults} (hpublish : faults.publishLocation = false) :
    (∃ e, updateLocation parts deviceId s lat lon faults = (s, .error e)) ∨
    ∃ stores update device, updateLocation parts deviceId s lat lon faults = (stores, .ok update) ∧
      stores.row = some device ∧ update.shardPrefix = device.shardPrefix := by
  unfold updateLocation
  split
  · exact .inl ⟨_, rfl⟩
  · split
    · exact .inl ⟨_, rfl⟩
    · split
      · exact .inl ⟨_, rfl⟩
      · next device new moved shardChanged hplan =>
        split
        · exact .inl ⟨_, rfl⟩
        · rw [if_neg (by simp [hpublish])]
          exact .inr ⟨_, _, device, rfl, reportUpdate_row _ _ _ _ _ _,
            (reportUpdate_snd _ _ _ _ _ _).1⟩

theorem InOrder.step {parts : DeviceServiceParts F} {deviceId : D} {s t : UpdateRun D F}
    {c : UpdateCall F} (h : s.InOrder) (hpublish : c.faults.publishLocation = false)
    (hstep : step parts deviceId s c = some t) : t.InOrder := by
  unfold UpdateRun.step at hstep
  have hrows := @updateLocation_row D F _ _ parts deviceId s.stores c.lat c.lon c.faults hpublish
  rcases hrows with ⟨e, hcall⟩ | ⟨stores, update, device, hcall, hrow, hshard⟩
  · rw [hcall] at hstep
    cases hstep
    exact h
  · rw [hcall] at hstep
    cases hstep
    intro row hrow'
    obtain rfl := Option.some.inj (hrow.symm.trans hrow')
    exact hshard.symm

theorem InOrder.rowReported {parts : DeviceServiceParts F} {s : UpdateRun D F} (h : s.InOrder)
    (c : UpdateCall F) : RowReported parts s c := by
  intro _ _ _ row hrow new _
  exact ⟨fun _ => h row hrow, fun _ _ _ => .inl (h row hrow)⟩

theorem inOrder_registered (stores : Stores D F) (device : Device D F) :
    (registered stores device).InOrder := by
  intro row hrow
  cases hrow
  rfl

/-- If the record can be written whenever the row was, every change of shard is
    reported. -/
theorem shardChange_reported_of_published (parts : DeviceServiceParts F) (deviceId : D)
    (stores : Stores D F) (device : Device D F) {calls : List (UpdateCall F)}
    (hpublish : ∀ c ∈ calls, c.faults.publishLocation = false) :
    Transition.RunOk (step parts deviceId) (ReportsChange parts deviceId)
      (registered stores device) calls := by
  have hok : Transition.RunOk (step parts deviceId)
      (fun _ c => c.faults.publishLocation = false) (registered stores device) calls :=
    Transition.runOk_of_forall_mem hpublish
  have hpres : ∀ (s : UpdateRun D F) (c : UpdateCall F) t, s.InOrder →
      c.faults.publishLocation = false → step parts deviceId s c = some t → t.InOrder :=
    fun _ _ _ h hpublish hstep => h.step hpublish hstep
  refine Transition.runOk_of_invariant hpres (fun s c h _ => ?_)
    (inOrder_registered stores device) hok
  exact (reportsChange_iff parts deviceId s c).mpr (h.rowReported c)

-- ============================================================================
-- A retry
-- ============================================================================

/-- The device moves from `tkrt` to `tkrv`. -/
def moveEast : UpdateCall ℚ where
  lat := 24.86
  lon := 67.4

/-- The same while Redis cannot be written. -/
def moveEastWithoutRedis : UpdateCall ℚ where
  lat := 24.86
  lon := 67.4
  faults := { publishLocation := true }

theorem moveEastWithoutRedis_runs :
    (step exampleParts 1 (registered {} exampleDevice) moveEastWithoutRedis).isSome = true := by
  decide +kernel

/-- The retry answers that the device is in `tkrv` and that its shard has not changed. -/
theorem retry_hides_shardChange :
    ¬∀ (parts : DeviceServiceParts ℚ) (deviceId : Nat) (stores : Stores Nat ℚ)
      (device : Device Nat ℚ) (calls : List (UpdateCall ℚ)),
      Transition.RunOk (step parts deviceId) (ReportsChange parts deviceId)
        (registered stores device) calls := by
  intro h
  have hrun := h exampleParts 1 {} exampleDevice [moveEastWithoutRedis, moveEast]
  have hfirst := (Option.some_get moveEastWithoutRedis_runs).symm
  have hretry := (Transition.runOk_cons hrun hfirst).2.1
    { shardPrefix := "tkrv", shardChanged := false, wsUrl := none }
    (by decide +kernel)
  exact absurd hretry (by decide +kernel)

end UpdateRun

end PulseGrid.Coordinator
