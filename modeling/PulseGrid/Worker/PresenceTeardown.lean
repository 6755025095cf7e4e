/-
  PulseGrid.Worker.PresenceTeardown

  The presence record of one device: its connections on any workers set it up and tear
  it down (`handle_socket` in crates/fanout-worker/src/ws.rs, `PresenceRegistry` in
  crates/infra/src/redis.rs), one step at a time.

  A teardown deletes the record after it has found its own connection current and the
  record to be its worker's.  Both can change before the delete.  In a run in which no
  later connection writes the record in that window, no teardown deletes a later
  connection's record (`teardown_spares_later`).
-/

import PulseGrid.Worker.CurrentConnection
import PulseGrid.Lib.TaskPool
import PulseGrid.Lib.Transition

namespace PulseGrid.Worker

open TaskPool

-- ============================================================================
-- Lifecycles
-- ============================================================================

/-- The next step of a connection's `handle_socket` that concerns presence. -/
inductive LifecyclePc where
  /-- `presence.register`. -/
  | register
  /-- `registry.deregister`, once the connection ends. -/
  | connected
  /-- `presence.lookup`. -/
  | lookup
  /-- `presence.deregister`. -/
  | deregister
  | closed
deriving DecidableEq, Repr

/-- A connection of the device on a worker. -/
structure Lifecycle (W : Type) where
  worker : W
  connId : UInt64
  pc : LifecyclePc
deriving DecidableEq

/-- The value of `presence:<device_id>`, and which connection wrote it. -/
structure PresenceRecord where
  workerInstanceId : String
  writer : Nat
deriving DecidableEq, Repr

/-- The workers' registries, the record, and the connections in the order of their
    `registry.register`. -/
structure PresenceState (W D L P : Type) where
  registry : W → ConnectionRegistry D String L P := fun _ => {}
  record : Option PresenceRecord := none
  lifecycles : List (Lifecycle W) := []
  /-- For each record a teardown deleted, the connection torn down and the one that
      wrote the record. -/
  deleted : List (Nat × Nat) := []

namespace PresenceState

variable {W D L P : Type}

inductive Label (W L : Type) where
  /-- `registry.register` of a new connection. -/
  | connect (worker : W) (shardPrefix : String) (location : L)
  /-- The next step of connection `i`; a Redis command fails if not `ok`. -/
  | step (i : Nat) (ok : Bool)
  /-- The record expires. -/
  | expire
deriving DecidableEq

/-- Connection `i` goes on to `pc`. -/
def goto (s : PresenceState W D L P) (i : Nat) (c : Lifecycle W) (pc : LifecyclePc) :
    PresenceState W D L P :=
  { s with lifecycles := s.lifecycles.set i { c with pc := pc } }

variable {s t : PresenceState W D L P}

theorem getElem?_goto {i : Nat} {c : Lifecycle W} (hi : s.lifecycles[i]? = some c)
    (pc : LifecyclePc) (j : Nat) :
    (s.goto i c pc).lifecycles[j]? =
      if j = i then some { c with pc := pc } else s.lifecycles[j]? := by
  have hlt : i < s.lifecycles.length := (List.getElem?_eq_some_iff.mp hi).1
  rw [goto, List.getElem?_set]
  by_cases hj : j = i
  · rw [if_pos hj, if_pos hj.symm, if_pos hlt]
  · rw [if_neg hj, if_neg (Ne.symm hj)]

/-- A connection after the step, in terms of the one before it. -/
theorem exists_of_goto {i : Nat} {c : Lifecycle W} (hi : s.lifecycles[i]? = some c)
    {pc : LifecyclePc} {j : Nat} {e : Lifecycle W}
    (hj : (s.goto i c pc).lifecycles[j]? = some e) :
    ∃ e₀, s.lifecycles[j]? = some e₀ ∧ e.worker = e₀.worker ∧ e.connId = e₀.connId ∧
      (e.pc = e₀.pc ∨ j = i ∧ e.pc = pc) := by
  rw [getElem?_goto hi] at hj
  split at hj
  · next hji =>
    subst hji
    cases hj
    exact ⟨c, hi, rfl, rfl, .inr ⟨rfl, rfl⟩⟩
  · exact ⟨e, hj, rfl, rfl, .inl rfl⟩

/-- A worker's registry changes. -/
def setRegistry [DecidableEq W] (s : PresenceState W D L P) (worker : W)
    (registry : ConnectionRegistry D String L P) : PresenceState W D L P :=
  { s with registry := Function.update s.registry worker registry }

theorem setRegistry_registry [DecidableEq W] (s : PresenceState W D L P) (w v : W)
    (registry : ConnectionRegistry D String L P) :
    (s.setRegistry w registry).registry v = if v = w then registry else s.registry v := by
  show Function.update s.registry w registry v = _
  rw [Function.update_apply]

variable [DecidableEq D]

/-- The next step of connection `i`; `none` when it has ended. -/
def advance [DecidableEq W] (instanceId : W → String) (deviceId : D)
    (s : PresenceState W D L P) (i : Nat) (ok : Bool) (c : Lifecycle W) :
    Option (PresenceState W D L P) :=
  match c.pc with
  | .register =>
      let record := { workerInstanceId := instanceId c.worker, writer := i }
      some ({ s with record := if ok then some record else s.record }.goto i c .connected)
  | .connected =>
      let deregistered := (s.registry c.worker).deregister deviceId c.connId
      some ((s.setRegistry c.worker deregistered.1).goto i c
        (if deregistered.2 then .lookup else .closed))
  | .lookup =>
      let owner := if ok then s.record.map (·.workerInstanceId) else none
      some (s.goto i c (if owner = some (instanceId c.worker) then .deregister else .closed))
  | .deregister =>
      if ok then
        let deleted := s.record.toList.map fun record => (i, record.writer)
        some ({ s with record := none, deleted := s.deleted ++ deleted }.goto i c .closed)
      else some (s.goto i c .closed)
  | .closed => none

def step [DecidableEq W] (instanceId : W → String) (deviceId : D) (s : PresenceState W D L P) :
    Label W L → Option (PresenceState W D L P)
  | .connect worker shardPrefix location =>
      let registered := (s.registry worker).register deviceId shardPrefix location
      some { s.setRegistry worker registered.1 with
        lifecycles := s.lifecycles ++
          [{ worker := worker, connId := registered.2.connId, pc := .register }] }
  | .step i ok => match s.lifecycles[i]? with
      | none => none
      | some c => advance instanceId deviceId s i ok c
  | .expire => some { s with record := none }

/-- A `presence.register` does not come while an earlier connection is about to delete the
    record, nor, on the same worker, while it has been found current and is about to look
    the record up.  Connection ids do not wrap around. -/
def StepOk (s : PresenceState W D L P) : Label W L → Prop
  | .connect worker _ _ => (s.registry worker).nextId.toNat + 1 < 2 ^ 64
  | .step k _ => ∀ c ∈ s.lifecycles[k]?, c.pc = .register → ∀ e ∈ s.lifecycles.take k,
      e.pc ≠ .deregister ∧ (e.worker = c.worker → e.pc ≠ .lookup)
  | .expire => True

instance [DecidableEq W] (s : PresenceState W D L P) :
    (label : Label W L) → Decidable (s.StepOk label)
  | .connect worker _ _ =>
      inferInstanceAs (Decidable ((s.registry worker).nextId.toNat + 1 < 2 ^ 64))
  | .step k _ => inferInstanceAs (Decidable (∀ c ∈ s.lifecycles[k]?, c.pc = .register →
      ∀ e ∈ s.lifecycles.take k, e.pc ≠ .deregister ∧ (e.worker = c.worker → e.pc ≠ .lookup)))
  | .expire => isTrue trivial

/-- Every record a teardown deleted was written by its own connection or an earlier one. -/
def SparesLater (s : PresenceState W D L P) : Prop := ∀ x ∈ s.deleted, ¬ x.1 < x.2

instance (s : PresenceState W D L P) : Decidable s.SparesLater :=
  inferInstanceAs (Decidable (∀ x ∈ s.deleted, ¬ x.1 < x.2))

-- ============================================================================
-- The invariant
-- ============================================================================

structure Inv (instanceId : W → String) (deviceId : D) (s : PresenceState W D L P) : Prop where
  indexed : ∀ w, (s.registry w).Indexed
  /-- A worker's current connection is the last one it registered. -/
  current : ∀ w x, (s.registry w).current deviceId = some x → x.1 = (s.registry w).nextId
  connId_le : ∀ (i : Nat) c, s.lifecycles[i]? = some c →
    c.connId.toNat ≤ (s.registry c.worker).nextId.toNat
  connId_lt : ∀ (i j : Nat) c e, i < j → s.lifecycles[i]? = some c → s.lifecycles[j]? = some e →
    c.worker = e.worker → c.connId.toNat < e.connId.toNat
  writer : ∀ r, s.record = some r → ∃ c, s.lifecycles[r.writer]? = some c ∧
    r.workerInstanceId = instanceId c.worker
  /-- What a connection that was found current is going to look up. -/
  lookup : ∀ (i : Nat) c r e, s.lifecycles[i]? = some c → c.pc = .lookup → s.record = some r →
    s.lifecycles[r.writer]? = some e → i < r.writer → e.worker ≠ c.worker
  /-- What a connection is going to delete. -/
  deregister : ∀ (i : Nat) c r, s.lifecycles[i]? = some c → c.pc = .deregister →
    s.record = some r → r.writer ≤ i
  deleted : s.SparesLater

theorem Inv.initial (instanceId : W → String) (deviceId : D) :
    Inv instanceId deviceId ({} : PresenceState W D L P) where
  indexed _ := .empty
  current w x h := by
    simp [ConnectionRegistry.current] at h
  connId_le i c h := by simp at h
  connId_lt i j c e _ h := by simp at h
  writer r h := by cases h
  lookup i c r e h := by simp at h
  deregister i c r h := by simp at h
  deleted x h := by cases h

variable {instanceId : W → String} {deviceId : D}

theorem Inv.goto (h : s.Inv instanceId deviceId) {i : Nat} {c : Lifecycle W}
    (hi : s.lifecycles[i]? = some c) {pc : LifecyclePc}
    (hlookup : pc = .lookup → ∀ r e, s.record = some r → s.lifecycles[r.writer]? = some e →
      i < r.writer → e.worker ≠ c.worker)
    (hdereg : pc = .deregister → ∀ r, s.record = some r → r.writer ≤ i) :
    (s.goto i c pc).Inv instanceId deviceId where
  indexed := h.indexed
  current := h.current
  connId_le j e hj := by
    obtain ⟨e₀, he₀, hworker, hid, -⟩ := exists_of_goto hi hj
    rw [hworker, hid]
    exact h.connId_le j e₀ he₀
  connId_lt j k e f hjk hj hk hsame := by
    obtain ⟨e₀, he₀, hworker, hid, -⟩ := exists_of_goto hi hj
    obtain ⟨f₀, hf₀, hworker', hid', -⟩ := exists_of_goto hi hk
    rw [hid, hid']
    rw [hworker, hworker'] at hsame
    exact h.connId_lt j k e₀ f₀ hjk he₀ hf₀ hsame
  writer r hr := by
    obtain ⟨e, he, howner⟩ := h.writer r hr
    rw [getElem?_goto hi]
    split
    · next hwriter =>
      rw [hwriter, hi] at he
      cases he
      exact ⟨_, rfl, howner⟩
    · exact ⟨e, he, howner⟩
  lookup j e r f hj hpc hr hf hlt := by
    obtain ⟨e₀, he₀, hworker, -, hpc₀⟩ := exists_of_goto hi hj
    obtain ⟨f₀, hf₀, hworker', -⟩ := exists_of_goto hi hf
    rw [hworker, hworker']
    rcases hpc₀ with hpc₀ | ⟨rfl, hpc₀⟩
    · exact h.lookup j e₀ r f₀ he₀ (hpc₀.symm.trans hpc) hr hf₀ hlt
    · rw [hi] at he₀
      cases he₀
      exact hlookup (hpc₀.symm.trans hpc) r f₀ hr hf₀ hlt
  deregister j e r hj hpc hr := by
    obtain ⟨e₀, he₀, -, -, hpc₀⟩ := exists_of_goto hi hj
    rcases hpc₀ with hpc₀ | ⟨rfl, hpc₀⟩
    · exact h.deregister j e₀ r he₀ (hpc₀.symm.trans hpc) hr
    · exact hdereg (hpc₀.symm.trans hpc) r hr
  deleted := h.deleted

-- ============================================================================
-- One step
-- ============================================================================

theorem mem_take_of_getElem? {α : Type} {xs : List α} {x : α} {i n : Nat}
    (hi : xs[i]? = some x) (hlt : i < n) : x ∈ xs.take n := by
  obtain ⟨hlen, hx⟩ := List.getElem?_eq_some_iff.mp hi
  exact List.mem_take_iff_getElem.mpr ⟨i, by omega, hx⟩

/-- `presence.register` outside of every earlier connection's window. -/
theorem Inv.write (h : s.Inv instanceId deviceId) {k : Nat} {c : Lifecycle W}
    (hk : s.lifecycles[k]? = some c)
    (hok : ∀ e ∈ s.lifecycles.take k,
      e.pc ≠ .deregister ∧ (e.worker = c.worker → e.pc ≠ .lookup)) :
    Inv instanceId deviceId
      { s with record := some { workerInstanceId := instanceId c.worker, writer := k } } where
  indexed := h.indexed
  current := h.current
  connId_le := h.connId_le
  connId_lt := h.connId_lt
  writer r hr := by
    cases hr
    exact ⟨c, hk, rfl⟩
  lookup i e r f hi hpc hr hf hlt := by
    cases hr
    rw [hk] at hf
    cases hf
    intro hsame
    exact (hok e (mem_take_of_getElem? hi hlt)).2 hsame.symm hpc
  deregister i e r hi hpc hr := by
    cases hr
    show k ≤ i
    by_contra hlt
    exact (hok e (mem_take_of_getElem? hi (Nat.lt_of_not_le hlt))).1 hpc
  deleted := h.deleted

/-- The record goes away, deleted or expired. -/
theorem Inv.clear (h : s.Inv instanceId deviceId) {deleted : List (Nat × Nat)}
    (hdeleted : ∀ x ∈ deleted, ¬ x.1 < x.2) :
    Inv instanceId deviceId { s with record := none, deleted := deleted } where
  indexed := h.indexed
  current := h.current
  connId_le := h.connId_le
  connId_lt := h.connId_lt
  writer r hr := by cases hr
  lookup i c r e _ _ hr := by cases hr
  deregister i c r _ _ hr := by cases hr
  deleted := hdeleted

theorem exists_current_of_deregister {r : ConnectionRegistry D String L P} {connId : UInt64}
    (h : (r.deregister deviceId connId).2 = true) :
    ∃ x, r.current deviceId = some x ∧ x.1 = connId := by
  by_contra hnone
  have hne : ∀ a, r.byDevice.get deviceId = some a → r.idAt a ≠ some connId := by
    intro a ha hid
    obtain ⟨c, hc, hcid⟩ := ConnectionRegistry.idAt_eq_some.mp hid
    exact hnone ⟨_, ConnectionRegistry.current_eq_some.mpr ⟨a, c, ha, hc, rfl⟩, hcid⟩
  rw [ConnectionRegistry.deregister_of_ne hne] at h
  cases h

/-- `registry.deregister` on one worker. -/
theorem Inv.deregisterOn [DecidableEq W] (h : s.Inv instanceId deviceId) (w : W)
    (connId : UInt64) :
    (s.setRegistry w ((s.registry w).deregister deviceId connId).1).Inv instanceId deviceId where
  indexed v := by
    rw [setRegistry_registry]
    split
    · next hv => exact (h.indexed w).deregister deviceId connId
    · exact h.indexed v
  current v x hx := by
    rw [setRegistry_registry] at hx ⊢
    split at hx
    · next hv =>
      rw [ConnectionRegistry.current_deregister, Option.filter_eq_some_iff] at hx
      rw [if_pos hv, ConnectionRegistry.deregister_nextId]
      exact h.current w x hx.1
    · next hv =>
      rw [if_neg hv]
      exact h.current v x hx
  connId_le i c hi := by
    rw [setRegistry_registry]
    split
    · next hv =>
      rw [ConnectionRegistry.deregister_nextId, ← hv]
      exact h.connId_le i c hi
    · exact h.connId_le i c hi
  connId_lt := h.connId_lt
  writer := h.writer
  lookup := h.lookup
  deregister := h.deregister
  deleted := h.deleted

/-- A connection that is found current is the last one on its worker. -/
theorem Inv.worker_ne_of_wasCurrent (h : s.Inv instanceId deviceId) {i j : Nat}
    {c e : Lifecycle W} (hi : s.lifecycles[i]? = some c) (hj : s.lifecycles[j]? = some e)
    (hcurrent : ((s.registry c.worker).deregister deviceId c.connId).2 = true) (hlt : i < j) :
    e.worker ≠ c.worker := by
  intro hsame
  obtain ⟨x, hx, hid⟩ := exists_current_of_deregister hcurrent
  have hnext := h.current c.worker x hx
  have hle := h.connId_le j e hj
  have hids := h.connId_lt i j c e hlt hi hj hsame.symm
  rw [hsame, ← hnext, hid] at hle
  omega

theorem Inv.advance [DecidableEq W] (hinj : Function.Injective instanceId)
    (h : s.Inv instanceId deviceId) {k : Nat} {ok : Bool} {c : Lifecycle W}
    (hk : s.lifecycles[k]? = some c)
    (hok : c.pc = .register → ∀ e ∈ s.lifecycles.take k,
      e.pc ≠ .deregister ∧ (e.worker = c.worker → e.pc ≠ .lookup))
    (hstep : PresenceState.advance instanceId deviceId s k ok c = some t) :
    t.Inv instanceId deviceId := by
  unfold PresenceState.advance at hstep
  cases hpc : c.pc with
  | register =>
      rw [hpc] at hstep
      cases Option.some.inj hstep
      cases ok with
      | true => exact Inv.goto (h.write hk (hok hpc)) hk (by simp) (by simp)
      | false => exact Inv.goto h hk (by simp) (by simp)
  | connected =>
      rw [hpc] at hstep
      rw [← Option.some.inj hstep]
      cases hcurrent : ((s.registry c.worker).deregister deviceId c.connId).2 with
      | true =>
          refine Inv.goto (h.deregisterOn c.worker c.connId) hk (fun _ r e _ he hlt => ?_) (by simp)
          exact h.worker_ne_of_wasCurrent hk he hcurrent hlt
      | false => exact Inv.goto (h.deregisterOn c.worker c.connId) hk (by simp) (by simp)
  | lookup =>
      rw [hpc] at hstep
      rw [← Option.some.inj hstep]
      by_cases howner : (if ok then s.record.map (·.workerInstanceId) else none) =
          some (instanceId c.worker)
      · rw [if_pos howner]
        refine Inv.goto h hk (by simp) (fun _ r hr => ?_)
        have hinstance : r.workerInstanceId = instanceId c.worker := by
          cases ok with
          | true => simpa [hr] using howner
          | false => simp at howner
        obtain ⟨e, he, hwriter⟩ := h.writer r hr
        have hsame : e.worker = c.worker := hinj (hwriter.symm.trans hinstance)
        by_contra hlt
        exact h.lookup k c r e hk hpc hr he (by omega) hsame
      · rw [if_neg howner]
        exact Inv.goto h hk (by simp) (by simp)
  | deregister =>
      rw [hpc] at hstep
      cases ok with
      | false =>
          cases Option.some.inj hstep
          exact Inv.goto h hk (by simp) (by simp)
      | true =>
          cases Option.some.inj hstep
          refine Inv.goto (h.clear fun x hx => ?_) hk (by simp) (by simp)
          rcases List.mem_append.mp hx with hx | hx
          · exact h.deleted x hx
          · obtain ⟨r, hr, rfl⟩ := List.mem_map.mp hx
            rw [Option.mem_toList] at hr
            have hle := h.deregister k c r hk hpc hr
            show ¬ k < r.writer
            omega
  | closed =>
      rw [hpc] at hstep
      cases hstep

/-- The registry's part of `registry.register`: the id it gives is past every earlier one. -/
theorem Inv.setRegistry_register [DecidableEq W] (h : s.Inv instanceId deviceId) {worker : W}
    (hwrap : (s.registry worker).nextId.toNat + 1 < 2 ^ 64) (shardPrefix : String) (location : L) :
    Inv instanceId deviceId
      (s.setRegistry worker ((s.registry worker).register deviceId shardPrefix location).1) where
  indexed v := by
    rw [setRegistry_registry]
    split
    · exact (h.indexed worker).register deviceId shardPrefix location
    · exact h.indexed v
  current v x hx := by
    rw [setRegistry_registry] at hx ⊢
    split at hx
    · next hv =>
      rw [ConnectionRegistry.current_register (h.indexed worker)] at hx
      rw [if_pos hv, ConnectionRegistry.register_nextId, ← Option.some.inj hx]
    · next hv =>
      rw [if_neg hv]
      exact h.current v x hx
  connId_le i c hi := by
    have hle := h.connId_le i c hi
    rw [setRegistry_registry]
    split
    · next hv =>
      rw [hv] at hle
      rw [ConnectionRegistry.register_nextId, ConnectionRegistry.toNat_nextId_add_one hwrap]
      omega
    · exact hle
  connId_lt := h.connId_lt
  writer := h.writer
  lookup := h.lookup
  deregister := h.deregister
  deleted := h.deleted

/-- A new connection whose id is past every earlier one of its worker joins in. -/
theorem Inv.append (h : s.Inv instanceId deviceId) {c : Lifecycle W} (hpc : c.pc = .register)
    (hle : c.connId.toNat ≤ (s.registry c.worker).nextId.toNat)
    (hlt : ∀ (i : Nat) e, s.lifecycles[i]? = some e → e.worker = c.worker →
      e.connId.toNat < c.connId.toNat) :
    Inv instanceId deviceId { s with lifecycles := s.lifecycles ++ [c] } where
  indexed := h.indexed
  current := h.current
  connId_le i e hi := by
    rcases getElem?_append_cases hi with hi | ⟨-, rfl⟩
    · exact h.connId_le i e hi
    · exact hle
  connId_lt i j e f hij hi hj hsame := by
    rcases getElem?_append_cases hj with hj | ⟨hlen, rfl⟩
    · rcases getElem?_append_cases hi with hi | ⟨hlen, -⟩
      · exact h.connId_lt i j e f hij hi hj hsame
      · have hbound : j < s.lifecycles.length := (List.getElem?_eq_some_iff.mp hj).1
        omega
    · rcases getElem?_append_cases hi with hi | ⟨hlen', -⟩
      · exact hlt i e hi hsame
      · omega
  writer r hr := by
    obtain ⟨e, he, howner⟩ := h.writer r hr
    refine ⟨e, ?_, howner⟩
    rw [List.getElem?_append_left (List.getElem?_eq_some_iff.mp he).1]
    exact he
  lookup i e r f hi hlookup hr hf hij := by
    obtain ⟨f₀, hf₀, -⟩ := h.writer r hr
    rcases getElem?_append_cases hi with hi | ⟨-, rfl⟩
    · rcases getElem?_append_cases hf with hf | ⟨hlen, -⟩
      · exact h.lookup i e r f hi hlookup hr hf hij
      · have hbound : r.writer < s.lifecycles.length := (List.getElem?_eq_some_iff.mp hf₀).1
        omega
    · rw [hpc] at hlookup
      cases hlookup
  deregister i e r hi hdereg hr := by
    rcases getElem?_append_cases hi with hi | ⟨-, rfl⟩
    · exact h.deregister i e r hi hdereg hr
    · rw [hpc] at hdereg
      cases hdereg
  deleted := h.deleted

theorem Inv.connect [DecidableEq W] (h : s.Inv instanceId deviceId) {worker : W}
    (hwrap : (s.registry worker).nextId.toNat + 1 < 2 ^ 64) (shardPrefix : String)
    (location : L) (ht : step instanceId deviceId s (.connect worker shardPrefix location) = some t) :
    t.Inv instanceId deviceId := by
  rw [← Option.some.inj ht]
  have hsucc := ConnectionRegistry.toNat_nextId_add_one hwrap
  refine Inv.append (h.setRegistry_register hwrap shardPrefix location) rfl ?_ ?_
  · rw [setRegistry_registry, if_pos rfl, ConnectionRegistry.register_nextId]
    exact le_refl _
  · intro i e hi hsame
    have hle := h.connId_le i e hi
    have hworker : e.worker = worker := hsame
    rw [hworker] at hle
    show e.connId.toNat < ((s.registry worker).nextId + 1).toNat
    omega

theorem Inv.step [DecidableEq W] (hinj : Function.Injective instanceId)
    (h : s.Inv instanceId deviceId) {label : Label W L} (hok : s.StepOk label)
    (hstep : step instanceId deviceId s label = some t) : t.Inv instanceId deviceId := by
  cases label with
  | connect worker shardPrefix location => exact h.connect hok shardPrefix location hstep
  | step k ok =>
      cases hk : s.lifecycles[k]? with
      | none => simp [PresenceState.step, hk] at hstep
      | some c =>
          simp only [PresenceState.step, hk] at hstep
          exact h.advance hinj hk (hok c hk) hstep
  | expire =>
      cases Option.some.inj hstep
      exact h.clear h.deleted

-- ============================================================================
-- Runs
-- ============================================================================

/-- In every run in which no `presence.register` comes in the window of an earlier
    connection's teardown, every record a teardown deletes was written by its own or an
    earlier connection. -/
theorem teardown_spares_later [DecidableEq W] (hinj : Function.Injective instanceId)
    {labels : List (Label W L)}
    (hok : Transition.RunOk (step instanceId deviceId) StepOk ({} : PresenceState W D L P) labels)
    (hrun : Transition.run (step instanceId deviceId) {} labels = some t) : t.SparesLater := by
  have hinv : t.Inv instanceId deviceId :=
    Transition.run_invariant (fun _ _ _ h hok hstep => h.step hinj hok hstep)
      (Inv.initial instanceId deviceId) hok hrun
  exact hinv.deleted

/-- Two workers, `"a"` and `"b"`. -/
def workerName (worker : Bool) : String := if worker then "b" else "a"

/-- The device connects to `"a"`, is torn down there, and connects to `"b"`. -/
def reconnectLabels : List (Label Bool Unit) :=
  [.connect false "9q8" (), .step 0 true, .step 0 true, .step 0 true, .step 0 true,
    .connect true "9q8" (), .step 1 true]

def atStart : PresenceState Bool Nat Unit Unit := {}

theorem reconnectLabels_run :
    (Transition.run (step workerName 7) atStart reconnectLabels).isSome = true := by
  decide +kernel

theorem teardown_spares_later_reconnect :
    Transition.RunOk (step workerName 7) StepOk atStart reconnectLabels ∧
      ((Transition.run (step workerName 7) atStart reconnectLabels).get
        reconnectLabels_run).SparesLater := by
  have hinj : Function.Injective workerName := by decide
  have hok : Transition.RunOk (step workerName 7) StepOk atStart reconnectLabels := by
    decide +kernel
  exact ⟨hok, teardown_spares_later hinj hok (Option.some_get _).symm⟩

/-- The device reconnects to `"b"` while the teardown on `"a"` is about to delete the record
    it has looked up. -/
def overtakenLabels : List (Label Bool Unit) :=
  [.connect false "9q8" (), .step 0 true, .step 0 true, .step 0 true,
    .connect true "9q8" (), .step 1 true, .step 0 true]

theorem overtakenLabels_run :
    (Transition.run (step workerName 7) atStart overtakenLabels).isSome = true := by
  decide +kernel

theorem overtaken_teardown_deletes_later :
    ¬ ((Transition.run (step workerName 7) atStart overtakenLabels).get
      overtakenLabels_run).SparesLater := by
  decide +kernel

end PresenceState
end PulseGrid.Worker
