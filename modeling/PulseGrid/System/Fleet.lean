/-
  PulseGrid.System.Fleet

  The coordinators' requests about one device and all workers, interleaved.  A
  published control message reaches the inbox of every worker; workers handle
  their inboxes in any order.
-/

import PulseGrid.Worker.Connect

namespace PulseGrid.System

open Coordinator Worker

variable {D F P : Type} [CommRing F] [LinearOrder F]

structure Fleet (D F P : Type) [CommRing F] [LinearOrder F] where
  coord : Requests D F
  workers : List (WorkerState D F P)

namespace Fleet

inductive Label (F : Type) where
  /-- A request starts or does its next store command. -/
  | request (label : Requests.Label F)
  /-- The device opens a connection to worker `w`. -/
  | connect (w : Nat) (params : ConnectParams)
  | connectStep (w i : Nat)
  /-- Worker `w` handles message `k` of its inbox. -/
  | handle (w k : Nat)
  /-- A connection of worker `w` that was sent a closing frame is cleaned up. -/
  | teardown (w k : Nat)
  /-- A connection of worker `w` ends for another reason. -/
  | disconnect (w : Nat) (connId : UInt64)

variable [DecidableEq D]

/-- Replace worker `w` by what `f` makes of it. -/
def onWorker (s : Fleet D F P) (w : Nat) (f : WorkerState D F P → Option (WorkerState D F P)) :
    Option (Fleet D F P) :=
  match s.workers[w]? with
  | none => none
  | some worker => (f worker).map fun worker' => { s with workers := s.workers.set w worker' }

/-- The messages a step of the coordinators published reach every worker. -/
def deliver (s : Fleet D F P) (coord : Requests D F) : Fleet D F P :=
  { coord := coord
    workers := s.workers.map fun worker =>
      { worker with
        inbox := worker.inbox ++ coord.stores.published.drop s.coord.stores.published.length } }

def step (parts : DeviceServiceParts F) (toJson : ServerMessage F → String) (deviceId : D)
    (s : Fleet D F P) : Label F → Option (Fleet D F P)
  | .request label => (s.coord.step parts deviceId label).map s.deliver
  | .connect w params =>
      s.onWorker w fun worker =>
        some { worker with connects := worker.connects ++ [.consume params] }
  | .connectStep w i =>
      match s.workers[w]? with
      | none => none
      | some worker => match worker.connects[i]? with
        | none => none
        | some pc => (worker.advance deviceId s.coord.stores pc).map fun (stores, registry, pc') =>
            { coord := { s.coord with stores := stores }
              workers := s.workers.set w
                { worker with registry := registry, connects := worker.connects.set i pc' } }
  | .handle w k => s.onWorker w fun worker => worker.handle toJson deviceId k
  | .teardown w k => s.onWorker w fun worker => worker.teardown deviceId k
  | .disconnect w connId => s.onWorker w fun worker => some (worker.disconnect deviceId connId)

/-- Nothing is pending: no request, connect, control message or clean-up. -/
def Quiescent (s : Fleet D F P) : Prop :=
  s.coord.Quiescent ∧ ∀ w ∈ s.workers, w.inbox = [] ∧ w.closing = [] ∧
    ∀ pc ∈ w.connects, pc.returned = true

instance (s : Fleet D F P) : Decidable s.Quiescent :=
  inferInstanceAs (Decidable (s.coord.Quiescent ∧ ∀ w ∈ s.workers, w.inbox = [] ∧
    w.closing = [] ∧ ∀ pc ∈ w.connects, pc.returned = true))

/-- The fleet before anything happened: these stores, and one worker for each set of
    owned shards. -/
def initial (stores : Stores D F) (owned : List (List String)) : Fleet D F P :=
  { coord := { stores := stores, requests := [] }
    workers := owned.map fun prefixes => { owned := prefixes } }

-- ============================================================================
-- One step
-- ============================================================================

omit [DecidableEq D] in
theorem onWorker_eq_some {s t : Fleet D F P} {w : Nat}
    {f : WorkerState D F P → Option (WorkerState D F P)} :
    s.onWorker w f = some t ↔ ∃ worker worker', s.workers[w]? = some worker ∧
      f worker = some worker' ∧ { s with workers := s.workers.set w worker' } = t := by
  unfold onWorker
  constructor
  · intro h
    split at h
    · cases h
    · next worker hw =>
      obtain ⟨worker', hf, rfl⟩ := Option.map_eq_some_iff.mp h
      exact ⟨worker, worker', hw, hf, rfl⟩
  · rintro ⟨worker, worker', hw, hf, rfl⟩
    simp [hw, hf]

theorem connectStep_eq_some {parts : DeviceServiceParts F} {toJson : ServerMessage F → String}
    {deviceId : D} {s t : Fleet D F P} {w i : Nat}
    (h : s.step parts toJson deviceId (.connectStep w i) = some t) :
    ∃ worker pc stores registry pc', s.workers[w]? = some worker ∧
      worker.connects[i]? = some pc ∧
      worker.advance deviceId s.coord.stores pc = some (stores, registry, pc') ∧
      t = { coord := { s.coord with stores := stores }
            workers := s.workers.set w
              { worker with registry := registry, connects := worker.connects.set i pc' } } := by
  simp only [step] at h
  split at h
  · cases h
  · next worker hw =>
    split at h
    · cases h
    · next pc hi =>
      obtain ⟨⟨stores, registry, pc'⟩, hadv, rfl⟩ := Option.map_eq_some_iff.mp h
      exact ⟨worker, pc, stores, registry, pc', hw, hi, hadv, rfl⟩

omit [CommRing F] [LinearOrder F] [DecidableEq D] in
/-- What holds of the new entry and of all old ones holds after an update. -/
theorem forall_mem_set {α : Type*} {l : List α} {i : Nat} {y : α} {φ : α → Prop} (hy : φ y)
    (hl : ∀ x ∈ l, φ x) : ∀ x ∈ l.set i y, φ x := by
  intro x hx
  obtain hx | rfl := List.mem_or_eq_of_mem_set hx
  · exact hl x hx
  · exact hy

-- ============================================================================
-- A concrete fleet
-- ============================================================================

def exampleTicket : String :=
  "0123456789abcdef0123456789abcdef0123456789abcdef0123456789abcdef"

/-- The device with an unused ticket, and one worker, which owns its shard. -/
def exampleStart : Fleet Nat ℚ Unit :=
  initial
    { row := some exampleDevice, record := some exampleDevice.record
      tickets := .put ∅ exampleTicket 1 }
    [["tkrt"]]

/-- The device connects to the first worker: up to the registration. -/
def authorizes : List (Label ℚ) :=
  [.connect 0 { ticket := exampleTicket }, .connectStep 0 0, .connectStep 0 0, .connectStep 0 0]

end Fleet
end PulseGrid.System
