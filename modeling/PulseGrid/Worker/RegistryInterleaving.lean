/-
  PulseGrid.Worker.RegistryInterleaving

  Concurrent `register` and `deregister` calls, one map operation at a time.

  A call in progress is a program counter (`CallPc`) holding its local variables;
  a step performs the next map operation of one call.  `by_shard.get` and the
  `remove_if` on the map it returned are two steps.  A `deregister` can only use
  a connection id that some `register` has already returned.
-/

import PulseGrid.Worker.ConnectionRegistry
import PulseGrid.Lib.Transition

namespace PulseGrid.Worker

variable {D S L P : Type*}

/-- The next operation of a `register` or `deregister` call. -/
inductive CallPc (D S L : Type*) where
  /-- `next_id.fetch_add`, building the connection. -/
  | alloc (deviceId : D) (shardPrefix : S) (location : L)
  /-- `by_device.insert`. -/
  | insertDevice (deviceId : D) (shardPrefix : S) (addr : Nat)
  /-- `previous.sender.try_send(Close)`. -/
  | sendClose (deviceId : D) (shardPrefix : S) (addr prev : Nat)
  /-- `by_shard.get(&previous.shard)`. -/
  | getShard (deviceId : D) (shardPrefix : S) (addr prev : Nat)
  /-- `shard.remove_if` of the replaced connection. -/
  | removeIf (deviceId : D) (shardPrefix : S) (addr prev : Nat)
  /-- `by_shard.entry(..).or_default().insert`. -/
  | insertShard (deviceId : D) (shardPrefix : S) (addr : Nat)
  | registered (result : Registered)
  /-- `by_device.remove_if`. -/
  | removeDevice (deviceId : D) (connId : UInt64)
  /-- `by_shard.get(&conn.shard)` of a `deregister`. -/
  | deregGet (deviceId : D) (addr : Nat)
  /-- `shard.remove_if` of a `deregister`. -/
  | deregRemove (deviceId : D) (addr : Nat)
  | deregistered (removed : Bool)
deriving DecidableEq

namespace CallPc

/-- The call has returned. -/
def returned : CallPc D S L → Bool
  | registered _ | deregistered _ => true
  | _ => false

/-- The call is a `register` that returned this connection id. -/
def gaveId (connId : UInt64) : CallPc D S L → Bool
  | registered r => r.connId == connId
  | _ => false

/-- The device a call in progress is about. -/
def device? : CallPc D S L → Option D
  | alloc d _ _ | insertDevice d _ _ | sendClose d _ _ _ | getShard d _ _ _ | removeIf d _ _ _
  | insertShard d _ _ | removeDevice d _ | deregGet d _ | deregRemove d _ => some d
  | registered _ | deregistered _ => none

/-- The connection a `register` call has built. -/
def addr? : CallPc D S L → Option Nat
  | insertDevice _ _ a | sendClose _ _ a _ | getShard _ _ a _ | removeIf _ _ a _
  | insertShard _ _ a => some a
  | registered r => some r.receiver
  | _ => none

/-- The shard and address of the connection a `register` call has built. -/
def target? : CallPc D S L → Option (S × Nat)
  | insertDevice _ s a | sendClose _ s a _ | getShard _ s a _ | removeIf _ s a _
  | insertShard _ s a => some (s, a)
  | _ => none

/-- A `register` that built connection `a` and has not stored it anywhere. -/
def Fresh (a : Nat) : CallPc D S L → Prop
  | insertDevice _ _ a' => a' = a
  | _ => False

/-- A `register` that stored connection `a` in `by_device` and not yet in `by_shard`. -/
def Pending (d : D) (a : Nat) : CallPc D S L → Prop
  | sendClose d' _ a' _ | getShard d' _ a' _ | removeIf d' _ a' _ | insertShard d' _ a' =>
      d' = d ∧ a' = a
  | _ => False

instance [DecidableEq D] (d : D) (a : Nat) : DecidablePred (Pending (S := S) (L := L) d a)
  | sendClose d' _ a' _ | getShard d' _ a' _ | removeIf d' _ a' _ | insertShard d' _ a' =>
      inferInstanceAs (Decidable (d' = d ∧ a' = a))
  | alloc .. | insertDevice .. | registered _ | removeDevice .. | deregGet .. | deregRemove ..
  | deregistered _ => inferInstanceAs (Decidable False)

/-- A `register` of connection `c` that replaced `p` and has not looked for the
    shard index of `p` yet. -/
def Early (d : D) (c p : Nat) : CallPc D S L → Prop
  | sendClose d' _ c' p' | getShard d' _ c' p' => d' = d ∧ c' = c ∧ p' = p
  | _ => False

/-- A call that has taken `p` out of `by_device` and still has to take it out of
    `by_shard`, past the lookup of its shard index or started by a `deregister`. -/
def Late (d : D) (p : Nat) : CallPc D S L → Prop
  | removeIf d' _ _ p' | deregGet d' p' | deregRemove d' p' => d' = d ∧ p' = p
  | _ => False

end CallPc

structure Interleaved (D S L P : Type*) where
  reg : ConnectionRegistry D S L P := {}
  calls : List (CallPc D S L) := []

namespace Interleaved

/-- A new call, or the next operation of call number `i`. -/
inductive Label (D S L : Type*) where
  | register (deviceId : D) (shardPrefix : S) (location : L)
  | deregister (deviceId : D) (connId : UInt64)
  | step (i : Nat)

variable [DecidableEq D] [DecidableEq S]

/-- Whether the shard of a connection has an index (`by_shard.get(..)` is `Some`). -/
def hasShardOf (reg : ConnectionRegistry D S L P) (addr : Nat) : Bool :=
  ((reg.shardAt addr).bind reg.byShard.get).isSome

/-- The next operation of a call; `none` when it has returned. -/
def advance (reg : ConnectionRegistry D S L P) :
    CallPc D S L → Option (ConnectionRegistry D S L P × CallPc D S L)
  | .alloc d s l => some (reg.allocate s l, .insertDevice d s reg.heap.length)
  | .insertDevice d s a =>
      some (reg.storeDevice d a, match reg.byDevice.get d with
        | some prev => .sendClose d s a prev
        | none => .insertShard d s a)
  | .sendClose d s a prev => some (reg.sendClose prev, .getShard d s a prev)
  | .getShard d s a prev =>
      some (reg, if hasShardOf reg prev then .removeIf d s a prev else .insertShard d s a)
  | .removeIf d s a prev => some (reg.removeFromShard d prev, .insertShard d s a)
  | .insertShard d s a =>
      some (reg.storeShard s d a, .registered ⟨(reg.idAt a).getD 0, a⟩)
  | .registered _ => none
  | .removeDevice d connId =>
      match reg.byDevice.get d with
      | some a =>
          if reg.idAt a = some connId then
            some ({ reg with
              byDevice := reg.byDevice.removeIf d fun a => reg.idAt a == some connId },
              .deregGet d a)
          else some (reg, .deregistered false)
      | none => some (reg, .deregistered false)
  | .deregGet d a =>
      some (reg, if hasShardOf reg a then .deregRemove d a else .deregistered true)
  | .deregRemove d a => some (reg.removeFromShard d a, .deregistered true)
  | .deregistered _ => none

def step (s : Interleaved D S L P) : Label D S L → Option (Interleaved D S L P)
  | .register d sh l => some { s with calls := s.calls ++ [.alloc d sh l] }
  | .deregister d connId =>
      if s.calls.any (CallPc.gaveId connId) then
        some { s with calls := s.calls ++ [.removeDevice d connId] }
      else none
  | .step i =>
      match s.calls[i]? with
      | none => none
      | some pc => (advance s.reg pc).map fun (reg', pc') =>
          { reg := reg', calls := s.calls.set i pc' }

/-- No call is in progress. -/
def Quiescent (s : Interleaved D S L P) : Prop := ∀ pc ∈ s.calls, pc.returned = true

instance (s : Interleaved D S L P) : Decidable s.Quiescent :=
  inferInstanceAs (Decidable (∀ pc ∈ s.calls, pc.returned = true))

/-- What the next operation of a call asks of the state: a call looks for the
    shard index of the connection it replaced only after that connection's own
    `register` has put it there, and the connection counter does not wrap around. -/
def AdvanceOk (s : Interleaved D S L P) : CallPc D S L → Prop
  | .alloc _ _ _ => s.reg.nextId.toNat + 1 < 2 ^ 64
  | .getShard d _ _ prev => ∀ pc ∈ s.calls, ¬pc.Pending d prev
  | _ => True

instance (s : Interleaved D S L P) : DecidablePred s.AdvanceOk
  | .alloc _ _ _ => inferInstanceAs (Decidable (s.reg.nextId.toNat + 1 < 2 ^ 64))
  | .getShard d _ _ prev => inferInstanceAs (Decidable (∀ pc ∈ s.calls, ¬pc.Pending d prev))
  | .insertDevice .. | .sendClose .. | .removeIf .. | .insertShard .. | .registered _
  | .removeDevice .. | .deregGet .. | .deregRemove .. | .deregistered _ =>
      inferInstanceAs (Decidable True)

/-- Every call in progress may be started at any time; its operations meet
    `AdvanceOk`. -/
def StepOk (s : Interleaved D S L P) : Label D S L → Prop
  | .step i => ∀ pc ∈ s.calls[i]?, s.AdvanceOk pc
  | _ => True

instance (s : Interleaved D S L P) : DecidablePred s.StepOk
  | .step i => inferInstanceAs (Decidable (∀ pc ∈ s.calls[i]?, s.AdvanceOk pc))
  | .register .. | .deregister .. => inferInstanceAs (Decidable True)

end Interleaved
end PulseGrid.Worker
