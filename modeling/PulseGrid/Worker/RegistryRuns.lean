/-
  PulseGrid.Worker.RegistryRuns

  Sequences of calls on the connection registry, interleaved with receivers
  draining their queues or going away, against the same sequence on the flat map.

  `exec_refines` is the step: a call keeps the registry's invariant, commutes
  with `flatten` and gives the flat map's reply.  `runCalls_refines` is the run,
  by induction on the sequence.
-/

import PulseGrid.Worker.RegistryLoops

namespace PulseGrid.Worker

-- ============================================================================
-- Calls and replies
-- ============================================================================

/-- One call on the registry, or one act of a connection's receiver. -/
inductive Call (D S L P A : Type*) where
  | register (deviceId : D) (shardPrefix : S) (location : L)
  | deregister (deviceId : D) (connId : UInt64)
  | updateLocation (deviceId : D) (location : L)
  | sendControl (deviceId : D) (text : String) (close : Bool)
  | senderFor (deviceId : D) (connId : UInt64)
  | broadcastToShard (shardPrefix : S) (alert : A) (payload : P)
  | closeAll
  | recv (conn : Nat)
  | dropReceiver (conn : Nat)

/-- What a call returned. -/
inductive Reply (P : Type*) where
  | registered (x : Registered)
  | found (b : Bool)
  | sender (x : Option Nat)
  | result (x : BroadcastResult)
  | message (x : Option (Outbound P))
  | unit

variable {D S L P A : Type*}

namespace ConnectionRegistry

variable [DecidableEq D] [DecidableEq S]

def exec (contains : A → L → Bool) (r : ConnectionRegistry D S L P) :
    Call D S L P A → ConnectionRegistry D S L P × Reply P
  | .register d s l => ((r.register d s l).1, .registered (r.register d s l).2)
  | .deregister d i => ((r.deregister d i).1, .found (r.deregister d i).2)
  | .updateLocation d l => ((r.updateLocation d l).1, .found (r.updateLocation d l).2)
  | .sendControl d t c => ((r.sendControl d t c).1, .found (r.sendControl d t c).2)
  | .senderFor d i => (r, .sender (r.senderFor d i))
  | .broadcastToShard s a p =>
      ((r.broadcastToShard contains s a p).1, .result (r.broadcastToShard contains s a p).2)
  | .closeAll => (r.closeAll, .unit)
  | .recv n => ((r.recv n).1, .message (r.recv n).2)
  | .dropReceiver n => (r.dropReceiver n, .unit)

/-- Execute a sequence of calls, collecting the replies. -/
def runCalls (contains : A → L → Bool) :
    ConnectionRegistry D S L P → List (Call D S L P A) →
      ConnectionRegistry D S L P × List (Reply P)
  | r, [] => (r, [])
  | r, c :: cs =>
      let (r', reply) := r.exec contains c
      let (r'', replies) := runCalls contains r' cs
      (r'', reply :: replies)

end ConnectionRegistry

namespace FlatRegistry

noncomputable def exec (contains : A → L → Bool) (f : FlatRegistry D S L P) :
    Call D S L P A → FlatRegistry D S L P × Reply P
  | .register d s l => ((f.register d s l).1, .registered (f.register d s l).2)
  | .deregister d i => ((f.deregister d i).1, .found (f.deregister d i).2)
  | .updateLocation d l => ((f.updateLocation d l).1, .found (f.updateLocation d l).2)
  | .sendControl d t c => ((f.sendControl d t c).1, .found (f.sendControl d t c).2)
  | .senderFor d i => (f, .sender (f.senderFor d i))
  | .broadcastToShard s a p =>
      ((f.broadcastToShard contains s a p).1, .result (f.broadcastToShard contains s a p).2)
  | .closeAll => (f.closeAll, .unit)
  | .recv n => ((f.recv n).1, .message (f.recv n).2)
  | .dropReceiver n => (f.dropReceiver n, .unit)

noncomputable def runCalls (contains : A → L → Bool) :
    FlatRegistry D S L P → List (Call D S L P A) → FlatRegistry D S L P × List (Reply P)
  | f, [] => (f, [])
  | f, c :: cs =>
      let (f', reply) := f.exec contains c
      let (f'', replies) := runCalls contains f' cs
      (f'', reply :: replies)

end FlatRegistry

namespace ConnectionRegistry

variable [DecidableEq D] [DecidableEq S]

-- ============================================================================
-- One call
-- ============================================================================

theorem Inv.updateLocation {r : ConnectionRegistry D S L P} (h : r.Inv) (d : D) (l : L) :
    (r.updateLocation d l).1.Inv := by
  unfold ConnectionRegistry.updateLocation
  split
  · exact h.modifyConn _ (fun _ => rfl) (fun _ => rfl) fun _ => ⟨rfl, rfl⟩
  · exact h

theorem Inv.sendControl {r : ConnectionRegistry D S L P} (h : r.Inv) (d : D) (text : String)
    (close : Bool) : (r.sendControl d text close).1.Inv := by
  unfold ConnectionRegistry.sendControl
  split
  · exact h
  · split
    · exact h
    · split
      · exact h.offerTo _ _
      · split
        · exact h.deregister _ _
        · exact h

theorem Inv.recv {r : ConnectionRegistry D S L P} (h : r.Inv) (n : Nat) : (r.recv n).1.Inv :=
  h.modifyConn n (fun _ => rfl) (fun _ => rfl)
    fun c => ⟨Channel.recv_snd_capacity c.channel, Channel.recv_snd_reserved c.channel⟩

theorem Inv.dropReceiver {r : ConnectionRegistry D S L P} (h : r.Inv) (n : Nat) :
    (r.dropReceiver n).Inv :=
  h.modifyConn n (fun _ => rfl) (fun _ => rfl) fun _ => ⟨rfl, rfl⟩

/-- Every call keeps the invariant. -/
theorem Inv.exec {r : ConnectionRegistry D S L P} (h : r.Inv) (contains : A → L → Bool)
    (c : Call D S L P A) : (r.exec contains c).1.Inv := by
  cases c with
  | register d s l => exact h.register d s l
  | deregister d i => exact h.deregister d i
  | updateLocation d l => exact h.updateLocation d l
  | sendControl d t close => exact h.sendControl d t close
  | senderFor d i => exact h
  | broadcastToShard s a p => exact h.broadcastToShard contains s a p
  | closeAll => exact h.closeAll
  | recv n => exact h.recv n
  | dropReceiver n => exact h.dropReceiver n

/-- One call of the registry is one call of the flat map, with the same reply. -/
theorem exec_refines {r : ConnectionRegistry D S L P} (h : r.Inv) (contains : A → L → Bool)
    (c : Call D S L P A) :
    (r.exec contains c).1.flatten = (r.flatten.exec contains c).1 ∧
      (r.exec contains c).2 = (r.flatten.exec contains c).2 := by
  cases c with
  | register d s l =>
      obtain ⟨h1, h2⟩ := register_refines h d s l
      exact ⟨h1, congrArg Reply.registered h2⟩
  | deregister d i =>
      obtain ⟨h1, h2⟩ := deregister_refines h d i
      exact ⟨h1, congrArg Reply.found h2⟩
  | updateLocation d l =>
      obtain ⟨h1, h2⟩ := updateLocation_refines h d l
      exact ⟨h1, congrArg Reply.found h2⟩
  | sendControl d t close =>
      obtain ⟨h1, h2⟩ := sendControl_refines h d t close
      exact ⟨h1, congrArg Reply.found h2⟩
  | senderFor d i => exact ⟨rfl, congrArg Reply.sender (senderFor_refines h d i)⟩
  | broadcastToShard s a p =>
      obtain ⟨h1, h2⟩ := broadcastToShard_refines h contains s a p
      exact ⟨h1, congrArg Reply.result h2⟩
  | closeAll => exact ⟨closeAll_refines h, rfl⟩
  | recv n =>
      obtain ⟨h1, h2⟩ := recv_refines r n
      exact ⟨h1, congrArg Reply.message h2⟩
  | dropReceiver n => exact ⟨dropReceiver_refines r n, rfl⟩

-- ============================================================================
-- Sequences of calls
-- ============================================================================

theorem Inv.runCalls (contains : A → L → Bool) (cs : List (Call D S L P A)) :
    ∀ {r : ConnectionRegistry D S L P}, r.Inv → (r.runCalls contains cs).1.Inv := by
  induction cs with
  | nil => intro r h; exact h
  | cons c cs ih => intro r h; exact ih (h.exec contains c)

theorem runCalls_refines (contains : A → L → Bool) (cs : List (Call D S L P A)) :
    ∀ {r : ConnectionRegistry D S L P}, r.Inv →
      (r.runCalls contains cs).1.flatten = (r.flatten.runCalls contains cs).1 ∧
        (r.runCalls contains cs).2 = (r.flatten.runCalls contains cs).2 := by
  induction cs with
  | nil => intro r _; exact ⟨rfl, rfl⟩
  | cons c cs ih =>
      intro r h
      obtain ⟨hstate, hreply⟩ := exec_refines h contains c
      obtain ⟨hrun, hreplies⟩ := ih (h.exec contains c)
      simp only [ConnectionRegistry.runCalls, FlatRegistry.runCalls]
      rw [← hstate, ← hreply]
      exact ⟨hrun, by rw [hreplies]⟩

omit [DecidableEq S] in
theorem flatten_empty : ({} : ConnectionRegistry D S L P).flatten = FlatRegistry.empty := by
  ext1
  · funext d
    simp [flatten, FlatRegistry.empty]
  · rfl
  · rfl

/-- Connection `n` is the current one of a device, is of shard `s`, its recorded
    location is inside the circle, and its queue is open and not full. -/
def BroadcastReaches (contains : A → L → Bool) (r : ConnectionRegistry D S L P) (s : S)
    (alert : A) (n : Nat) (c : Connection S L P) : Prop :=
  (∃ d, r.byDevice.get d = some n) ∧ c.shard = s ∧ contains alert c.location = true ∧
    c.channel.rxOpen = true ∧ c.channel.queue.length < connectionChannelCapacity

/-- What a broadcast is for: the reached connections get the payload once, every
    other queue is unchanged, and every device of the shard is counted. -/
structure BroadcastExact (contains : A → L → Bool) (r : ConnectionRegistry D S L P) (s : S)
    (alert : A) (payload : P) : Prop where
  reached : ∀ n c, r.heap[n]? = some c → r.BroadcastReaches contains s alert n c →
    ((r.broadcastToShard contains s alert payload).1.heap[n]?).map Connection.channel =
      some { c.channel with queue := c.channel.queue ++ [.alert payload] }
  others : ∀ n c, r.heap[n]? = some c → ¬r.BroadcastReaches contains s alert n c →
    ((r.broadcastToShard contains s alert payload).1.heap[n]?).map Connection.channel =
      some c.channel
  total : (r.broadcastToShard contains s alert payload).2.delivered +
      (r.broadcastToShard contains s alert payload).2.dropped +
      (r.broadcastToShard contains s alert payload).2.filteredOut =
    {d | ∃ a, r.byDevice.get d = some a ∧ r.shardAt a = some s}.ncard

theorem broadcastReaches_iff {r : ConnectionRegistry D S L P} (h : r.Inv)
    (contains : A → L → Bool) (s : S) (alert : A) {n : Nat} {c : Connection S L P}
    (hc : r.heap[n]? = some c) :
    r.BroadcastReaches contains s alert n c ↔
      n ∈ (r.shardEntries s).map Prod.snd ∧ outcome contains alert c = .delivered := by
  have hmem : n ∈ (r.shardEntries s).map Prod.snd ↔
      (∃ d, r.byDevice.get d = some n) ∧ c.shard = s := by
    simp [List.mem_map, mem_shardEntries, h.agree s, shardAt, hc]
  obtain ⟨hcap, hres⟩ := h.channels c (List.mem_of_getElem? hc)
  rw [hmem, BroadcastReaches, outcome, Channel.accepts, Channel.hasRoom, hcap, hres]
  cases contains alert c.location <;> cases c.channel.rxOpen <;>
    simp [and_assoc]

theorem Inv.broadcastExact {r : ConnectionRegistry D S L P} (h : r.Inv)
    (contains : A → L → Bool) (s : S) (alert : A) (payload : P) :
    r.BroadcastExact contains s alert payload where
  reached := by
    intro n c hc hreach
    obtain ⟨hmem, ho⟩ := (broadcastReaches_iff h contains s alert hc).mp hreach
    rw [broadcastToShard_heap h.toIndexed, hc]
    simp only [Option.map_some, hmem, if_true, deliver_channel, ho]
  others := by
    intro n c hc hnot
    rw [broadcastReaches_iff h contains s alert hc, not_and] at hnot
    rw [broadcastToShard_heap h.toIndexed, hc]
    by_cases hmem : n ∈ (r.shardEntries s).map Prod.snd
    · simp only [Option.map_some, hmem, if_true, deliver_channel, hnot hmem, if_false]
    · simp only [Option.map_some, hmem, if_false]
  total := broadcastToShard_total h.toIndexed contains s alert payload

/-- **The registry refines the flat map.**  For every sequence of calls from the
    empty registry, interleaved with receivers draining or being dropped: the
    registry is the flat map and gave the same replies; the two indexes agree, so
    a device is in at most one shard's index; a `deregister` with an old id, that
    is one other than the current connection's, changes nothing (ids are numbered
    from 1 in order of registration); and a further broadcast reaches exactly the
    registered connections it should. -/
theorem registry_refines_flat_map (contains : A → L → Bool) (calls : List (Call D S L P A)) :
    let run := runCalls contains ({} : ConnectionRegistry D S L P) calls
    let flat := FlatRegistry.runCalls contains FlatRegistry.empty calls
    run.1.flatten = flat.1 ∧ run.2 = flat.2 ∧
    run.1.Agree ∧
    (∀ d s s' a a', run.1.byShard.getIn s d = some a → run.1.byShard.getIn s' d = some a' →
      s = s' ∧ a = a') ∧
    (∀ d connId, (∀ a, run.1.byDevice.get d = some a → run.1.idAt a ≠ some connId) →
      run.1.deregister d connId = (run.1, false)) ∧
    (∀ a i, run.1.idAt a = some i → i = UInt64.ofNat (a + 1)) ∧
    ∀ s alert payload, run.1.BroadcastExact contains s alert payload := by
  intro run flat
  have hinv : run.1.Inv := Inv.empty.runCalls contains calls
  obtain ⟨hstate, hreplies⟩ := runCalls_refines contains calls
    (Inv.empty (D := D) (S := S) (L := L) (P := P))
  rw [flatten_empty] at hstate hreplies
  refine ⟨hstate, hreplies, hinv.agree, ?_, fun d connId h => deregister_of_ne h, hinv.ids,
    hinv.broadcastExact contains⟩
  intro d s s' a a' h1 h2
  obtain ⟨hd, hs⟩ := (hinv.agree s d a).mp h1
  obtain ⟨hd', hs'⟩ := (hinv.agree s' d a').mp h2
  obtain rfl : a = a' := Option.some.inj (hd.symm.trans hd')
  exact ⟨Option.some.inj (hs.symm.trans hs'), rfl⟩

end ConnectionRegistry
end PulseGrid.Worker
