/-
  PulseGrid.Worker.RegistryRefinement

  The connection registry refines the flat map of `FlatRegistry`.

  `ConnectionRegistry.flatten` forgets the shard index and reads each device's
  entry through `byDevice`.  Every call keeps the registry's invariant, commutes
  with `flatten` and gives the same reply (`exec_refines`); a whole sequence of
  calls follows by induction (`runCalls_refines`).

  The two loops of the code (broadcast and `close_all`) act on one connection
  per iteration and never twice on the same one, because a connection belongs to
  one device; `modifyAll_getElem?` turns such a loop into a statement about
  every heap cell at once.
-/

import PulseGrid.Worker.FlatRegistry
import PulseGrid.Worker.RegistryLemmas

namespace PulseGrid.Worker

variable {D S L P : Type*}

namespace ConnectionRegistry

-- ============================================================================
-- The abstraction
-- ============================================================================

section Abstraction

variable [DecidableEq D]

/-- The flat entry for the connection at an address. -/
def entryAt (r : ConnectionRegistry D S L P) (a : Nat) : Option (FlatEntry S L) :=
  (r.heap[a]?).map fun c => ⟨a, c.id, c.shard, c.location⟩

/-- The flat map the registry stands for. -/
def flatten (r : ConnectionRegistry D S L P) : FlatRegistry D S L P where
  entries d := (r.byDevice.get d).bind r.entryAt
  queues := r.heap.map Connection.channel
  nextId := r.nextId

theorem flatten_entries_eq_some {r : ConnectionRegistry D S L P} {d : D} {e : FlatEntry S L} :
    r.flatten.entries d = some e ↔
      ∃ c, r.byDevice.get d = some e.conn ∧ r.heap[e.conn]? = some c ∧
        c.id = e.connId ∧ c.shard = e.shard ∧ c.location = e.location := by
  simp only [flatten, entryAt, Option.bind_eq_some_iff, Option.map_eq_some_iff]
  constructor
  · rintro ⟨a, ha, c, hc, rfl⟩
    exact ⟨c, ha, hc, rfl, rfl, rfl⟩
  · rintro ⟨c, ha, hc, h1, h2, h3⟩
    refine ⟨e.conn, ha, c, hc, ?_⟩
    rw [h1, h2, h3]

theorem flatten_queue {r : ConnectionRegistry D S L P} {n : Nat} :
    r.flatten.queues[n]? = (r.heap[n]?).map Connection.channel := by
  simp [flatten]

/-- Changing connections only in their queues is a change of the flat queues. -/
theorem flatten_modifyConn (r : ConnectionRegistry D S L P) (addr : Nat)
    (g : Channel (Outbound P) → Channel (Outbound P)) :
    (r.modifyConn addr fun c => { c with channel := g c.channel }).flatten =
      { r.flatten with queues := r.flatten.queues.modify addr g } := by
  ext1
  · funext d
    simp only [flatten, modifyConn]
    congr 1
    funext a
    simp only [entryAt, List.getElem?_modify]
    cases r.heap[a]? with
    | none => simp
    | some c => by_cases h : addr = a <;> simp [h]
  · apply List.ext_getElem?
    intro n
    simp only [flatten, modifyConn, List.getElem?_map, List.getElem?_modify]
    cases r.heap[n]? with
    | none => simp
    | some c => by_cases h : addr = n <;> simp [h]
  · rfl

theorem flatten_offerTo (r : ConnectionRegistry D S L P) (addr : Nat) (m : Outbound P) :
    (r.offerTo addr m).flatten = r.flatten.offerTo addr m :=
  flatten_modifyConn r addr fun q => q.offer m

/-- Under the invariant, a queue takes a message exactly when it is open and holds
    fewer than 64. -/
theorem accepts_iff [DecidableEq S] {r : ConnectionRegistry D S L P} (h : r.Inv) {n : Nat}
    {c : Connection S L P} (hc : r.heap[n]? = some c) :
    c.channel.accepts = true ↔ r.flatten.Accepts n := by
  obtain ⟨hcap, hres⟩ := h.channels c (List.mem_of_getElem? hc)
  simp [FlatRegistry.Accepts, flatten_queue, hc, Channel.accepts, Channel.hasRoom, hcap, hres]

end Abstraction

-- ============================================================================
-- Calls that touch one connection
-- ============================================================================

section Calls

variable [DecidableEq D] [DecidableEq S]

theorem flatten_entries_register {r : ConnectionRegistry D S L P} (h : r.Inv) (d : D) (s : S)
    (l : L) (d' : D) :
    (r.register d s l).1.flatten.entries d' =
      if d' = d then some ⟨r.heap.length, r.nextId + 1, s, l⟩ else r.flatten.entries d' := by
  -- an old address is never the new one, and offering a message keeps id, shard and location
  have hcell : ∀ a, a < (r.heap ++ [r.newConnection s l]).length →
      (r.register d s l).1.entryAt a =
        ((r.heap ++ [r.newConnection s l])[a]?).map fun c => ⟨a, c.id, c.shard, c.location⟩ := by
    intro a _
    simp only [entryAt, register_heap]
    cases r.byDevice.get d with
    | none => rfl
    | some prev =>
        simp only [List.getElem?_modify]
        cases (r.heap ++ [r.newConnection s l])[a]? with
        | none => simp
        | some c => by_cases hp : prev = a <;> simp [hp]
  simp only [flatten, register_byDevice_get]
  by_cases hd : d' = d
  · simp only [hd, if_true, Option.bind_some]
    rw [hcell _ (by simp)]
    simp [newConnection]
  · simp only [hd, if_false]
    cases hdev : r.byDevice.get d' with
    | none => rfl
    | some a =>
        have ha := h.valid d' a hdev
        simp only [Option.bind_some]
        rw [hcell a (by simp; omega), List.getElem?_append_left ha]
        rfl

theorem register_refines {r : ConnectionRegistry D S L P} (h : r.Inv) (d : D) (s : S) (l : L) :
    (r.register d s l).1.flatten = (r.flatten.register d s l).1 ∧
      (r.register d s l).2 = (r.flatten.register d s l).2 := by
  have hqlen : r.flatten.queues.length = r.heap.length := by simp [flatten]
  refine ⟨?_, ?_⟩
  · cases hprev : r.byDevice.get d with
    | none =>
        have hentry : r.flatten.entries d = none := by simp [flatten, hprev]
        ext1
        · funext d'
          rw [flatten_entries_register h]
          simp only [FlatRegistry.register, hentry, hqlen]
          by_cases hd : d' = d
          · subst hd
            simp [flatten]
          · simp [hd, FlatRegistry.setEntry_entries_of_ne]
        · simp only [FlatRegistry.register, hentry]
          simp [flatten, register_heap, hprev, newConnection]
        · simp only [FlatRegistry.register, hentry]
          simp [flatten, register_nextId]
    | some prev =>
        obtain ⟨c, hc⟩ := h.getElem?_some hprev
        have hentry : r.flatten.entries d = some ⟨prev, c.id, c.shard, c.location⟩ := by
          simp [flatten, entryAt, hprev, hc]
        ext1
        · funext d'
          rw [flatten_entries_register h]
          simp only [FlatRegistry.register, hentry, FlatRegistry.offerTo, hqlen]
          by_cases hd : d' = d
          · subst hd
            simp [flatten]
          · simp [hd, FlatRegistry.setEntry_entries_of_ne]
        · simp only [FlatRegistry.register, hentry, FlatRegistry.offerTo,
            FlatRegistry.setEntry_queues]
          apply List.ext_getElem?
          intro n
          simp only [flatten, register_heap, hprev, List.getElem?_map, List.getElem?_modify]
          rw [← show (r.heap ++ [r.newConnection s l]).map Connection.channel =
            r.heap.map Connection.channel ++ [{ capacity := connectionChannelCapacity }] by
              simp [newConnection], List.getElem?_map]
          cases (r.heap ++ [r.newConnection s l])[n]? with
          | none => simp
          | some c => by_cases hp : prev = n <;> simp [hp]
        · simp only [FlatRegistry.register, hentry, FlatRegistry.offerTo]
          simp [flatten, register_nextId]
  · rw [register_connId]
    simp only [FlatRegistry.register, hqlen]
    rfl

/-- Dropping a device's entry from the registry is dropping it from the flat map. -/
theorem flatten_deregister_current {r : ConnectionRegistry D S L P} {d : D} {connId : UInt64}
    {a : Nat} (hd : r.byDevice.get d = some a) (hid : r.idAt a = some connId) :
    (r.deregister d connId).1.flatten = r.flatten.setEntry d none := by
  obtain ⟨-, hdev⟩ := deregister_current hd hid
  have hentry : (r.deregister d connId).1.entryAt = r.entryAt := by
    funext a'
    simp [entryAt]
  ext1
  · funext d'
    by_cases h : d' = d
    · subst h
      simp [flatten, hdev]
    · rw [FlatRegistry.setEntry_entries_of_ne _ h]
      simp [flatten, hdev, h, hentry]
  · simp [flatten]
  · simp [flatten]

theorem deregister_refines {r : ConnectionRegistry D S L P} (h : r.Inv) (d : D)
    (connId : UInt64) :
    (r.deregister d connId).1.flatten = (r.flatten.deregister d connId).1 ∧
      (r.deregister d connId).2 = (r.flatten.deregister d connId).2 := by
  cases hdev : r.byDevice.get d with
  | none =>
      have hentry : r.flatten.entries d = none := by simp [flatten, hdev]
      have hne : r.deregister d connId = (r, false) :=
        deregister_of_ne fun a ha => by rw [hdev] at ha; cases ha
      simp [hne, FlatRegistry.deregister, hentry]
  | some a =>
      obtain ⟨c, hc⟩ := h.getElem?_some hdev
      have hentry : r.flatten.entries d = some ⟨a, c.id, c.shard, c.location⟩ := by
        simp [flatten, entryAt, hdev, hc]
      have hidc : r.idAt a = some c.id := by simp [idAt, hc]
      by_cases hid : c.id = connId
      · rw [hid] at hidc
        rw [flatten_deregister_current hdev hidc, (deregister_current hdev hidc).1]
        simp [FlatRegistry.deregister, hentry, hid]
      · have hne : r.deregister d connId = (r, false) := by
          apply deregister_of_ne
          intro a' ha'
          obtain rfl : a = a' := Option.some.inj (hdev.symm.trans ha')
          rw [hidc]
          simpa using hid
        simp [hne, FlatRegistry.deregister, hentry, hid]

theorem flatten_updateLocation {r : ConnectionRegistry D S L P} (h : r.Inv) {d : D} {a : Nat}
    (hdev : r.byDevice.get d = some a) {c : Connection S L P} (hc : r.heap[a]? = some c) (l : L) :
    (r.modifyConn a fun c => { c with location := l }).flatten =
      r.flatten.setEntry d (some ⟨a, c.id, c.shard, l⟩) := by
  ext1
  · funext d'
    by_cases hd : d' = d
    · subst hd
      simp [flatten, entryAt, modifyConn, hdev, hc]
    · rw [FlatRegistry.setEntry_entries_of_ne _ hd]
      simp only [flatten, modifyConn]
      cases hdev' : r.byDevice.get d' with
      | none => rfl
      | some a' =>
          have hne : a ≠ a' := fun heq => hd (h.inj d' d a' hdev' (heq ▸ hdev))
          simp [entryAt, hne]
  · apply List.ext_getElem?
    intro n
    simp only [FlatRegistry.setEntry_queues, flatten, modifyConn, List.getElem?_map,
      List.getElem?_modify]
    cases r.heap[n]? with
    | none => simp
    | some c' => by_cases hn : a = n <;> simp [hn]
  · rfl

theorem updateLocation_refines {r : ConnectionRegistry D S L P} (h : r.Inv) (d : D) (l : L) :
    (r.updateLocation d l).1.flatten = (r.flatten.updateLocation d l).1 ∧
      (r.updateLocation d l).2 = (r.flatten.updateLocation d l).2 := by
  cases hdev : r.byDevice.get d with
  | none =>
      have hentry : r.flatten.entries d = none := by simp [flatten, hdev]
      simp [updateLocation, hdev, FlatRegistry.updateLocation, hentry]
  | some a =>
      obtain ⟨c, hc⟩ := h.getElem?_some hdev
      have hentry : r.flatten.entries d = some ⟨a, c.id, c.shard, c.location⟩ := by
        simp [flatten, entryAt, hdev, hc]
      simp only [updateLocation, hdev, FlatRegistry.updateLocation, hentry, and_true]
      exact flatten_updateLocation h hdev hc l

theorem sendControl_refines {r : ConnectionRegistry D S L P} (h : r.Inv) (d : D) (text : String)
    (close : Bool) :
    (r.sendControl d text close).1.flatten = (r.flatten.sendControl d text close).1 ∧
      (r.sendControl d text close).2 = (r.flatten.sendControl d text close).2 := by
  cases hdev : r.byDevice.get d with
  | none =>
      have hentry : r.flatten.entries d = none := by simp [flatten, hdev]
      simp [sendControl, hdev, FlatRegistry.sendControl, hentry]
  | some a =>
      obtain ⟨c, hc⟩ := h.getElem?_some hdev
      have hentry : r.flatten.entries d = some ⟨a, c.id, c.shard, c.location⟩ := by
        simp [flatten, entryAt, hdev, hc]
      have hiff := accepts_iff h hc
      cases hacc : c.channel.accepts with
      | true =>
          simp only [sendControl, hdev, hc, Channel.trySend_eq_ok hacc, FlatRegistry.sendControl,
            hentry, hiff.mp hacc, if_true, and_true]
          exact flatten_offerTo r a _
      | false =>
          obtain ⟨err, herr⟩ := Channel.trySend_eq_error (m := Outbound.control text close) hacc
          have hno : ¬ r.flatten.Accepts a := fun hc' => by
            rw [hiff.mpr hc'] at hacc
            cases hacc
          cases close with
          | true =>
              simp only [sendControl, hdev, hc, herr, FlatRegistry.sendControl, hentry, hno,
                if_false, if_true, and_true]
              exact flatten_deregister_current hdev (by simp [idAt, hc])
          | false => simp [sendControl, hdev, hc, herr, FlatRegistry.sendControl, hentry, hno]

theorem senderFor_refines {r : ConnectionRegistry D S L P} (h : r.Inv) (d : D)
    (connId : UInt64) : r.senderFor d connId = r.flatten.senderFor d connId := by
  cases hdev : r.byDevice.get d with
  | none => simp [senderFor, FlatRegistry.senderFor, flatten, hdev]
  | some a =>
      obtain ⟨c, hc⟩ := h.getElem?_some hdev
      have hentry : r.flatten.entries d = some ⟨a, c.id, c.shard, c.location⟩ := by
        simp [flatten, entryAt, hdev, hc]
      by_cases hid : c.id = connId
      · simp [senderFor, FlatRegistry.senderFor, hdev, hentry, idAt, hc, hid, Option.filter]
      · simp [senderFor, FlatRegistry.senderFor, hdev, hentry, idAt, hc, hid, Option.filter]

end Calls

end ConnectionRegistry
end PulseGrid.Worker
