/-
  PulseGrid.Worker.SocketClose

  Does a closing request take effect?  The three closing operations are the
  registration of a newer connection of the same device, `send_control` with
  `close` and `close_all`.

  `closing_takes_effect_iff` says exactly when no alert that enters the
  connection's queue after the operation is written to its socket.  The
  operation fails when the queue has no free slot for its marker while a replay
  task still holds a sender and alerts.
-/

import PulseGrid.Worker.SocketCell
import PulseGrid.Worker.RegistryLoops
import PulseGrid.Lib.TaskPool

namespace PulseGrid.Worker

variable {D S L P A : Type*}

namespace ConnectionRegistry

variable [DecidableEq D] [DecidableEq S]

/-- The connection at this address is the current one of some device. -/
def Registered (r : ConnectionRegistry D S L P) (a : Nat) : Prop :=
  ∃ d, r.byDevice.get d = some a

/-- What a call on the registry that makes `n` connections does to those there
    already are: it may offer a message to a registered one, and registers none of
    them again. -/
structure Moves (n : Nat) (r r' : ConnectionRegistry D S L P) : Prop where
  indexed : r'.Indexed
  length : r'.heap.length = r.heap.length + n
  ids : ∀ a i, r.idAt a = some i → r'.idAt a = some i
  current : ∀ d a, a < r.heap.length → r'.byDevice.get d = some a → r.byDevice.get d = some a
  channel : ∀ a conn, r.heap[a]? = some conn → ∃ conn', r'.heap[a]? = some conn' ∧
    (conn'.channel = conn.channel ∨ ∃ m, r.Registered a ∧ conn'.channel = conn.channel.offer m)

/-- A call that leaves the heap alone. -/
theorem Moves.of_heap {r r' : ConnectionRegistry D S L P} (h : r'.Indexed)
    (hheap : r'.heap = r.heap)
    (hcur : ∀ d a, r'.byDevice.get d = some a → r.byDevice.get d = some a) : Moves 0 r r' where
  indexed := h
  length := by rw [hheap, Nat.add_zero]
  ids a i hi := by rwa [idAt, hheap]
  current d a _ := hcur d a
  channel a conn hconn := ⟨conn, by rw [hheap]; exact hconn, .inl rfl⟩

theorem Moves.offerTo {r : ConnectionRegistry D S L P} (h : r.Indexed) {d : D} {addr : Nat}
    (hd : r.byDevice.get d = some addr) (m : Outbound P) : Moves 0 r (r.offerTo addr m) where
  indexed := h.offerTo addr m
  length := by rw [heap_length_offerTo, Nat.add_zero]
  ids a i hi := by rwa [idAt_offerTo]
  current d' a _ hd' := hd'
  channel a conn hconn := by
    refine ⟨_, by rw [ConnectionRegistry.offerTo, modifyConn, List.getElem?_modify, hconn]; rfl, ?_⟩
    split
    · next haddr =>
      subst haddr
      exact .inr ⟨m, ⟨d, hd⟩, rfl⟩
    · exact .inl rfl

theorem register_getElem?_of_lt (r : ConnectionRegistry D S L P) (d : D) (s : S) (l : L) {a : Nat}
    {conn : Connection S L P} (hconn : r.heap[a]? = some conn) :
    (r.register d s l).1.heap[a]? = some (if r.byDevice.get d = some a then
      { conn with channel := conn.channel.offer .close } else conn) := by
  have hlt : a < r.heap.length := (List.getElem?_eq_some_iff.mp hconn).1
  rw [register_heap]
  cases hd : r.byDevice.get d with
  | none => simp [List.getElem?_append_left hlt, hconn]
  | some prev =>
    simp only [List.getElem?_modify, List.getElem?_append_left hlt, hconn, Option.some.injEq]
    split <;> rfl

theorem Moves.register {r : ConnectionRegistry D S L P} (h : r.Indexed) (d : D) (s : S) (l : L) :
    Moves 1 r (r.register d s l).1 where
  indexed := h.register d s l
  length := by
    rw [register_heap]
    cases r.byDevice.get d <;> simp
  ids a i hi := by
    obtain ⟨c, hc, rfl⟩ := idAt_eq_some.mp hi
    refine idAt_eq_some.mpr ⟨_, register_getElem?_of_lt r d s l hc, ?_⟩
    split <;> rfl
  current d' a ha hd' := by
    rw [register_byDevice_get] at hd'
    split at hd'
    · have := Option.some.inj hd'
      omega
    · exact hd'
  channel a conn hconn := by
    refine ⟨_, register_getElem?_of_lt r d s l hconn, ?_⟩
    split
    · next hd => exact .inr ⟨.close, ⟨d, hd⟩, rfl⟩
    · exact .inl rfl

theorem deregister_byDevice {r : ConnectionRegistry D S L P} {d d' : D} {connId : UInt64} {a : Nat}
    (h : (r.deregister d connId).1.byDevice.get d' = some a) : r.byDevice.get d' = some a := by
  by_cases hcur : ∃ b, r.byDevice.get d = some b ∧ r.idAt b = some connId
  · obtain ⟨b, hb, hid⟩ := hcur
    rw [(deregister_current hb hid).2] at h
    split at h
    · cases h
    · exact h
  · rwa [deregister_of_ne fun b hb hid => hcur ⟨b, hb, hid⟩] at h

theorem Moves.deregister {r : ConnectionRegistry D S L P} (h : r.Indexed) (d : D)
    (connId : UInt64) : Moves 0 r (r.deregister d connId).1 :=
  .of_heap (h.deregister d connId) (deregister_heap r d connId) fun _ _ => deregister_byDevice

theorem Moves.updateLocation {r : ConnectionRegistry D S L P} (h : r.Indexed) (d : D) (l : L) :
    Moves 0 r (r.updateLocation d l).1 := by
  unfold ConnectionRegistry.updateLocation
  split
  · next addr hd =>
    refine ⟨h.modifyConn addr (fun _ => rfl) (fun _ => rfl), ?_, ?_, fun _ _ _ h => h, ?_⟩
    · simp [modifyConn]
    · intro a i hi
      refine Eq.trans ?_ hi
      exact idAt_modifyConn r addr a fun _ => rfl
    · intro a conn hconn
      refine ⟨_, by rw [modifyConn, List.getElem?_modify, hconn]; rfl, .inl ?_⟩
      split <;> rfl
  · exact .of_heap h rfl fun _ _ => id

theorem Moves.sendControl {r : ConnectionRegistry D S L P} (h : r.Indexed) (d : D) (text : String)
    (close : Bool) : Moves 0 r (r.sendControl d text close).1 := by
  unfold ConnectionRegistry.sendControl
  split
  · exact .of_heap h rfl fun _ _ => id
  · next addr hd =>
    split
    · exact .of_heap h rfl fun _ _ => id
    · split
      · exact .offerTo h hd _
      · split
        · exact .deregister h d _
        · exact .of_heap h rfl fun _ _ => id

theorem Moves.broadcastToShard {r : ConnectionRegistry D S L P} (h : r.Indexed)
    (contains : A → L → Bool) (s : S) (alert : A) (payload : P) :
    Moves 0 r (r.broadcastToShard contains s alert payload).1 where
  indexed := h.broadcastToShard contains s alert payload
  length := broadcastToShard_heap_length h contains s alert payload
  ids a i hi := by
    have hmap := broadcastToShard_map h contains s alert payload Connection.id
      (fun c => (deliver_frame contains alert payload c).1) a
    exact hmap.trans hi
  current d a _ hd := by rwa [broadcastToShard_byDevice h] at hd
  channel a conn hconn := by
    have hcell := broadcastToShard_heap h contains s alert payload a
    rw [hconn, Option.map_some] at hcell
    refine ⟨_, hcell, ?_⟩
    split
    · next hmem =>
      obtain ⟨⟨d, a'⟩, he, rfl⟩ := List.mem_map.mp hmem
      unfold deliver
      by_cases hin : contains alert conn.location = true
      · rw [if_pos hin]
        exact .inr ⟨_, ⟨d, (h.shardEntries_byDevice he).1⟩, rfl⟩
      · rw [if_neg hin]
        exact .inl rfl
    · exact .inl rfl

theorem closeAll_getElem? {r : ConnectionRegistry D S L P} (h : r.Indexed) {a : Nat}
    {conn : Connection S L P} (hconn : r.heap[a]? = some conn) :
    ∃ conn', r.closeAll.heap[a]? = some conn' ∧ conn'.id = conn.id ∧
      (r.Registered a → conn'.channel = conn.channel.offer .close) ∧
      (¬r.Registered a → conn'.channel = conn.channel) := by
  have hreg : a ∈ r.byDevice.iter.map Prod.snd ↔ r.Registered a := by
    constructor
    · intro hmem
      obtain ⟨⟨d, a'⟩, he, rfl⟩ := List.mem_map.mp hmem
      exact ⟨d, DashMap.mem_iter.mp he⟩
    · rintro ⟨d, hd⟩
      exact List.mem_map.mpr ⟨(d, a), DashMap.mem_iter.mpr hd, rfl⟩
  have hcell := closeAll_heap h a
  rw [hconn, Option.map_some] at hcell
  refine ⟨_, hcell, ?_, fun hr => ?_, fun hr => ?_⟩
  · split <;> rfl
  · rw [if_pos (hreg.mpr hr)]
  · rw [if_neg (fun hmem => hr (hreg.mp hmem))]

theorem Moves.closeAll {r : ConnectionRegistry D S L P} (h : r.Indexed) : Moves 0 r r.closeAll where
  indexed := h.closeAll
  length := closeAll_heap_length r
  ids a i hi := by
    obtain ⟨c, hc, rfl⟩ := idAt_eq_some.mp hi
    obtain ⟨c', hc', hid, -⟩ := closeAll_getElem? h hc
    exact idAt_eq_some.mpr ⟨c', hc', hid⟩
  current d a _ hd := by simp [ConnectionRegistry.closeAll] at hd
  channel a conn hconn := by
    obtain ⟨conn', hconn', -, hreg, hnot⟩ := closeAll_getElem? h hconn
    refine ⟨conn', hconn', ?_⟩
    by_cases hr : r.Registered a
    · exact .inr ⟨.close, hr, hreg hr⟩
    · exact .inl (hnot hr)

end ConnectionRegistry

namespace Sockets

variable {contains : A → L → Bool} {replayComplete : Nat → String} {replayMaxAlerts : Nat}

-- ============================================================================
-- Cells
-- ============================================================================

theorem cell_eq_some {s : Sockets D S L P} {a : Nat} {c : Cell P} :
    s.cell a = some c ↔ ∃ conn d i, s.reg.heap[a]? = some conn ∧
      s.tasks[a]? = some (d, i, c.tasks) ∧ conn.channel = c.channel := by
  unfold cell
  constructor
  · intro h
    split at h
    · next conn d i tasks hconn htasks =>
      obtain rfl := Option.some.inj h
      exact ⟨conn, d, i, hconn, htasks, rfl⟩
    · cases h
  · rintro ⟨conn, d, i, hconn, htasks, hchannel⟩
    simp [hconn, htasks, hchannel]

theorem cell_setCell_self {s : Sockets D S L P} {a : Nat} {c : Cell P} (h : s.cell a = some c)
    (c' : Cell P) : (s.setCell a c').cell a = some c' := by
  obtain ⟨conn, d, i, hconn, htasks, -⟩ := cell_eq_some.mp h
  refine cell_eq_some.mpr ⟨{ conn with channel := c'.channel }, d, i, ?_, ?_, rfl⟩
  · simp [setCell, ConnectionRegistry.modifyConn, hconn]
  · simp [setCell, htasks]

theorem cell_setCell_of_ne (s : Sockets D S L P) {a b : Nat} (hab : b ≠ a) (c' : Cell P) :
    (s.setCell a c').cell b = s.cell b := by
  simp [cell, setCell, ConnectionRegistry.modifyConn, Ne.symm hab]

theorem onCell_eq_some {s t : Sockets D S L P} {a : Nat} {f : Cell P → Option (Cell P)} :
    s.onCell a f = some t ↔ ∃ c c', s.cell a = some c ∧ f c = some c' ∧ s.setCell a c' = t := by
  simp only [onCell, Option.bind_eq_some_iff, Option.map_eq_some_iff]
  constructor
  · rintro ⟨c, hc, c', hc', rfl⟩
    exact ⟨c, c', hc, hc', rfl⟩
  · rintro ⟨c, c', hc, hc', rfl⟩
    exact ⟨c, hc, c', hc', rfl⟩

variable [DecidableEq D] [DecidableEq S]

/-- What holds of every reachable state. -/
structure Ok (s : Sockets D S L P) : Prop where
  indexed : s.reg.Indexed
  length : s.tasks.length = s.reg.heap.length
  few : s.reg.heap.length < 2 ^ 64
  ids : ∀ a d i tasks, s.tasks[a]? = some (d, i, tasks) → s.reg.idAt a = some i
  cells : ∀ a c, s.cell a = some c → c.Ok

theorem Ok.initial : Ok ({} : Sockets D S L P) where
  indexed := ConnectionRegistry.Indexed.empty
  length := rfl
  few := by simp
  ids := by simp
  cells := by simp [cell]

/-- `sender_for` finds a connection only while it is registered. -/
theorem Ok.registered_of_hasSender {s : Sockets D S L P} (h : s.Ok) {a : Nat}
    (hs : s.hasSender a = true) : s.reg.Registered a := by
  unfold hasSender at hs
  split at hs
  · next d i tasks htasks =>
    obtain ⟨b, hb⟩ := Option.isSome_iff_exists.mp hs
    simp only [ConnectionRegistry.senderFor, Option.filter_eq_some_iff, beq_iff_eq] at hb
    -- ids are unique as long as the counter has not wrapped around
    have hid := h.ids a d i tasks htasks
    have ha : a < s.reg.heap.length := by
      obtain ⟨conn, hconn, -⟩ := ConnectionRegistry.idAt_eq_some.mp hid
      exact (List.getElem?_eq_some_iff.mp hconn).1
    have hblt := h.indexed.valid d b hb.1
    have hfew := h.few
    have heq := (h.indexed.ids a i hid).symm.trans (h.indexed.ids b i hb.2)
    have hnat := congrArg UInt64.toNat heq
    rw [UInt64.toNat_ofNat', UInt64.toNat_ofNat', Nat.mod_eq_of_lt (by omega),
      Nat.mod_eq_of_lt (by omega)] at hnat
    obtain rfl : a = b := by omega
    exact ⟨d, hb.1⟩
  · cases hs

/-- What one step does to the cells there already are. -/
structure Moves (replayComplete : Nat → String) (replayMaxAlerts : Nat) (s t : Sockets D S L P) :
    Prop where
  cell : ∀ a c, s.cell a = some c → ∃ c', t.cell a = some c' ∧
    Cell.Move replayComplete replayMaxAlerts (s.reg.Registered a) c c'
  current : ∀ a c, s.cell a = some c → t.reg.Registered a → s.reg.Registered a

/-- A call on the registry, seen by the cells. -/
theorem Moves.of_reg {s t : Sockets D S L P} {n : Nat} (hreg : ConnectionRegistry.Moves n s.reg t.reg)
    (htasks : ∀ (a : Nat) x, s.tasks[a]? = some x → t.tasks[a]? = some x) :
    s.Moves replayComplete replayMaxAlerts t where
  cell a c hc := by
    obtain ⟨conn, d, i, hconn, hx, hchannel⟩ := cell_eq_some.mp hc
    obtain ⟨conn', hconn', hcase⟩ := hreg.channel a conn hconn
    refine ⟨{ c with channel := conn'.channel }, ?_, ?_⟩
    · exact cell_eq_some.mpr ⟨conn', d, i, hconn', htasks a _ hx, rfl⟩
    · obtain heq | ⟨m, hr, heq⟩ := hcase
      · rw [heq, hchannel]
        exact .keep c
      · rw [heq, hchannel]
        exact .offer c m hr
  current a c hc := by
    obtain ⟨conn, d, i, hconn, -⟩ := cell_eq_some.mp hc
    rintro ⟨d', hd'⟩
    exact ⟨d', hreg.current d' a (List.getElem?_eq_some_iff.mp hconn).1 hd'⟩

omit [DecidableEq S] in
theorem Moves.of_cell {s : Sockets D S L P} {a : Nat} {c c' : Cell P} (hc : s.cell a = some c)
    (hmove : Cell.Move replayComplete replayMaxAlerts (s.reg.Registered a) c c') :
    s.Moves replayComplete replayMaxAlerts (s.setCell a c') where
  cell b x hx := by
    by_cases hba : b = a
    · subst hba
      obtain rfl : c = x := by simpa [hc] using hx
      exact ⟨c', cell_setCell_self hc c', hmove⟩
    · exact ⟨x, by rw [cell_setCell_of_ne s hba]; exact hx, .keep x⟩
  current b x _ hb := hb

theorem Ok.moves {s t : Sockets D S L P} (h : s.Ok) {l : Label D S L P A}
    (hstep : s.step contains replayComplete replayMaxAlerts l = some t) :
    s.Moves replayComplete replayMaxAlerts t := by
  cases l with
  | register d sh l =>
    simp only [step] at hstep
    split at hstep
    · obtain rfl := Option.some.inj hstep
      refine .of_reg (.register h.indexed d sh l) fun a x hx => ?_
      exact (List.getElem?_append_left (List.getElem?_eq_some_iff.mp hx).1).trans hx
    · cases hstep
  | deregister d i =>
    obtain rfl := Option.some.inj hstep
    exact .of_reg (.deregister h.indexed d i) fun _ _ => id
  | updateLocation d l =>
    obtain rfl := Option.some.inj hstep
    exact .of_reg (.updateLocation h.indexed d l) fun _ _ => id
  | sendControl d text close =>
    obtain rfl := Option.some.inj hstep
    exact .of_reg (.sendControl h.indexed d text close) fun _ _ => id
  | broadcastToShard sh alert payload =>
    obtain rfl := Option.some.inj hstep
    exact .of_reg (.broadcastToShard h.indexed contains sh alert payload) fun _ _ => id
  | closeAll =>
    obtain rfl := Option.some.inj hstep
    exact .of_reg (.closeAll h.indexed) fun _ _ => id
  | spawnReplay a =>
    obtain ⟨c, c', hc, hc', rfl⟩ := onCell_eq_some.mp hstep
    exact .of_cell hc (.spawn _ h.registered_of_hasSender hc')
  | task a op =>
    obtain ⟨c, c', hc, hc', rfl⟩ := onCell_eq_some.mp hstep
    exact .of_cell hc (.task op hc')

/-- A call that makes no connection keeps the invariant. -/
theorem Ok.of_reg {s : Sockets D S L P} (h : s.Ok) {reg' : ConnectionRegistry D S L P}
    (hreg : ConnectionRegistry.Moves 0 s.reg reg') : Ok { s with reg := reg' } where
  indexed := hreg.indexed
  length := by simp only [hreg.length, h.length, Nat.add_zero]
  few := by
    have := h.few
    simp only [hreg.length, Nat.add_zero]
    exact this
  ids a d i tasks ha := hreg.ids a i (h.ids a d i tasks ha)
  cells a c hc := by
    obtain ⟨conn, d, i, -, htasks, -⟩ := cell_eq_some.mp hc
    obtain ⟨old, hold, -⟩ := ConnectionRegistry.idAt_eq_some.mp (h.ids a d i _ htasks)
    have hcell : s.cell a = some { channel := old.channel, tasks := c.tasks } :=
      cell_eq_some.mpr ⟨old, d, i, hold, htasks, rfl⟩
    have hmoves : s.Moves (fun _ => "") 0 { s with reg := reg' } := .of_reg hreg fun _ _ => id
    obtain ⟨c', hc', hmove⟩ := hmoves.cell a _ hcell
    obtain rfl : c = c' := by simpa [hc] using hc'
    exact (h.cells a _ hcell).move hmove

theorem Ok.setCell {s : Sockets D S L P} (h : s.Ok) {a : Nat} {c' : Cell P} (hc' : c'.Ok) :
    Ok (s.setCell a c') where
  indexed := h.indexed.modifyConn a (fun _ => rfl) (fun _ => rfl)
  length := by
    simp only [Sockets.setCell, ConnectionRegistry.modifyConn, List.length_modify]
    exact h.length
  few := by
    simp only [Sockets.setCell, ConnectionRegistry.modifyConn, List.length_modify]
    exact h.few
  ids b d i tasks hb := by
    have hid : (s.setCell a c').reg.idAt b = s.reg.idAt b :=
      ConnectionRegistry.idAt_modifyConn s.reg a b fun _ => rfl
    rw [hid]
    simp only [Sockets.setCell, List.getElem?_modify] at hb
    cases htasks : s.tasks[b]? with
    | none => simp [htasks] at hb
    | some x =>
      have hi : x.2.1 = i := by
        by_cases hab : a = b
        · have hx : (x.1, x.2.1, c'.tasks) = (d, i, tasks) := by simpa [htasks, hab] using hb
          exact (Prod.mk.inj (Prod.mk.inj hx).2).1
        · have hx : x = (d, i, tasks) := by simpa [htasks, hab] using hb
          rw [hx]
      exact hi ▸ h.ids b x.1 x.2.1 x.2.2 htasks
  cells b c hc := by
    by_cases hba : b = a
    · subst hba
      obtain ⟨old, hold⟩ : ∃ old, s.cell b = some old := by
        obtain ⟨conn, d, i, hconn, -⟩ := cell_eq_some.mp hc
        have hlt := (List.getElem?_eq_some_iff.mp hconn).1
        simp only [Sockets.setCell, ConnectionRegistry.modifyConn, List.length_modify] at hlt
        have hlt' : b < s.tasks.length := h.length ▸ hlt
        exact ⟨⟨s.reg.heap[b].channel, (s.tasks[b]).2.2⟩, cell_eq_some.mpr ⟨_, _, _,
          List.getElem?_eq_getElem hlt, List.getElem?_eq_getElem hlt', rfl⟩⟩
      rw [cell_setCell_self hold] at hc
      obtain rfl := Option.some.inj hc
      exact hc'
    · rw [cell_setCell_of_ne s hba] at hc
      exact h.cells b c hc

theorem Ok.register {s : Sockets D S L P} (h : s.Ok) (d : D) (sh : S) (l : L)
    (hfew : s.reg.heap.length + 1 < 2 ^ 64) :
    Ok { reg := (s.reg.register d sh l).1
         tasks := s.tasks ++ [(d, (s.reg.register d sh l).2.connId, {})] } := by
  have hreg := ConnectionRegistry.Moves.register h.indexed d sh l
  -- the new connection sits at the end of the heap and of the task list
  have hnew : (s.reg.register d sh l).1.heap[s.reg.heap.length]? =
      some (s.reg.newConnection sh l) :=
    ConnectionRegistry.register_getElem?_length (h.indexed.valid d) sh l
  refine ⟨hreg.indexed, ?_, ?_, ?_, ?_⟩
  · simp only [List.length_append, List.length_singleton, hreg.length, h.length]
  · simp only [hreg.length]
    exact hfew
  · intro a d' i tasks ha
    rcases TaskPool.getElem?_append_cases ha with ha | ⟨rfl, heq⟩
    · exact hreg.ids a i (h.ids a d' i tasks ha)
    · cases heq
      rw [h.length]
      exact ConnectionRegistry.idAt_eq_some.mpr ⟨_, hnew, rfl⟩
  · intro a c hc
    obtain ⟨conn, d', i, hconn, htasks, hchannel⟩ := cell_eq_some.mp hc
    simp only at hconn htasks
    rcases TaskPool.getElem?_append_cases htasks with htasks | ⟨rfl, heq⟩
    · obtain ⟨old, hold, -⟩ := ConnectionRegistry.idAt_eq_some.mp (h.ids a d' i _ htasks)
      obtain ⟨conn', hconn', hcase⟩ := hreg.channel a old hold
      obtain rfl : conn = conn' := by simpa [hconn] using hconn'
      have hcell := h.cells a ⟨old.channel, c.tasks⟩
        (cell_eq_some.mpr ⟨old, d', i, hold, htasks, rfl⟩)
      obtain heq | ⟨m, -, heq⟩ := hcase
      · rw [show c = ⟨old.channel, c.tasks⟩ by rw [← heq, hchannel]]
        exact hcell
      · rw [show c = Cell.offer ⟨old.channel, c.tasks⟩ m by
          rw [Cell.offer, ← heq, hchannel]]
        exact hcell.offer m
    · obtain ⟨-, -, htasks'⟩ : d' = d ∧ i = s.reg.nextId + 1 ∧ c.tasks = ({} : Tasks P) := by
        simpa [ConnectionRegistry.register_connId] using heq
      rw [h.length] at hconn
      obtain rfl : conn = s.reg.newConnection sh l := by simpa [hnew, eq_comm] using hconn
      have hcell : c = { channel := { capacity := connectionChannelCapacity }, tasks := {} } := by
        rw [← htasks', show ({ capacity := connectionChannelCapacity } : Channel (Outbound P)) =
          c.channel from hchannel]
      rw [hcell]
      exact Cell.Ok.initial

theorem Ok.step {s t : Sockets D S L P} (h : s.Ok) {l : Label D S L P A}
    (hstep : s.step contains replayComplete replayMaxAlerts l = some t) : t.Ok := by
  cases l with
  | register d sh l =>
    simp only [Sockets.step] at hstep
    split at hstep
    · next hfew =>
      obtain rfl := Option.some.inj hstep
      exact h.register d sh l hfew
    · cases hstep
  | deregister d i =>
    obtain rfl := Option.some.inj hstep
    exact h.of_reg (.deregister h.indexed d i)
  | updateLocation d l =>
    obtain rfl := Option.some.inj hstep
    exact h.of_reg (.updateLocation h.indexed d l)
  | sendControl d text close =>
    obtain rfl := Option.some.inj hstep
    exact h.of_reg (.sendControl h.indexed d text close)
  | broadcastToShard sh alert payload =>
    obtain rfl := Option.some.inj hstep
    exact h.of_reg (.broadcastToShard h.indexed contains sh alert payload)
  | closeAll =>
    obtain rfl := Option.some.inj hstep
    exact h.of_reg (.closeAll h.indexed)
  | spawnReplay a =>
    obtain ⟨c, c', hc, hc', rfl⟩ := onCell_eq_some.mp hstep
    have hmove : Cell.Move replayComplete replayMaxAlerts (s.reg.Registered a) c c' :=
      .spawn _ h.registered_of_hasSender hc'
    exact h.setCell ((h.cells a c hc).move hmove)
  | task a op =>
    obtain ⟨c, c', hc, hc', rfl⟩ := onCell_eq_some.mp hstep
    exact h.setCell ((h.cells a c hc).exec hc')

-- ============================================================================
-- The closing operations
-- ============================================================================

/-- The operations that are to close the current connection of a device: a newer
    registration, a closing control frame, and the shutdown of the worker. -/
def Label.Closes (d : D) : Label D S L P A → Prop
  | .register d' _ _ => d' = d
  | .sendControl d' _ close => d' = d ∧ close = true
  | .closeAll => True
  | _ => False

/-- No alert that enters the queue of connection `a` from state `s` on is written
    to its socket, whatever the tasks and further calls do later. -/
def NothingLaterWritten (contains : A → L → Bool) (replayComplete : Nat → String)
    (replayMaxAlerts : Nat) (s : Sockets D S L P) (a : Nat) : Prop :=
  ∀ (labels : List (Label D S L P A)) (t : Sockets D S L P),
    Transition.run (step contains replayComplete replayMaxAlerts) s labels = some t →
    ∀ c c', s.cell a = some c → t.cell a = some c' →
    ∀ i p, (i, p) ∈ c'.tasks.written → i < c.entered

/-- A closing operation offers its marker; a connection that does not take it is
    no longer registered. -/
theorem Ok.closing_cell {s t : Sockets D S L P} (h : s.Ok) {d : D} {a : Nat}
    (hd : s.reg.byDevice.get d = some a) {l : Label D S L P A} (hcloses : l.Closes d)
    (hstep : s.step contains replayComplete replayMaxAlerts l = some t) {c : Cell P}
    (hc : s.cell a = some c) :
    ∃ m, m.stops = true ∧ t.cell a = some (c.offer m) ∧
      (c.channel.accepts = false → ¬t.reg.Registered a) := by
  obtain ⟨conn, d', i, hconn, htasks, hchannel⟩ := cell_eq_some.mp hc
  have hlt : a < s.reg.heap.length := h.indexed.valid d a hd
  cases l with
  | register d₁ sh l =>
    obtain rfl : d₁ = d := hcloses
    simp only [Sockets.step] at hstep
    split at hstep
    · obtain rfl := Option.some.inj hstep
      refine ⟨.close, rfl, ?_, fun _ => ?_⟩
      · refine cell_eq_some.mpr ⟨_, d', i,
          ConnectionRegistry.register_getElem?_of_lt s.reg d₁ sh l hconn, ?_, ?_⟩
        · exact (List.getElem?_append_left (List.getElem?_eq_some_iff.mp htasks).1).trans htasks
        · rw [if_pos hd, hchannel]
          rfl
      · rintro ⟨d₂, hd₂⟩
        simp only [ConnectionRegistry.register_byDevice_get] at hd₂
        split at hd₂
        · have := Option.some.inj hd₂
          omega
        · next hne => exact hne (h.indexed.inj d₂ d₁ a hd₂ hd)
    · cases hstep
  | sendControl d₁ text close =>
    obtain ⟨rfl, rfl⟩ := hcloses
    obtain rfl := Option.some.inj hstep
    cases hacc : conn.channel.accepts with
    | true =>
      have hsend : (s.reg.sendControl d₁ text true).1 =
          s.reg.offerTo a (.control text true) := by
        simp [ConnectionRegistry.sendControl, hd, hconn, Channel.trySend_eq_ok hacc]
      refine ⟨.control text true, rfl, ?_, fun hnot => ?_⟩
      · refine cell_eq_some.mpr ⟨{ conn with channel := conn.channel.offer _ }, d', i, ?_,
          htasks, by rw [hchannel]; rfl⟩
        simp [hsend, ConnectionRegistry.offerTo, ConnectionRegistry.modifyConn, hconn]
      · rw [← hchannel, hacc] at hnot
        cases hnot
    | false =>
      obtain ⟨e, he⟩ := Channel.trySend_eq_error (m := Outbound.control text true) hacc
      have hsend : (s.reg.sendControl d₁ text true).1 = (s.reg.deregister d₁ conn.id).1 := by
        simp [ConnectionRegistry.sendControl, hd, hconn, he]
      have hid : s.reg.idAt a = some conn.id :=
        ConnectionRegistry.idAt_eq_some.mpr ⟨conn, hconn, rfl⟩
      refine ⟨.control text true, rfl, ?_, fun _ => ?_⟩
      · refine cell_eq_some.mpr ⟨conn, d', i, ?_, htasks, ?_⟩
        · simpa [hsend] using hconn
        · rw [Cell.offer, ← hchannel, Channel.offer_eq, hacc]
          rfl
      · rintro ⟨d₂, hd₂⟩
        simp only [hsend, (ConnectionRegistry.deregister_current hd hid).2] at hd₂
        split at hd₂
        · cases hd₂
        · next hne => exact hne (h.indexed.inj d₂ d₁ a hd₂ hd)
  | closeAll =>
    obtain rfl := Option.some.inj hstep
    obtain ⟨conn', hconn', -, hoffer, -⟩ := ConnectionRegistry.closeAll_getElem? h.indexed hconn
    refine ⟨.close, rfl, cell_eq_some.mpr ⟨conn', d', i, hconn', htasks, ?_⟩, fun _ => ?_⟩
    · rw [hoffer ⟨d, hd⟩, hchannel]
      rfl
    · rintro ⟨d₂, hd₂⟩
      simp [ConnectionRegistry.closeAll] at hd₂
  | _ => exact hcloses.elim

/-- A silent connection stays silent. -/
theorem silent_step {n a : Nat} {l : Label D S L P A} {s t : Sockets D S L P}
    (h : s.Ok ∧ ∃ c, s.cell a = some c ∧ c.Silent replayMaxAlerts n (s.reg.Registered a))
    (hstep : s.step contains replayComplete replayMaxAlerts l = some t) :
    t.Ok ∧ ∃ c, t.cell a = some c ∧ c.Silent replayMaxAlerts n (t.reg.Registered a) := by
  obtain ⟨hok, c, hc, hs⟩ := h
  have hmoves := hok.moves hstep
  obtain ⟨c', hc', hmove⟩ := hmoves.cell a c hc
  exact ⟨hok.step hstep, c', hc', (hs.move hmove).mono (hmoves.current a c hc)⟩

theorem silent_run {n a : Nat} {labels : List (Label D S L P A)} {s t : Sockets D S L P}
    (h : s.Ok) (hrun : Transition.run (step contains replayComplete replayMaxAlerts) s labels =
      some t) {c : Cell P} (hc : s.cell a = some c)
    (hs : c.Silent replayMaxAlerts n (s.reg.Registered a)) :
    ∃ c', t.cell a = some c' ∧ c'.Silent replayMaxAlerts n (t.reg.Registered a) := by
  have hinit : s.Ok ∧ ∃ c, s.cell a = some c ∧
      c.Silent replayMaxAlerts n (s.reg.Registered a) := ⟨h, c, hc, hs⟩
  exact (Transition.run_invariant_all (fun _ _ _ h hstep => silent_step h hstep) hinit hrun).2

theorem Ok.run {labels : List (Label D S L P A)} {s t : Sockets D S L P} (h : s.Ok)
    (hrun : Transition.run (Sockets.step contains replayComplete replayMaxAlerts) s labels = some t) :
    t.Ok :=
  Transition.run_invariant_all (fun _ _ _ h hstep => h.step hstep) h hrun

/-- The operations of one connection's tasks as steps of the worker. -/
theorem run_tasks {a : Nat} {c c' : Cell P} {s : Sockets D S L P} (hc : s.cell a = some c)
    {ops : List (Cell.TaskOp P)}
    (hops : Transition.run (Cell.exec replayComplete replayMaxAlerts) c ops = some c') :
    ∃ t, Transition.run (step contains replayComplete replayMaxAlerts) s
        (ops.map (Label.task a)) = some t ∧ t.cell a = some c' := by
  induction ops generalizing s c with
  | nil =>
    obtain rfl := Option.some.inj hops
    exact ⟨s, rfl, hc⟩
  | cons op ops ih =>
    obtain ⟨c₁, hop, hrest⟩ := Transition.run_cons_eq_some.mp hops
    obtain ⟨t, hrun, ht⟩ := ih (cell_setCell_self hc c₁) hrest
    refine ⟨t, ?_, ht⟩
    exact Transition.run_cons_eq_some.mpr
      ⟨s.setCell a c₁, onCell_eq_some.mpr ⟨c, c₁, hc, hop, rfl⟩, hrun⟩

/-- A connection that takes the marker, is being closed already, or has no alert
    left to replay is silent after the operation. -/
theorem Ok.silent_after_closing {s t : Sockets D S L P} (h : s.Ok) {d : D} {a : Nat}
    (hd : s.reg.byDevice.get d = some a) {l : Label D S L P A} (hcloses : l.Closes d)
    (hstep : s.step contains replayComplete replayMaxAlerts l = some t) {c : Cell P}
    (hc : s.cell a = some c)
    (hcond : c.channel.accepts = true ∨ ¬c.Running ∨
      c.tasks.replay.alertLeft replayMaxAlerts = false) :
    ∃ c₀, t.cell a = some c₀ ∧ c₀.Silent replayMaxAlerts c₀.entered (t.reg.Registered a) := by
  obtain ⟨m, hm, hcell, hnot⟩ := h.closing_cell hd hcloses hstep hc
  have hok := (h.cells a c hc).offer m
  refine ⟨c.offer m, hcell, ?_, ?_, ?_⟩
  · intro i p hi
    have := hok.written i p hi
    unfold Cell.entered
    omega
  · intro i p hi
    have := (hok.hand i _ hi).1
    unfold Cell.entered
    omega
  · obtain ⟨hacc, heq⟩ | ⟨hacc, heq⟩ := Cell.offer_cases c m
    · -- the marker is the last message in the queue
      rw [heq]
      refine .inl (.inr (.inr ⟨c.channel.queue.length, m, by simp, hm, ?_⟩))
      simp [Cell.entered]
    · rw [heq]
      obtain h1 | hnrun | hleft := hcond
      · simp [hacc] at h1
      · left
        by_cases hopen : c.channel.rxOpen = true
        · by_cases hq : ∀ x ∈ c.channel.queue, x.stops = false
          · by_cases hh : ∀ i x, c.tasks.hand = some (i, x) → x.stops = false
            · exact absurd ⟨hopen, hq, hh⟩ hnrun
            · push Not at hh
              obtain ⟨i, x, hx, hstops⟩ := hh
              exact .inr (.inl ⟨i, x, hx, by simpa using hstops⟩)
          · push Not at hq
            obtain ⟨x, hx, hstops⟩ := hq
            obtain ⟨k, hk⟩ := List.mem_iff_getElem?.mp hx
            have hlt := (List.getElem?_eq_some_iff.mp hk).1
            exact .inr (.inr ⟨k, x, hk, by simpa using hstops, by unfold Cell.entered; omega⟩)
        · refine .inl ⟨by simpa using hopen, ?_⟩
          cases hhand : c.tasks.hand with
          | none => rfl
          | some x => exact absurd ((h.cells a c hc).hand x.1 x.2 hhand).2 hopen
      · refine .inr ⟨hnot hacc, ?_, hleft⟩
        intro k p hk
        have hlt := (List.getElem?_eq_some_iff.mp hk).1
        unfold Cell.entered
        omega

/-- **When a closing request takes effect.**  In every reachable state, for each
    closing operation on the current connection of a device: no alert that enters
    the connection's queue after the operation is ever written to its socket, if
    and only if, when the operation starts, the queue has a free slot for the
    marker, or the writer has stopped or has a closing message ahead of it, or the
    replay task has no alert left to send. -/
theorem closing_takes_effect_iff [Inhabited P] {before : List (Label D S L P A)}
    {s t : Sockets D S L P}
    (hrun : Transition.run (step contains replayComplete replayMaxAlerts) {} before = some s)
    {d : D} {a : Nat} (hd : s.reg.byDevice.get d = some a) {l : Label D S L P A}
    (hcloses : l.Closes d) (hstep : s.step contains replayComplete replayMaxAlerts l = some t)
    {c : Cell P} (hc : s.cell a = some c) :
    NothingLaterWritten contains replayComplete replayMaxAlerts t a ↔
      c.channel.accepts = true ∨ ¬c.Running ∨
        c.tasks.replay.alertLeft replayMaxAlerts = false := by
  have hok : s.Ok := Ok.initial.run hrun
  constructor
  · intro hnothing
    by_contra hcond
    push Not at hcond
    obtain ⟨hacc, hrunning, hleft⟩ := hcond
    obtain ⟨m, -, hcell, -⟩ := hok.closing_cell hd hcloses hstep hc
    -- the marker is refused, so the connection goes on as before
    obtain ⟨hacc', -⟩ | ⟨-, heq⟩ := Cell.offer_cases c m
    · exact hacc hacc'
    · rw [heq] at hcell
      obtain ⟨c', p, ⟨ops, hops⟩, hmem⟩ :=
        hrunning.writes_later (hok.cells a c hc) (by simpa using hleft)
      obtain ⟨t', hrun', hcell'⟩ := run_tasks hcell hops
      exact absurd (hnothing _ t' hrun' c c' hcell hcell' _ p hmem) (lt_irrefl _)
  · intro hcond
    obtain ⟨c₀, hcell, hsilent⟩ := hok.silent_after_closing hd hcloses hstep hc hcond
    intro labels t' hrun' c₁ c' hc₁ hc' i p hi
    obtain rfl : c₀ = c₁ := by simpa [hcell] using hc₁
    obtain ⟨c'', hc'', hs⟩ := silent_run (hok.step hstep) hrun' hcell hsilent
    obtain rfl : c' = c'' := by simpa [hc'] using hc''
    exact hs.written i p hi

/-- A worker whose replays are limited to 500 alerts and whose devices are inside
    every alert circle. -/
def exampleStep : Sockets Nat Nat Unit Nat → Label Nat Nat Unit Nat Unit →
    Option (Sockets Nat Nat Unit Nat) :=
  step (fun _ _ => true) (fun _ => "replay_complete") 500

/-- A device connects and its replay starts. -/
def shortReplayRun : List (Label Nat Nat Unit Nat Unit) :=
  [.register 0 7 (), .spawnReplay 0, .task 0 (.fetched [1, 2, 3]), .task 0 .sendNext]

/-- The device reconnects while the queue of its first connection has room. -/
theorem reconnect_takes_effect :
    ∃ s t c, Transition.run exampleStep {} shortReplayRun = some s ∧
      exampleStep s (.register 0 7 ()) = some t ∧ s.cell 0 = some c ∧
      NothingLaterWritten (A := Unit) (fun _ _ => true) (fun _ => "replay_complete") 500 t 0 := by
  refine ⟨_, _, _, rfl, rfl, rfl, ?_⟩
  refine (@closing_takes_effect_iff Nat Nat Unit Nat Unit _ _ 500 _ _ _ shortReplayRun _ _ rfl 0 0
    rfl (.register 0 7 ()) rfl rfl _ rfl).mpr (.inl ?_)
  decide

/-- A device connects and its replay of 65 alerts fills the queue of 64. -/
def fullReplayRun : List (Label Nat Nat Unit Nat Unit) :=
  [.register 0 7 (), .spawnReplay 0, .task 0 (.fetched (List.range 65))] ++
    List.replicate 65 (.task 0 .sendNext)

/-- The writer makes room, the replay task stores its last alert, and the writer
    writes everything. -/
def replayGoesOn : List (Label Nat Nat Unit Nat Unit) :=
  [.task 0 .take, .task 0 .sendGranted] ++
    (List.replicate 64 [.task 0 (.sent true), .task 0 .take]).flatten ++ [.task 0 (.sent true)]

/-- The device reconnects while the replay to its first connection waits for room:
    the first connection is not told to close, and an alert stored afterwards is
    written to its socket. -/
theorem replay_outlives_replacement :
    ¬∀ (before : List (Label Nat Nat Unit Nat Unit)) (s t : Sockets Nat Nat Unit Nat)
      (d a : Nat) (l : Label Nat Nat Unit Nat Unit),
      Transition.run exampleStep {} before = some s → s.reg.byDevice.get d = some a →
      l.Closes d → exampleStep s l = some t →
      NothingLaterWritten (A := Unit) (fun _ _ => true) (fun _ => "replay_complete") 500 t a := by
  intro h
  obtain ⟨s, hs⟩ : ∃ s, Transition.run exampleStep {} fullReplayRun = some s :=
    Option.isSome_iff_exists.mp (by decide +kernel)
  obtain ⟨t, ht⟩ : ∃ t, exampleStep s (.register 0 7 ()) = some t := by
    have hsome : ((Transition.run exampleStep {} fullReplayRun).bind fun s =>
        exampleStep s (.register 0 7 ())).isSome = true := by decide +kernel
    rw [hs] at hsome
    exact Option.isSome_iff_exists.mp hsome
  have hdev : s.reg.byDevice.get 0 = some 0 := by
    have hget : ((Transition.run exampleStep {} fullReplayRun).bind fun s =>
        s.reg.byDevice.get 0) = some 0 := by decide +kernel
    rwa [hs] at hget
  have hnothing := h fullReplayRun s t 0 0 (.register 0 7 ()) hs hdev rfl ht
  -- 64 messages have entered when the operation returns; number 64 is written later
  obtain ⟨c, hc, hentered⟩ : ∃ c, t.cell 0 = some c ∧ c.entered = 64 := by
    have hcell : ((Transition.run exampleStep {} fullReplayRun).bind fun s =>
        (exampleStep s (.register 0 7 ())).bind fun t => (t.cell 0).map Cell.entered) =
        some 64 := by decide +kernel
    rw [hs, Option.bind_some, ht, Option.bind_some] at hcell
    exact Option.map_eq_some_iff.mp hcell
  obtain ⟨u, c', hu, hc', hwritten⟩ : ∃ u c', Transition.run exampleStep t replayGoesOn = some u ∧
      u.cell 0 = some c' ∧ (64, 64) ∈ c'.tasks.written := by
    have hrun : ((Transition.run exampleStep {} fullReplayRun).bind fun s =>
        (exampleStep s (.register 0 7 ())).bind fun t =>
          (Transition.run exampleStep t replayGoesOn).bind fun u => (u.cell 0).bind fun c =>
            c.tasks.written.getLast?) = some (64, 64) := by decide +kernel
    rw [hs, Option.bind_some, ht, Option.bind_some] at hrun
    obtain ⟨u, hu, hrun⟩ := Option.bind_eq_some_iff.mp hrun
    obtain ⟨c', hc', hlast⟩ := Option.bind_eq_some_iff.mp hrun
    exact ⟨u, c', hu, hc', List.mem_of_getLast? hlast⟩
  have hlt := hnothing replayGoesOn u hu c c' hc hc' 64 64 hwritten
  omega

end Sockets
end PulseGrid.Worker
