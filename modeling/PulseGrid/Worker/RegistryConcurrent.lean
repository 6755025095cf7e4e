/-
  PulseGrid.Worker.RegistryConcurrent

  Runs of concurrent `register` and `deregister` calls: the two indexes agree
  once all calls have returned, when every call looks for the shard index of the
  connection it replaced after that connection's own `register` has put it there
  (`indexes_agree_when_quiescent`).  Without that, two reconnects of one device
  can leave the replaced connection in the shard index.
-/

import PulseGrid.Lib.TaskPool
import PulseGrid.Worker.RegistryIndexAgreement

namespace PulseGrid.Worker
namespace Interleaved

open TaskPool

variable {D S L P : Type*}

/-- What the program counters of the calls have to do with the heap. -/
structure CallsInv (s : Interleaved D S L P) : Prop where
  next : s.reg.nextId.toNat = s.reg.heap.length
  ids : ∀ a i, s.reg.idAt a = some i → i.toNat = a + 1
  addr_lt : ∀ pc ∈ s.calls, ∀ a, pc.addr? = some a → a < s.reg.heap.length
  /-- A connection belongs to the call that built it. -/
  addr_uniq : ∀ (i j : Nat) (pc pc' : CallPc D S L) (a : Nat), s.calls[i]? = some pc → s.calls[j]? = some pc' →
    pc.addr? = some a → pc'.addr? = some a → i = j
  shard : ∀ pc ∈ s.calls, ∀ sh a, pc.target? = some (sh, a) → s.reg.shardAt a = some sh
  registered : ∀ r, CallPc.registered r ∈ s.calls → s.reg.idAt r.receiver = some r.connId
  returned : ∀ d i, CallPc.removeDevice d i ∈ s.calls →
    ∃ r, CallPc.registered r ∈ s.calls ∧ r.connId = i

/-- The invariant of one device, read off the state. -/
def DeviceOk [DecidableEq D] [DecidableEq S] (s : Interleaved D S L P) (d : D) : Prop :=
  DeviceInv (s.reg.byDevice.get d) (fun sh => s.reg.byShard.getIn sh d)
    s.reg.shardAt s.reg.heap.length (fun a => SomeTask s.calls (CallPc.Fresh a))
    (fun a => SomeTask s.calls (CallPc.Pending d a))
    (fun c p => SomeTask s.calls (CallPc.Early d c p))
    (fun p => SomeTask s.calls (CallPc.Late d p))

/-- The invariant of every run. -/
structure Inv [DecidableEq D] [DecidableEq S] (s : Interleaved D S L P) : Prop where
  calls : s.CallsInv
  device : ∀ d, s.DeviceOk d

theorem Inv.empty [DecidableEq D] [DecidableEq S] : Inv ({} : Interleaved D S L P) where
  calls := by constructor <;> simp [ConnectionRegistry.idAt]
  device d := by
    constructor
    case rank => exact ⟨fun _ => 0, 1, by simp [SomeTask], by simp [SomeTask], by simp⟩
    all_goals simp [SomeTask]

-- ============================================================================
-- The calls and the heap
-- ============================================================================

theorem CallsInv.append {s : Interleaved D S L P} (h : s.CallsInv) {pc : CallPc D S L}
    (haddr : pc.addr? = none) (htarget : pc.target? = none)
    (hret : ∀ d i, pc = .removeDevice d i → ∃ r, CallPc.registered r ∈ s.calls ∧ r.connId = i) :
    CallsInv { s with calls := s.calls ++ [pc] } where
  next := h.next
  ids := h.ids
  addr_lt q hq a ha := by
    obtain hq | rfl : q ∈ s.calls ∨ q = pc := by simpa using hq
    · exact h.addr_lt q hq a ha
    · simp [haddr] at ha
  addr_uniq i j q q' a hi hj hq hq' := by
    have hold : ∀ (k : Nat) (x : CallPc D S L), (s.calls ++ [pc])[k]? = some x →
        x.addr? = some a → s.calls[k]? = some x := by
      intro k x hk hx
      rcases getElem?_append_cases hk with hk | ⟨-, rfl⟩
      · exact hk
      · rw [haddr] at hx
        cases hx
    exact h.addr_uniq i j q q' a (hold i q hi hq) (hold j q' hj hq') hq hq'
  shard q hq sh a ha := by
    obtain hq | rfl : q ∈ s.calls ∨ q = pc := by simpa using hq
    · exact h.shard q hq sh a ha
    · simp [htarget] at ha
  registered r hr := by
    obtain hr | hr : CallPc.registered r ∈ s.calls ∨ CallPc.registered r = pc := by simpa using hr
    · exact h.registered r hr
    · simp [← hr, CallPc.addr?] at haddr
  returned d i hd := by
    have hd' : CallPc.removeDevice d i ∈ s.calls ∨ CallPc.removeDevice d i = pc := by
      simpa using hd
    obtain ⟨r, hr, hri⟩ := hd'.elim (h.returned d i) fun hpc => hret d i hpc.symm
    exact ⟨r, List.mem_append_left _ hr, hri⟩

/-- An operation of call `i` that does not build a connection. -/
theorem CallsInv.set {s : Interleaved D S L P} (h : s.CallsInv) {i : Nat} {pc pc' : CallPc D S L}
    (hi : s.calls[i]? = some pc) {reg' : ConnectionRegistry D S L P}
    (hnext : reg'.nextId = s.reg.nextId) (hlen : reg'.heap.length = s.reg.heap.length)
    (hids : ∀ a, reg'.idAt a = s.reg.idAt a) (hshards : ∀ a, reg'.shardAt a = s.reg.shardAt a)
    (haddr : ∀ a, pc'.addr? = some a → pc.addr? = some a)
    (htarget : ∀ x, pc'.target? = some x → pc.target? = some x)
    (hreg : ∀ r, pc' = .registered r → s.reg.idAt r.receiver = some r.connId)
    (hpc : ∀ r, pc ≠ .registered r) (hpc' : ∀ d x, pc' ≠ .removeDevice d x) :
    CallsInv { reg := reg', calls := s.calls.set i pc' } := by
  have hold : ∀ (k : Nat) (x : CallPc D S L), (s.calls.set i pc')[k]? = some x →
      ∃ y, s.calls[k]? = some y ∧ (∀ a, x.addr? = some a → y.addr? = some a) ∧
        ∀ t, x.target? = some t → y.target? = some t := by
    intro k x hk
    rcases getElem?_set_cases hi hk with ⟨rfl, rfl⟩ | ⟨-, hk⟩
    · exact ⟨pc, hi, haddr, htarget⟩
    · exact ⟨x, hk, fun _ => id, fun _ => id⟩
  constructor
  case next => simp only [hnext, hlen, h.next]
  case ids => intro a x; rw [hids]; exact h.ids a x
  case addr_lt =>
    intro x hx a ha
    obtain ⟨k, hk⟩ := List.mem_iff_getElem?.mp hx
    obtain ⟨y, hy, hya, -⟩ := hold k x hk
    simpa only [hlen] using h.addr_lt y (List.mem_of_getElem? hy) a (hya a ha)
  case addr_uniq =>
    intro k l x x' a hk hl hx hx'
    obtain ⟨y, hy, hya, -⟩ := hold k x hk
    obtain ⟨y', hy', hya', -⟩ := hold l x' hl
    exact h.addr_uniq k l y y' a hy hy' (hya a hx) (hya' a hx')
  case shard =>
    intro x hx sh a ha
    obtain ⟨k, hk⟩ := List.mem_iff_getElem?.mp hx
    obtain ⟨y, hy, -, hyt⟩ := hold k x hk
    simpa only [hshards] using h.shard y (List.mem_of_getElem? hy) sh a (hyt _ ha)
  case registered =>
    intro r hr
    simp only [hids]
    obtain hr | hr := List.mem_or_eq_of_mem_set hr
    · exact h.registered r hr
    · exact hreg r hr.symm
  case returned =>
    intro d x hd
    obtain hd | hd := List.mem_or_eq_of_mem_set hd
    · obtain ⟨r, hr, hrx⟩ := h.returned d x hd
      obtain ⟨k, hk⟩ := List.mem_iff_getElem?.mp hr
      have hki : i ≠ k := by
        rintro rfl
        exact hpc r (by simpa [hi] using hk)
      rw [← List.getElem?_set_ne hki (a := pc')] at hk
      exact ⟨r, List.mem_of_getElem? hk, hrx⟩
    · exact absurd hd.symm (hpc' d x)

theorem CallsInv.alloc {s : Interleaved D S L P} (h : s.CallsInv) {i : Nat} {d : D} {sh : S}
    {l : L} (hi : s.calls[i]? = some (.alloc d sh l)) (hwrap : s.reg.nextId.toNat + 1 < 2 ^ 64) :
    CallsInv { reg := s.reg.allocate sh l,
               calls := s.calls.set i (.insertDevice d sh s.reg.heap.length) } := by
  have hnext : (s.reg.nextId + 1).toNat = s.reg.nextId.toNat + 1 :=
    ConnectionRegistry.toNat_nextId_add_one hwrap
  have hlen : (s.reg.allocate sh l).heap.length = s.reg.heap.length + 1 := by
    simp [ConnectionRegistry.heap_allocate]
  have hold : ∀ a, a < s.reg.heap.length → (s.reg.allocate sh l).heap[a]? = s.reg.heap[a]? :=
    fun a ha => ConnectionRegistry.allocate_getElem?_of_lt s.reg sh l ha
  -- an address held by a call is an old one, except in call `i`
  have hcases : ∀ (k : Nat) (x : CallPc D S L),
      (s.calls.set i (.insertDevice d sh s.reg.heap.length))[k]? = some x →
      (k = i ∧ x = .insertDevice d sh s.reg.heap.length) ∨ s.calls[k]? = some x := by
    intro k x hk
    rcases getElem?_set_cases hi hk with hnew | ⟨-, hk⟩
    · exact .inl hnew
    · exact .inr hk
  constructor
  case next => rw [hlen, ← h.next]; exact hnext
  case ids =>
    intro a x hx
    obtain ⟨c, hc, rfl⟩ := ConnectionRegistry.idAt_eq_some.1 hx
    have ha : a < s.reg.heap.length + 1 := hlen ▸ (List.getElem?_eq_some_iff.mp hc).1
    obtain ha | rfl : a < s.reg.heap.length ∨ a = s.reg.heap.length := by omega
    · exact h.ids a c.id (ConnectionRegistry.idAt_eq_some.2 ⟨c, by rw [← hold a ha]; exact hc, rfl⟩)
    · rw [ConnectionRegistry.allocate_getElem?_length] at hc
      obtain rfl := Option.some.inj hc
      rw [← h.next]
      exact hnext
  case addr_lt =>
    intro x hx a ha
    obtain ⟨k, hk⟩ := List.mem_iff_getElem?.mp hx
    show a < (s.reg.allocate sh l).heap.length
    obtain ⟨-, rfl⟩ | hk := hcases k x hk
    · have ha' : s.reg.heap.length = a := by simpa [CallPc.addr?] using ha
      omega
    · have := h.addr_lt x (List.mem_of_getElem? hk) a ha
      omega
  case addr_uniq =>
    intro k m x y a hk hm hx hy
    obtain ⟨hki, rfl⟩ | hk' := hcases k x hk <;> obtain ⟨hmi, rfl⟩ | hm' := hcases m y hm
    · rw [hki, hmi]
    · have ha : s.reg.heap.length = a := by simpa [CallPc.addr?] using hx
      have := h.addr_lt y (List.mem_of_getElem? hm') a hy
      omega
    · have ha : s.reg.heap.length = a := by simpa [CallPc.addr?] using hy
      have := h.addr_lt x (List.mem_of_getElem? hk') a hx
      omega
    · exact h.addr_uniq k m x y a hk' hm' hx hy
  case shard =>
    intro x hx sh' a ha
    obtain ⟨k, hk⟩ := List.mem_iff_getElem?.mp hx
    obtain ⟨-, rfl⟩ | hk := hcases k x hk
    · obtain ⟨rfl, rfl⟩ : sh = sh' ∧ s.reg.heap.length = a := by simpa [CallPc.target?] using ha
      exact ConnectionRegistry.shardAt_eq_some.2
        ⟨_, ConnectionRegistry.allocate_getElem?_length s.reg sh l, rfl⟩
    · obtain ⟨c, hc, hcs⟩ := ConnectionRegistry.shardAt_eq_some.1
        (h.shard x (List.mem_of_getElem? hk) sh' a ha)
      refine ConnectionRegistry.shardAt_eq_some.2 ⟨c, ?_, hcs⟩
      rw [← hc]
      exact hold a (List.getElem?_eq_some_iff.mp hc).1
  case registered =>
    intro r hr
    obtain ⟨k, hk⟩ := List.mem_iff_getElem?.mp hr
    obtain ⟨-, hk⟩ | hk := hcases k _ hk
    · simp at hk
    · obtain ⟨c, hc, hci⟩ := ConnectionRegistry.idAt_eq_some.1
        (h.registered r (List.mem_of_getElem? hk))
      refine ConnectionRegistry.idAt_eq_some.2 ⟨c, ?_, hci⟩
      rw [← hc]
      exact hold r.receiver (List.getElem?_eq_some_iff.mp hc).1
  case returned =>
    intro d' x hd
    obtain hd | hd := List.mem_or_eq_of_mem_set hd
    · obtain ⟨r, hr, hrx⟩ := h.returned d' x hd
      obtain ⟨k, hk⟩ := List.mem_iff_getElem?.mp hr
      have hki : i ≠ k := by
        rintro rfl
        simp [hi] at hk
      rw [← List.getElem?_set_ne hki (a := .insertDevice d sh s.reg.heap.length)] at hk
      exact ⟨r, List.mem_of_getElem? hk, hrx⟩
    · simp at hd

/-- No other call holds the connection that call `i` has built. -/
theorem CallsInv.not_otherTask {s : Interleaved D S L P} (h : s.CallsInv) {i a : Nat}
    {pc : CallPc D S L} (hi : s.calls[i]? = some pc) (ha : pc.addr? = some a)
    {φ : CallPc D S L → Prop} (hφ : ∀ q, φ q → q.addr? = some a) :
    ¬OtherTask s.calls i φ := by
  rintro ⟨j, q, hji, hj, hq⟩
  exact hji (h.addr_uniq j i q pc a hj hi (hφ q hq) ha)

theorem addr_of_fresh {a : Nat} {pc : CallPc D S L} (h : pc.Fresh a) : pc.addr? = some a := by
  cases pc <;> simp_all [CallPc.Fresh, CallPc.addr?]

theorem addr_of_pending {d : D} {a : Nat} {pc : CallPc D S L} (h : pc.Pending d a) :
    pc.addr? = some a := by
  cases pc <;> simp_all [CallPc.Pending, CallPc.addr?]

theorem device_of_pending {d : D} {a : Nat} {pc : CallPc D S L} (h : pc.Pending d a) :
    pc.device? = some d := by
  cases pc <;> simp_all [CallPc.Pending, CallPc.device?]

theorem device_of_early {d : D} {c p : Nat} {pc : CallPc D S L} (h : pc.Early d c p) :
    pc.device? = some d := by
  cases pc <;> simp_all [CallPc.Early, CallPc.device?]

theorem device_of_late {d : D} {p : Nat} {pc : CallPc D S L} (h : pc.Late d p) :
    pc.device? = some d := by
  cases pc <;> simp_all [CallPc.Late, CallPc.device?]

-- ============================================================================
-- One operation of one call, seen by one device
-- ============================================================================

variable [DecidableEq D] [DecidableEq S]

/-- An operation that changes neither the device's entries nor what its calls
    still have to do. -/
theorem Inv.deviceOk_frame {s : Interleaved D S L P} (h : s.Inv) {i : Nat} {pc pc' : CallPc D S L}
    (hi : s.calls[i]? = some pc) {reg' : ConnectionRegistry D S L P} {d : D}
    (hdev : reg'.byDevice.get d = s.reg.byDevice.get d)
    (hslot : ∀ sh, reg'.byShard.getIn sh d = s.reg.byShard.getIn sh d)
    (hshard : ∀ a, reg'.shardAt a = s.reg.shardAt a)
    (hlen : reg'.heap.length = s.reg.heap.length)
    (hfresh : ∀ a, ¬pc'.Fresh a) (hpend : ∀ a, pc'.Pending d a ↔ pc.Pending d a)
    (hearly : ∀ c p, pc'.Early d c p ↔ pc.Early d c p) (hlate : ∀ p, pc'.Late d p ↔ pc.Late d p) :
    DeviceOk { reg := reg', calls := s.calls.set i pc' } d := by
  refine (h.device d).congr hdev hslot hshard hlen ?_ ?_ ?_ ?_
  · intro a
    rw [someTask_set hi, someTask_iff hi]
    exact Or.imp_left fun hpc' => absurd hpc' (hfresh a)
  · intro a
    rw [someTask_set hi, someTask_iff hi, hpend]
  · intro c p
    rw [someTask_set hi, someTask_iff hi, hearly]
  · intro p
    rw [someTask_set hi, someTask_iff hi, hlate]

/-- An operation of a call about another device. -/
theorem Inv.deviceOk_other {s : Interleaved D S L P} (h : s.Inv) {i : Nat} {pc pc' : CallPc D S L}
    (hi : s.calls[i]? = some pc) {reg' : ConnectionRegistry D S L P} {d : D}
    (hd : pc.device? ≠ some d) (hd' : pc'.device? ≠ some d)
    (hdev : reg'.byDevice.get d = s.reg.byDevice.get d)
    (hslot : ∀ sh, reg'.byShard.getIn sh d = s.reg.byShard.getIn sh d)
    (hshard : ∀ a, reg'.shardAt a = s.reg.shardAt a)
    (hlen : reg'.heap.length = s.reg.heap.length) (hfresh : ∀ a, ¬pc'.Fresh a) :
    DeviceOk { reg := reg', calls := s.calls.set i pc' } d := by
  refine h.deviceOk_frame hi hdev hslot hshard hlen hfresh ?_ ?_ ?_
  · exact fun a => iff_of_false (fun hq => hd' (device_of_pending hq))
      fun hq => hd (device_of_pending hq)
  · exact fun c p => iff_of_false (fun hq => hd' (device_of_early hq))
      fun hq => hd (device_of_early hq)
  · exact fun p => iff_of_false (fun hq => hd' (device_of_late hq))
      fun hq => hd (device_of_late hq)

theorem Inv.alloc {s : Interleaved D S L P} (h : s.Inv) {i : Nat} {d : D} {sh : S} {l : L}
    (hi : s.calls[i]? = some (.alloc d sh l)) (hwrap : s.reg.nextId.toNat + 1 < 2 ^ 64) :
    Inv { reg := s.reg.allocate sh l,
          calls := s.calls.set i (.insertDevice d sh s.reg.heap.length) } where
  calls := h.calls.alloc hi hwrap
  device d' := by
    have hshard : ∀ a, a < s.reg.heap.length →
        (s.reg.allocate sh l).shardAt a = s.reg.shardAt a := fun a ha => by
      simp only [ConnectionRegistry.shardAt, ConnectionRegistry.allocate_getElem?_of_lt _ _ _ ha]
    refine DeviceInv.congr ((h.device d').alloc (fun a => SomeTask (s.calls.set i
      (.insertDevice d sh s.reg.heap.length)) (CallPc.Fresh a)) hshard ?_) rfl (fun _ => rfl)
      (fun _ => rfl) (by simp [ConnectionRegistry.heap_allocate]) (fun _ => id) ?_ ?_ ?_
    · intro a ha
      rw [someTask_set hi] at ha
      rw [someTask_iff hi]
      obtain ha | ha := ha
      · exact .inr (Eq.symm ha)
      · exact .inl (.inr ha)
    all_goals
      intros
      rw [someTask_set hi, someTask_iff hi]
      simp [CallPc.Pending, CallPc.Early, CallPc.Late]

/-- Where a `register` goes on after `by_device.insert`. -/
def afterInsertDevice (d : D) (sh : S) (a : Nat) : Option Nat → CallPc D S L
  | some prev => .sendClose d sh a prev
  | none => .insertShard d sh a

theorem Inv.insertDevice {s : Interleaved D S L P} (h : s.Inv) {i : Nat} {d : D} {sh : S}
    {a : Nat} (hi : s.calls[i]? = some (.insertDevice d sh a)) :
    Inv { reg := s.reg.storeDevice d a,
          calls := s.calls.set i (afterInsertDevice d sh a (s.reg.byDevice.get d)) } where
  calls := by
    refine h.calls.set hi rfl rfl (fun _ => rfl) (fun _ => rfl) ?_ ?_ ?_ (by simp) ?_ <;>
      cases s.reg.byDevice.get d <;> simp [afterInsertDevice, CallPc.addr?, CallPc.target?]
  device d' := by
    by_cases hd : d' = d
    · subst hd
      have hfresh : SomeTask s.calls (CallPc.Fresh a) := (someTask_iff hi _).2 (.inl rfl)
      refine DeviceInv.congr ((h.device d').insertDevice hfresh
        (fun x => OtherTask s.calls i (CallPc.Fresh x))
        (fun x => SomeTask (s.calls.set i
          (afterInsertDevice d' sh a (s.reg.byDevice.get d'))) (CallPc.Pending d' x))
        (fun c p => SomeTask (s.calls.set i
          (afterInsertDevice d' sh a (s.reg.byDevice.get d'))) (CallPc.Early d' c p)) ?_ ?_ ?_)
        (by simp [ConnectionRegistry.storeDevice]) (fun _ => rfl) (fun _ => rfl) rfl ?_
        (fun _ => Iff.rfl) (fun _ _ => Iff.rfl) ?_
      · intro x hx
        refine ⟨(someTask_iff hi _).2 (.inr hx), ?_⟩
        rintro rfl
        exact h.calls.not_otherTask hi rfl (fun q => addr_of_fresh) hx
      · intro x
        rw [someTask_set hi, someTask_iff hi]
        cases s.reg.byDevice.get d' <;>
          simp [afterInsertDevice, CallPc.Pending, or_comm, eq_comm]
      · intro c p
        rw [someTask_set hi, someTask_iff hi]
        cases s.reg.byDevice.get d' <;>
          simp [afterInsertDevice, CallPc.Early, or_comm, eq_comm]
      · intro x
        rw [someTask_set hi]
        cases s.reg.byDevice.get d' <;> simp [afterInsertDevice, CallPc.Fresh]
      · intro p
        rw [someTask_set hi, someTask_iff hi]
        cases s.reg.byDevice.get d' <;> simp [afterInsertDevice, CallPc.Late]
    · refine h.deviceOk_other hi ?_ ?_ (DashMap.get_put_of_ne _ _ hd) (fun _ => rfl)
        (fun _ => rfl) rfl ?_
      · simpa [CallPc.device?] using Ne.symm hd
      · cases s.reg.byDevice.get d <;>
          simpa [afterInsertDevice, CallPc.device?] using Ne.symm hd
      · cases s.reg.byDevice.get d <;> simp [afterInsertDevice, CallPc.Fresh]

theorem Inv.sendClose {s : Interleaved D S L P} (h : s.Inv) {i : Nat} {d : D} {sh : S}
    {a p : Nat} (hi : s.calls[i]? = some (.sendClose d sh a p)) :
    Inv { reg := s.reg.sendClose p, calls := s.calls.set i (.getShard d sh a p) } where
  calls := by
    refine h.calls.set hi rfl ?_ ?_ ?_ ?_ ?_ ?_ ?_ ?_ <;>
      simp [ConnectionRegistry.sendClose, CallPc.addr?, CallPc.target?]
  device d' := by
    refine h.deviceOk_frame hi rfl (fun _ => rfl) ?_ ?_ ?_ ?_ ?_ ?_ <;>
      simp [ConnectionRegistry.sendClose, CallPc.Fresh, CallPc.Pending, CallPc.Early, CallPc.Late]

/-- Without an index for the shard of a connection, the connection is in no index. -/
theorem DeviceInv.not_slot {s : Interleaved D S L P} {d : D} (h : s.DeviceOk d) {p : Nat}
    (hp : hasShardOf s.reg p = false) (sh : S) : s.reg.byShard.getIn sh d ≠ some p := by
  intro hs
  have hsh : s.reg.shardAt p = some sh := h.slot_shard sh p hs
  simp only [hasShardOf, hsh, Option.bind_some, Option.isSome_eq_false_iff,
    Option.isNone_iff_eq_none] at hp
  simp [DashMap.getIn, hp] at hs

theorem Inv.getShard {s : Interleaved D S L P} (h : s.Inv) {i : Nat} {d : D} {sh : S}
    {a p : Nat} (hi : s.calls[i]? = some (.getShard d sh a p))
    (hp : ¬SomeTask s.calls (CallPc.Pending d p)) :
    Inv { s with calls := s.calls.set i (if hasShardOf s.reg p then .removeIf d sh a p
      else .insertShard d sh a) } where
  calls := by
    refine h.calls.set hi rfl rfl (fun _ => rfl) (fun _ => rfl) ?_ ?_ ?_ (by simp) ?_ <;>
      split <;> simp [CallPc.addr?, CallPc.target?]
  device d' := by
    by_cases hd : d' = d
    · subst hd
      have hearly : SomeTask s.calls (CallPc.Early d' a p) :=
        (someTask_iff hi _).2 (.inl ⟨rfl, rfl, rfl⟩)
      refine DeviceInv.congr ((h.device d').getShard hearly hp
        (fun c q => OtherTask s.calls i (CallPc.Early d' c q))
        (fun q => SomeTask (s.calls.set i (if hasShardOf s.reg p then
          .removeIf d' sh a p else .insertShard d' sh a)) (CallPc.Late d' q)) ?_ ?_ ?_ ?_ ?_)
        rfl (fun _ => rfl) (fun _ => rfl) rfl ?_ ?_ ?_ (fun _ => Iff.rfl)
      · exact fun c q hcq => (someTask_iff hi _).2 (.inr hcq)
      · intro c q hcq
        obtain ⟨-, -, hq⟩ | hcq := (someTask_iff hi _).1 hcq
        · exact .inr hq.symm
        · exact .inl hcq
      · intro q hq
        rw [someTask_set hi] at hq
        obtain hq | hq := hq
        · split at hq
          · exact .inr hq.2.symm
          · exact hq.elim
        · exact .inl ((someTask_iff hi _).2 (.inr hq))
      · intro q hq
        obtain hq | hq := (someTask_iff hi _).1 hq
        · exact hq.elim
        · exact (someTask_set hi _ _).2 (.inr hq)
      · cases hshard : hasShardOf s.reg p with
        | true => exact .inl ((someTask_set hi _ _).2 (.inl (by simp [CallPc.Late])))
        | false => exact .inr fun sh' => DeviceInv.not_slot (h.device d') hshard sh'
      · intro x
        rw [someTask_set hi, someTask_iff hi]
        split <;> simp [CallPc.Fresh]
      · intro x
        rw [someTask_set hi, someTask_iff hi]
        split <;> simp [CallPc.Pending]
      · intro c q
        rw [someTask_set hi]
        split <;> simp [CallPc.Early]
    · refine h.deviceOk_other hi ?_ ?_ rfl (fun _ => rfl) (fun _ => rfl) rfl ?_
      · simpa [CallPc.device?] using Ne.symm hd
      · split <;> simpa [CallPc.device?] using Ne.symm hd
      · split <;> simp [CallPc.Fresh]

/-- `remove_if` takes exactly the connection `p` out of its shard index. -/
theorem CallsInv.getIn_removeFromShard {s : Interleaved D S L P} (h : s.CallsInv) {p : Nat}
    (hp : p < s.reg.heap.length) (d : D) (sh : S) :
    (s.reg.removeFromShard d p).byShard.getIn sh d =
      if s.reg.shardAt p = some sh ∧ s.reg.byShard.getIn sh d = some p then none
      else s.reg.byShard.getIn sh d := by
  have hconn : s.reg.heap[p]? = some (s.reg.heap[p]) := List.getElem?_eq_getElem hp
  have hsh : s.reg.shardAt p = some sh ↔ sh = (s.reg.heap[p]).shard := by
    simp [ConnectionRegistry.shardAt, hconn, eq_comm]
  have hid : ∀ a, s.reg.idAt a = some (s.reg.heap[p]).id ↔ a = p := by
    intro a
    have hpid : s.reg.idAt p = some (s.reg.heap[p]).id := by
      simp [ConnectionRegistry.idAt, hconn]
    refine ⟨fun ha => ?_, fun ha => ha ▸ hpid⟩
    have h1 := h.ids a _ ha
    have h2 := h.ids p _ hpid
    omega
  rw [ConnectionRegistry.getIn_removeFromShard hconn]
  simp only [and_true, hsh]
  by_cases hs : sh = (s.reg.heap[p]).shard
  · simp only [hs, if_true, true_and]
    cases hg : s.reg.byShard.getIn (s.reg.heap[p]).shard d with
    | none => simp
    | some a => by_cases ha : a = p <;> simp [Option.filter, hid, ha]
  · simp [hs]

theorem getIn_removeFromShard_of_ne (reg : ConnectionRegistry D S L P) {d d' : D} (hd : d' ≠ d)
    (p : Nat) (sh : S) :
    (reg.removeFromShard d p).byShard.getIn sh d' = reg.byShard.getIn sh d' := by
  cases hp : reg.heap[p]? with
  | none => simp [ConnectionRegistry.removeFromShard, hp]
  | some conn => simp [ConnectionRegistry.getIn_removeFromShard hp, hd]

/-- The `remove_if` of either call, after which call `i` is at `pc'`. -/
theorem Inv.removeIf {s : Interleaved D S L P} (h : s.Inv) {i : Nat} {d : D} {p : Nat}
    {pc pc' : CallPc D S L} (hi : s.calls[i]? = some pc) (hlate : pc.Late d p)
    (hcalls : CallsInv { reg := s.reg.removeFromShard d p, calls := s.calls.set i pc' })
    (hdev : ∀ d', pc'.device? = some d' → d' = d) (hfresh : ∀ a, ¬pc'.Fresh a)
    (hpend : ∀ a, pc'.Pending d a ↔ pc.Pending d a)
    (hearly : ∀ c q, pc'.Early d c q ↔ pc.Early d c q) (hlate' : ∀ q, ¬pc'.Late d q) :
    Inv { reg := s.reg.removeFromShard d p, calls := s.calls.set i pc' } where
  calls := hcalls
  device d' := by
    have hshard : ∀ a, (s.reg.removeFromShard d p).shardAt a = s.reg.shardAt a := by
      simp [ConnectionRegistry.shardAt]
    by_cases hd : d' = d
    · subst hd
      have hp : SomeTask s.calls (CallPc.Late d' p) := (someTask_iff hi _).2 (.inl hlate)
      have hlt := (h.device d').late_lt p hp
      refine DeviceInv.congr ((h.device d').removeIf hp
        (fun sh => (s.reg.removeFromShard d' p).byShard.getIn sh d')
        (fun q => OtherTask s.calls i (CallPc.Late d' q)) ?_ ?_ ?_)
        (by simp) (fun _ => rfl) hshard (by simp) ?_ ?_ ?_ ?_
      · exact fun sh => h.calls.getIn_removeFromShard hlt d' sh
      · exact fun q hq => (someTask_iff hi _).2 (.inr hq)
      · intro q hq
        obtain hq | hq := (someTask_iff hi _).1 hq
        · refine .inr ?_
          cases pc <;> simp_all [CallPc.Late]
        · exact .inl hq
      · intro x hx
        obtain hx | hx := (someTask_set hi _ _).1 hx
        · exact absurd hx (hfresh x)
        · exact (someTask_iff hi _).2 (.inr hx)
      · intro x
        rw [someTask_set hi, someTask_iff hi, hpend]
      · intro c q
        rw [someTask_set hi, someTask_iff hi, hearly]
      · intro q
        rw [someTask_set hi]
        simp [hlate']
    · refine h.deviceOk_other hi ?_ ?_ (by simp) ?_ hshard (by simp) hfresh
      · rw [device_of_late hlate]
        simpa using Ne.symm hd
      · exact fun hd' => hd (hdev d' hd')
      · exact getIn_removeFromShard_of_ne s.reg hd p

theorem Inv.insertShard {s : Interleaved D S L P} (h : s.Inv) {i : Nat} {d : D} {sh : S}
    {a : Nat} (hi : s.calls[i]? = some (.insertShard d sh a)) :
    Inv { reg := s.reg.storeShard sh d a,
          calls := s.calls.set i (.registered ⟨(s.reg.idAt a).getD 0, a⟩) } where
  calls := by
    refine h.calls.set hi rfl rfl (fun _ => rfl) (fun _ => rfl) ?_ ?_ ?_ (by simp) (by simp)
    · simp [CallPc.addr?]
    · simp [CallPc.target?]
    · rintro r hr
      obtain rfl := CallPc.registered.inj hr
      have hlt : a < s.reg.heap.length := h.calls.addr_lt _ (List.mem_of_getElem? hi) a rfl
      simp [ConnectionRegistry.idAt, List.getElem?_eq_getElem hlt]
  device d' := by
    by_cases hd : d' = d
    · subst hd
      have hpend : SomeTask s.calls (CallPc.Pending d' a) :=
        (someTask_iff hi _).2 (.inl ⟨rfl, rfl⟩)
      have hsh := h.calls.shard _ (List.mem_of_getElem? hi) sh a rfl
      refine DeviceInv.congr ((h.device d').insertShard hpend hsh
        (fun x => (s.reg.storeShard sh d' a).byShard.getIn x d')
        (fun x => OtherTask s.calls i (CallPc.Pending d' x)) ?_ ?_ ?_ ?_)
        rfl (fun _ => rfl) (fun _ => rfl) rfl ?_ ?_ ?_ ?_
      · intro sh'
        rw [ConnectionRegistry.storeShard, DashMap.getIn_entryInsert]
        simp
      · exact fun x hx => (someTask_iff hi _).2 (.inr hx)
      · intro x hx
        obtain ⟨-, hx⟩ | hx := (someTask_iff hi _).1 hx
        · exact .inr hx.symm
        · exact .inl hx
      · intro c q hcq
        obtain hcq | ⟨j, pc, hji, hj, hpc⟩ := (someTask_iff hi _).1 hcq
        · exact hcq.elim
        · refine ⟨j, pc, hji, hj, ?_⟩
          cases pc <;> simp_all [CallPc.Early, CallPc.Pending]
      · intro x
        rw [someTask_set hi, someTask_iff hi]
        simp [CallPc.Fresh]
      · intro x
        rw [someTask_set hi]
        simp [CallPc.Pending]
      · intro c q
        rw [someTask_set hi, someTask_iff hi]
        simp [CallPc.Early]
      · intro q
        rw [someTask_set hi, someTask_iff hi]
        simp [CallPc.Late]
    · refine h.deviceOk_other hi ?_ (by simp [CallPc.device?]) rfl ?_ (fun _ => rfl) rfl
        (by simp [CallPc.Fresh])
      · simpa [CallPc.device?] using Ne.symm hd
      · intro sh'
        exact DashMap.getIn_entryInsert_of_ne _ _ (fun hx => hd hx.2)

omit [DecidableEq D] [DecidableEq S] in
/-- A connection whose id has been returned is in its shard index already. -/
theorem CallsInv.not_pending {s : Interleaved D S L P} (h : s.CallsInv) {d : D} {connId : UInt64}
    {a : Nat} (hcall : CallPc.removeDevice d connId ∈ s.calls) (ha : s.reg.idAt a = some connId) :
    ¬SomeTask s.calls (CallPc.Pending d a) := by
  obtain ⟨r, hr, rfl⟩ := h.returned d connId hcall
  have h1 := h.ids _ _ (h.registered r hr)
  have h2 := h.ids _ _ ha
  obtain rfl : r.receiver = a := by omega
  obtain ⟨j, hj⟩ := List.mem_iff_getElem?.mp hr
  rw [someTask_iff hj]
  rintro (hpend | hpend)
  · exact hpend
  · exact h.not_otherTask hj rfl (fun q => addr_of_pending) hpend

theorem Inv.removeDevice {s : Interleaved D S L P} (h : s.Inv) {i : Nat} {d : D}
    {connId : UInt64} {a : Nat} (hi : s.calls[i]? = some (.removeDevice d connId))
    (ha : s.reg.byDevice.get d = some a) (hid : s.reg.idAt a = some connId) :
    Inv { reg := { s.reg with
            byDevice := s.reg.byDevice.removeIf d fun a => s.reg.idAt a == some connId },
          calls := s.calls.set i (.deregGet d a) } where
  calls := by
    refine h.calls.set hi rfl rfl (fun _ => rfl) (fun _ => rfl) ?_ ?_ ?_ ?_ ?_ <;>
      simp [CallPc.addr?, CallPc.target?]
  device d' := by
    by_cases hd : d' = d
    · subst hd
      have hpend := h.calls.not_pending (List.mem_of_getElem? hi) hid
      refine DeviceInv.congr ((h.device d').removeDevice ha hpend
        (fun q => SomeTask (s.calls.set i (.deregGet d' a)) (CallPc.Late d' q)) ?_)
        ?_ (fun _ => rfl) (fun _ => rfl) rfl ?_ ?_ ?_ (fun _ => Iff.rfl)
      · intro q
        rw [someTask_set hi, someTask_iff hi]
        simp [CallPc.Late, or_comm, eq_comm]
      · simp [ha, hid, Option.filter]
      · intro x
        rw [someTask_set hi, someTask_iff hi]
        simp [CallPc.Fresh]
      · intro x
        rw [someTask_set hi, someTask_iff hi]
        simp [CallPc.Pending]
      · intro c q
        rw [someTask_set hi, someTask_iff hi]
        simp [CallPc.Early]
    · refine h.deviceOk_other hi ?_ ?_ (DashMap.get_removeIf_of_ne _ _ hd) (fun _ => rfl)
        (fun _ => rfl) rfl (by simp [CallPc.Fresh])
      · simpa [CallPc.device?] using Ne.symm hd
      · simpa [CallPc.device?] using Ne.symm hd

/-- A `deregister` that finds another connection, or none. -/
theorem Inv.removeDevice_none {s : Interleaved D S L P} (h : s.Inv) {i : Nat} {d : D}
    {connId : UInt64} (hi : s.calls[i]? = some (.removeDevice d connId)) :
    Inv { s with calls := s.calls.set i (.deregistered false) } where
  calls := by
    refine h.calls.set hi rfl rfl (fun _ => rfl) (fun _ => rfl) ?_ ?_ ?_ ?_ ?_ <;>
      simp [CallPc.addr?, CallPc.target?]
  device d' := by
    refine h.deviceOk_frame hi rfl (fun _ => rfl) (fun _ => rfl) rfl ?_ ?_ ?_ ?_ <;>
      simp [CallPc.Fresh, CallPc.Pending, CallPc.Early, CallPc.Late]

theorem Inv.deregGet {s : Interleaved D S L P} (h : s.Inv) {i : Nat} {d : D} {p : Nat}
    (hi : s.calls[i]? = some (.deregGet d p)) :
    Inv { s with calls := s.calls.set i (if hasShardOf s.reg p then .deregRemove d p
      else .deregistered true) } where
  calls := by
    refine h.calls.set hi rfl rfl (fun _ => rfl) (fun _ => rfl) ?_ ?_ ?_ (by simp) ?_ <;>
      split <;> simp [CallPc.addr?, CallPc.target?]
  device d' := by
    cases hshard : hasShardOf s.reg p with
    | true =>
      refine h.deviceOk_frame hi rfl (fun _ => rfl) (fun _ => rfl) rfl ?_ ?_ ?_ ?_ <;>
        simp [CallPc.Fresh, CallPc.Pending, CallPc.Early, CallPc.Late]
    | false =>
      by_cases hd : d' = d
      · subst hd
        refine DeviceInv.congr ((h.device d').deregNone (p := p)
          (fun q => OtherTask s.calls i (CallPc.Late d' q)) ?_ ?_ ?_)
          rfl (fun _ => rfl) (fun _ => rfl) rfl ?_ ?_ ?_ ?_
        · exact fun sh => DeviceInv.not_slot (h.device d') hshard sh
        · exact fun q hq => (someTask_iff hi _).2 (.inr hq)
        · intro q hq
          obtain ⟨-, hq⟩ | hq := (someTask_iff hi _).1 hq
          · exact .inr hq.symm
          · exact .inl hq
        · intro x
          rw [someTask_set hi, someTask_iff hi]
          simp [CallPc.Fresh]
        · intro x
          rw [someTask_set hi, someTask_iff hi]
          simp [CallPc.Pending]
        · intro c q
          rw [someTask_set hi, someTask_iff hi]
          simp [CallPc.Early]
        · intro q
          rw [someTask_set hi]
          simp [CallPc.Late]
      · refine h.deviceOk_other hi ?_ (by simp [CallPc.device?]) rfl (fun _ => rfl)
          (fun _ => rfl) rfl (by simp [CallPc.Fresh])
        simpa [CallPc.device?] using Ne.symm hd

-- ============================================================================
-- Runs
-- ============================================================================

theorem Inv.append {s : Interleaved D S L P} (h : s.Inv) {pc : CallPc D S L}
    (hcalls : CallsInv { s with calls := s.calls ++ [pc] })
    (hfresh : ∀ a, ¬pc.Fresh a) (hpend : ∀ d a, ¬pc.Pending d a)
    (hearly : ∀ d c p, ¬pc.Early d c p) (hlate : ∀ d p, ¬pc.Late d p) :
    Inv { s with calls := s.calls ++ [pc] } where
  calls := hcalls
  device d := by
    refine (h.device d).congr rfl (fun _ => rfl) (fun _ => rfl) rfl ?_ ?_ ?_ ?_
    · intro a
      rw [someTask_append, or_iff_left (hfresh a)]
      exact id
    · intro a
      rw [someTask_append, or_iff_left (hpend d a)]
    · intro c p
      rw [someTask_append, or_iff_left (hearly d c p)]
    · intro p
      rw [someTask_append, or_iff_left (hlate d p)]

theorem Inv.advance {s : Interleaved D S L P} (h : s.Inv) {i : Nat} {pc pc' : CallPc D S L}
    {reg' : ConnectionRegistry D S L P} (hi : s.calls[i]? = some pc) (hok : s.AdvanceOk pc)
    (hadv : Interleaved.advance s.reg pc = some (reg', pc')) :
    Inv { reg := reg', calls := s.calls.set i pc' } := by
  cases pc with
  | alloc d sh l =>
    obtain ⟨rfl, rfl⟩ : s.reg.allocate sh l = reg' ∧ .insertDevice d sh s.reg.heap.length = pc' := by
      simpa [Interleaved.advance] using hadv
    exact h.alloc hi hok
  | insertDevice d sh a =>
    obtain ⟨rfl, rfl⟩ : s.reg.storeDevice d a = reg' ∧
        afterInsertDevice d sh a (s.reg.byDevice.get d) = pc' := by
      simp only [Interleaved.advance, Option.some.injEq, Prod.mk.injEq] at hadv
      refine ⟨hadv.1, ?_⟩
      rw [← hadv.2]
      cases s.reg.byDevice.get d <;> rfl
    exact h.insertDevice hi
  | sendClose d sh a p =>
    obtain ⟨rfl, rfl⟩ : s.reg.sendClose p = reg' ∧ .getShard d sh a p = pc' := by
      simpa [Interleaved.advance] using hadv
    exact h.sendClose hi
  | getShard d sh a p =>
    obtain ⟨rfl, rfl⟩ := by simpa [Interleaved.advance] using hadv
    refine h.getShard hi ?_
    rintro ⟨q, hq, hpend⟩
    exact hok q hq hpend
  | removeIf d sh a p =>
    obtain ⟨rfl, rfl⟩ : s.reg.removeFromShard d p = reg' ∧ .insertShard d sh a = pc' := by
      simpa [Interleaved.advance] using hadv
    refine h.removeIf hi ⟨rfl, rfl⟩ ?_ ?_ ?_ ?_ ?_ ?_
    · refine h.calls.set hi (by simp) (by simp) ?_ ?_ ?_ ?_ ?_ ?_ ?_ <;>
        simp [ConnectionRegistry.idAt, ConnectionRegistry.shardAt, CallPc.addr?, CallPc.target?]
    all_goals
      simp [CallPc.device?, CallPc.Fresh, CallPc.Pending, CallPc.Early, CallPc.Late, eq_comm]
  | insertShard d sh a =>
    obtain ⟨rfl, rfl⟩ := by simpa [Interleaved.advance] using hadv
    exact h.insertShard hi
  | registered r => simp [Interleaved.advance] at hadv
  | removeDevice d connId =>
    simp only [Interleaved.advance] at hadv
    split at hadv
    · next a ha =>
      split at hadv
      · next hid =>
        obtain ⟨rfl, rfl⟩ := by simpa using hadv
        exact h.removeDevice hi ha hid
      · obtain ⟨rfl, rfl⟩ := by simpa using hadv
        exact h.removeDevice_none hi
    · obtain ⟨rfl, rfl⟩ := by simpa using hadv
      exact h.removeDevice_none hi
  | deregGet d p =>
    obtain ⟨rfl, rfl⟩ := by simpa [Interleaved.advance] using hadv
    exact h.deregGet hi
  | deregRemove d p =>
    obtain ⟨rfl, rfl⟩ : s.reg.removeFromShard d p = reg' ∧ .deregistered true = pc' := by
      simpa [Interleaved.advance] using hadv
    refine h.removeIf hi ⟨rfl, rfl⟩ ?_ ?_ ?_ ?_ ?_ ?_
    · refine h.calls.set hi (by simp) (by simp) ?_ ?_ ?_ ?_ ?_ ?_ ?_ <;>
        simp [ConnectionRegistry.idAt, ConnectionRegistry.shardAt, CallPc.addr?, CallPc.target?]
    all_goals
      simp [CallPc.device?, CallPc.Fresh, CallPc.Pending, CallPc.Early, CallPc.Late]
  | deregistered b => simp [Interleaved.advance] at hadv

theorem Inv.step {s t : Interleaved D S L P} (h : s.Inv) {l : Label D S L} (hok : s.StepOk l)
    (hstep : s.step l = some t) : t.Inv := by
  cases l with
  | register d sh l =>
    obtain rfl := by simpa [Interleaved.step] using hstep
    refine h.append (h.calls.append rfl rfl (by simp)) ?_ ?_ ?_ ?_ <;>
      simp [CallPc.Fresh, CallPc.Pending, CallPc.Early, CallPc.Late]
  | deregister d connId =>
    simp only [Interleaved.step] at hstep
    split at hstep
    · next hgave =>
      obtain rfl := by simpa using hstep
      have hret : ∀ d' x, CallPc.removeDevice (S := S) (L := L) d connId = .removeDevice d' x →
          ∃ r, CallPc.registered r ∈ s.calls ∧ r.connId = x := by
        rintro d' x hx
        obtain ⟨-, rfl⟩ := by simpa using hx
        obtain ⟨pc, hpc, hid⟩ := List.any_eq_true.mp hgave
        cases pc with
        | registered r => exact ⟨r, hpc, by simpa [CallPc.gaveId] using hid⟩
        | _ => simp [CallPc.gaveId] at hid
      refine h.append (h.calls.append rfl rfl hret) ?_ ?_ ?_ ?_ <;>
        simp [CallPc.Fresh, CallPc.Pending, CallPc.Early, CallPc.Late]
    · simp at hstep
  | step i =>
    simp only [Interleaved.step] at hstep
    split at hstep
    · simp at hstep
    · next pc hi =>
      obtain ⟨⟨reg', pc'⟩, hadv, rfl⟩ := Option.map_eq_some_iff.mp hstep
      exact h.advance hi (hok pc hi) hadv

theorem Inv.agree {s : Interleaved D S L P} (h : s.Inv) (hq : s.Quiescent) : s.reg.Agree := by
  intro sh d a
  refine (h.device d).agree ?_ ?_ sh a
  · rintro x ⟨pc, hpc, hx⟩
    have := hq pc hpc
    cases pc <;> simp_all [CallPc.returned, CallPc.Pending]
  · rintro x ⟨pc, hpc, hx⟩
    have := hq pc hpc
    cases pc <;> simp_all [CallPc.returned, CallPc.Late]

/-- In every run of concurrent `register` and `deregister` calls in which no call
    looks for the shard index of the connection it replaced before that
    connection's own `register` has put it there, and in which the connection
    counter does not wrap around, the two indexes agree in every state without a
    call in progress. -/
theorem indexes_agree_when_quiescent {labels : List (Label D S L)} {t : Interleaved D S L P}
    (hok : Transition.RunOk Interleaved.step StepOk ({} : Interleaved D S L P) labels)
    (hrun : Transition.run Interleaved.step ({} : Interleaved D S L P) labels = some t)
    (hq : t.Quiescent) : t.reg.Agree :=
  (Transition.run_invariant (fun _ _ _ h hok hstep => h.step hok hstep) Inv.empty hok hrun).agree hq

/-- A device reconnects to another shard while its first connection cleans up:
    `register`, then a second `register` interleaved with a `deregister` of the
    first connection. -/
def reconnectRun : List (Label Nat Nat Unit) :=
  [.register 0 7 (), .step 0, .step 0, .step 0,
   .register 0 8 (), .step 1, .deregister 0 1, .step 1, .step 2,
   .step 1, .step 1, .step 1, .step 1]

theorem indexes_agree_after_reconnectRun :
    ∃ t : Interleaved Nat Nat Unit Unit,
      Transition.run Interleaved.step {} reconnectRun = some t ∧ t.reg.byDevice.get 0 = some 1 ∧
      t.reg.Agree :=
  ⟨_, rfl, by decide, @indexes_agree_when_quiescent Nat Nat Unit Unit _ _ reconnectRun _
    (by decide) rfl (by decide)⟩

/-- Two reconnects of one device: the second replaces the first in `by_device`
    and finds no shard index to clean, and only then does the first put itself
    into the shard index, over the second. -/
def racingRun : List (Label Nat Nat Unit) :=
  [.register 0 7 (), .register 0 7 (), .step 0, .step 1, .step 0, .step 1, .step 1, .step 1,
   .step 1, .step 0]

theorem racingRun_leaves_replaced_connection :
    ¬∀ (labels : List (Label Nat Nat Unit)) (t : Interleaved Nat Nat Unit Unit),
      Transition.run Interleaved.step {} labels = some t → t.Quiescent → t.reg.Agree := by
  intro h
  have hagree := h racingRun _ rfl (by decide)
  -- the shard index holds connection 0, `by_device` connection 1
  have hdev := (hagree 7 0 0).1 (by decide)
  exact absurd hdev.1 (by decide)

end Interleaved
end PulseGrid.Worker
