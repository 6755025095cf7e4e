/-
  PulseGrid.Worker.RegistryLemmas

  What each operation of `ConnectionRegistry` does to the two indexes and to the
  heap, and the invariant that ties the indexes together (`ConnectionRegistry.Inv`).
  Later modules use these lemmas and never unfold an operation.
-/

import PulseGrid.Worker.ConnectionRegistry

namespace PulseGrid.Worker
namespace ConnectionRegistry

variable {D S L P A : Type*}

-- ============================================================================
-- The heap
-- ============================================================================

theorem idAt_modifyConn (r : ConnectionRegistry D S L P) (addr a : Nat)
    {f : Connection S L P → Connection S L P} (hf : ∀ c, (f c).id = c.id) :
    (r.modifyConn addr f).idAt a = r.idAt a := by
  simp only [idAt, modifyConn, List.getElem?_modify]
  cases r.heap[a]? with
  | none => simp
  | some c => by_cases h : addr = a <;> simp [h, hf]

theorem shardAt_modifyConn (r : ConnectionRegistry D S L P) (addr a : Nat)
    {f : Connection S L P → Connection S L P} (hf : ∀ c, (f c).shard = c.shard) :
    (r.modifyConn addr f).shardAt a = r.shardAt a := by
  simp only [shardAt, modifyConn, List.getElem?_modify]
  cases r.heap[a]? with
  | none => simp
  | some c => by_cases h : addr = a <;> simp [h, hf]

@[simp] theorem idAt_offerTo (r : ConnectionRegistry D S L P) (addr a : Nat) (m : Outbound P) :
    (r.offerTo addr m).idAt a = r.idAt a :=
  idAt_modifyConn r addr a fun _ => rfl

@[simp] theorem shardAt_offerTo (r : ConnectionRegistry D S L P) (addr a : Nat) (m : Outbound P) :
    (r.offerTo addr m).shardAt a = r.shardAt a :=
  shardAt_modifyConn r addr a fun _ => rfl

@[simp] theorem heap_length_offerTo (r : ConnectionRegistry D S L P) (addr : Nat)
    (m : Outbound P) : (r.offerTo addr m).heap.length = r.heap.length := by
  simp [offerTo, modifyConn]

@[simp] theorem byDevice_offerTo (r : ConnectionRegistry D S L P) (addr : Nat) (m : Outbound P) :
    (r.offerTo addr m).byDevice = r.byDevice := rfl

@[simp] theorem byShard_offerTo (r : ConnectionRegistry D S L P) (addr : Nat) (m : Outbound P) :
    (r.offerTo addr m).byShard = r.byShard := rfl

@[simp] theorem nextId_offerTo (r : ConnectionRegistry D S L P) (addr : Nat) (m : Outbound P) :
    (r.offerTo addr m).nextId = r.nextId := rfl

theorem shardAt_eq_some {r : ConnectionRegistry D S L P} {a : Nat} {s : S} :
    r.shardAt a = some s ↔ ∃ c, r.heap[a]? = some c ∧ c.shard = s := by
  simp [shardAt]

theorem idAt_eq_some {r : ConnectionRegistry D S L P} {a : Nat} {i : UInt64} :
    r.idAt a = some i ↔ ∃ c, r.heap[a]? = some c ∧ c.id = i := by
  simp [idAt]

/-- The connection `allocate` builds. -/
def newConnection (r : ConnectionRegistry D S L P) (s : S) (l : L) : Connection S L P :=
  { id := r.nextId + 1, shard := s, location := l,
    channel := { capacity := connectionChannelCapacity } }

theorem heap_allocate (r : ConnectionRegistry D S L P) (s : S) (l : L) :
    (r.allocate s l).heap = r.heap ++ [r.newConnection s l] := rfl

theorem allocate_getElem?_length (r : ConnectionRegistry D S L P) (s : S) (l : L) :
    (r.allocate s l).heap[r.heap.length]? = some (r.newConnection s l) := by
  simp [heap_allocate]

theorem allocate_getElem?_of_lt (r : ConnectionRegistry D S L P) (s : S) (l : L) {a : Nat}
    (h : a < r.heap.length) : (r.allocate s l).heap[a]? = r.heap[a]? := by
  rw [heap_allocate, List.getElem?_append_left h]

theorem channels_modifyConn {r : ConnectionRegistry D S L P} (addr : Nat)
    {f : Connection S L P → Connection S L P}
    (hf : ∀ c, (f c).channel.capacity = c.channel.capacity ∧
      (f c).channel.reserved = c.channel.reserved)
    (h : ∀ c ∈ r.heap, c.channel.capacity = connectionChannelCapacity ∧ c.channel.reserved = 0) :
    ∀ c ∈ (r.modifyConn addr f).heap,
      c.channel.capacity = connectionChannelCapacity ∧ c.channel.reserved = 0 := by
  intro c hc
  obtain ⟨i, hi⟩ := List.mem_iff_getElem?.mp hc
  simp only [modifyConn, List.getElem?_modify] at hi
  obtain ⟨c', hc', rfl⟩ := Option.map_eq_some_iff.mp hi
  have hmem := h c' (List.mem_of_getElem? hc')
  split
  · rw [(hf c').1, (hf c').2]
    exact hmem
  · exact hmem

-- ============================================================================
-- The indexes
-- ============================================================================

variable [DecidableEq D] [DecidableEq S]

@[simp] theorem heap_removeFromShard (r : ConnectionRegistry D S L P) (d : D) (addr : Nat) :
    (r.removeFromShard d addr).heap = r.heap := by
  unfold removeFromShard
  split <;> rfl

@[simp] theorem byDevice_removeFromShard (r : ConnectionRegistry D S L P) (d : D) (addr : Nat) :
    (r.removeFromShard d addr).byDevice = r.byDevice := by
  unfold removeFromShard
  split <;> rfl

@[simp] theorem nextId_removeFromShard (r : ConnectionRegistry D S L P) (d : D) (addr : Nat) :
    (r.removeFromShard d addr).nextId = r.nextId := by
  unfold removeFromShard
  split <;> rfl

theorem getIn_removeFromShard {r : ConnectionRegistry D S L P} {addr : Nat}
    {conn : Connection S L P} (hconn : r.heap[addr]? = some conn) (d : D) (s' : S) (d' : D) :
    (r.removeFromShard d addr).byShard.getIn s' d' =
      if s' = conn.shard ∧ d' = d then
        (r.byShard.getIn s' d').filter fun a => !(r.idAt a == some conn.id)
      else r.byShard.getIn s' d' := by
  simp only [removeFromShard, hconn]
  exact DashMap.getIn_removeIfIn ..

/-- The two indexes agree: the entry of a device in a shard's index is its
    current connection, exactly when that connection is of this shard. -/
def Agree (r : ConnectionRegistry D S L P) : Prop :=
  ∀ s d a, r.byShard.getIn s d = some a ↔ r.byDevice.get d = some a ∧ r.shardAt a = some s

/-- What ties the two indexes, the heap and the id counter together between calls. -/
structure Indexed (r : ConnectionRegistry D S L P) : Prop where
  /-- Stored addresses are allocated. -/
  valid : ∀ d a, r.byDevice.get d = some a → a < r.heap.length
  agree : r.Agree
  /-- A connection belongs to one device. -/
  inj : ∀ d d' a, r.byDevice.get d = some a → r.byDevice.get d' = some a → d = d'
  /-- Ids are handed out in order of registration, modulo `2 ^ 64`. -/
  ids : ∀ a i, r.idAt a = some i → i = UInt64.ofNat (a + 1)
  next : r.nextId = UInt64.ofNat r.heap.length

/-- The invariant of a registry that nobody waits on: every queue has the
    configured capacity and no outstanding permit. -/
structure Inv (r : ConnectionRegistry D S L P) : Prop extends Indexed r where
  channels : ∀ c ∈ r.heap,
    c.channel.capacity = connectionChannelCapacity ∧ c.channel.reserved = 0

theorem Indexed.empty : Indexed ({} : ConnectionRegistry D S L P) where
  valid := by simp
  agree := by simp [Agree]
  inj := by simp
  ids := by simp [idAt]
  next := rfl

theorem Inv.empty : Inv ({} : ConnectionRegistry D S L P) where
  toIndexed := Indexed.empty
  channels := by simp

theorem Indexed.getElem?_some {r : ConnectionRegistry D S L P} (h : r.Indexed) {d : D} {a : Nat}
    (hd : r.byDevice.get d = some a) : ∃ c, r.heap[a]? = some c :=
  ⟨_, List.getElem?_eq_getElem (h.valid d a hd)⟩

/-- What keeps the indexes and changes connections only inside keeps the invariant. -/
theorem Indexed.of_frame {r r' : ConnectionRegistry D S L P} (h : r.Indexed)
    (hdev : r'.byDevice = r.byDevice) (hshard : r'.byShard = r.byShard)
    (hnext : r'.nextId = r.nextId) (hlen : r'.heap.length = r.heap.length)
    (hshardAt : ∀ a, r'.shardAt a = r.shardAt a) (hidAt : ∀ a, r'.idAt a = r.idAt a) :
    r'.Indexed where
  valid := by
    intro d a hd
    rw [hdev] at hd
    rw [hlen]
    exact h.valid d a hd
  agree := by
    intro s d a
    rw [hshard, hdev, hshardAt]
    exact h.agree s d a
  inj := by
    rw [hdev]
    exact h.inj
  ids := by
    intro a i hi
    rw [hidAt] at hi
    exact h.ids a i hi
  next := by rw [hnext, hlen, h.next]

theorem Indexed.modifyConn {r : ConnectionRegistry D S L P} (h : r.Indexed) (addr : Nat)
    {f : Connection S L P → Connection S L P} (hs : ∀ c, (f c).shard = c.shard)
    (hid : ∀ c, (f c).id = c.id) : (r.modifyConn addr f).Indexed :=
  h.of_frame rfl rfl rfl (by simp [ConnectionRegistry.modifyConn])
    (fun a => shardAt_modifyConn r addr a hs) (fun a => idAt_modifyConn r addr a hid)

theorem Inv.modifyConn {r : ConnectionRegistry D S L P} (h : r.Inv) (addr : Nat)
    {f : Connection S L P → Connection S L P} (hs : ∀ c, (f c).shard = c.shard)
    (hid : ∀ c, (f c).id = c.id)
    (hf : ∀ c, (f c).channel.capacity = c.channel.capacity ∧
      (f c).channel.reserved = c.channel.reserved) : (r.modifyConn addr f).Inv where
  toIndexed := h.toIndexed.modifyConn addr hs hid
  channels := channels_modifyConn addr hf h.channels

theorem Indexed.offerTo {r : ConnectionRegistry D S L P} (h : r.Indexed) (addr : Nat)
    (m : Outbound P) : (r.offerTo addr m).Indexed :=
  h.modifyConn addr (fun _ => rfl) (fun _ => rfl)

theorem Inv.offerTo {r : ConnectionRegistry D S L P} (h : r.Inv) (addr : Nat) (m : Outbound P) :
    (r.offerTo addr m).Inv :=
  h.modifyConn addr (fun _ => rfl) (fun _ => rfl)
    fun c => ⟨Channel.offer_capacity c.channel m, Channel.offer_reserved c.channel m⟩

/-- Under the invariant, removing a device's current connection from its shard's
    index empties every shard's slot of that device. -/
theorem getIn_removeFromShard_current {r : ConnectionRegistry D S L P} (h : r.Indexed) {d : D}
    {addr : Nat} (hd : r.byDevice.get d = some addr) (r' : ConnectionRegistry D S L P)
    (hshard : r'.byShard = r.byShard)
    (hs : ∀ a, a < r.heap.length → r'.shardAt a = r.shardAt a)
    (hlen : r.heap.length ≤ r'.heap.length) (s' : S) (d' : D) :
    (r'.removeFromShard d addr).byShard.getIn s' d' =
      if d' = d then none else r.byShard.getIn s' d' := by
  have hlt := h.valid d addr hd
  obtain ⟨conn, hconn⟩ : ∃ conn, r'.heap[addr]? = some conn :=
    ⟨_, List.getElem?_eq_getElem (by omega)⟩
  rw [getIn_removeFromShard hconn, hshard]
  by_cases hdd : d' = d
  · subst hdd
    rw [if_pos rfl]
    cases hin : r.byShard.getIn s' d' with
    | none => simp
    | some a =>
        -- by agreement the slot holds the current connection, whose shard is `s'`
        obtain ⟨hcur, hsh⟩ := (h.agree s' d' a).mp hin
        obtain rfl : addr = a := Option.some.inj (hd.symm.trans hcur)
        have hsh' : conn.shard = s' := by
          have := (hs addr hlt).trans hsh
          rw [shardAt, hconn] at this
          simpa using this
        have hid' : r'.idAt addr = some conn.id := by
          rw [idAt, hconn]
          rfl
        rw [if_pos ⟨hsh'.symm, rfl⟩]
        simp [Option.filter, hid']
  · rw [if_neg (fun hc => hdd hc.2), if_neg hdd]

-- ============================================================================
-- register
-- ============================================================================

theorem register_connId (r : ConnectionRegistry D S L P) (d : D) (s : S) (l : L) :
    (r.register d s l).2 = { connId := r.nextId + 1, receiver := r.heap.length } := rfl

omit [DecidableEq D] [DecidableEq S] in
/-- The counter before it wraps around. -/
theorem toNat_nextId_add_one {r : ConnectionRegistry D S L P}
    (hwrap : r.nextId.toNat + 1 < 2 ^ 64) : (r.nextId + 1).toNat = r.nextId.toNat + 1 := by
  rw [UInt64.toNat_add, UInt64.toNat_one, Nat.mod_eq_of_lt hwrap]

theorem register_nextId (r : ConnectionRegistry D S L P) (d : D) (s : S) (l : L) :
    (r.register d s l).1.nextId = r.nextId + 1 := by
  unfold register
  cases r.byDevice.get d <;> simp [storeShard, storeDevice, sendClose, allocate]

theorem register_byDevice_get (r : ConnectionRegistry D S L P) (d d' : D) (s : S) (l : L) :
    (r.register d s l).1.byDevice.get d' =
      if d' = d then some r.heap.length else r.byDevice.get d' := by
  have h : (r.register d s l).1.byDevice = r.byDevice.put d r.heap.length := by
    unfold register
    cases r.byDevice.get d <;> simp [storeShard, storeDevice, sendClose, allocate]
  rw [h, DashMap.get_put]

/-- The heap after `register`: one more connection, and the replaced one was
    offered a `Close`. -/
theorem register_heap (r : ConnectionRegistry D S L P) (d : D) (s : S) (l : L) :
    (r.register d s l).1.heap =
      match r.byDevice.get d with
      | some prev => (r.heap ++ [r.newConnection s l]).modify prev
          fun c => { c with channel := c.channel.offer .close }
      | none => r.heap ++ [r.newConnection s l] := by
  unfold register
  cases r.byDevice.get d with
  | none => rfl
  | some prev => simp [storeShard, sendClose, offerTo, modifyConn, storeDevice, heap_allocate]

/-- The connection `register` made. -/
theorem register_getElem?_length {r : ConnectionRegistry D S L P} {d : D}
    (hvalid : ∀ a, r.byDevice.get d = some a → a < r.heap.length) (s : S) (l : L) :
    (r.register d s l).1.heap[r.heap.length]? = some (r.newConnection s l) := by
  rw [register_heap]
  cases hd : r.byDevice.get d with
  | none => simp
  | some prev =>
      have hlt := hvalid prev hd
      simp [Nat.ne_of_lt hlt]

theorem register_shardAt (r : ConnectionRegistry D S L P) (d : D) (s : S) (l : L) (a : Nat) :
    (r.register d s l).1.shardAt a = (r.allocate s l).shardAt a := by
  simp only [shardAt, register_heap, heap_allocate]
  cases r.byDevice.get d with
  | none => rfl
  | some prev =>
      simp only [List.getElem?_modify]
      cases (r.heap ++ [r.newConnection s l])[a]? with
      | none => simp
      | some c => by_cases h : prev = a <;> simp [h]

theorem register_idAt (r : ConnectionRegistry D S L P) (d : D) (s : S) (l : L) (a : Nat) :
    (r.register d s l).1.idAt a = (r.allocate s l).idAt a := by
  simp only [idAt, register_heap, heap_allocate]
  cases r.byDevice.get d with
  | none => rfl
  | some prev =>
      simp only [List.getElem?_modify]
      cases (r.heap ++ [r.newConnection s l])[a]? with
      | none => simp
      | some c => by_cases h : prev = a <;> simp [h]

theorem register_getIn {r : ConnectionRegistry D S L P} (h : r.Indexed) (d : D) (s : S) (l : L)
    (s' : S) (d' : D) :
    (r.register d s l).1.byShard.getIn s' d' =
      if d' = d then (if s' = s then some r.heap.length else none)
      else r.byShard.getIn s' d' := by
  have hrest : ∀ r2 : ConnectionRegistry D S L P,
      (∀ s' d', r2.byShard.getIn s' d' = if d' = d then none else r.byShard.getIn s' d') →
      (r2.storeShard s d r.heap.length).byShard.getIn s' d' =
        if d' = d then (if s' = s then some r.heap.length else none)
        else r.byShard.getIn s' d' := by
    intro r2 hr2
    simp only [storeShard, DashMap.getIn_entryInsert, hr2]
    by_cases hd : d' = d <;> by_cases hs : s' = s <;> simp [hd, hs]
  unfold register
  cases hprev : r.byDevice.get d with
  | none =>
      apply hrest
      intro s' d'
      change r.byShard.getIn s' d' = _
      split
      · next hd =>
          subst hd
          cases hin : r.byShard.getIn s' d' with
          | none => rfl
          | some a =>
              have := ((h.agree s' d' a).mp hin).1
              rw [hprev] at this
              cases this
      · rfl
  | some prev =>
      apply hrest
      intro s' d'
      refine getIn_removeFromShard_current h hprev
        (((r.allocate s l).storeDevice d r.heap.length).sendClose prev) rfl ?_ ?_ s' d'
      · intro a ha
        simp only [sendClose, shardAt_offerTo]
        simp only [shardAt, storeDevice]
        rw [allocate_getElem?_of_lt r s l ha]
      · simp [sendClose, storeDevice, heap_allocate]

theorem Indexed.register {r : ConnectionRegistry D S L P} (h : r.Indexed) (d : D) (s : S) (l : L) :
    (r.register d s l).1.Indexed := by
  have hlen : (r.register d s l).1.heap.length = r.heap.length + 1 := by
    rw [register_heap]
    cases r.byDevice.get d <;> simp
  refine ⟨?_, ?_, ?_, ?_, ?_⟩
  · intro d' a hd'
    rw [register_byDevice_get] at hd'
    rw [hlen]
    split at hd'
    · cases hd'
      omega
    · have := h.valid d' a hd'
      omega
  · intro s' d' a
    rw [register_getIn h, register_byDevice_get, register_shardAt]
    by_cases hd : d' = d
    · simp only [hd, if_true]
      constructor
      · intro ha
        split at ha
        · next hs =>
            cases ha
            rw [hs, shardAt, allocate_getElem?_length]
            exact ⟨rfl, rfl⟩
        · cases ha
      · rintro ⟨ha, hsh⟩
        cases ha
        rw [shardAt, allocate_getElem?_length] at hsh
        have hs : s' = s := (Option.some.inj hsh).symm
        rw [if_pos hs]
    · simp only [hd, if_false]
      rw [h.agree s' d' a]
      refine and_congr_right fun ha => ?_
      rw [shardAt, shardAt, allocate_getElem?_of_lt r s l (h.valid d' a ha)]
  · intro d₁ d₂ a h1 h2
    rw [register_byDevice_get] at h1 h2
    -- an old entry never has the new address
    have hne : ∀ d' , r.byDevice.get d' ≠ some r.heap.length := by
      intro d' hd'
      exact absurd (h.valid d' _ hd') (lt_irrefl _)
    split at h1 <;> split at h2
    · next e1 e2 => rw [e1, e2]
    · cases h1
      exact absurd h2 (hne d₂)
    · cases h2
      exact absurd h1 (hne d₁)
    · exact h.inj d₁ d₂ a h1 h2
  · intro a i hi
    rw [register_idAt, idAt, heap_allocate] at hi
    by_cases ha : a < r.heap.length
    · rw [List.getElem?_append_left ha] at hi
      exact h.ids a i hi
    · obtain ⟨c, hc, rfl⟩ := Option.map_eq_some_iff.mp hi
      have hlt : a < (r.heap ++ [r.newConnection s l]).length :=
        (List.getElem?_eq_some_iff.mp hc).1
      rw [List.length_append, List.length_singleton] at hlt
      obtain rfl : a = r.heap.length := by omega
      rw [List.getElem?_append_right le_rfl] at hc
      simp only [Nat.sub_self, List.getElem?_cons_zero, Option.some.injEq] at hc
      rw [← hc, newConnection, h.next, UInt64.ofNat_add]
      rfl
  · rw [register_nextId, hlen, h.next, UInt64.ofNat_add]
    rfl

theorem Inv.register {r : ConnectionRegistry D S L P} (h : r.Inv) (d : D) (s : S) (l : L) :
    (r.register d s l).1.Inv where
  toIndexed := h.toIndexed.register d s l
  channels := by
    have hnew : ∀ c ∈ r.heap ++ [r.newConnection s l],
        c.channel.capacity = connectionChannelCapacity ∧ c.channel.reserved = 0 := by
      intro c hc
      rcases List.mem_append.mp hc with hc | hc
      · exact h.channels c hc
      · cases List.mem_singleton.mp hc
        exact ⟨rfl, rfl⟩
    intro c hc
    rw [register_heap] at hc
    cases hprev : r.byDevice.get d with
    | none =>
        rw [hprev] at hc
        exact hnew c hc
    | some prev =>
        rw [hprev] at hc
        exact channels_modifyConn (r := { r with heap := r.heap ++ [r.newConnection s l] }) prev
          (fun c => ⟨Channel.offer_capacity c.channel _, Channel.offer_reserved c.channel _⟩)
          hnew c hc

-- ============================================================================
-- deregister
-- ============================================================================

theorem deregister_of_ne {r : ConnectionRegistry D S L P} {d : D} {connId : UInt64}
    (h : ∀ a, r.byDevice.get d = some a → r.idAt a ≠ some connId) :
    r.deregister d connId = (r, false) := by
  unfold deregister
  cases hd : r.byDevice.get d with
  | none => rfl
  | some a => simp [h a hd]

@[simp] theorem deregister_heap (r : ConnectionRegistry D S L P) (d : D) (connId : UInt64) :
    (r.deregister d connId).1.heap = r.heap := by
  unfold deregister
  split
  · split <;> simp
  · rfl

@[simp] theorem deregister_nextId (r : ConnectionRegistry D S L P) (d : D) (connId : UInt64) :
    (r.deregister d connId).1.nextId = r.nextId := by
  unfold deregister
  split
  · split <;> simp
  · rfl

theorem deregister_current {r : ConnectionRegistry D S L P} {d : D} {connId : UInt64} {a : Nat}
    (hd : r.byDevice.get d = some a) (hid : r.idAt a = some connId) :
    (r.deregister d connId).2 = true ∧
      ∀ d', (r.deregister d connId).1.byDevice.get d' =
        if d' = d then none else r.byDevice.get d' := by
  unfold deregister
  simp only [hd, hid, if_true, byDevice_removeFromShard, true_and]
  intro d'
  split
  · next h =>
      subst h
      simp [hd, hid, Option.filter]
  · next h => exact DashMap.get_removeIf_of_ne _ _ h

theorem deregister_getIn {r : ConnectionRegistry D S L P} (h : r.Indexed) {d : D} {connId : UInt64}
    {a : Nat} (hd : r.byDevice.get d = some a) (hid : r.idAt a = some connId) (s' : S) (d' : D) :
    (r.deregister d connId).1.byShard.getIn s' d' =
      if d' = d then none else r.byShard.getIn s' d' := by
  unfold deregister
  simp only [hd, hid, if_true]
  exact getIn_removeFromShard_current h hd
    { r with byDevice := r.byDevice.removeIf d fun a => r.idAt a == some connId }
    rfl (fun _ _ => rfl) le_rfl s' d'

theorem Indexed.deregister {r : ConnectionRegistry D S L P} (h : r.Indexed) (d : D)
    (connId : UInt64) : (r.deregister d connId).1.Indexed := by
  by_cases hcur : ∃ a, r.byDevice.get d = some a ∧ r.idAt a = some connId
  · obtain ⟨a, hd, hid⟩ := hcur
    obtain ⟨-, hdev⟩ := deregister_current hd hid
    refine ⟨?_, ?_, ?_, ?_, ?_⟩
    · intro d' a' hd'
      rw [hdev] at hd'
      rw [deregister_heap]
      split at hd'
      · cases hd'
      · exact h.valid d' a' hd'
    · intro s' d' a'
      rw [deregister_getIn h hd hid, hdev, shardAt, deregister_heap]
      split
      · simp
      · exact h.agree s' d' a'
    · intro d₁ d₂ a' h1 h2
      rw [hdev] at h1 h2
      split at h1
      · cases h1
      · split at h2
        · cases h2
        · exact h.inj d₁ d₂ a' h1 h2
    · intro a' i hi
      rw [idAt, deregister_heap] at hi
      exact h.ids a' i hi
    · rw [deregister_nextId, deregister_heap]
      exact h.next
  · rw [deregister_of_ne fun a ha hid => hcur ⟨a, ha, hid⟩]
    exact h

theorem Inv.deregister {r : ConnectionRegistry D S L P} (h : r.Inv) (d : D) (connId : UInt64) :
    (r.deregister d connId).1.Inv where
  toIndexed := h.toIndexed.deregister d connId
  channels := by
    rw [deregister_heap]
    exact h.channels

-- ============================================================================
-- updateLocation and sendControl
-- ============================================================================

theorem Indexed.updateLocation {r : ConnectionRegistry D S L P} (h : r.Indexed) (d : D) (l : L) :
    (r.updateLocation d l).1.Indexed := by
  unfold ConnectionRegistry.updateLocation
  split
  · exact h.modifyConn _ (fun _ => rfl) (fun _ => rfl)
  · exact h

theorem Indexed.sendControl {r : ConnectionRegistry D S L P} (h : r.Indexed) (d : D)
    (text : String) (close : Bool) : (r.sendControl d text close).1.Indexed := by
  unfold ConnectionRegistry.sendControl
  split
  · exact h
  · split
    · exact h
    · split
      · exact h.offerTo _ _
      · split
        · exact h.deregister _ _
        · exact h

end ConnectionRegistry
end PulseGrid.Worker
