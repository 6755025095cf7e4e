/-
  PulseGrid.Worker.RegistryTraffic

  What a call on the connection registry stores in each queue.

  `gained` compares a queue before and after.  A closing request may be stored by a call that
  closes, a control frame only in the queue of the device it is for, and an alert exactly in
  the queues that the broadcast counts as delivered.
-/

import PulseGrid.Worker.RegistryRuns

namespace PulseGrid.Worker

/-- What a queue holds afterwards beyond what it held before. -/
def gained {μ : Type*} (before after : List μ) : List μ := after.drop before.length

@[simp] theorem gained_self {μ : Type*} (queue : List μ) : gained queue queue = [] :=
  List.drop_length

@[simp] theorem gained_append {μ : Type*} (queue more : List μ) :
    gained queue (queue ++ more) = more := List.drop_left

@[simp] theorem gained_nil_right {μ : Type*} (queue : List μ) : gained queue [] = [] :=
  List.drop_nil

theorem gained_tail {μ : Type*} (queue : List μ) : gained queue queue.tail = [] := by
  refine List.drop_eq_nil_of_le ?_
  rw [List.length_tail]
  omega

theorem gained_offer {μ : Type*} (c : Channel μ) (m : μ) :
    gained c.queue (c.offer m).queue = if c.accepts then [m] else [] := by
  rw [Channel.offer_eq]
  split
  · exact gained_append _ _
  · exact gained_self _

theorem gained_recv {μ : Type*} (c : Channel μ) : gained c.queue c.recv.2.queue = [] := by
  have htail : c.recv.2.queue = c.queue.tail := by
    unfold Channel.recv
    split
    · next h => rw [h]; rfl
    · next h => rw [h]; rfl
  rw [htail, gained_tail]

namespace ConnectionRegistry

variable {D S L P A : Type*}

/-- The messages that wait in a connection's queue. -/
def queueAt (r : ConnectionRegistry D S L P) (n : Nat) : List (Outbound P) :=
  ((r.heap[n]?).map fun c => c.channel.queue).getD []

/-- What `after` holds in queue `n` beyond what `before` held. -/
def gainedAt (before after : ConnectionRegistry D S L P) (n : Nat) : List (Outbound P) :=
  gained (before.queueAt n) (after.queueAt n)

theorem gainedAt_of_heap {r r' : ConnectionRegistry D S L P} {n : Nat}
    (h : r'.heap[n]? = r.heap[n]?) : gainedAt r r' n = [] := by
  rw [gainedAt, queueAt, queueAt, h, gained_self]

/-- A change to one connection is seen in its queue alone. -/
theorem gainedAt_modifyConn (r : ConnectionRegistry D S L P) (addr n : Nat)
    (f : Connection S L P → Connection S L P) :
    gainedAt r (r.modifyConn addr f) n =
      if addr = n then
        ((r.heap[n]?).map fun c => gained c.channel.queue (f c).channel.queue).getD []
      else [] := by
  unfold gainedAt queueAt modifyConn
  rw [List.getElem?_modify]
  cases r.heap[n]? with
  | none => split <;> rfl
  | some c =>
      by_cases h : addr = n
      · simp [h]
      · simp [h]

theorem gainedAt_offerTo (r : ConnectionRegistry D S L P) (addr n : Nat) (m : Outbound P) :
    gainedAt r (r.offerTo addr m) n = if addr = n ∧ r.acceptsAt n = true then [m] else [] := by
  rw [offerTo, gainedAt_modifyConn]
  by_cases h : addr = n
  · rw [if_pos h, acceptsAt]
    cases r.heap[n]? with
    | none => simp
    | some c => simp [gained_offer, h]
  · rw [if_neg h, if_neg fun hc => h hc.1]

variable [DecidableEq D] [DecidableEq S]

/-- A new connection has an empty queue, and a replaced one may be told to close. -/
theorem gainedAt_register {r : ConnectionRegistry D S L P} (d : D) (s : S) (l : L) (n : Nat) :
    ∀ m ∈ gainedAt r (r.register d s l).1 n, m = .close := by
  intro m hm
  have hnew : ∀ heap : List (Connection S L P), heap = r.heap ++ [r.newConnection s l] →
      ((heap[n]?).map fun c => c.channel.queue).getD [] = r.queueAt n := by
    rintro heap rfl
    rw [queueAt]
    by_cases hlt : n < r.heap.length
    · rw [List.getElem?_append_left hlt]
    · rw [List.getElem?_append_right (by omega),
        List.getElem?_eq_none (by omega : r.heap.length ≤ n)]
      cases n - r.heap.length with
      | zero => rfl
      | succ k => rfl
  rw [gainedAt, queueAt.eq_def (r.register d s l).1, register_heap] at hm
  cases hd : r.byDevice.get d with
  | none =>
      rw [hd] at hm
      dsimp only at hm
      rw [hnew _ rfl, gained_self] at hm
      cases hm
  | some prev =>
      rw [hd] at hm
      dsimp only at hm
      rw [← hnew _ rfl, List.getElem?_modify] at hm
      cases hc : (r.heap ++ [r.newConnection s l])[n]? with
      | none =>
          rw [hc] at hm
          simp at hm
      | some c =>
          rw [hc] at hm
          by_cases heq : prev = n
          · simp only [heq, if_true, Option.map_eq_map, Option.map_some, Option.getD_some,
              gained_offer] at hm
            split at hm
            · exact List.mem_singleton.mp hm
            · cases hm
          · simp [heq] at hm

theorem gainedAt_closeAll {r : ConnectionRegistry D S L P} (h : r.Indexed) (n : Nat) :
    ∀ m ∈ gainedAt r r.closeAll n, m = .close := by
  intro m hm
  rw [gainedAt, queueAt, queueAt, closeAll_heap h] at hm
  cases hc : r.heap[n]? with
  | none => simp [hc] at hm
  | some c =>
      rw [hc] at hm
      by_cases hmem : n ∈ r.byDevice.iter.map Prod.snd
      · simp only [hmem, if_true, Option.map_some, Option.getD_some, gained_offer] at hm
        split at hm
        · exact List.mem_singleton.mp hm
        · cases hm
      · simp [hmem] at hm

/-- A control frame goes to the device it is for. -/
theorem gainedAt_sendControl (r : ConnectionRegistry D S L P) (d : D) (text : String)
    (close : Bool) (n : Nat) :
    ∀ m ∈ gainedAt r (r.sendControl d text close).1 n,
      m = .control text close ∧ r.byDevice.get d = some n := by
  intro m hm
  unfold sendControl at hm
  cases hd : r.byDevice.get d with
  | none =>
      rw [hd] at hm
      rw [gainedAt_of_heap rfl] at hm
      cases hm
  | some addr =>
      rw [hd] at hm
      dsimp only at hm
      cases hc : r.heap[addr]? with
      | none =>
          rw [hc] at hm
          rw [gainedAt_of_heap rfl] at hm
          cases hm
      | some conn =>
          rw [hc] at hm
          dsimp only at hm
          split at hm
          · rw [gainedAt_offerTo] at hm
            split at hm
            · next hn => exact ⟨List.mem_singleton.mp hm, by rw [hn.1]⟩
            · cases hm
          · split at hm
            · rw [gainedAt_of_heap (by rw [deregister_heap])] at hm
              cases hm
            · rw [gainedAt_of_heap rfl] at hm
              cases hm

/-- A broadcast stores the alert where it counts a delivery. -/
theorem gainedAt_broadcastToShard {r : ConnectionRegistry D S L P} (h : r.Indexed)
    (contains : A → L → Bool) (s : S) (alert : A) (payload : P) (n : Nat) :
    gainedAt r (r.broadcastToShard contains s alert payload).1 n =
      if n ∈ (r.shardEntries s).map Prod.snd ∧
          (r.heap[n]?).map (outcome contains alert) = some .delivered then
        [.alert payload] else [] := by
  rw [gainedAt, queueAt, queueAt, broadcastToShard_heap h]
  cases hc : r.heap[n]? with
  | none => simp
  | some c =>
      by_cases hmem : n ∈ (r.shardEntries s).map Prod.snd
      · by_cases hout : outcome contains alert c = .delivered
        · simp [hmem, hout, deliver_channel]
        · simp [hmem, hout, deliver_channel]
      · simp [hmem]

theorem gainedAt_deregister (r : ConnectionRegistry D S L P) (d : D) (connId : UInt64) (n : Nat) :
    gainedAt r (r.deregister d connId).1 n = [] :=
  gainedAt_of_heap (by rw [deregister_heap])

omit [DecidableEq S] in
theorem gainedAt_updateLocation (r : ConnectionRegistry D S L P) (d : D) (l : L) (n : Nat) :
    gainedAt r (r.updateLocation d l).1 n = [] := by
  unfold updateLocation
  split
  · rw [gainedAt_modifyConn]
    split
    · cases r.heap[n]? <;> simp
    · rfl
  · exact gainedAt_of_heap rfl

omit [DecidableEq D] [DecidableEq S] in
theorem gainedAt_recv (r : ConnectionRegistry D S L P) (addr n : Nat) :
    gainedAt r (r.recv addr).1 n = [] := by
  rw [recv, gainedAt_modifyConn]
  split
  · cases r.heap[n]? <;> simp [gained_recv]
  · rfl

omit [DecidableEq D] [DecidableEq S] in
theorem gainedAt_dropReceiver (r : ConnectionRegistry D S L P) (addr n : Nat) :
    gainedAt r (r.dropReceiver addr) n = [] := by
  rw [dropReceiver, gainedAt_modifyConn]
  split
  · cases r.heap[n]? <;> simp [Channel.dropReceiver]
  · rfl

-- ============================================================================
-- What may happen to one queue
-- ============================================================================

/-- A queue is as it was, or took one message. -/
def OfferedAt (r r' : ConnectionRegistry D S L P) (n : Nat) : Prop :=
  ∀ c, r.heap[n]? = some c → ∃ c', r'.heap[n]? = some c' ∧ c.channel.Grew c'.channel

omit [DecidableEq D] [DecidableEq S] in
theorem OfferedAt.of_heap {r r' : ConnectionRegistry D S L P} {n : Nat}
    (h : r'.heap[n]? = r.heap[n]?) : OfferedAt r r' n := by
  intro c hc
  exact ⟨c, by rw [h, hc], .refl _⟩

omit [DecidableEq D] [DecidableEq S] in
theorem OfferedAt.modify {heap : List (Connection S L P)} {addr n : Nat}
    {f : Connection S L P → Connection S L P}
    (hf : ∀ c, heap[addr]? = some c → c.channel.Grew (f c).channel)
    {c : Connection S L P} (hc : heap[n]? = some c) :
    ∃ c', (heap.modify addr f)[n]? = some c' ∧ c.channel.Grew c'.channel := by
  rw [List.getElem?_modify, hc]
  by_cases h : addr = n
  · exact ⟨f c, by simp [h], hf c (h ▸ hc)⟩
  · exact ⟨c, by simp [h], .refl _⟩

omit [DecidableEq D] [DecidableEq S] in
theorem OfferedAt.offerTo (r : ConnectionRegistry D S L P) (addr n : Nat) (m : Outbound P) :
    OfferedAt r (r.offerTo addr m) n :=
  fun _ hc => OfferedAt.modify (fun _ _ => .offer _ m) hc

theorem OfferedAt.register (r : ConnectionRegistry D S L P) (d : D) (s : S) (l : L) (n : Nat) :
    OfferedAt r (r.register d s l).1 n := by
  intro c hc
  have happ : (r.heap ++ [r.newConnection s l])[n]? = some c := by
    rw [List.getElem?_append_left (List.getElem?_eq_some_iff.mp hc).1, hc]
  rw [register_heap]
  cases r.byDevice.get d with
  | none => exact ⟨c, happ, .refl _⟩
  | some prev => exact OfferedAt.modify (fun _ _ => .offer _ _) happ

omit [DecidableEq S] in
theorem OfferedAt.updateLocation (r : ConnectionRegistry D S L P) (d : D) (l : L) (n : Nat) :
    OfferedAt r (r.updateLocation d l).1 n := by
  unfold ConnectionRegistry.updateLocation
  split
  · exact fun _ hc => OfferedAt.modify (f := fun c => { c with location := l })
      (fun _ _ => .refl _) hc
  · exact .of_heap rfl

theorem OfferedAt.sendControl (r : ConnectionRegistry D S L P) (d : D) (text : String)
    (close : Bool) (n : Nat) : OfferedAt r (r.sendControl d text close).1 n := by
  unfold ConnectionRegistry.sendControl
  split
  · exact .of_heap rfl
  · split
    · exact .of_heap rfl
    · split
      · exact .offerTo r _ n _
      · split
        · exact .of_heap (by rw [deregister_heap])
        · exact .of_heap rfl

theorem OfferedAt.broadcastToShard {r : ConnectionRegistry D S L P} (h : r.Indexed)
    (contains : A → L → Bool) (s : S) (alert : A) (payload : P) (n : Nat) :
    OfferedAt r (r.broadcastToShard contains s alert payload).1 n := by
  intro c hc
  rw [broadcastToShard_heap h, hc]
  refine ⟨_, rfl, ?_⟩
  dsimp only
  by_cases hmem : n ∈ (r.shardEntries s).map Prod.snd
  · rw [if_pos hmem]
    cases hin : contains alert c.location with
    | true => simpa [deliver, hin] using Channel.Grew.offer c.channel (.alert payload)
    | false => simpa [deliver, hin] using Channel.Grew.refl c.channel
  · rw [if_neg hmem]
    exact .refl _

theorem OfferedAt.closeAll {r : ConnectionRegistry D S L P} (h : r.Indexed) (n : Nat) :
    OfferedAt r r.closeAll n := by
  intro c hc
  rw [closeAll_heap h, hc]
  refine ⟨_, rfl, ?_⟩
  split
  · exact .offer _ _
  · exact .refl _

omit [DecidableEq D] [DecidableEq S] in
/-- What the queue gained is all that changed in it. -/
theorem OfferedAt.queue {r r' : ConnectionRegistry D S L P} {n : Nat} (h : OfferedAt r r' n)
    {c : Connection S L P} (hc : r.heap[n]? = some c) :
    ∃ c', r'.heap[n]? = some c' ∧ c'.channel.rxOpen = c.channel.rxOpen ∧
      c'.channel.queue = c.channel.queue ++ gainedAt r r' n ∧
      (c.channel.rxOpen = false → gainedAt r r' n = []) := by
  obtain ⟨c', hc', hchan⟩ := h c hc
  have hgain : gainedAt r r' n = gained c.channel.queue c'.channel.queue := by
    rw [gainedAt, queueAt, queueAt, hc, hc']
    rfl
  refine ⟨c', hc', hchan.rxOpen, ?_⟩
  rcases hchan.queue with heq | ⟨hopen, m, heq⟩
  · rw [hgain, heq, gained_self, List.append_nil]
    exact ⟨rfl, fun _ => rfl⟩
  · rw [hgain, heq, gained_append]
    exact ⟨rfl, fun hclosed => absurd hopen (by simp [hclosed])⟩

/-- No new connection, and no device has a connection that it did not have. -/
structure KeepsOwners (r r' : ConnectionRegistry D S L P) : Prop where
  length : r'.heap.length = r.heap.length
  get : ∀ d a, r'.byDevice.get d = some a → r.byDevice.get d = some a

omit [DecidableEq S] in
theorem KeepsOwners.refl (r : ConnectionRegistry D S L P) : KeepsOwners r r := ⟨rfl, fun _ _ h => h⟩

omit [DecidableEq S] in
theorem KeepsOwners.modifyConn (r : ConnectionRegistry D S L P) (addr : Nat)
    (f : Connection S L P → Connection S L P) : KeepsOwners r (r.modifyConn addr f) :=
  ⟨by simp [ConnectionRegistry.modifyConn], fun _ _ h => h⟩

theorem KeepsOwners.deregister (r : ConnectionRegistry D S L P) (d : D) (connId : UInt64) :
    KeepsOwners r (r.deregister d connId).1 := by
  refine ⟨by rw [deregister_heap], ?_⟩
  intro d' a h
  by_cases hcur : ∃ b, r.byDevice.get d = some b ∧ r.idAt b = some connId
  · obtain ⟨b, hd, hid⟩ := hcur
    rw [(deregister_current hd hid).2] at h
    split at h
    · cases h
    · exact h
  · rw [deregister_of_ne fun b hb hid => hcur ⟨b, hb, hid⟩] at h
    exact h

omit [DecidableEq S] in
theorem KeepsOwners.updateLocation (r : ConnectionRegistry D S L P) (d : D) (l : L) :
    KeepsOwners r (r.updateLocation d l).1 := by
  unfold ConnectionRegistry.updateLocation
  split
  · exact .modifyConn r _ _
  · exact .refl r

theorem KeepsOwners.sendControl (r : ConnectionRegistry D S L P) (d : D) (text : String)
    (close : Bool) : KeepsOwners r (r.sendControl d text close).1 := by
  unfold ConnectionRegistry.sendControl
  split
  · exact .refl r
  · split
    · exact .refl r
    · split
      · exact .modifyConn r _ _
      · split
        · exact .deregister r _ _
        · exact .refl r

theorem KeepsOwners.broadcastToShard {r : ConnectionRegistry D S L P} (h : r.Indexed)
    (contains : A → L → Bool) (s : S) (alert : A) (payload : P) :
    KeepsOwners r (r.broadcastToShard contains s alert payload).1 :=
  ⟨broadcastToShard_heap_length h contains s alert payload,
    fun d a hd => by rwa [broadcastToShard_byDevice h] at hd⟩

omit [DecidableEq S] in
theorem KeepsOwners.closeAll (r : ConnectionRegistry D S L P) : KeepsOwners r r.closeAll :=
  ⟨closeAll_heap_length r, fun d a h => by simp [ConnectionRegistry.closeAll] at h⟩

end ConnectionRegistry
end PulseGrid.Worker
