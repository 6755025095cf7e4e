/-
  PulseGrid.Worker.RegistryLoops

  The two loops of the connection registry, `broadcast_to_shard` and `close_all`,
  against the flat map.

  A loop acts on one connection per iteration and never twice on the same one,
  because a connection belongs to one device; `modifyAll_getElem?` turns such a
  loop into a statement about every heap cell at once, and `broadcast_foldl`
  counts the connections as they were before the loop.
-/

import PulseGrid.Worker.RegistryRefinement

namespace PulseGrid.Worker
namespace ConnectionRegistry

variable {D S L P A : Type*}

-- ============================================================================
-- The loops
-- ============================================================================

/-- The heap after a loop that applies `f` to one cell per iteration. -/
def modifyAll {α : Type*} (f : α → α) (as : List Nat) (h : List α) : List α :=
  as.foldl (fun h a => h.modify a f) h

/-- A loop that modifies pairwise different cells of a list changes exactly those. -/
theorem modifyAll_getElem? {α : Type*} (f : α → α) (as : List Nat) (has : as.Nodup)
    (h : List α) (i : Nat) :
    (modifyAll f as h)[i]? = (h[i]?).map fun c => if i ∈ as then f c else c := by
  induction as generalizing h with
  | nil => simp [modifyAll]
  | cons a as ih =>
      obtain ⟨hna, has'⟩ := List.nodup_cons.mp has
      rw [show modifyAll f (a :: as) h = modifyAll f as (h.modify a f) from rfl, ih has',
        List.getElem?_modify]
      by_cases hi : a = i
      · subst hi
        cases h[a]? <;> simp [hna]
      · have hi' : i ≠ a := fun h' => hi h'.symm
        cases h[i]? <;> simp [hi, hi']

/-- The number of listed keys that satisfy a test, when no key is listed twice. -/
theorem ncard_keys_eq_countP {κ ν : Type*} (es : List (κ × ν)) (hes : (es.map Prod.fst).Nodup)
    (p : κ × ν → Bool) :
    {k | ∃ v, (k, v) ∈ es ∧ p (k, v) = true}.ncard = es.countP p := by
  classical
  have hset : {k | ∃ v, (k, v) ∈ es ∧ p (k, v) = true} =
      (((es.filter p).map Prod.fst).toFinset : Set κ) := by
    ext k
    simp
  have hnd : ((es.filter p).map Prod.fst).Nodup :=
    hes.sublist (List.filter_sublist.map Prod.fst)
  rw [hset, Set.ncard_coe_finset, List.toFinset_card_of_nodup hnd, List.length_map,
    List.countP_eq_length_filter]

section Loops

variable [DecidableEq D] [DecidableEq S]

/-- What one iteration of the broadcast loop does to the connection it meets. -/
def deliver (contains : A → L → Bool) (alert : A) (payload : P) (c : Connection S L P) :
    Connection S L P :=
  if contains alert c.location then { c with channel := c.channel.offer (.alert payload) } else c

/-- How a connection is counted by a broadcast. -/
inductive Outcome where
  | delivered
  | dropped
  | filteredOut
deriving DecidableEq

def outcome (contains : A → L → Bool) (alert : A) (c : Connection S L P) : Outcome :=
  if !contains alert c.location then .filteredOut
  else if c.channel.accepts then .delivered
  else .dropped

/-- How the connection of an index entry is counted. -/
def outcomeAt (contains : A → L → Bool) (alert : A) (r : ConnectionRegistry D S L P)
    (e : D × Nat) : Option Outcome :=
  (r.heap[e.2]?).map (outcome contains alert)

omit [DecidableEq D] [DecidableEq S] in
theorem modify_eq_self {α : Type*} (h : List α) (a : Nat) (f : α → α)
    (hf : ∀ c, h[a]? = some c → f c = c) : h.modify a f = h := by
  apply List.ext_getElem?
  intro i
  rw [List.getElem?_modify]
  cases hi : h[i]? with
  | none => rfl
  | some c =>
      by_cases ha : a = i
      · subst ha
        simp [hf c hi]
      · simp [ha]

omit [DecidableEq D] [DecidableEq S] in
theorem broadcastOne_eq (contains : A → L → Bool) (alert : A) (payload : P)
    (acc : ConnectionRegistry D S L P × BroadcastResult) (e : D × Nat) {c : Connection S L P}
    (hc : acc.1.heap[e.2]? = some c) :
    broadcastOne contains alert payload acc e =
      (acc.1.modifyConn e.2 (deliver contains alert payload),
        match outcome contains alert c with
        | .delivered => { acc.2 with delivered := acc.2.delivered + 1 }
        | .dropped => { acc.2 with dropped := acc.2.dropped + 1 }
        | .filteredOut => { acc.2 with filteredOut := acc.2.filteredOut + 1 }) := by
  have hsame : ∀ r : ConnectionRegistry D S L P, r.heap[e.2]? = some c →
      deliver contains alert payload c = c →
      r.modifyConn e.2 (deliver contains alert payload) = r := by
    intro r hr hself
    have hheap := modify_eq_self r.heap e.2 (deliver contains alert payload)
      fun c' hc' => by rw [Option.some.inj (hc'.symm.trans hr)]; exact hself
    simp only [modifyConn, hheap]
  unfold broadcastOne
  rw [hc]
  cases hin : contains alert c.location with
  | false =>
      simp only [outcome, hin, Bool.not_false, if_true]
      rw [hsame acc.1 hc (by simp [deliver, hin])]
  | true =>
      cases hacc : c.channel.accepts with
      | true =>
          simp only [outcome, hin, hacc, Channel.trySend_eq_ok hacc, Bool.not_true,
            Bool.false_eq_true, if_false, if_true, Prod.mk.injEq, and_true]
          have hheap : acc.1.heap.modify e.2
              (fun c => { c with channel := c.channel.offer (.alert payload) }) =
              acc.1.heap.modify e.2 (deliver contains alert payload) := by
            apply List.ext_getElem?
            intro i
            simp only [List.getElem?_modify]
            by_cases hi : e.2 = i
            · subst hi
              simp [hc, deliver, hin]
            · simp [hi]
          simp only [offerTo, modifyConn, hheap]
      | false =>
          obtain ⟨err, herr⟩ := Channel.trySend_eq_error (m := Outbound.alert payload) hacc
          simp only [outcome, hin, hacc, herr, Bool.not_true, Bool.false_eq_true, if_false]
          have hoff : c.channel.offer (.alert payload) = c.channel := by
            rw [Channel.offer_eq, hacc]
            simp
          rw [hsame acc.1 hc (by simp [deliver, hin, hoff])]

omit [DecidableEq D] [DecidableEq S] in
/-- The broadcast loop over index entries with pairwise different connections:
    each of these is visited once, and the counts are of the connections as they
    were before the loop. -/
theorem broadcast_foldl (contains : A → L → Bool) (alert : A) (payload : P)
    (es : List (D × Nat)) (hnd : (es.map Prod.snd).Nodup) :
    ∀ (r : ConnectionRegistry D S L P) (res : BroadcastResult),
      (∀ e ∈ es, e.2 < r.heap.length) →
      es.foldl (broadcastOne contains alert payload) (r, res) =
        ({ r with
            heap := modifyAll (deliver contains alert payload) (es.map Prod.snd) r.heap },
          { delivered := res.delivered +
              es.countP fun e => r.outcomeAt contains alert e == some .delivered
            dropped := res.dropped +
              es.countP fun e => r.outcomeAt contains alert e == some .dropped
            filteredOut := res.filteredOut +
              es.countP fun e => r.outcomeAt contains alert e == some .filteredOut }) := by
  induction es with
  | nil => intros; rfl
  | cons e es ih =>
      intro r res hvalid
      rw [List.map_cons] at hnd
      obtain ⟨hne, hnd'⟩ := List.nodup_cons.mp hnd
      have hlt : e.2 < r.heap.length := hvalid e (List.mem_cons_self ..)
      have hc : r.heap[e.2]? = some r.heap[e.2] := List.getElem?_eq_getElem hlt
      rw [List.foldl_cons, broadcastOne_eq contains alert payload (r, res) e hc]
      rw [ih hnd' _ _ (by
        intro e' he'
        simpa [modifyConn] using hvalid e' (List.mem_cons_of_mem _ he'))]
      -- the connections still to come are untouched by this iteration
      have hlater : ∀ o, (es.countP fun e' =>
            (r.modifyConn e.2 (deliver contains alert payload)).outcomeAt contains alert e' ==
              some o) =
          es.countP fun e' => r.outcomeAt contains alert e' == some o := by
        intro o
        apply List.countP_congr
        intro e' he'
        have hne' : e.2 ≠ e'.2 := by
          intro heq
          exact hne (List.mem_map.mpr ⟨e', he', heq.symm⟩)
        simp [outcomeAt, modifyConn, hne']
      have hhere : r.outcomeAt contains alert e = some (outcome contains alert r.heap[e.2]) := by
        rw [outcomeAt, hc]
        rfl
      simp only [hlater, List.countP_cons, hhere, List.map_cons]
      refine Prod.ext rfl ?_
      cases outcome contains alert r.heap[e.2] <;> ext <;> simp <;> omega

/-- The entries of a shard's index. -/
def shardEntries (r : ConnectionRegistry D S L P) (s : S) : List (D × Nat) :=
  ((r.byShard.get s).map DashMap.iter).getD []

theorem mem_shardEntries {r : ConnectionRegistry D S L P} {s : S} {d : D} {a : Nat} :
    (d, a) ∈ r.shardEntries s ↔ r.byShard.getIn s d = some a := by
  unfold shardEntries DashMap.getIn
  cases r.byShard.get s with
  | none => simp
  | some inner => simpa using DashMap.mem_iter

omit [DecidableEq D] in
theorem nodup_keys_shardEntries (r : ConnectionRegistry D S L P) (s : S) :
    ((r.shardEntries s).map Prod.fst).Nodup := by
  unfold shardEntries
  cases r.byShard.get s with
  | none => simp
  | some inner => exact DashMap.nodup_keys_iter inner

omit [DecidableEq S] in
/-- Entries of different devices are different connections. -/
theorem nodup_conns {r : ConnectionRegistry D S L P}
    (hinj : ∀ d d' a, r.byDevice.get d = some a → r.byDevice.get d' = some a → d = d')
    {es : List (D × Nat)} (hkeys : (es.map Prod.fst).Nodup)
    (hmem : ∀ e ∈ es, r.byDevice.get e.1 = some e.2) : (es.map Prod.snd).Nodup := by
  refine List.Nodup.map_on ?_ (List.Nodup.of_map Prod.fst hkeys)
  rintro ⟨d, a⟩ hx ⟨d', a'⟩ hy (rfl : a = a')
  rw [hinj d d' a (hmem _ hx) (hmem _ hy)]

theorem Indexed.shardEntries_byDevice {r : ConnectionRegistry D S L P} (h : r.Indexed) {s : S}
    {e : D × Nat} (he : e ∈ r.shardEntries s) :
    r.byDevice.get e.1 = some e.2 ∧ r.shardAt e.2 = some s :=
  (h.agree s e.1 e.2).mp (mem_shardEntries.mp he)

/-- A broadcast under the invariant, cell by cell and count by count. -/
theorem broadcastToShard_eq {r : ConnectionRegistry D S L P} (h : r.Indexed)
    (contains : A → L → Bool) (s : S) (alert : A) (payload : P) :
    r.broadcastToShard contains s alert payload =
      ({ r with
          heap := modifyAll (deliver contains alert payload)
            ((r.shardEntries s).map Prod.snd) r.heap },
        { delivered := (r.shardEntries s).countP
            fun e => r.outcomeAt contains alert e == some .delivered
          dropped := (r.shardEntries s).countP
            fun e => r.outcomeAt contains alert e == some .dropped
          filteredOut := (r.shardEntries s).countP
            fun e => r.outcomeAt contains alert e == some .filteredOut }) := by
  have hfold := broadcast_foldl contains alert payload (r.shardEntries s)
    (nodup_conns h.inj (nodup_keys_shardEntries r s) fun e he => (h.shardEntries_byDevice he).1)
    r {} (fun e he => h.valid _ _ (h.shardEntries_byDevice he).1)
  simp only [Nat.zero_add] at hfold
  rw [← hfold]
  unfold broadcastToShard shardEntries
  cases r.byShard.get s with
  | none => rfl
  | some inner => rfl

theorem broadcastToShard_heap {r : ConnectionRegistry D S L P} (h : r.Indexed)
    (contains : A → L → Bool) (s : S) (alert : A) (payload : P) (n : Nat) :
    (r.broadcastToShard contains s alert payload).1.heap[n]? =
      (r.heap[n]?).map fun c =>
        if n ∈ (r.shardEntries s).map Prod.snd then deliver contains alert payload c else c := by
  rw [broadcastToShard_eq h]
  exact modifyAll_getElem? _ _
    (nodup_conns h.inj (nodup_keys_shardEntries r s) fun e he => (h.shardEntries_byDevice he).1)
    r.heap n

theorem broadcastToShard_byDevice {r : ConnectionRegistry D S L P} (h : r.Indexed)
    (contains : A → L → Bool) (s : S) (alert : A) (payload : P) :
    (r.broadcastToShard contains s alert payload).1.byDevice = r.byDevice := by
  rw [broadcastToShard_eq h]

/-- Device `d` has a current connection in shard `s` that the broadcast counts as `o`. -/
def CountedAs (contains : A → L → Bool) (r : ConnectionRegistry D S L P) (s : S) (alert : A)
    (o : Outcome) (d : D) : Prop :=
  ∃ a c, r.byDevice.get d = some a ∧ r.heap[a]? = some c ∧ c.shard = s ∧
    outcome contains alert c = o

theorem ncard_countedAs {r : ConnectionRegistry D S L P} (h : r.Indexed) (contains : A → L → Bool)
    (s : S) (alert : A) (o : Outcome) :
    {d | r.CountedAs contains s alert o d}.ncard =
      (r.shardEntries s).countP fun e => r.outcomeAt contains alert e == some o := by
  rw [← ncard_keys_eq_countP _ (nodup_keys_shardEntries r s)]
  congr 1
  ext d
  simp only [Set.mem_ofPred_eq, mem_shardEntries, h.agree s d, shardAt_eq_some, outcomeAt,
    beq_iff_eq, Option.map_eq_some_iff]
  constructor
  · rintro ⟨a, c, hd, hc, hs, ho⟩
    exact ⟨a, ⟨hd, c, hc, hs⟩, c, hc, ho⟩
  · rintro ⟨a, ⟨hd, c, hc, hs⟩, c', hc', ho⟩
    obtain rfl : c = c' := Option.some.inj (hc.symm.trans hc')
    exact ⟨a, c, hd, hc, hs, ho⟩

omit [DecidableEq S] in
/-- The current connection of a device, read in the registry or in the flat map. -/
theorem exists_entry_iff {r : ConnectionRegistry D S L P} {d : D}
    {Q : Nat → S → L → Prop} :
    (∃ e, r.flatten.entries d = some e ∧ Q e.conn e.shard e.location) ↔
      ∃ a c, r.byDevice.get d = some a ∧ r.heap[a]? = some c ∧ Q a c.shard c.location := by
  constructor
  · rintro ⟨e, he, hq⟩
    obtain ⟨c, hd, hc, -, h2, h3⟩ := flatten_entries_eq_some.mp he
    exact ⟨e.conn, c, hd, hc, by rw [h2, h3]; exact hq⟩
  · rintro ⟨a, c, hd, hc, hq⟩
    exact ⟨⟨a, c.id, c.shard, c.location⟩,
      flatten_entries_eq_some.mpr ⟨c, hd, hc, rfl, rfl, rfl⟩, hq⟩

theorem mem_reached_iff {r : ConnectionRegistry D S L P} (h : r.Inv) (contains : A → L → Bool)
    (s : S) (alert : A) (d : D) :
    d ∈ r.flatten.reached contains s alert ↔ r.CountedAs contains s alert .delivered d := by
  refine (exists_entry_iff (Q := fun n s' l => s' = s ∧ contains alert l = true ∧
    r.flatten.Accepts n)).trans ?_
  refine exists_congr fun a => exists_congr fun c => and_congr_right fun _ =>
    and_congr_right fun hc => and_congr_right fun _ => ?_
  rw [← accepts_iff h hc, outcome]
  cases contains alert c.location <;> cases c.channel.accepts <;> simp

theorem inCircle_diff_reached {r : ConnectionRegistry D S L P} (h : r.Inv)
    (contains : A → L → Bool) (s : S) (alert : A) :
    r.flatten.inCircle contains s alert \ r.flatten.reached contains s alert =
      {d | r.CountedAs contains s alert .dropped d} := by
  ext d
  rw [Set.mem_sdiff, mem_reached_iff h]
  have hcircle : d ∈ r.flatten.inCircle contains s alert ↔
      ∃ a c, r.byDevice.get d = some a ∧ r.heap[a]? = some c ∧ c.shard = s ∧
        contains alert c.location = true :=
    exists_entry_iff (Q := fun _ s' l => s' = s ∧ contains alert l = true)
  rw [hcircle]
  constructor
  · rintro ⟨⟨a, c, hd, hc, hs, hin⟩, hnot⟩
    refine ⟨a, c, hd, hc, hs, ?_⟩
    have hno : outcome contains alert c ≠ .delivered := fun ho => hnot ⟨a, c, hd, hc, hs, ho⟩
    unfold outcome at hno ⊢
    cases hacc : c.channel.accepts <;> simp_all
  · rintro ⟨a, c, hd, hc, hs, ho⟩
    refine ⟨⟨a, c, hd, hc, hs, ?_⟩, ?_⟩
    · unfold outcome at ho
      cases hin : contains alert c.location <;> simp_all
    · rintro ⟨a', c', hd', hc', -, ho'⟩
      obtain rfl : a = a' := Option.some.inj (hd.symm.trans hd')
      obtain rfl : c = c' := Option.some.inj (hc.symm.trans hc')
      rw [ho] at ho'
      cases ho'

omit [DecidableEq S] in
theorem inShard_diff_inCircle {r : ConnectionRegistry D S L P} (contains : A → L → Bool)
    (s : S) (alert : A) :
    r.flatten.inShard s \ r.flatten.inCircle contains s alert =
      {d | r.CountedAs contains s alert .filteredOut d} := by
  ext d
  rw [Set.mem_sdiff]
  have hshard : d ∈ r.flatten.inShard s ↔
      ∃ a c, r.byDevice.get d = some a ∧ r.heap[a]? = some c ∧ c.shard = s :=
    exists_entry_iff (Q := fun _ s' _ => s' = s)
  have hcircle : d ∈ r.flatten.inCircle contains s alert ↔
      ∃ a c, r.byDevice.get d = some a ∧ r.heap[a]? = some c ∧ c.shard = s ∧
        contains alert c.location = true :=
    exists_entry_iff (Q := fun _ s' l => s' = s ∧ contains alert l = true)
  rw [hshard, hcircle]
  constructor
  · rintro ⟨⟨a, c, hd, hc, hs⟩, hnot⟩
    refine ⟨a, c, hd, hc, hs, ?_⟩
    have hno : contains alert c.location ≠ true := fun hin => hnot ⟨a, c, hd, hc, hs, hin⟩
    simp [outcome, hno]
  · rintro ⟨a, c, hd, hc, hs, ho⟩
    refine ⟨⟨a, c, hd, hc, hs⟩, ?_⟩
    rintro ⟨a', c', hd', hc', -, hin⟩
    obtain rfl : a = a' := Option.some.inj (hd.symm.trans hd')
    obtain rfl : c = c' := Option.some.inj (hc.symm.trans hc')
    unfold outcome at ho
    cases hacc : c.channel.accepts <;> simp_all

/-- A connection gets the payload exactly when it is reached in the flat map. -/
theorem reachedConn_iff {r : ConnectionRegistry D S L P} (h : r.Inv) (contains : A → L → Bool)
    (s : S) (alert : A) {n : Nat} {c : Connection S L P} (hc : r.heap[n]? = some c) :
    r.flatten.ReachedConn contains s alert n ↔
      n ∈ (r.shardEntries s).map Prod.snd ∧ outcome contains alert c = .delivered := by
  simp only [FlatRegistry.ReachedConn, mem_reached_iff h, List.mem_map, Prod.exists,
    exists_eq_right, mem_shardEntries]
  constructor
  · rintro ⟨d, e, he, rfl, a, c', hd, hc', hs, ho⟩
    obtain ⟨-, hd', -⟩ := flatten_entries_eq_some.mp he
    obtain rfl : a = e.conn := Option.some.inj (hd.symm.trans hd')
    obtain rfl : c = c' := Option.some.inj (hc.symm.trans hc')
    exact ⟨⟨d, (h.agree s d _).mpr ⟨hd, shardAt_eq_some.mpr ⟨c, hc, hs⟩⟩⟩, ho⟩
  · rintro ⟨⟨d, hin⟩, ho⟩
    obtain ⟨hd, hsh⟩ := (h.agree s d n).mp hin
    obtain ⟨c', hc', hs⟩ := shardAt_eq_some.mp hsh
    obtain rfl : c = c' := Option.some.inj (hc.symm.trans hc')
    exact ⟨d, ⟨n, c.id, c.shard, c.location⟩,
      flatten_entries_eq_some.mpr ⟨c, hd, hc, rfl, rfl, rfl⟩, rfl, n, c, hd, hc, hs, ho⟩

omit [DecidableEq S] in
theorem deliver_channel (contains : A → L → Bool) (alert : A) (payload : P)
    (c : Connection S L P) :
    (deliver contains alert payload c).channel =
      if outcome contains alert c = .delivered then
        { c.channel with queue := c.channel.queue ++ [.alert payload] }
      else c.channel := by
  unfold deliver outcome
  cases contains alert c.location with
  | false => simp
  | true =>
      rw [Channel.offer_eq]
      cases c.channel.accepts <;> simp

omit [DecidableEq S] in
theorem deliver_frame (contains : A → L → Bool) (alert : A) (payload : P)
    (c : Connection S L P) :
    (deliver contains alert payload c).id = c.id ∧
      (deliver contains alert payload c).shard = c.shard ∧
      (deliver contains alert payload c).location = c.location := by
  unfold deliver
  split <;> exact ⟨rfl, rfl, rfl⟩

theorem broadcastToShard_refines {r : ConnectionRegistry D S L P} (h : r.Inv)
    (contains : A → L → Bool) (s : S) (alert : A) (payload : P) :
    (r.broadcastToShard contains s alert payload).1.flatten =
        (r.flatten.broadcastToShard contains s alert payload).1 ∧
      (r.broadcastToShard contains s alert payload).2 =
        (r.flatten.broadcastToShard contains s alert payload).2 := by
  refine ⟨?_, ?_⟩
  · ext1
    · funext d
      simp only [flatten, FlatRegistry.broadcastToShard, broadcastToShard_byDevice h.toIndexed]
      congr 1
      funext a
      simp only [entryAt, broadcastToShard_heap h.toIndexed]
      cases r.heap[a]? with
      | none => rfl
      | some c =>
          obtain ⟨h1, h2, h3⟩ := deliver_frame contains alert payload c
          by_cases hmem : a ∈ (r.shardEntries s).map Prod.snd
          · simp only [Option.map_some, hmem, if_true, h1, h2, h3]
          · simp only [Option.map_some, hmem, if_false]
    · apply List.ext_getElem?
      intro n
      simp only [FlatRegistry.broadcastToShard, List.getElem?_mapIdx, flatten_queue,
        broadcastToShard_heap h.toIndexed]
      cases hc : r.heap[n]? with
      | none => rfl
      | some c =>
          simp only [Option.map_some, reachedConn_iff h contains s alert hc]
          by_cases hmem : n ∈ (r.shardEntries s).map Prod.snd
          · simp only [hmem, if_true, true_and, deliver_channel]
          · simp only [hmem, if_false, false_and]
    · simp only [FlatRegistry.broadcastToShard]
      rw [broadcastToShard_eq h.toIndexed]
      rfl
  · rw [broadcastToShard_eq h.toIndexed]
    simp only [FlatRegistry.broadcastToShard, ← ncard_countedAs h.toIndexed, inCircle_diff_reached h,
      inShard_diff_inCircle]
    congr 2
    ext d
    exact (mem_reached_iff h contains s alert d).symm

/-- The counts of a broadcast add up to the devices registered in the shard. -/
theorem broadcastToShard_total {r : ConnectionRegistry D S L P} (h : r.Indexed)
    (contains : A → L → Bool) (s : S) (alert : A) (payload : P) :
    (r.broadcastToShard contains s alert payload).2.delivered +
        (r.broadcastToShard contains s alert payload).2.dropped +
        (r.broadcastToShard contains s alert payload).2.filteredOut =
      {d | ∃ a, r.byDevice.get d = some a ∧ r.shardAt a = some s}.ncard := by
  have hall : {d | ∃ a, r.byDevice.get d = some a ∧ r.shardAt a = some s} =
      {d | ∃ a, (d, a) ∈ r.shardEntries s ∧ (fun _ => true) (d, a) = true} := by
    ext d
    simp [mem_shardEntries, h.agree s d]
  rw [hall, ncard_keys_eq_countP (p := fun _ => true) _ (nodup_keys_shardEntries r s),
    broadcastToShard_eq h]
  -- every entry's connection is counted under exactly one outcome
  have hsome : ∀ e ∈ r.shardEntries s, ∃ o, r.outcomeAt contains alert e = some o := by
    intro e he
    obtain ⟨c, hc⟩ := h.getElem?_some (h.shardEntries_byDevice he).1
    exact ⟨outcome contains alert c, by simp [outcomeAt, hc]⟩
  simp only [List.countP_true]
  generalize r.shardEntries s = es at hsome
  induction es with
  | nil => rfl
  | cons e es ih =>
      have ih' := ih fun e' he' => hsome e' (List.mem_cons_of_mem _ he')
      obtain ⟨o, ho⟩ := hsome e (List.mem_cons_self ..)
      simp only [List.countP_cons, ho, List.length_cons]
      cases o <;> simp <;> omega

-- ============================================================================
-- close_all and the receivers
-- ============================================================================

theorem closeAll_heap {r : ConnectionRegistry D S L P} (h : r.Indexed) (n : Nat) :
    r.closeAll.heap[n]? = (r.heap[n]?).map fun c =>
      if n ∈ r.byDevice.iter.map Prod.snd then
        { c with channel := c.channel.offer .close }
      else c := by
  have hfold : ∀ (es : List (D × Nat)) (r : ConnectionRegistry D S L P),
      (es.foldl (fun acc entry => acc.sendClose entry.2) r).heap =
        modifyAll (fun c => { c with channel := c.channel.offer .close }) (es.map Prod.snd)
          r.heap := by
    intro es
    induction es with
    | nil => intro r; rfl
    | cons e es ih => intro r; exact ih _
  have hnd : (r.byDevice.iter.map Prod.snd).Nodup :=
    nodup_conns h.inj (DashMap.nodup_keys_iter r.byDevice)
      fun e he => DashMap.mem_iter.mp he
  rw [show r.closeAll.heap = _ from hfold r.byDevice.iter r]
  exact modifyAll_getElem? _ _ hnd r.heap n

omit [DecidableEq D] [DecidableEq S] in
theorem closeAll_nextId (r : ConnectionRegistry D S L P) : r.closeAll.nextId = r.nextId := by
  have hfold : ∀ (es : List (D × Nat)) (r : ConnectionRegistry D S L P),
      (es.foldl (fun acc entry => acc.sendClose entry.2) r).nextId = r.nextId := by
    intro es
    induction es with
    | nil => intro r; rfl
    | cons e es ih => intro r; exact ih _
  exact hfold r.byDevice.iter r

theorem closeAll_refines {r : ConnectionRegistry D S L P} (h : r.Inv) :
    r.closeAll.flatten = r.flatten.closeAll := by
  ext1
  · funext d
    simp [flatten, closeAll, FlatRegistry.closeAll]
  · apply List.ext_getElem?
    intro n
    simp only [FlatRegistry.closeAll, List.getElem?_mapIdx, flatten_queue, closeAll_heap h.toIndexed]
    cases hc : r.heap[n]? with
    | none => rfl
    | some c =>
        -- the closed connections are the current ones
        have hiff : (∃ d e, r.flatten.entries d = some e ∧ e.conn = n) ↔
            n ∈ r.byDevice.iter.map Prod.snd := by
          simp only [List.mem_map, Prod.exists, exists_eq_right, DashMap.mem_iter]
          constructor
          · rintro ⟨d, e, he, rfl⟩
            obtain ⟨-, hd, -⟩ := flatten_entries_eq_some.mp he
            exact ⟨d, hd⟩
          · rintro ⟨d, hd⟩
            exact ⟨d, ⟨n, c.id, c.shard, c.location⟩,
              flatten_entries_eq_some.mpr ⟨c, hd, hc, rfl, rfl, rfl⟩, rfl⟩
        simp only [Option.map_some, hiff]
        by_cases hmem : n ∈ r.byDevice.iter.map Prod.snd
        · simp only [hmem, if_true]
        · simp only [hmem, if_false]
  · exact closeAll_nextId r

omit [DecidableEq S] in
theorem recv_refines (r : ConnectionRegistry D S L P) (n : Nat) :
    (r.recv n).1.flatten = (r.flatten.recv n).1 ∧ (r.recv n).2 = (r.flatten.recv n).2 := by
  refine ⟨flatten_modifyConn r n fun q => q.recv.2, ?_⟩
  simp only [recv, FlatRegistry.recv, flatten_queue]
  cases r.heap[n]? <;> rfl

omit [DecidableEq S] in
theorem dropReceiver_refines (r : ConnectionRegistry D S L P) (n : Nat) :
    (r.dropReceiver n).flatten = r.flatten.dropReceiver n :=
  flatten_modifyConn r n Channel.dropReceiver

-- ============================================================================
-- The loops keep the invariant
-- ============================================================================

/-- What `deliver` keeps of a connection, a broadcast keeps at every address. -/
theorem broadcastToShard_map {β : Type*} {r : ConnectionRegistry D S L P} (h : r.Indexed)
    (contains : A → L → Bool) (s : S) (alert : A) (payload : P) (g : Connection S L P → β)
    (hg : ∀ c, g (deliver contains alert payload c) = g c) (n : Nat) :
    ((r.broadcastToShard contains s alert payload).1.heap[n]?).map g = (r.heap[n]?).map g := by
  rw [broadcastToShard_heap h]
  cases r.heap[n]? with
  | none => rfl
  | some c =>
      simp only [Option.map_some]
      split
      · rw [hg]
      · rfl

theorem broadcastToShard_heap_length {r : ConnectionRegistry D S L P} (h : r.Indexed)
    (contains : A → L → Bool) (s : S) (alert : A) (payload : P) :
    (r.broadcastToShard contains s alert payload).1.heap.length = r.heap.length := by
  have hlen : ∀ (as : List Nat) (l : List (Connection S L P)),
      (modifyAll (deliver contains alert payload) as l).length = l.length := by
    intro as
    induction as with
    | nil => intro l; rfl
    | cons a as ih => intro l; exact (ih _).trans (by simp)
  rw [broadcastToShard_eq h]
  exact hlen _ _

theorem Indexed.broadcastToShard {r : ConnectionRegistry D S L P} (h : r.Indexed)
    (contains : A → L → Bool) (s : S) (alert : A) (payload : P) :
    (r.broadcastToShard contains s alert payload).1.Indexed := by
  refine h.of_frame ?_ ?_ ?_ ?_ ?_ ?_
  · exact broadcastToShard_byDevice h contains s alert payload
  · rw [broadcastToShard_eq h]
  · rw [broadcastToShard_eq h]
  · exact broadcastToShard_heap_length h contains s alert payload
  · intro a
    exact broadcastToShard_map h contains s alert payload Connection.shard
      (fun c => (deliver_frame contains alert payload c).2.1) a
  · intro a
    exact broadcastToShard_map h contains s alert payload Connection.id
      (fun c => (deliver_frame contains alert payload c).1) a

theorem Inv.broadcastToShard {r : ConnectionRegistry D S L P} (h : r.Inv)
    (contains : A → L → Bool) (s : S) (alert : A) (payload : P) :
    (r.broadcastToShard contains s alert payload).1.Inv where
  toIndexed := h.toIndexed.broadcastToShard contains s alert payload
  channels := by
    intro c hc
    obtain ⟨n, hn⟩ := List.mem_iff_getElem?.mp hc
    rw [broadcastToShard_heap h.toIndexed contains s alert payload n] at hn
    obtain ⟨c₀, hc₀, rfl⟩ := Option.map_eq_some_iff.mp hn
    have hold := h.channels c₀ (List.mem_of_getElem? hc₀)
    split
    · rw [deliver_channel]
      split <;> exact hold
    · exact hold

omit [DecidableEq D] [DecidableEq S] in
theorem closeAll_heap_length (r : ConnectionRegistry D S L P) :
    r.closeAll.heap.length = r.heap.length := by
  have hlen : ∀ (es : List (D × Nat)) (r : ConnectionRegistry D S L P),
      (es.foldl (fun acc entry => acc.sendClose entry.2) r).heap.length = r.heap.length := by
    intro es
    induction es with
    | nil => intro r; rfl
    | cons e es ih => intro r; exact (ih _).trans (by simp [sendClose])
  exact hlen _ r

theorem Indexed.closeAll {r : ConnectionRegistry D S L P} (h : r.Indexed) : r.closeAll.Indexed where
  valid := by simp [ConnectionRegistry.closeAll]
  agree := by simp [ConnectionRegistry.closeAll, Agree]
  inj := by simp [ConnectionRegistry.closeAll]
  ids := by
    intro a i hi
    obtain ⟨c, hc, rfl⟩ := idAt_eq_some.mp hi
    rw [closeAll_heap h] at hc
    obtain ⟨c₀, hc₀, rfl⟩ := Option.map_eq_some_iff.mp hc
    refine h.ids a _ (idAt_eq_some.mpr ⟨c₀, hc₀, ?_⟩)
    split <;> rfl
  next := by rw [closeAll_nextId, closeAll_heap_length, h.next]

theorem Inv.closeAll {r : ConnectionRegistry D S L P} (h : r.Inv) : r.closeAll.Inv where
  toIndexed := h.toIndexed.closeAll
  channels := by
    intro c hc
    obtain ⟨n, hn⟩ := List.mem_iff_getElem?.mp hc
    rw [closeAll_heap h.toIndexed] at hn
    obtain ⟨c₀, hc₀, rfl⟩ := Option.map_eq_some_iff.mp hn
    have hold := h.channels c₀ (List.mem_of_getElem? hc₀)
    split
    · rw [Channel.offer_capacity, Channel.offer_reserved]
      exact hold
    · exact hold

end Loops
end ConnectionRegistry
end PulseGrid.Worker
