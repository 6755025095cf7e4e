/-
  PulseGrid.Worker.FanoutAccounting

  The metrics and reports of a worker's fan-outs against what happened.

  `on_alert` counts a message when it comes in and a fan-out when it is done, and leaves the
  recording to a task of its own.  Over any run, the counters of a shard are the sums over its
  fan-outs (modulo 2 ^ 64), the alerts counted as delivered are those in the queues, and each
  fan-out has one reporting task, which records and publishes it at most once.
-/

import PulseGrid.Worker.WorkerTraffic

namespace PulseGrid.Worker

open ConnectionRegistry (gainedAt)
open Infra (CounterVec)

variable {F A P : Type} [CommRing F] [LinearOrder F]

-- ============================================================================
-- Counting
-- ============================================================================

theorem get_add (counts : CounterVec) (k k' : List Char) (n : UInt64) :
    (counts.add k n).get k' = if k' = k then counts.get k' + n else counts.get k' := by
  unfold CounterVec.add CounterVec.get
  by_cases hk : k' = k
  · subst hk
    cases hget : counts.values.get k' with
    | none => simp
    | some count => simp
  · cases hget : counts.values.get k with
    | none => simp [hk, DashMap.get_put_of_ne]
    | some count => simp [hk, DashMap.get_put_of_ne]

theorem length_flatMap_countP {α β : Type*} (g : α → List β) (p : α → Bool) (l : List α)
    (h : ∀ x ∈ l, (g x).length = if p x then 1 else 0) : (l.flatMap g).length = l.countP p := by
  induction l with
  | nil => rfl
  | cons x l ih =>
      have hrest := ih fun y hy => h y (List.mem_cons_of_mem _ hy)
      rw [List.flatMap_cons, List.length_append, hrest, h x List.mem_cons_self, List.countP_cons]
      omega

/-- Different numbers below a bound are counted by counting all numbers below it. -/
theorem countP_range_mem {xs : List Nat} {N : Nat} (hnodup : xs.Nodup) (hlt : ∀ x ∈ xs, x < N)
    (q : Nat → Bool) : (List.range N).countP (fun n => decide (n ∈ xs) && q n) = xs.countP q := by
  rw [List.countP_eq_length_filter, List.countP_eq_length_filter]
  refine List.Perm.length_eq ?_
  refine (List.perm_ext_iff_of_nodup (List.nodup_range.filter _) (hnodup.filter _)).mpr ?_
  intro n
  simp only [List.mem_filter, List.mem_range, Bool.and_eq_true, decide_eq_true_eq]
  refine ⟨fun h => h.2, ?_⟩
  intro h
  exact ⟨hlt n h.1, h⟩

/-- A message on the subject of a shard. -/
def TaskLabel.isMessageFor (shardPrefix : String) : TaskLabel F A P → Bool
  | .message s _ => s = shardPrefix
  | _ => false

/-- The messages on the shards' subjects. -/
def TaskLabel.message? : TaskLabel F A P → Option (String × P)
  | .message shardPrefix payload => some (shardPrefix, payload)
  | _ => none

namespace WorkerTasks

/-- The fan-outs of one shard. -/
def fanoutsOf (self : WorkerTasks F A P) (shardPrefix : String) : List Fanout :=
  self.fanouts.filter fun f => f.shardPrefix = shardPrefix

/-- What a number of the fan-outs of a shard adds up to. -/
def total (self : WorkerTasks F A P) (shardPrefix : String) (number : BroadcastResult → Nat) :
    Nat :=
  ((self.fanoutsOf shardPrefix).map fun f => number f.result).sum

/-- How many alerts broadcasts to a shard stored in queues. -/
def storedLive (self : WorkerTasks F A P) (shardPrefix : String) : Nat :=
  self.stored.countP fun e => e.storedBy.isMessageFor shardPrefix

/-- The metrics and reports after the steps of `labels`. -/
structure Accounted (reader : AlertReader F A P) (labels : List (TaskLabel F A P))
    (w : WorkerTasks F A P) : Prop where
  received : ∀ s, w.metrics.alertsReceived.get s.toList =
    .ofNat (labels.countP (TaskLabel.isMessageFor s))
  invalid : w.metrics.alertsInvalid = .ofNat
    ((labels.filterMap TaskLabel.message?).countP fun m => (reader.parse m.2).isNone)
  delivered : ∀ s, w.metrics.alertsDelivered.get s.toList =
    .ofNat (w.total s BroadcastResult.delivered)
  dropped : ∀ s, w.metrics.alertsDropped.get s.toList = .ofNat (w.total s BroadcastResult.dropped)
  filteredOut : ∀ s, w.metrics.alertsFilteredOut.get s.toList =
    .ofNat (w.total s BroadcastResult.filteredOut)
  /-- What was counted as delivered is in the queues. -/
  stored : ∀ s, w.storedLive s = w.total s BroadcastResult.delivered
  /-- One fan-out for each valid message. -/
  fanouts : (w.fanouts.map fun f => (f.shardPrefix, f.alertId)) =
    (labels.filterMap TaskLabel.message?).filterMap fun m =>
      (reader.parse m.2).map fun alert => (m.1, reader.id alert)
  /-- Each fan-out has one reporting task. -/
  reports : w.reports.map ReportTask.fanout = w.fanouts
  /-- What was recorded and published are the fan-outs whose tasks got that far without a
      failure, each once. -/
  recorded : w.recorded.Perm ((w.reports.filter ReportTask.recorded).map ReportTask.fanout)
  published : w.published.Perm ((w.reports.filter ReportTask.published).map ReportTask.fanout)

variable {wire : ControlWire F} {reader : AlertReader F A P} {labels : List (TaskLabel F A P)}
  {self self' : WorkerTasks F A P}

/-- A broadcast stores as many alerts as it counts as delivered. -/
theorem Inv.length_gains_broadcast (h : Inv wire reader labels self) (shardPrefix : String)
    (alert : A) (payload : P) (label : TaskLabel F A P) :
    (self.gains (self.registry.broadcastToShard reader.contains shardPrefix alert payload).1
      label).length =
      (self.registry.broadcastToShard reader.contains shardPrefix alert payload).2.delivered := by
  have hindexed := h.registry
  have hnodup : ((self.registry.shardEntries shardPrefix).map Prod.snd).Nodup :=
    ConnectionRegistry.nodup_conns hindexed.inj
      (ConnectionRegistry.nodup_keys_shardEntries self.registry shardPrefix)
      fun e he => (hindexed.shardEntries_byDevice he).1
  have hlt : ∀ x ∈ (self.registry.shardEntries shardPrefix).map Prod.snd,
      x < self.registry.heap.length := by
    intro x hx
    obtain ⟨e, he, rfl⟩ := List.mem_map.mp hx
    exact hindexed.valid e.1 e.2 (hindexed.shardEntries_byDevice he).1
  rw [gains, length_flatMap_countP _ (fun n =>
      decide (n ∈ (self.registry.shardEntries shardPrefix).map Prod.snd) &&
        ((self.registry.heap[n]?).map (ConnectionRegistry.outcome reader.contains alert) ==
          some .delivered)) _ ?each,
    countP_range_mem hnodup hlt, List.countP_map, ConnectionRegistry.broadcastToShard_eq hindexed]
  · rfl
  case each =>
    intro n hn
    have hheap : n < self.registry.heap.length := List.mem_range.mp hn
    rw [ConnectionRegistry.gainedAt_broadcastToShard hindexed, List.getElem?_eq_getElem hheap,
      List.getElem?_eq_getElem (h.owners_length ▸ hheap)]
    dsimp only
    rw [List.length_map]
    simp only [Bool.and_eq_true, decide_eq_true_eq, beq_iff_eq]
    split <;> rfl

-- ============================================================================
-- One step
-- ============================================================================

theorem Accounted.initial : Accounted reader [] ({} : WorkerTasks F A P) where
  received := fun _ => rfl
  invalid := rfl
  delivered := fun _ => rfl
  dropped := fun _ => rfl
  filteredOut := fun _ => rfl
  stored := fun _ => rfl
  fanouts := rfl
  reports := rfl
  recorded := .refl _
  published := .refl _

theorem storedLive_withRegistry (self : WorkerTasks F A P) (registry : WorkerRegistry F P)
    (label : TaskLabel F A P) (s : String) :
    (self.withRegistry registry label).storedLive s =
      self.storedLive s +
        if label.isMessageFor s then (self.gains registry label).length else 0 := by
  unfold storedLive withRegistry
  rw [List.countP_append]
  congr 1
  cases hl : label.isMessageFor s with
  | true =>
      rw [if_pos rfl]
      refine List.countP_eq_length.mpr ?_
      intro e he
      obtain ⟨-, -, -, -, -, -, hlabel⟩ := mem_gains.mp he
      rw [← hlabel, hl]
  | false =>
      rw [if_neg Bool.false_ne_true]
      refine List.countP_eq_zero.mpr ?_
      intro e he
      obtain ⟨-, -, -, -, -, -, hlabel⟩ := mem_gains.mp he
      rw [← hlabel, hl]
      exact Bool.false_ne_true

/-- A step that is not about an alert. -/
theorem Accounted.other (h : Accounted reader labels self) {label : TaskLabel F A P}
    (hlabel : label.message? = none) (hreceived : self'.metrics.alertsReceived =
      self.metrics.alertsReceived) (hinvalid : self'.metrics.alertsInvalid =
      self.metrics.alertsInvalid) (hdelivered : self'.metrics.alertsDelivered =
      self.metrics.alertsDelivered) (hdropped : self'.metrics.alertsDropped =
      self.metrics.alertsDropped) (hfiltered : self'.metrics.alertsFilteredOut =
      self.metrics.alertsFilteredOut) (hfanouts : self'.fanouts = self.fanouts)
    (hstored : ∀ s, self'.storedLive s = self.storedLive s)
    (hreports : self'.reports.map ReportTask.fanout = self.reports.map ReportTask.fanout)
    (hrecorded : self'.recorded.Perm
      ((self'.reports.filter ReportTask.recorded).map ReportTask.fanout))
    (hpublished : self'.published.Perm
      ((self'.reports.filter ReportTask.published).map ReportTask.fanout)) :
    Accounted reader (labels ++ [label]) self' := by
  have hmessages : (labels ++ [label]).filterMap TaskLabel.message? =
      labels.filterMap TaskLabel.message? := by
    rw [List.filterMap_append, List.filterMap_cons_none hlabel, List.filterMap_nil, List.append_nil]
  have hfor (s : String) : label.isMessageFor s = false := by
    cases label with
    | message s' payload => cases hlabel
    | _ => rfl
  have htotal (s : String) (number : BroadcastResult → Nat) :
      self'.total s number = self.total s number := by
    rw [total, total, fanoutsOf, fanoutsOf, hfanouts]
  refine ⟨?_, ?_, ?_, ?_, ?_, ?_, ?_, ?_, hrecorded, hpublished⟩
  · intro s
    rw [hreceived, h.received, List.countP_append, List.countP_singleton, hfor]
    rfl
  · rw [hinvalid, h.invalid, hmessages]
  · intro s
    rw [hdelivered, h.delivered, htotal]
  · intro s
    rw [hdropped, h.dropped, htotal]
  · intro s
    rw [hfiltered, h.filteredOut, htotal]
  · intro s
    rw [hstored, h.stored, htotal]
  · rw [hfanouts, h.fanouts, hmessages]
  · rw [hfanouts, hreports, h.reports]

theorem total_append {f : Fanout} (hfanouts : self'.fanouts = self.fanouts ++ [f]) (s : String)
    (number : BroadcastResult → Nat) :
    self'.total s number =
      self.total s number + if f.shardPrefix = s then number f.result else 0 := by
  unfold total fanoutsOf
  rw [hfanouts, List.filter_append, List.map_append, List.sum_append]
  congr 1
  by_cases hs : f.shardPrefix = s
  · simp [hs]
  · simp [hs]

/-- A counter that is added to for one shard. -/
theorem get_add_total {counts : CounterVec} (number : BroadcastResult → Nat) {f : Fanout}
    (hcounts : ∀ s : String, counts.get s.toList = .ofNat (self.total s number))
    (hfanouts : self'.fanouts = self.fanouts ++ [f]) (s : String) :
    (counts.add f.shardPrefix.toList (.ofNat (number f.result))).get s.toList =
      .ofNat (self'.total s number) := by
  rw [get_add, total_append hfanouts, hcounts]
  by_cases hs : f.shardPrefix = s
  · rw [if_pos (by rw [hs]), if_pos hs, UInt64.ofNat_add]
  · have hne : s.toList ≠ f.shardPrefix.toList := fun heq => hs (String.toList_injective heq).symm
    rw [if_neg hne, if_neg hs, Nat.add_zero]

theorem Accounted.onAlert (h : Accounted reader labels self) (hinv : Inv wire reader labels self)
    (shardPrefix : String) (payload : P) :
    Accounted reader (labels ++ [.message shardPrefix payload])
      (self.onAlert reader shardPrefix payload) := by
  have hmessages :
      (labels ++ [TaskLabel.message shardPrefix payload]).filterMap TaskLabel.message? =
        labels.filterMap TaskLabel.message? ++ [(shardPrefix, payload)] := by
    rw [List.filterMap_append]
    rfl
  have hreceived (s : String) :
      (self.metrics.alertsReceived.inc shardPrefix.toList).get s.toList =
        .ofNat ((labels ++ [TaskLabel.message shardPrefix payload]).countP
          (TaskLabel.isMessageFor s)) := by
    rw [CounterVec.inc, get_add, h.received, List.countP_append, List.countP_singleton]
    show _ = UInt64.ofNat (_ + if decide (shardPrefix = s) = true then 1 else 0)
    by_cases hs : shardPrefix = s
    · rw [if_pos (by rw [hs]), if_pos (decide_eq_true hs), UInt64.ofNat_add]
      rfl
    · have hne : s.toList ≠ shardPrefix.toList := fun heq => hs (String.toList_injective heq).symm
      rw [if_neg hne, if_neg (by simpa using hs), Nat.add_zero]
  unfold WorkerTasks.onAlert
  cases hf : fanout reader self.registry shardPrefix payload with
  | none =>
      have hparse : reader.parse payload = none := Option.map_eq_none_iff.mp hf
      refine ⟨hreceived, ?_, h.delivered, h.dropped, h.filteredOut, h.stored, ?_, h.reports,
        h.recorded, h.published⟩
      · show self.metrics.alertsInvalid + 1 = _
        rw [h.invalid, hmessages, List.countP_append, List.countP_singleton, hparse,
          UInt64.ofNat_add]
        rfl
      · rw [hmessages, List.filterMap_append, List.filterMap_cons_none (by rw [hparse]; rfl),
          List.filterMap_nil, List.append_nil]
        exact h.fanouts
  | some out =>
      obtain ⟨alert, hparse, hregistry, hout⟩ := fanout_eq_some hf
      have hshard : out.2.shardPrefix = shardPrefix := by rw [hout]
      have hid : out.2.alertId = reader.id alert := by rw [hout]
      dsimp only
      refine ⟨hreceived, ?_, ?_, ?_, ?_, ?_, ?_, ?_, ?_, ?_⟩
      · show self.metrics.alertsInvalid = _
        rw [h.invalid, hmessages, List.countP_append, List.countP_singleton, hparse]
        rfl
      · rw [← hshard]
        exact get_add_total BroadcastResult.delivered h.delivered rfl
      · rw [← hshard]
        exact get_add_total BroadcastResult.dropped h.dropped rfl
      · rw [← hshard]
        exact get_add_total BroadcastResult.filteredOut h.filteredOut rfl
      · intro s
        refine (storedLive_withRegistry self out.1 (.message shardPrefix payload) s).trans ?_
        refine Eq.trans ?_ (total_append (f := out.2) rfl s BroadcastResult.delivered).symm
        rw [h.stored, hregistry, hinv.length_gains_broadcast, hout]
        congr 1
        simp only [TaskLabel.isMessageFor, decide_eq_true_eq]
      · rw [hmessages, List.filterMap_append, ← h.fanouts, List.filterMap_cons_some (by
          rw [hparse]; rfl), List.filterMap_nil]
        show (self.fanouts ++ [out.2]).map _ = _ ++ [(shardPrefix, reader.id alert)]
        rw [List.map_append, List.map_singleton, hshard, hid]
      · show (self.reports ++ [ReportTask.mk out.2 .record]).map ReportTask.fanout =
          self.fanouts ++ [out.2]
        rw [List.map_append, h.reports]
        rfl
      · rw [List.filter_append]
        exact h.recorded.trans (.of_eq (congrArg _ (List.append_nil _).symm))
      · rw [List.filter_append]
        exact h.published.trans (.of_eq (congrArg _ (List.append_nil _).symm))

-- ============================================================================
-- The reporting tasks
-- ============================================================================

/-- A task that goes on keeps its fan-out. -/
theorem map_fanout_set {tasks : List ReportTask} {k : Nat} {f : Fanout} {pc : ReportPc}
    (hk : tasks[k]? = some ⟨f, pc⟩) (pc' : ReportPc) :
    (tasks.set k ⟨f, pc'⟩).map ReportTask.fanout = tasks.map ReportTask.fanout := by
  obtain ⟨hlt, hget⟩ := List.getElem?_eq_some_iff.mp hk
  refine List.ext_getElem? fun i => ?_
  rw [List.getElem?_map, List.getElem?_map, List.getElem?_set]
  by_cases hi : k = i
  · rw [if_pos hi, if_pos hlt, ← hi, hk]
    rfl
  · rw [if_neg hi]

/-- A task that goes on is counted as `p` says of what it was and is. -/
theorem filter_set_perm {tasks : List ReportTask} {k : Nat} {f : Fanout} {pc : ReportPc}
    (hk : tasks[k]? = some ⟨f, pc⟩) (pc' : ReportPc) (p : ReportTask → Bool) :
    (((tasks.set k ⟨f, pc'⟩).filter p).map ReportTask.fanout ++
        if p ⟨f, pc⟩ then [f] else []).Perm
      ((tasks.filter p).map ReportTask.fanout ++ if p ⟨f, pc'⟩ then [f] else []) := by
  obtain ⟨hlt, hget⟩ := List.getElem?_eq_some_iff.mp hk
  have hbefore : tasks.Perm (⟨f, pc⟩ :: tasks.eraseIdx k) := by
    rw [← hget]
    exact (List.getElem_cons_eraseIdx_perm hlt).symm
  have hafter : (tasks.set k ⟨f, pc'⟩).Perm (⟨f, pc'⟩ :: tasks.eraseIdx k) :=
    List.set_perm_cons_eraseIdx hlt _
  have hcons (pc : ReportPc) :
      ((ReportTask.mk f pc :: tasks.eraseIdx k).filter p).map ReportTask.fanout =
        (if p ⟨f, pc⟩ then [f] else []) ++ ((tasks.eraseIdx k).filter p).map ReportTask.fanout := by
    rw [List.filter_cons]
    split <;> rfl
  have hb := (hbefore.filter p).map ReportTask.fanout
  have ha := (hafter.filter p).map ReportTask.fanout
  rw [hcons] at hb ha
  refine (ha.append_right _).trans (.trans ?_ (hb.append_right _).symm)
  rw [List.append_assoc]
  exact List.perm_append_comm.trans (List.perm_append_comm.append_right _)

theorem Accounted.record (h : Accounted reader labels self) {k : Nat} {f : Fanout}
    (hk : self.reports[k]? = some ⟨f, .record⟩) (ok : Bool) :
    Accounted reader (labels ++ [.record k ok])
      { self with
        reports := self.reports.set k ⟨f, .publish ok⟩
        recorded := self.recorded ++ if ok then [f] else [] } := by
  refine h.other rfl rfl rfl rfl rfl rfl rfl (fun _ => rfl) (map_fanout_set hk _) ?_ ?_
  · have hmoved := filter_set_perm hk (.publish ok) ReportTask.recorded
    exact (h.recorded.append_right _).trans (hmoved.symm.trans (.of_eq (List.append_nil _)))
  · have hsame := filter_set_perm hk (.publish ok) ReportTask.published
    exact h.published.trans ((List.perm_append_right_iff []).mp hsame.symm)

theorem Accounted.publish (h : Accounted reader labels self) {k : Nat} {f : Fanout}
    {recorded : Bool} (hk : self.reports[k]? = some ⟨f, .publish recorded⟩) (ok : Bool) :
    Accounted reader (labels ++ [.publish k ok])
      { self with
        reports := self.reports.set k ⟨f, .ended recorded ok⟩
        published := self.published ++ if ok then [f] else [] } := by
  refine h.other rfl rfl rfl rfl rfl rfl rfl (fun _ => rfl) (map_fanout_set hk _) ?_ ?_
  · have hsame := filter_set_perm hk (.ended recorded ok) ReportTask.recorded
    exact h.recorded.trans ((List.perm_append_right_iff _).mp hsame.symm)
  · have hmoved := filter_set_perm hk (.ended recorded ok) ReportTask.published
    exact (h.published.append_right _).trans (hmoved.symm.trans (.of_eq (List.append_nil _)))

theorem Accounted.step (h : Accounted reader labels self) (hinv : Inv wire reader labels self)
    {label : TaskLabel F A P} (hstep : step wire reader self label = some self') :
    Accounted reader (labels ++ [label]) self' := by
  have hlive (registry : WorkerRegistry F P) (label : TaskLabel F A P)
      (hl : ∀ s, label.isMessageFor s = false) (s : String) :
      (self.withRegistry registry label).storedLive s = self.storedLive s := by
    rw [storedLive_withRegistry, hl]
    exact Nat.add_zero _
  cases label with
  | socket call =>
      dsimp only [WorkerTasks.step] at hstep
      split at hstep
      · cases hstep
        exact h.other rfl rfl rfl rfl rfl rfl rfl (hlive _ _ fun _ => rfl) rfl h.recorded h.published
      · cases hstep
  | message shardPrefix payload =>
      cases hstep
      exact h.onAlert hinv shardPrefix payload
  | control subject payload =>
      cases hstep
      exact h.other rfl rfl rfl rfl rfl rfl rfl (hlive _ _ fun _ => rfl) rfl h.recorded h.published
  | replaySend conn payload granted =>
      obtain ⟨registry, -, rfl⟩ := Option.map_eq_some_iff.mp hstep
      exact h.other rfl rfl rfl rfl rfl rfl rfl (hlive _ _ fun _ => rfl) rfl h.recorded h.published
  | replayDone conn replayed granted =>
      obtain ⟨registry, -, rfl⟩ := Option.map_eq_some_iff.mp hstep
      exact h.other rfl rfl rfl rfl rfl rfl rfl (hlive _ _ fun _ => rfl) rfl h.recorded h.published
  | record k ok =>
      dsimp only [WorkerTasks.step] at hstep
      split at hstep
      · next f hk =>
          cases hstep
          exact h.record hk ok
      · cases hstep
  | publish k ok =>
      dsimp only [WorkerTasks.step] at hstep
      split at hstep
      · next f recorded hk =>
          cases hstep
          exact h.publish hk ok
      · cases hstep
  | _ =>
      dsimp only [WorkerTasks.step] at hstep
      split at hstep
      · cases hstep
        exact h.other rfl rfl rfl rfl rfl rfl rfl (hlive _ _ fun _ => rfl) rfl h.recorded h.published
      · cases hstep

/-- **The counters are the fan-outs.**  Over any run, the counters of a shard are what came in
    and the sums over its fan-outs, the alerts counted as delivered are those that broadcasts
    stored, each valid message has one fan-out, each fan-out has one reporting task, and what was
    recorded and published are the fan-outs whose tasks succeeded in that. -/
theorem run_accounted (wire : ControlWire F) (reader : AlertReader F A P)
    (labels : List (TaskLabel F A P)) (worker : WorkerTasks F A P)
    (h : run wire reader labels = some worker) : Accounted reader labels worker := by
  refine (Transition.run_history_all
    (fun labels w => Inv wire reader labels w ∧ Accounted reader labels w) ?_
    ⟨.initial, .initial⟩ h).2
  intro bs w label w' hinv hstep
  exact ⟨hinv.1.step hstep, hinv.2.step hinv.1 hstep⟩

theorem run_accounted_oneAlert : Accounted upToLatitude oneAlert afterOneAlert :=
  run_accounted .wholeNumbers upToLatitude oneAlert afterOneAlert (Option.some_get _).symm

end WorkerTasks
end PulseGrid.Worker
