/-
  PulseGrid.Worker.AlertStats

  Live delivery statistics of an alert: `AlertStatsStore::record` and `get`
  (crates/infra/src/redis.rs).  Workers add to one Redis hash per alert, whose fields
  are three totals and three counters for each shard prefix, named `kind:prefix`; the
  coordinator takes the names apart at the first colon.

  A pipeline is atomic, so calls that overlap still take effect one after the other
  and an execution is a list of calls in the order Redis ran them.  What a field holds
  is the sum of its increments (`CounterMap.get_incrAll`), what the decoding loop makes
  of the fields does not depend on the order it meets them (`get_decodeFields`), and
  together they give the statistics back exactly (`get_recordAll`).
-/

import PulseGrid.Lib.CounterMap
import PulseGrid.Lib.RustStr

namespace PulseGrid.Worker

open CounterMap RustStr

-- ============================================================================
-- The store
-- ============================================================================

structure ShardStats where
  delivered : Int := 0
  dropped : Int := 0
  filteredOut : Int := 0
deriving DecidableEq, Repr

structure AlertStats where
  delivered : Int
  dropped : Int
  filteredOut : Int
  perShard : DashMap (List Char) ShardStats

/-- The arguments of one `AlertStatsStore::record` call and the time, in milliseconds, at
    which Redis runs it. -/
structure StatsReport (A : Type) where
  alertId : A
  shardPrefix : List Char
  delivered : Nat
  dropped : Nat
  filteredOut : Nat
  ttlSecs : Nat
  now : Nat
deriving DecidableEq, Repr

/-- A hash in Redis, with the time its key expires. -/
structure StatsHash where
  fields : DashMap (List Char) Int
  expiresAt : Option Nat

/-- The iteration order of a `HashMap`: any order of its entries. -/
structure IterationOrder where
  order : DashMap (List Char) Int → List (List Char × Int)
  perm : ∀ m, (order m).Perm m.iter

/-- Integers in Redis are signed 64-bit. -/
def i64Max : Nat := 2 ^ 63 - 1

/-- The increments of one pipeline. -/
def statFields {A : Type} (r : StatsReport A) : List (List Char × Nat) :=
  [("delivered".toList, r.delivered),
   ("dropped".toList, r.dropped),
   ("filtered_out".toList, r.filteredOut),
   ("delivered:".toList ++ r.shardPrefix, r.delivered),
   ("dropped:".toList ++ r.shardPrefix, r.dropped),
   ("filtered_out:".toList ++ r.shardPrefix, r.filteredOut)]

namespace AlertStatsStore

variable {A : Type} [DecidableEq A]

/-- The hash under the alert's key, unless it has expired. -/
def liveHash (s : DashMap A StatsHash) (now : Nat) (alertId : A) : Option StatsHash :=
  (s.get alertId).filter fun h => h.expiresAt.all fun t => now ≤ t

/-- `EXPIRE`: a time to live out of range is refused, and one of zero deletes the key. -/
def expire (s : DashMap A StatsHash) (alertId : A) (h : StatsHash) (ttlSecs now : Nat) :
    DashMap A StatsHash × Bool :=
  if i64Max < now + ttlSecs * 1000 then (s.put alertId h, false)
  else if ttlSecs = 0 then (s.removeIf alertId fun _ => true, true)
  else (s.put alertId { h with expiresAt := some (now + ttlSecs * 1000) }, true)

/-- `AlertStatsStore::record`; the flag is false when a command of the pipeline failed. -/
def record (s : DashMap A StatsHash) (r : StatsReport A) : DashMap A StatsHash × Bool :=
  let h := (liveHash s r.now r.alertId).getD ⟨∅, none⟩
  let (fields, counted) := incrAll i64Max h.fields (statFields r)
  let (s', expires) := expire s r.alertId { h with fields } r.ttlSecs r.now
  (s', counted && expires)

/-- The entry of a shard after the field `kind:shard` was read. -/
def setKind (entry : ShardStats) (kind : List Char) (value : Int) : ShardStats :=
  if kind = "delivered".toList then { entry with delivered := value }
  else if kind = "dropped".toList then { entry with dropped := value }
  else if kind = "filtered_out".toList then { entry with filteredOut := value }
  else entry

/-- One turn of the loop over the fields. -/
def decodeField (perShard : DashMap (List Char) ShardStats) (field : List Char × Int) :
    DashMap (List Char) ShardStats :=
  match splitOnce ':' field.1 with
  | some (kind, shard) =>
      perShard.put shard (setKind ((perShard.get shard).getD {}) kind field.2)
  | none => perShard

/-- `AlertStatsStore::get`. -/
def get (iteration : IterationOrder) (s : DashMap A StatsHash) (now : Nat) (alertId : A) :
    Option AlertStats :=
  let fields := ((liveHash s now alertId).map StatsHash.fields).getD ∅
  if fields.len = 0 then none
  else some {
    delivered := (fields.get "delivered".toList).getD 0
    dropped := (fields.get "dropped".toList).getD 0
    filteredOut := (fields.get "filtered_out".toList).getD 0
    perShard := (iteration.order fields).foldl decodeField ∅ }

/-- The calls in the order Redis runs them, with what each returned. -/
def recordAll (s : DashMap A StatsHash) : List (StatsReport A) → DashMap A StatsHash × List Bool
  | [] => (s, [])
  | r :: reports =>
      let (s', ok) := record s r
      let (last, rest) := recordAll s' reports
      (last, ok :: rest)

end AlertStatsStore

-- ============================================================================
-- Field names
-- ============================================================================

inductive StatKind where
  | delivered
  | dropped
  | filteredOut
deriving DecidableEq, Repr

def StatKind.name : StatKind → List Char
  | .delivered => "delivered".toList
  | .dropped => "dropped".toList
  | .filteredOut => "filtered_out".toList

/-- The field of one kind and one shard. -/
def shardField (k : StatKind) (shard : List Char) : List Char := k.name ++ ':' :: shard

def StatsReport.count {A : Type} (r : StatsReport A) : StatKind → Nat
  | .delivered => r.delivered
  | .dropped => r.dropped
  | .filteredOut => r.filteredOut

def ShardStats.count (s : ShardStats) : StatKind → Int
  | .delivered => s.delivered
  | .dropped => s.dropped
  | .filteredOut => s.filteredOut

theorem ShardStats.ext_count {s t : ShardStats} (h : ∀ k, s.count k = t.count k) : s = t := by
  cases s
  cases t
  rw [ShardStats.mk.injEq]
  exact ⟨h .delivered, h .dropped, h .filteredOut⟩

theorem StatKind.name_inj {k k' : StatKind} : k.name = k'.name ↔ k = k' := by
  cases k <;> cases k' <;> decide

theorem splitOnce_name (k : StatKind) : splitOnce ':' k.name = none := by
  apply splitOnce_eq_none
  cases k <;> decide

/-- A prefix may hold colons of its own: the kind has none, so the first one separates. -/
theorem splitOnce_shardField (k : StatKind) (shard : List Char) :
    splitOnce ':' (shardField k shard) = some (k.name, shard) := by
  apply splitOnce_append
  cases k <;> decide

theorem shardField_ne_name (k k' : StatKind) (shard : List Char) : shardField k shard ≠ k'.name := by
  intro h
  have := congrArg (splitOnce ':') h
  rw [splitOnce_shardField, splitOnce_name] at this
  exact absurd this (by simp)

theorem shardField_inj {k k' : StatKind} {shard shard' : List Char} :
    shardField k shard = shardField k' shard' ↔ k = k' ∧ shard = shard' := by
  constructor
  · intro h
    have := congrArg (splitOnce ':') h
    rw [splitOnce_shardField, splitOnce_shardField, Option.some.injEq, Prod.mk.injEq,
      StatKind.name_inj] at this
    exact this
  · rintro ⟨rfl, rfl⟩
    rfl

section Fields

variable {A : Type}

/-- When Redis drops the hash, unless another report comes first. -/
def StatsReport.expiresAt (r : StatsReport A) : Nat := r.now + r.ttlSecs * 1000

theorem statFields_eq (r : StatsReport A) :
    statFields r =
      [.delivered, .dropped, .filteredOut].map (fun k => (StatKind.name k, r.count k)) ++
      [.delivered, .dropped, .filteredOut].map (fun k => (shardField k r.shardPrefix, r.count k)) :=
  rfl

theorem mem_statFields {r : StatsReport A} {f : List Char} :
    f ∈ (statFields r).map Prod.fst ↔ ∃ k, f = StatKind.name k ∨ f = shardField k r.shardPrefix := by
  rw [statFields_eq]
  simp only [List.map_cons, List.map_nil, List.cons_append, List.nil_append, List.mem_cons,
    List.not_mem_nil, or_false]
  constructor
  · rintro (h | h | h | h | h | h)
    · exact ⟨.delivered, .inl h⟩
    · exact ⟨.dropped, .inl h⟩
    · exact ⟨.filteredOut, .inl h⟩
    · exact ⟨.delivered, .inr h⟩
    · exact ⟨.dropped, .inr h⟩
    · exact ⟨.filteredOut, .inr h⟩
  · rintro ⟨k, h | h⟩ <;> cases k <;> simp [h]

theorem added_name (r : StatsReport A) (k : StatKind) :
    added (statFields r) k.name = r.count k := by
  rw [statFields_eq]
  cases k <;> simp [added_cons, StatKind.name_inj, shardField_ne_name]

theorem added_shardField (r : StatsReport A) (k : StatKind) (shard : List Char) :
    added (statFields r) (shardField k shard) = if r.shardPrefix = shard then r.count k else 0 := by
  rw [statFields_eq]
  cases k <;> simp [added_cons, shardField_inj, (shardField_ne_name _ _ _).symm]

/-- What the reports add to a total is their sum. -/
theorem added_reports_name (reports : List (StatsReport A)) (k : StatKind) :
    added (reports.flatMap statFields) k.name = (reports.map fun r => r.count k).sum := by
  induction reports with
  | nil => rfl
  | cons r reports ih =>
      rw [List.flatMap_cons, added_append, added_name, ih, List.map_cons, List.sum_cons]

/-- What they add to a shard's counter is the sum over the reports of the shard. -/
theorem added_reports_shardField (reports : List (StatsReport A)) (k : StatKind)
    (shard : List Char) :
    added (reports.flatMap statFields) (shardField k shard) =
      ((reports.filter fun r => r.shardPrefix = shard).map fun r => r.count k).sum := by
  induction reports with
  | nil => rfl
  | cons r reports ih =>
      rw [List.flatMap_cons, added_append, added_shardField, ih]
      by_cases h : r.shardPrefix = shard <;> simp [h]

end Fields

-- ============================================================================
-- Decoding
-- ============================================================================

namespace AlertStatsStore

theorem count_setKind (entry : ShardStats) (kind : List Char) (value : Int) (k : StatKind) :
    (setKind entry kind value).count k = if kind = k.name then value else entry.count k := by
  by_cases hkind : ∃ k', kind = StatKind.name k'
  · obtain ⟨k', rfl⟩ := hkind
    rw [if_congr StatKind.name_inj rfl rfl]
    cases k' <;> cases k <;> rfl
  · have hne (k' : StatKind) : kind ≠ k'.name := fun h => hkind ⟨k', h⟩
    have h1 : kind ≠ "delivered".toList := hne .delivered
    have h2 : kind ≠ "dropped".toList := hne .dropped
    have h3 : kind ≠ "filtered_out".toList := hne .filteredOut
    rw [if_neg (hne k), setKind, if_neg h1, if_neg h2, if_neg h3]

/-- What the loop has collected after some fields: an entry for every shard named by one of
    them, which holds the values of its fields, in whatever order they came. -/
theorem get_decodeFields (value : List Char → Int) {fields : List (List Char × Int)}
    (hval : ∀ e ∈ fields, e.2 = value e.1) (shard : List Char) :
    (((fields.foldl decodeField ∅).get shard).isSome ↔
      ∃ e ∈ fields, ∃ kind, splitOnce ':' e.1 = some (kind, shard)) ∧
    ∀ k, (((fields.foldl decodeField ∅).get shard).getD {}).count k =
      if shardField k shard ∈ fields.map Prod.fst then value (shardField k shard) else 0 := by
  induction fields using List.reverseRecOn with
  | nil =>
      refine ⟨by simp, fun k => ?_⟩
      cases k <;> rfl
  | append_singleton fields e ih =>
      obtain ⟨hsome, hcount⟩ := ih fun e' he' => hval e' (List.mem_append_left _ he')
      have hfield : e.2 = value e.1 := hval e (by simp)
      rw [List.foldl_append, List.foldl_cons, List.foldl_nil]
      generalize fields.foldl decodeField ∅ = acc at hsome hcount ⊢
      have hmem (k : StatKind) : shardField k shard ∈ (fields ++ [e]).map Prod.fst ↔
          shardField k shard ∈ fields.map Prod.fst ∨ shardField k shard = e.1 := by
        simp
      have hexists : (∃ e' ∈ fields ++ [e], ∃ kind, splitOnce ':' e'.1 = some (kind, shard)) ↔
          (∃ e' ∈ fields, ∃ kind, splitOnce ':' e'.1 = some (kind, shard)) ∨
            ∃ kind, splitOnce ':' e.1 = some (kind, shard) := by
        simp [or_and_right, exists_or]
      rw [hexists, ← hsome]
      simp only [hmem]
      by_cases hshard : ∃ kind, splitOnce ':' e.1 = some (kind, shard)
      · obtain ⟨kind, hsplit⟩ := hshard
        have hname : e.1 = kind ++ ':' :: shard := eq_of_splitOnce_eq_some hsplit
        have hget : (decodeField acc e).get shard =
            some (setKind ((acc.get shard).getD {}) kind e.2) := by
          simp only [decodeField, hsplit]
          exact DashMap.get_put_self _ _ _
        rw [hget]
        refine ⟨by simp [hsplit], fun k => ?_⟩
        rw [Option.getD_some, count_setKind, hcount k]
        have hiff : shardField k shard = e.1 ↔ kind = k.name := by
          rw [hname, shardField, List.append_cancel_right_eq]
          exact eq_comm
        by_cases hk : kind = k.name
        · rw [if_pos hk, if_pos (.inr (hiff.mpr hk)), hfield, hiff.mpr hk]
        · have hneg : ¬ shardField k shard = e.1 := fun h => hk (hiff.mp h)
          rw [if_neg hk]
          simp only [hneg, or_false]
      · -- the field is a total, or of another shard
        have hget : (decodeField acc e).get shard = acc.get shard := by
          rw [decodeField]
          cases hsplit : splitOnce ':' e.1 with
          | none => rfl
          | some pair =>
              apply DashMap.get_put_of_ne
              rintro rfl
              exact hshard ⟨pair.1, hsplit⟩
        have hneg (k : StatKind) : ¬ shardField k shard = e.1 := by
          intro h
          exact hshard ⟨k.name, by rw [← h, splitOnce_shardField]⟩
        rw [hget]
        refine ⟨by simp only [hshard, or_false], fun k => ?_⟩
        simp only [hneg, or_false]
        exact hcount k

-- ============================================================================
-- Recording
-- ============================================================================

variable {A : Type} [DecidableEq A]

/-- The fields hold what the reports added, each its own sum. -/
def Encodes (fields : DashMap (List Char) Int) (reports : List (StatsReport A)) : Prop :=
  ∀ f, fields.get f = if f ∈ (reports.flatMap statFields).map Prod.fst then
    some (added (reports.flatMap statFields) f : Int) else none

/-- The hash of an alert after its reports so far. -/
def Holds (s : DashMap A StatsHash) (alertId : A) (reports : List (StatsReport A)) : Prop :=
  match reports.getLast? with
  | none => s.get alertId = none
  | some last => ∃ fields, s.get alertId = some ⟨fields, some last.expiresAt⟩ ∧
      Encodes fields reports

omit [DecidableEq A] in
theorem Encodes.getD {fields : DashMap (List Char) Int} {reports : List (StatsReport A)}
    (h : Encodes fields reports) (f : List Char) :
    (fields.get f).getD 0 = added (reports.flatMap statFields) f := by
  rw [h f]
  split
  · rfl
  · next hf => rw [added_eq_zero hf]; rfl

omit [DecidableEq A] in
/-- One pipeline on the fields. -/
theorem Encodes.incrAll {fields : DashMap (List Char) Int} {reports : List (StatsReport A)}
    (h : Encodes fields reports) {r : StatsReport A}
    (hfit : ∀ f, added ((reports ++ [r]).flatMap statFields) f ≤ i64Max) :
    (incrAll i64Max fields (statFields r)).2 = true ∧
      Encodes (incrAll i64Max fields (statFields r)).1 (reports ++ [r]) := by
  have happend (f : List Char) : added ((reports ++ [r]).flatMap statFields) f =
      added (reports.flatMap statFields) f + added (statFields r) f := by
    rw [List.flatMap_append, added_append, List.flatMap_singleton]
  obtain ⟨hok, hget⟩ := get_incrAll i64Max fields (statFields r)
    (fun f => by
      rw [h.getD]
      omega)
    (fun f _ => by
      have := hfit f
      rw [happend] at this
      rw [h.getD]
      omega)
  refine ⟨hok, fun f => ?_⟩
  rw [hget f, h.getD, happend, h f]
  simp only [List.flatMap_append, List.flatMap_singleton, List.map_append, List.mem_append]
  by_cases hnew : f ∈ (statFields r).map Prod.fst
  · simp only [hnew, or_true, if_true]
    push_cast
    rfl
  · simp only [hnew, or_false, if_false, added_eq_zero hnew, Nat.add_zero]

theorem record_other {s : DashMap A StatsHash} {r : StatsReport A} {alertId : A}
    (h : r.alertId ≠ alertId) : (record s r).1.get alertId = s.get alertId := by
  simp only [record, expire]
  split
  · exact DashMap.get_put_of_ne _ _ h.symm
  · split
    · exact DashMap.get_removeIf_of_ne _ _ h.symm
    · exact DashMap.get_put_of_ne _ _ h.symm

/-- A report within the lifetime of the hash adds to it and renews the lifetime. -/
theorem Holds.record {s : DashMap A StatsHash} {reports : List (StatsReport A)}
    {r : StatsReport A} (h : Holds s r.alertId reports)
    (hlive : ∀ last ∈ reports.getLast?, r.now ≤ last.expiresAt)
    (httl : 0 < r.ttlSecs ∧ r.expiresAt ≤ i64Max)
    (hfit : ∀ f, added ((reports ++ [r]).flatMap statFields) f ≤ i64Max) :
    Holds (record s r).1 r.alertId (reports ++ [r]) ∧ (record s r).2 = true := by
  have hstart : Encodes ((liveHash s r.now r.alertId).getD ⟨∅, none⟩).fields reports := by
    cases hlast : reports.getLast? with
    | none =>
        rw [Holds, hlast] at h
        rw [List.getLast?_eq_none_iff.mp hlast, liveHash, h]
        intro f
        simp
    | some last =>
        rw [Holds, hlast] at h
        obtain ⟨fields, hget, henc⟩ := h
        have hnow : r.now ≤ last.expiresAt := hlive last hlast
        rw [liveHash, hget, Option.filter_some, if_pos (by simpa using hnow)]
        exact henc
  obtain ⟨hok, henc⟩ := hstart.incrAll hfit
  have hexpire : ¬ i64Max < r.now + r.ttlSecs * 1000 := Nat.not_lt.mpr httl.2
  have hne : ¬ r.ttlSecs = 0 := Nat.pos_iff_ne_zero.mp httl.1
  simp only [AlertStatsStore.record, expire, if_neg hexpire, if_neg hne, hok, Bool.and_self,
    and_true]
  rw [Holds, List.getLast?_concat]
  exact ⟨_, DashMap.get_put_self _ _ _, henc⟩

/-- The hash is never gone between the reports of an alert nor when it is read: Redis takes
    every time to live, and each report and the read come within the one before. -/
structure Unexpired (reports : List (StatsReport A)) (now : Nat) : Prop where
  ttl : ∀ r ∈ reports, 0 < r.ttlSecs ∧ r.expiresAt ≤ i64Max
  next : reports.IsChain fun r r' => r'.now ≤ r.expiresAt
  read : ∀ r ∈ reports.getLast?, now ≤ r.expiresAt

/-- The reports of one alert among the calls. -/
def reportsOf (calls : List (StatsReport A)) (alertId : A) : List (StatsReport A) :=
  calls.filter fun r => r.alertId = alertId

/-- Whole executions: reports of other alerts come in between and change nothing. -/
theorem Holds.recordAll {s : DashMap A StatsHash} {alertId : A}
    {earlier calls : List (StatsReport A)} (h : Holds s alertId earlier)
    (httl : ∀ r ∈ calls, r.alertId = alertId → 0 < r.ttlSecs ∧ r.expiresAt ≤ i64Max)
    (hchain : (earlier ++ reportsOf calls alertId).IsChain fun r r' => r'.now ≤ r.expiresAt)
    (hfit : ∀ f, added ((earlier ++ reportsOf calls alertId).flatMap statFields) f ≤ i64Max) :
    Holds (recordAll s calls).1 alertId (earlier ++ reportsOf calls alertId) ∧
      ∀ p ∈ calls.zip (recordAll s calls).2, p.1.alertId = alertId → p.2 = true := by
  induction calls generalizing s earlier with
  | nil => simpa [AlertStatsStore.recordAll, reportsOf] using h
  | cons r calls ih =>
      have httl' : ∀ r' ∈ calls, r'.alertId = alertId → 0 < r'.ttlSecs ∧ r'.expiresAt ≤ i64Max :=
        fun r' hr' => httl r' (List.mem_cons_of_mem _ hr')
      simp only [AlertStatsStore.recordAll, List.zip_cons_cons, List.forall_mem_cons]
      by_cases hr : r.alertId = alertId
      · rw [reportsOf, List.filter_cons_of_pos (by simpa using hr), List.append_cons]
          at hchain hfit ⊢
        obtain ⟨hprev, -, -⟩ := List.isChain_append.mp hchain
        obtain ⟨-, -, hlast⟩ := List.isChain_append.mp hprev
        subst hr
        obtain ⟨hstep, hok⟩ := h.record (fun last hl => hlast last hl r (by simp))
          (httl r List.mem_cons_self rfl) (fun f => by
            have := hfit f
            rw [List.flatMap_append, added_append] at this
            omega)
        obtain ⟨hrest, hoks⟩ := ih hstep httl' hchain hfit
        exact ⟨hrest, fun _ => hok, hoks⟩
      · rw [reportsOf, List.filter_cons_of_neg (by simpa using hr)] at hchain hfit ⊢
        have hsame : Holds (AlertStatsStore.record s r).1 alertId earlier := by
          rw [Holds, record_other hr]
          exact h
        obtain ⟨hrest, hoks⟩ := ih hsame httl' hchain hfit
        exact ⟨hrest, fun heq => absurd heq hr, hoks⟩

omit [DecidableEq A] in
/-- Totals within `i64` keep every field within `i64`. -/
theorem added_le_of_totals (reports : List (StatsReport A))
    (h : ∀ k, (reports.map fun r => r.count k).sum ≤ i64Max) (f : List Char) :
    added (reports.flatMap statFields) f ≤ i64Max := by
  by_cases hf : f ∈ (reports.flatMap statFields).map Prod.fst
  · obtain ⟨e, he, rfl⟩ := List.mem_map.mp hf
    obtain ⟨r, -, her⟩ := List.mem_flatMap.mp he
    obtain ⟨k, hk | hk⟩ := mem_statFields.mp (List.mem_map_of_mem her)
    · rw [hk, added_reports_name]
      exact h k
    · rw [hk, added_reports_shardField]
      exact (List.Sublist.sum_le_sum (List.filter_sublist.map _) (by simp)).trans (h k)
  · rw [added_eq_zero hf]
    exact Nat.zero_le _

-- ============================================================================
-- Reading back
-- ============================================================================

/-- The sum of one count over some reports. -/
def reportSum (reports : List (StatsReport A)) (count : StatsReport A → Nat) : Nat :=
  (reports.map count).sum

/-- The sums of the reports of one shard. -/
def shardSums (reports : List (StatsReport A)) (shard : List Char) : ShardStats where
  delivered := (reportSum (reports.filter fun r => r.shardPrefix = shard) fun r => r.delivered : Nat)
  dropped := (reportSum (reports.filter fun r => r.shardPrefix = shard) fun r => r.dropped : Nat)
  filteredOut := (reportSum (reports.filter fun r => r.shardPrefix = shard) fun r => r.filteredOut : Nat)

omit [DecidableEq A] in
theorem count_shardSums (reports : List (StatsReport A)) (shard : List Char) (k : StatKind) :
    (shardSums reports shard).count k =
      (reportSum (reports.filter fun r => r.shardPrefix = shard) fun r => r.count k : Nat) := by
  cases k <;> rfl

omit [DecidableEq A] in
theorem shardField_mem {reports : List (StatsReport A)} {k : StatKind} {shard : List Char} :
    shardField k shard ∈ (reports.flatMap statFields).map Prod.fst ↔
      shard ∈ reports.map StatsReport.shardPrefix := by
  rw [List.map_flatMap, List.mem_flatMap, List.mem_map]
  simp only [mem_statFields, shardField_ne_name, shardField_inj, false_or]
  constructor
  · rintro ⟨r, hr, k', -, rfl⟩
    exact ⟨r, hr, rfl⟩
  · rintro ⟨r, hr, rfl⟩
    exact ⟨r, hr, k, rfl, rfl⟩

omit [DecidableEq A] in
/-- Only the fields of a shard name it. -/
theorem shard_of_field {reports : List (StatsReport A)} {f kind shard : List Char}
    (hf : f ∈ (reports.flatMap statFields).map Prod.fst)
    (hsplit : splitOnce ':' f = some (kind, shard)) :
    shard ∈ reports.map StatsReport.shardPrefix := by
  obtain ⟨e, he, rfl⟩ := List.mem_map.mp hf
  obtain ⟨r, hr, her⟩ := List.mem_flatMap.mp he
  obtain ⟨k, hk | hk⟩ := mem_statFields.mp (List.mem_map_of_mem her)
  · rw [hk, splitOnce_name] at hsplit
    cases hsplit
  · rw [hk, splitOnce_shardField] at hsplit
    obtain ⟨-, rfl⟩ := Prod.mk.inj (Option.some.inj hsplit)
    exact List.mem_map_of_mem hr

omit [DecidableEq A] in
/-- The loop over the fields gives every recorded prefix its sums, and nothing else. -/
theorem Encodes.get_perShard {fields : DashMap (List Char) Int} {reports : List (StatsReport A)}
    (h : Encodes fields reports) (iteration : IterationOrder) (shard : List Char) :
    ((iteration.order fields).foldl decodeField ∅).get shard =
      if shard ∈ reports.map StatsReport.shardPrefix then some (shardSums reports shard)
      else none := by
  have hmem (e : List Char × Int) : e ∈ iteration.order fields ↔ fields.get e.1 = some e.2 := by
    rw [(iteration.perm fields).mem_iff]
    exact DashMap.mem_iter
  have hkey (f : List Char) : f ∈ (iteration.order fields).map Prod.fst ↔
      f ∈ (reports.flatMap statFields).map Prod.fst := by
    rw [List.mem_map]
    constructor
    · rintro ⟨e, he, rfl⟩
      by_contra hnot
      rw [hmem, h e.1, if_neg hnot] at he
      cases he
    · intro hf
      exact ⟨(f, _), (hmem _).mpr (by rw [h f, if_pos hf]), rfl⟩
  obtain ⟨hsome, hcount⟩ := get_decodeFields (fun f => (fields.get f).getD 0)
    (fun e he => by rw [(hmem e).mp he]; rfl) shard
  generalize (iteration.order fields).foldl decodeField ∅ = perShard at hsome hcount ⊢
  by_cases hshard : shard ∈ reports.map StatsReport.shardPrefix
  · rw [if_pos hshard]
    have hfield : shardField .delivered shard ∈ (iteration.order fields).map Prod.fst :=
      (hkey _).mpr (shardField_mem.mpr hshard)
    obtain ⟨e, he, heq⟩ := List.mem_map.mp hfield
    have his : (perShard.get shard).isSome :=
      hsome.mpr ⟨e, he, _, by rw [heq, splitOnce_shardField]⟩
    obtain ⟨stats, hstats⟩ := Option.isSome_iff_exists.mp his
    rw [hstats] at hcount ⊢
    congr 1
    apply ShardStats.ext_count
    intro k
    have hk := hcount k
    rw [if_pos ((hkey _).mpr (shardField_mem.mpr hshard)), h.getD, added_reports_shardField] at hk
    rw [count_shardSums]
    exact hk
  · rw [if_neg hshard, ← Option.not_isSome_iff_eq_none, hsome]
    rintro ⟨e, he, kind, hsplit⟩
    exact hshard (shard_of_field ((hkey _).mp (List.mem_map_of_mem he)) hsplit)

omit [DecidableEq A] in
/-- Summing the shards' sums gives the sum over all reports. -/
theorem sum_iter_perShard {perShard : DashMap (List Char) ShardStats}
    {reports : List (StatsReport A)}
    (h : ∀ shard, perShard.get shard = if shard ∈ reports.map StatsReport.shardPrefix then
      some (shardSums reports shard) else none) (k : StatKind) :
    (perShard.iter.map fun e => e.2.count k).sum = (reportSum reports fun r => r.count k : Nat) := by
  have hiter : (perShard.iter.map fun e => e.2.count k) =
      (perShard.iter.map Prod.fst).map fun shard => ((shardSums reports shard).count k) := by
    rw [List.map_map]
    apply List.map_congr_left
    rintro ⟨shard, stats⟩ he
    have hget := DashMap.mem_iter.mp he
    rw [h shard] at hget
    split at hget
    · rw [← Option.some.inj hget]
      rfl
    · cases hget
  have hkeys : ∀ r ∈ reports, r.shardPrefix ∈ perShard.iter.map Prod.fst := by
    intro r hr
    have hget := h r.shardPrefix
    rw [if_pos (List.mem_map_of_mem hr)] at hget
    exact List.mem_map_of_mem (f := Prod.fst) (DashMap.mem_iter.mpr hget)
  rw [hiter, ← List.sum_toFinset _ (DashMap.nodup_keys_iter perShard)]
  generalize perShard.iter.map Prod.fst = keys at hkeys
  simp only [count_shardSums]
  clear h hiter
  induction reports with
  | nil => simp [reportSum]
  | cons r reports ih =>
      have hsplit (shard : List Char) :
          (reportSum ((r :: reports).filter fun r => r.shardPrefix = shard) fun r => r.count k : Int) =
            (if r.shardPrefix = shard then (r.count k : Int) else 0) +
            reportSum (reports.filter fun r => r.shardPrefix = shard) fun r => r.count k := by
        by_cases hp : r.shardPrefix = shard <;> simp [hp, reportSum]
      have hin : r.shardPrefix ∈ keys.toFinset := List.mem_toFinset.mpr (hkeys r List.mem_cons_self)
      simp only [hsplit]
      rw [Finset.sum_add_distrib, Finset.sum_ite_eq, if_pos hin,
        ih fun r' hr' => hkeys r' (List.mem_cons_of_mem _ hr')]
      simp [reportSum]

theorem len_ne_zero {fields : DashMap (List Char) Int} {f : List Char} {v : Int}
    (h : fields.get f = some v) : fields.len ≠ 0 := by
  intro hlen
  have hmem := DashMap.mem_iter.mpr h
  rw [DashMap.iter, List.length_eq_zero_iff.mp hlen] at hmem
  simp at hmem

/-- **Delivery statistics decode exactly.**  For every execution of `record` calls, with any
    prefixes and any calls for other alerts in between, while the alert's hash lives and its
    sums fit in an `i64`: every call for the alert returns `Ok`; there are statistics exactly
    when there was one; the totals are the sums over the calls, the shards are exactly the
    recorded prefixes, each with the sums over its own calls, and the totals are the sums over
    the shards. -/
theorem get_recordAll (iteration : IterationOrder) (calls : List (StatsReport A)) (alertId : A)
    (now : Nat) (hlive : Unexpired (reportsOf calls alertId) now)
    (hdelivered : reportSum (reportsOf calls alertId) (·.delivered) ≤ i64Max)
    (hdropped : reportSum (reportsOf calls alertId) (·.dropped) ≤ i64Max)
    (hfiltered : reportSum (reportsOf calls alertId) (·.filteredOut) ≤ i64Max) :
    (∀ p ∈ calls.zip (recordAll ∅ calls).2, p.1.alertId = alertId → p.2 = true) ∧
    (get iteration (recordAll ∅ calls).1 now alertId = none ↔ reportsOf calls alertId = []) ∧
    ∀ stats, get iteration (recordAll ∅ calls).1 now alertId = some stats →
      stats.delivered = reportSum (reportsOf calls alertId) (·.delivered) ∧
      stats.dropped = reportSum (reportsOf calls alertId) (·.dropped) ∧
      stats.filteredOut = reportSum (reportsOf calls alertId) (·.filteredOut) ∧
      (∀ shard, stats.perShard.get shard =
        if shard ∈ (reportsOf calls alertId).map StatsReport.shardPrefix then
          some (shardSums (reportsOf calls alertId) shard) else none) ∧
      stats.delivered = (stats.perShard.iter.map fun e => e.2.delivered).sum ∧
      stats.dropped = (stats.perShard.iter.map fun e => e.2.dropped).sum ∧
      stats.filteredOut = (stats.perShard.iter.map fun e => e.2.filteredOut).sum := by
  have hfit := added_le_of_totals (reportsOf calls alertId) (fun k => by
    cases k
    · exact hdelivered
    · exact hdropped
    · exact hfiltered)
  have hstart : Holds (∅ : DashMap A StatsHash) alertId [] := DashMap.get_empty alertId
  obtain ⟨hholds, hoks⟩ := hstart.recordAll
    (fun r hr heq => hlive.ttl r (List.mem_filter.mpr ⟨hr, by simpa using heq⟩))
    hlive.next hfit
  rw [List.nil_append] at hholds
  refine ⟨hoks, ?_⟩
  generalize (recordAll ∅ calls).1 = s at hholds
  generalize hreports : reportsOf calls alertId = reports at hholds hlive
  cases hlast : reports.getLast? with
  | none =>
      rw [Holds, hlast] at hholds
      have hget : get iteration s now alertId = none := by
        rw [get, liveHash, hholds]
        rfl
      rw [hget]
      exact ⟨by simpa using hlast, fun stats h => by cases h⟩
  | some last =>
      rw [Holds, hlast] at hholds
      obtain ⟨fields, hhash, henc⟩ := hholds
      have hne : reports ≠ [] := by
        rintro rfl
        cases hlast
      have hfields : ((liveHash s now alertId).map StatsHash.fields).getD ∅ = fields := by
        rw [liveHash, hhash, Option.filter_some_pos (by simpa using hlive.read last hlast)]
        rfl
      have htotal (k : StatKind) : (fields.get k.name).getD 0 =
          (reportSum reports fun r => r.count k : Nat) := by
        rw [henc.getD, added_reports_name]
        rfl
      have hlen : fields.len ≠ 0 := by
        obtain ⟨r, hr⟩ := List.exists_mem_of_ne_nil reports hne
        have hmem : StatKind.name .delivered ∈ (reports.flatMap statFields).map Prod.fst := by
          rw [List.map_flatMap, List.mem_flatMap]
          exact ⟨r, hr, mem_statFields.mpr ⟨.delivered, .inl rfl⟩⟩
        have hname := henc (StatKind.name .delivered)
        rw [if_pos hmem] at hname
        exact len_ne_zero hname
      have hget : get iteration s now alertId = some {
          delivered := (fields.get (StatKind.name .delivered)).getD 0
          dropped := (fields.get (StatKind.name .dropped)).getD 0
          filteredOut := (fields.get (StatKind.name .filteredOut)).getD 0
          perShard := (iteration.order fields).foldl decodeField ∅ } := by
        rw [get, hfields, if_neg hlen]
        rfl
      rw [hget]
      refine ⟨by simpa using hne, ?_⟩
      rintro stats hstats
      obtain rfl := Option.some.inj hstats
      have hshards := henc.get_perShard iteration
      have hsum := sum_iter_perShard hshards
      exact ⟨htotal .delivered, htotal .dropped, htotal .filteredOut, hshards,
        (htotal .delivered).trans (hsum .delivered).symm,
        (htotal .dropped).trans (hsum .dropped).symm,
        (htotal .filteredOut).trans (hsum .filteredOut).symm⟩

/-- The iteration in the order of the entries. -/
def entryOrder : IterationOrder where
  order := DashMap.iter
  perm _ := .refl _

/-- Two workers, one prefix reported twice, one empty and one with a colon, and another
    alert's report in between. -/
def exampleReports : List (StatsReport Nat) :=
  [⟨7, "tkrt".toList, 10, 1, 4, 60, 0⟩, ⟨7, "a:b".toList, 5, 0, 2, 60, 10⟩,
   ⟨8, "tkrt".toList, 9, 9, 9, 60, 10⟩, ⟨7, "tkrt".toList, 3, 2, 0, 60, 20⟩,
   ⟨7, [], 1, 0, 0, 60, 30⟩]

theorem get_recordAll_five :
    ((get entryOrder (recordAll ∅ exampleReports).1 100 7).map fun s =>
      (s.delivered, s.dropped, s.filteredOut)) = some (19, 3, 6) ∧
    (get entryOrder (recordAll ∅ exampleReports).1 100 7 = none ↔
      reportsOf exampleReports 7 = []) :=
  ⟨by decide +kernel,
    (get_recordAll entryOrder exampleReports 7 100 ⟨by decide, by decide, by decide⟩
      (by decide) (by decide) (by decide)).2.1⟩

end AlertStatsStore

end PulseGrid.Worker
