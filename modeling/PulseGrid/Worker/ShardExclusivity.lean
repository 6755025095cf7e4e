/-
  PulseGrid.Worker.ShardExclusivity

  Can two processes hold one shard prefix?

  A lease records its owner by URL, and nothing keeps two processes from having
  the same one.  `shards_exclusive_iff` gives the exact condition on the
  configurations of the processes under which no prefix is ever held twice.
-/

import PulseGrid.Worker.ShardLease

namespace PulseGrid.Worker

-- ============================================================================
-- The two scripts
-- ============================================================================

/-- Only entries of these prefixes changed, and only where nobody else's lease was. -/
def Guarded (now : Nat) (config : LeaseConfig) (redis redis' : ShardRegistry) : Prop :=
  ∀ x, DashMap.get redis' x = DashMap.get redis x ∨
    (x ∈ config.prefixes ∧ ∀ owner, redis.getAt now x = some owner → owner = config.url)

theorem Guarded.refl (now : Nat) (config : LeaseConfig) (redis : ShardRegistry) :
    Guarded now config redis redis :=
  fun _ => .inl rfl

theorem claimShard_true {redis redis' : ShardRegistry} {now ttlSecs : Nat} {x url : String}
    (h : claimShard redis now x url ttlSecs = some (redis', true)) :
    expiryFits now ttlSecs ∧ (∀ owner, redis.getAt now x = some owner → owner = url) ∧
      DashMap.get redis' x = some ⟨url, now + ttlSecs * 1000⟩ ∧
      ∀ y, y ≠ x → DashMap.get redis' y = DashMap.get redis y := by
  unfold claimShard at h
  split at h
  · next hget =>
    split at h
    · next hfits =>
      obtain rfl := by simpa using h
      exact ⟨hfits, by simp [hget], ExpiringStore.get_setEx_self _ _ _ _,
        fun y hy => ExpiringStore.get_setEx_of_ne _ _ _ hy⟩
    · cases h
  · next cur hget =>
    split at h
    · next hcur =>
      split at h
      · next hfits =>
        obtain rfl := by simpa using h
        obtain ⟨e, he, -, hvalue⟩ := ExpiringStore.getAt_eq_some.mp hget
        refine ⟨hfits, by simp [hget, hcur], ?_, fun y hy => ExpiringStore.get_expire_of_ne _ _ hy⟩
        rw [ExpiringStore.get_expire_self he, hvalue, hcur]
      · cases h
    · simp at h

theorem claimShard_false {redis redis' : ShardRegistry} {now ttlSecs : Nat} {x url : String}
    (h : claimShard redis now x url ttlSecs = some (redis', false)) : redis' = redis := by
  unfold claimShard at h
  split at h
  · split at h
    · simp at h
    · cases h
  · split at h
    · split at h
      · simp at h
      · cases h
    · exact (by simpa using h : redis = redis').symm

theorem guarded_claimShard {redis redis' : ShardRegistry} {now : Nat} {config : LeaseConfig}
    {x : String} (hx : x ∈ config.prefixes) {won : Bool}
    (h : claimShard redis now x config.url config.ttlSecs = some (redis', won)) :
    Guarded now config redis redis' := by
  cases won with
  | true =>
    obtain ⟨-, hfree, -, hothers⟩ := claimShard_true h
    intro y
    by_cases hy : y = x
    · exact .inr ⟨hy ▸ hx, hy ▸ hfree⟩
    · exact .inl (hothers y hy)
  | false =>
    rw [claimShard_false h]
    exact .refl now config redis

theorem guarded_releaseShard {redis : ShardRegistry} {now : Nat} {config : LeaseConfig}
    {x : String} (hx : x ∈ config.prefixes) :
    Guarded now config redis (releaseShard redis now x config.url).1 := by
  unfold releaseShard
  split
  · next hget =>
    intro y
    by_cases hy : y = x
    · subst hy
      refine .inr ⟨hx, fun owner howner => ?_⟩
      exact (Option.some.inj (hget.symm.trans howner)).symm
    · exact .inl (ExpiringStore.get_del_of_ne _ hy)
  · exact .refl now config redis

-- ============================================================================
-- One process
-- ============================================================================

/-- The prefixes a call may still name. -/
def LeaseCall.prefixes : LeaseCall → List String
  | .acquireClaim claimed shardPrefix rest => claimed ++ shardPrefix :: rest
  | .acquireLookup claimed shardPrefix => claimed ++ [shardPrefix]
  | .acquireRollback _ shardPrefix rest => shardPrefix :: rest
  | .refreshClaim _ shardPrefix rest => shardPrefix :: rest
  | .releaseNext shardPrefix rest => shardPrefix :: rest
  | .returned _ => []

namespace Process

/-- What holds of a process between commands.  Its leases on the prefixes in
    `contested` are in Redis for as long as it holds them. -/
structure Ok (now : Nat) (redis : ShardRegistry) (contested : String → Prop) (p : Process) :
    Prop where
  mem : ∀ x u, p.heldUntil.get x = some u → x ∈ p.config.prefixes
  fits : ∀ x u, p.heldUntil.get x = some u → expiryFits 0 p.config.ttlSecs
  le : ∀ x u, p.heldUntil.get x = some u → u ≤ now + p.config.ttlSecs * 1000
  live : ∀ x u, p.heldUntil.get x = some u → contested x → now ≤ u →
    ∃ e, DashMap.get redis x = some e ∧ e.value = p.config.url ∧ u ≤ e.expiresAt
  calls : ∀ pc ∈ p.calls, ∀ x ∈ pc.prefixes, x ∈ p.config.prefixes

theorem Ok.initial (now : Nat) (redis : ShardRegistry) (contested : String → Prop)
    (config : LeaseConfig) : Ok now redis contested { config := config } where
  mem := by simp
  fits := by simp
  le := by simp
  live := by simp
  calls := by simp

theorem Ok.tick {now : Nat} {redis : ShardRegistry} {contested : String → Prop} {p : Process}
    (h : p.Ok now redis contested) (millis : Nat) : p.Ok (now + millis) redis contested where
  mem := h.mem
  fits := h.fits
  le := by
    intro x u hx
    have hle := h.le x u hx
    omega
  live := by
    intro x u hx hc hnow
    exact h.live x u hx hc (by omega)
  calls := h.calls

/-- Another process's command leaves the leases in contested prefixes alone, if it has
    another URL. -/
theorem Ok.frame {now : Nat} {redis redis' : ShardRegistry} {contested : String → Prop}
    {p : Process} (h : p.Ok now redis contested) {config : LeaseConfig}
    (hguarded : Guarded now config redis redis')
    (hne : ∀ x ∈ p.config.prefixes, contested x → x ∈ config.prefixes →
      p.config.url ≠ config.url) : p.Ok now redis' contested where
  mem := h.mem
  fits := h.fits
  le := h.le
  live := by
    intro x u hx hc hnow
    obtain ⟨e, he, hvalue, hu⟩ := h.live x u hx hc hnow
    obtain hsame | ⟨hmem, howner⟩ := hguarded x
    · exact ⟨e, hsame.trans he, hvalue, hu⟩
    · have hget : redis.getAt now x = some e.value :=
        ExpiringStore.getAt_eq_some.mpr ⟨e, he, Nat.le_trans hnow hu, rfl⟩
      exact absurd (hvalue.symm.trans (howner _ hget)) (hne x (h.mem x u hx) hc hmem)
  calls := h.calls

/-- A write to the process's own leases that leaves each of them at least as long. -/
theorem Ok.extend {now : Nat} {redis redis' : ShardRegistry} {contested : String → Prop}
    {p : Process} (h : p.Ok now redis contested) {x : String}
    (hx : DashMap.get redis' x = some ⟨p.config.url, now + p.config.ttlSecs * 1000⟩)
    (hothers : ∀ y, y ≠ x → DashMap.get redis' y = DashMap.get redis y) :
    p.Ok now redis' contested where
  mem := h.mem
  fits := h.fits
  le := h.le
  live := by
    intro y u hy hc hnow
    by_cases hyx : y = x
    · subst hyx
      exact ⟨_, hx, rfl, h.le y u hy⟩
    · rw [hothers y hyx]
      exact h.live y u hy hc hnow
  calls := h.calls

/-- The process learns that it has the lease. -/
theorem Ok.hold {now : Nat} {redis : ShardRegistry} {contested : String → Prop} {p : Process}
    (h : p.Ok now redis contested) {x : String} (hmem : x ∈ p.config.prefixes)
    (hfits : expiryFits now p.config.ttlSecs)
    (hx : DashMap.get redis x = some ⟨p.config.url, now + p.config.ttlSecs * 1000⟩) :
    Ok now redis contested
      { p with heldUntil := p.heldUntil.put x (now + p.config.ttlSecs * 1000) } := by
  have hcases : ∀ y u, DashMap.get (p.heldUntil.put x (now + p.config.ttlSecs * 1000)) y = some u →
      (y = x ∧ u = now + p.config.ttlSecs * 1000) ∨ p.heldUntil.get y = some u := by
    intro y u hy
    rw [DashMap.get_put] at hy
    split at hy
    · next hyx => exact .inl ⟨hyx, (Option.some.inj hy).symm⟩
    · exact .inr hy
  refine ⟨fun y u hy => ?_, fun y u hy => ?_, fun y u hy => ?_, fun y u hy hc hnow => ?_, h.calls⟩
  · obtain ⟨rfl, -⟩ | hold := hcases y u hy
    · exact hmem
    · exact h.mem y u hold
  · unfold expiryFits at hfits ⊢
    dsimp only
    omega
  · obtain ⟨-, rfl⟩ | hold := hcases y u hy
    · exact le_refl _
    · exact h.le y u hold
  · obtain ⟨rfl, rfl⟩ | hold := hcases y u hy
    · exact ⟨_, hx, rfl, le_refl _⟩
    · exact h.live y u hold hc hnow

/-- The process gives a prefix up; its lease may be deleted. -/
theorem Ok.giveUp {now : Nat} {redis redis' : ShardRegistry} {contested : String → Prop}
    {p : Process} (h : p.Ok now redis contested) {x : String}
    (hothers : ∀ y, y ≠ x → DashMap.get redis' y = DashMap.get redis y) :
    Ok now redis' contested { p with heldUntil := p.heldUntil.removeIf x fun _ => true } := by
  have hcases : ∀ y u, DashMap.get (p.heldUntil.removeIf x fun _ => true) y = some u →
      y ≠ x ∧ p.heldUntil.get y = some u := by
    intro y u hy
    by_cases hyx : y = x
    · subst hyx
      rw [DashMap.get_removeIf_self] at hy
      cases hget : p.heldUntil.get y <;> simp [hget, Option.filter] at hy
    · exact ⟨hyx, by rwa [DashMap.get_removeIf_of_ne _ _ hyx] at hy⟩
  refine ⟨fun y u hy => ?_, fun y u hy => ?_, fun y u hy => ?_, fun y u hy hc hnow => ?_, h.calls⟩
  · exact h.mem y u (hcases y u hy).2
  · exact h.fits y u (hcases y u hy).2
  · exact h.le y u (hcases y u hy).2
  · obtain ⟨hyx, hold⟩ := hcases y u hy
    rw [hothers y hyx]
    exact h.live y u hold hc hnow

theorem Ok.claim {now : Nat} {redis redis' : ShardRegistry} {contested : String → Prop}
    {p p' : Process} (h : p.Ok now redis contested) {x : String} (hx : x ∈ p.config.prefixes)
    {outcome : CommandOutcome} {reply : Option Bool}
    (hclaim : p.claim redis now x outcome = (redis', p', reply)) :
    p'.Ok now redis' contested ∧ Guarded now p.config redis redis' ∧ p'.config = p.config ∧
      p'.calls = p.calls := by
  unfold Process.claim at hclaim
  split at hclaim
  · obtain ⟨rfl, rfl, -⟩ := by simpa using hclaim
    exact ⟨h, .refl now _ _, rfl, rfl⟩
  · obtain ⟨rfl, rfl, -⟩ := by simpa using hclaim
    exact ⟨h, .refl now _ _, rfl, rfl⟩
  · next redis₁ won hlua =>
    obtain ⟨rfl, rfl, -⟩ := by simpa using hclaim
    refine ⟨?_, guarded_claimShard hx hlua, rfl, rfl⟩
    cases won with
    | true =>
      obtain ⟨-, -, hget, hothers⟩ := claimShard_true hlua
      exact h.extend hget hothers
    | false =>
      rw [claimShard_false hlua]
      exact h
  · next redis₁ won hlua =>
    obtain ⟨rfl, rfl, -⟩ := by simpa using hclaim
    cases won with
    | true =>
      obtain ⟨hfits, -, hget, hothers⟩ := claimShard_true hlua
      exact ⟨(h.extend hget hothers).hold hx hfits hget, guarded_claimShard hx hlua, rfl, rfl⟩
    | false =>
      refine ⟨?_, guarded_claimShard hx hlua, rfl, rfl⟩
      rw [claimShard_false hlua]
      exact h

theorem Ok.release {now : Nat} {redis : ShardRegistry} {contested : String → Prop}
    {p : Process} (h : p.Ok now redis contested) {x : String} (hx : x ∈ p.config.prefixes)
    (outcome : CommandOutcome) :
    (p.release redis now x outcome).2.Ok now (p.release redis now x outcome).1 contested ∧
      Guarded now p.config redis (p.release redis now x outcome).1 := by
  have hothers : ∀ y, y ≠ x →
      DashMap.get (releaseShard redis now x p.config.url).1 y = DashMap.get redis y := by
    intro y hy
    unfold releaseShard
    split
    · exact ExpiringStore.get_del_of_ne _ hy
    · rfl
  cases outcome with
  | failed => exact ⟨h.giveUp fun _ _ => rfl, .refl now _ _⟩
  | ok => exact ⟨h.giveUp hothers, guarded_releaseShard hx⟩
  | lost => exact ⟨h.giveUp hothers, guarded_releaseShard hx⟩

theorem acquireNext_spec {now : Nat} {redis : ShardRegistry} {contested : String → Prop}
    {p : Process} (h : p.Ok now redis contested) (claimed rest : List String) :
    (p.acquireNext claimed rest).1.Ok now redis contested ∧
      (p.acquireNext claimed rest).1.config = p.config ∧
      (p.acquireNext claimed rest).1.calls = p.calls ∧
      ∀ x ∈ (p.acquireNext claimed rest).2.prefixes, x ∈ claimed ++ rest := by
  cases rest with
  | nil => exact ⟨⟨h.mem, h.fits, h.le, h.live, h.calls⟩, rfl, rfl, nofun⟩
  | cons x rest => exact ⟨h, rfl, rfl, fun _ hx => hx⟩

theorem refreshNext_spec {now : Nat} {redis : ShardRegistry} {contested : String → Prop}
    {p : Process} (h : p.Ok now redis contested) (allHeld : Bool) (rest : List String) :
    (p.refreshNext allHeld rest).1.Ok now redis contested ∧
      (p.refreshNext allHeld rest).1.config = p.config ∧
      (p.refreshNext allHeld rest).1.calls = p.calls ∧
      ∀ x ∈ (p.refreshNext allHeld rest).2.prefixes, x ∈ rest := by
  cases rest with
  | nil => exact ⟨⟨h.mem, h.fits, h.le, h.live, h.calls⟩, rfl, rfl, nofun⟩
  | cons x rest => exact ⟨h, rfl, rfl, fun _ hx => hx⟩

theorem mem_rollbackNext {error : LeaseError} {rest : List String} {x : String}
    (hx : x ∈ (rollbackNext error rest).prefixes) : x ∈ rest := by
  cases rest with
  | nil => cases hx
  | cons y rest => exact hx

theorem mem_releaseRest {rest : List String} {x : String}
    (hx : x ∈ (releaseRest rest).prefixes) : x ∈ rest := by
  cases rest with
  | nil => cases hx
  | cons y rest => exact hx

/-- One command of a call, whatever becomes of it. -/
theorem Ok.advance {now : Nat} {redis redis' : ShardRegistry} {contested : String → Prop}
    {p p' : Process} (h : p.Ok now redis contested) {pc pc' : LeaseCall}
    (hpc : ∀ x ∈ pc.prefixes, x ∈ p.config.prefixes) {outcome : CommandOutcome}
    (hadv : p.advance redis now outcome pc = some (redis', p', pc')) :
    p'.Ok now redis' contested ∧ Guarded now p.config redis redis' ∧ p'.config = p.config ∧
      p'.calls = p.calls ∧ ∀ x ∈ pc'.prefixes, x ∈ p.config.prefixes := by
  cases pc with
  | acquireClaim claimed shardPrefix rest =>
    have hx : shardPrefix ∈ p.config.prefixes := hpc _ (by simp [LeaseCall.prefixes])
    simp only [Process.advance] at hadv
    split at hadv
    · next redis₁ p₁ hclaim =>
      obtain ⟨hok, hguarded, hconfig, hcalls⟩ := h.claim hx hclaim
      obtain ⟨hok', hconfig', hcalls', hmem⟩ :=
        acquireNext_spec hok (claimed ++ [shardPrefix]) rest
      obtain ⟨rfl, hp', hpc'⟩ := by simpa [Prod.ext_iff] using hadv
      rw [← hp', ← hpc']
      refine ⟨hok', hguarded, hconfig'.trans hconfig, hcalls'.trans hcalls, fun y hy => hpc y ?_⟩
      simpa [LeaseCall.prefixes] using hmem y hy
    · next redis₁ p₁ hclaim =>
      obtain ⟨hok, hguarded, hconfig, hcalls⟩ := h.claim hx hclaim
      obtain ⟨rfl, rfl, rfl⟩ := by simpa using hadv
      refine ⟨hok, hguarded, hconfig, hcalls, fun y hy => hpc y ?_⟩
      rcases List.mem_append.mp hy with hclaimed | hself
      · exact List.mem_append_left _ hclaimed
      · rw [List.mem_singleton.mp hself]
        exact List.mem_append_right _ (List.mem_cons_self ..)
    · next redis₁ p₁ hclaim =>
      obtain ⟨hok, hguarded, hconfig, hcalls⟩ := h.claim hx hclaim
      obtain ⟨rfl, rfl, rfl⟩ := by simpa using hadv
      refine ⟨hok, hguarded, hconfig, hcalls, fun y hy => hpc y ?_⟩
      exact List.mem_append_left _ (mem_rollbackNext hy)
  | acquireLookup claimed shardPrefix =>
    obtain ⟨rfl, rfl, rfl⟩ := by simpa [Process.advance] using hadv
    refine ⟨h, .refl now _ _, rfl, rfl, fun y hy => hpc y ?_⟩
    exact List.mem_append_left _ (mem_rollbackNext hy)
  | acquireRollback error shardPrefix rest =>
    obtain ⟨hok, hguarded⟩ := h.release (hpc shardPrefix (List.mem_cons_self ..)) outcome
    obtain ⟨rfl, rfl, rfl⟩ := by simpa [Process.advance] using hadv
    exact ⟨hok, hguarded, rfl, rfl,
      fun y hy => hpc y (List.mem_cons_of_mem _ (mem_rollbackNext hy))⟩
  | refreshClaim allHeld shardPrefix rest =>
    simp only [Process.advance] at hadv
    split at hadv <;>
    · next redis₁ p₁ _ hclaim =>
      obtain ⟨hok, hguarded, hconfig, hcalls⟩ :=
        h.claim (hpc shardPrefix (List.mem_cons_self ..)) hclaim
      obtain ⟨hok', hconfig', hcalls', hmem⟩ := refreshNext_spec hok _ rest
      obtain ⟨rfl, hp', hpc'⟩ := by simpa [Prod.ext_iff] using hadv
      rw [← hp', ← hpc']
      exact ⟨hok', hguarded, hconfig'.trans hconfig, hcalls'.trans hcalls,
        fun y hy => hpc y (List.mem_cons_of_mem _ (hmem y hy))⟩
  | releaseNext shardPrefix rest =>
    obtain ⟨hok, hguarded⟩ := h.release (hpc shardPrefix (List.mem_cons_self ..)) outcome
    obtain ⟨rfl, rfl, rfl⟩ := by simpa [Process.advance] using hadv
    exact ⟨hok, hguarded, rfl, rfl,
      fun y hy => hpc y (List.mem_cons_of_mem _ (mem_releaseRest hy))⟩
  | returned result => simp [Process.advance] at hadv

end Process

-- ============================================================================
-- Exclusivity
-- ============================================================================

/-- Process `i` of these is not the only one that can hold the prefix. -/
def Contested (configs : List LeaseConfig) (i : Nat) (x : String) : Prop :=
  ∃ k c, k ≠ i ∧ configs[k]? = some c ∧ x ∈ c.prefixes ∧ expiryFits 0 c.ttlSecs

/-- Where two processes can hold a prefix, no other process that owns it has the URL
    of one of them. -/
def Separate (configs : List LeaseConfig) : Prop :=
  ∀ (i j : Nat) (ci cj : LeaseConfig) (x : String), i ≠ j → configs[i]? = some ci →
    configs[j]? = some cj → x ∈ ci.prefixes → x ∈ cj.prefixes → expiryFits 0 ci.ttlSecs →
    Contested configs i x → ci.url ≠ cj.url

namespace Cluster

/-- The invariant of every run: the processes have these configurations, and the
    leases they hold in contested prefixes are in Redis. -/
def Inv (configs : List LeaseConfig) (s : Cluster) : Prop :=
  s.processes.map Process.config = configs ∧
    ∀ (i : Nat) (p : Process), s.processes[i]? = some p →
      p.Ok s.now s.redis fun x => expiryFits 0 p.config.ttlSecs ∧ Contested configs i x

theorem config_getElem? {configs : List LeaseConfig} {s : Cluster} (h : s.Inv configs) {i : Nat}
    {p : Process} (hp : s.processes[i]? = some p) : configs[i]? = some p.config := by
  rw [← h.1, List.getElem?_map, hp]
  rfl

theorem Inv.initial (configs : List LeaseConfig) (redis : ShardRegistry) (now : Nat) :
    (Cluster.initial configs redis now).Inv configs := by
  refine ⟨by simp [Cluster.initial, Function.comp_def], fun i p hp => ?_⟩
  obtain ⟨config, -, rfl⟩ := List.mem_map.mp (List.mem_of_getElem? hp)
  exact .initial now redis _ config

/-- A command of process `i` on its own prefixes: what it does to the process keeps
    its own part of the invariant, and the URLs keep the other parts. -/
theorem Inv.replace {configs : List LeaseConfig} (hsep : Separate configs) {s : Cluster}
    (h : s.Inv configs) {i : Nat} {p p' : Process} (hp : s.processes[i]? = some p)
    {redis' : ShardRegistry} (hguarded : Guarded s.now p.config s.redis redis')
    (hok : ∀ contested, p.Ok s.now s.redis contested → p'.Ok s.now redis' contested)
    (hconfig : p'.config = p.config) :
    Inv configs { s with redis := redis', processes := s.processes.set i p' } := by
  have hlt : i < s.processes.length := (List.getElem?_eq_some_iff.mp hp).1
  have hget : ∀ j, (s.processes.set i p')[j]? = if i = j then some p' else s.processes[j]? := by
    intro j
    rw [List.getElem?_set, if_pos hlt]
  constructor
  · refine List.ext_getElem? fun j => ?_
    rw [List.getElem?_map, hget, ← h.1, List.getElem?_map]
    split
    · next hij =>
      subst hij
      rw [hp, Option.map_some, Option.map_some, hconfig]
    · rfl
  · intro j q hq
    rw [hget] at hq
    split at hq
    · next hij =>
      subst hij
      obtain rfl := Option.some.inj hq
      rw [hconfig]
      exact hok _ (h.2 i p hp)
    · next hij =>
      refine (h.2 j q hq).frame hguarded fun x hx hc hmem => ?_
      exact hsep j i q.config p.config x (Ne.symm hij) (config_getElem? h hq)
        (config_getElem? h hp) hx hmem hc.1 hc.2

theorem Inv.start {configs : List LeaseConfig} (hsep : Separate configs) {s t : Cluster}
    (h : s.Inv configs) {i : Nat} {f : Process → Process × LeaseCall}
    (hstart : s.start i f = some t)
    (hf : ∀ p contested, p.Ok s.now s.redis contested → (f p).1.Ok s.now s.redis contested ∧
      (f p).1.config = p.config ∧ (f p).1.calls = p.calls ∧
      ∀ x ∈ (f p).2.prefixes, x ∈ p.config.prefixes) : t.Inv configs := by
  unfold Cluster.start at hstart
  split at hstart
  · cases hstart
  · next p hp =>
    obtain rfl := Option.some.inj hstart
    obtain ⟨-, hconfig, -, -⟩ := hf p _ (h.2 i p hp)
    refine h.replace hsep hp (.refl _ _ _) (fun contested hp => ?_) hconfig
    obtain ⟨hok, hconfig, hcalls, hpc⟩ := hf p contested hp
    refine ⟨hok.mem, hok.fits, hok.le, hok.live, fun pc hmem => ?_⟩
    rcases List.mem_append.mp hmem with hold | hnew
    · exact hok.calls pc hold
    · rw [List.mem_singleton.mp hnew]
      exact fun x hx => hconfig ▸ hpc x hx

theorem Inv.step {configs : List LeaseConfig} (hsep : Separate configs) {s t : Cluster}
    (h : s.Inv configs) {label : Label} (hstep : s.step label = some t) : t.Inv configs := by
  cases label with
  | tick millis =>
    obtain rfl := Option.some.inj hstep
    exact ⟨h.1, fun i p hp => (h.2 i p hp).tick millis⟩
  | acquireAll i =>
    exact h.start hsep hstep fun p contested hp => Process.acquireNext_spec hp [] p.config.prefixes
  | refreshOnce i =>
    exact h.start hsep hstep fun p contested hp =>
      Process.refreshNext_spec hp true p.config.prefixes
  | releaseAll i =>
    have hstart : s.start i (fun p =>
      ({ p with healthy := false }, Process.releaseRest p.config.prefixes)) = some t := hstep
    refine h.start hsep hstart fun p contested hp => ⟨?_, rfl, rfl, fun x hx => ?_⟩
    · exact ⟨hp.mem, hp.fits, hp.le, hp.live, hp.calls⟩
    · exact Process.mem_releaseRest hx
  | command i k outcome =>
    simp only [Cluster.step] at hstep
    split at hstep
    · cases hstep
    · next p hp =>
      split at hstep
      · cases hstep
      · next pc hk =>
        obtain ⟨⟨redis', p', pc'⟩, hadv, rfl⟩ := Option.map_eq_some_iff.mp hstep
        have hpc := (h.2 i p hp).calls pc (List.mem_of_getElem? hk)
        obtain ⟨-, hguarded, hconfig, -, -⟩ := (h.2 i p hp).advance hpc hadv
        refine h.replace hsep hp hguarded (fun contested hp => ?_) hconfig
        obtain ⟨hok, -, hconfig, hcalls, hpc'⟩ := hp.advance hpc hadv
        refine ⟨hok.mem, hok.fits, hok.le, hok.live, fun pc hmem => ?_⟩
        rcases List.mem_or_eq_of_mem_set hmem with hold | rfl
        · exact hok.calls pc hold
        · exact fun x hx => hconfig ▸ hpc' x hx

/-- Two processes that hold one prefix would both have their lease in Redis. -/
theorem Inv.exclusive {configs : List LeaseConfig} (hsep : Separate configs) {s : Cluster}
    (h : s.Inv configs) : s.Exclusive := by
  rintro x i j ⟨p, hp, u, hu, hnow⟩ ⟨q, hq, v, hv, hnow'⟩
  by_contra hij
  have hpok := h.2 i p hp
  have hqok := h.2 j q hq
  have hpfits := hpok.fits x u hu
  have hqfits := hqok.fits x v hv
  have hpc : Contested configs i x :=
    ⟨j, q.config, Ne.symm hij, config_getElem? h hq, hqok.mem x v hv, hqfits⟩
  have hqc : Contested configs j x :=
    ⟨i, p.config, hij, config_getElem? h hp, hpok.mem x u hu, hpfits⟩
  obtain ⟨e, he, hpe, -⟩ := hpok.live x u hu ⟨hpfits, hpc⟩ hnow
  obtain ⟨e', he', hqe, -⟩ := hqok.live x v hv ⟨hqfits, hqc⟩ hnow'
  obtain rfl : e = e' := Option.some.inj (he.symm.trans he')
  exact hsep i j p.config q.config x hij (config_getElem? h hp) (config_getElem? h hq)
    (hpok.mem x u hu) (hqok.mem x v hv) hpfits hpc (hpe.symm.trans hqe)

-- ============================================================================
-- Runs that break it
-- ============================================================================

/-- The state `t` differs from `s` in Redis and in process `i` only. -/
structure OnlyProcess (i : Nat) (s t : Cluster) : Prop where
  now : t.now = s.now
  others : ∀ j, j ≠ i → t.processes[j]? = s.processes[j]?
  config : (t.processes[i]?).map Process.config = (s.processes[i]?).map Process.config

theorem OnlyProcess.trans {i : Nat} {s t u : Cluster} (h : OnlyProcess i s t)
    (h' : OnlyProcess i t u) : OnlyProcess i s u where
  now := h'.now.trans h.now
  others := fun j hj => (h'.others j hj).trans (h.others j hj)
  config := h'.config.trans h.config

theorem OnlyProcess.set {i : Nat} {s : Cluster} {p p' : Process} (hp : s.processes[i]? = some p)
    (hconfig : p'.config = p.config) (redis' : ShardRegistry) :
    OnlyProcess i s { s with redis := redis', processes := s.processes.set i p' } where
  now := rfl
  others := fun j hj => List.getElem?_set_ne (Ne.symm hj)
  config := by
    dsimp only
    rw [List.getElem?_set_self (List.getElem?_eq_some_iff.mp hp).1, hp, Option.map_some,
      Option.map_some, hconfig]

/-- A command of call `k` of process `i`. -/
theorem step_command {s : Cluster} {i k : Nat} {p p' : Process} {pc pc' : LeaseCall}
    {redis' : ShardRegistry} {outcome : CommandOutcome} (hp : s.processes[i]? = some p)
    (hk : p.calls[k]? = some pc)
    (hadv : p.advance s.redis s.now outcome pc = some (redis', p', pc'))
    (hconfig : p'.config = p.config) (hcalls : p'.calls = p.calls) :
    ∃ t p'', s.step (.command i k outcome) = some t ∧ OnlyProcess i s t ∧ t.redis = redis' ∧
      t.processes[i]? = some p'' ∧ p''.calls[k]? = some pc' ∧ p''.heldUntil = p'.heldUntil := by
  have hltk : k < p'.calls.length := hcalls ▸ (List.getElem?_eq_some_iff.mp hk).1
  let p'' : Process := { p' with calls := p'.calls.set k pc' }
  have hconfig' : p''.config = p.config := hconfig
  refine ⟨{ s with redis := redis', processes := s.processes.set i p'' }, p'', ?_,
    .set hp hconfig' redis', rfl, ?_, ?_, rfl⟩
  · simp only [Cluster.step, hp, hk, hadv, Option.map_some, p'']
  · exact List.getElem?_set_self (List.getElem?_eq_some_iff.mp hp).1
  · exact List.getElem?_set_self hltk

/-- A call that goes on with its next prefix when a command fails reaches each of its
    prefixes. -/
theorem exists_run_to {A : LeaseCall → String → List String → Prop}
    (hA : ∀ (p : Process) redis now pc y y' rest, A pc y (y' :: rest) →
      ∃ p' pc', p.advance redis now .failed pc = some (redis, p', pc') ∧ A pc' y' rest ∧
        p'.config = p.config ∧ p'.calls = p.calls)
    {x : String} {i k : Nat} (rest : List String) {y : String} (hx : x ∈ y :: rest) {s : Cluster}
    {p : Process} {pc : LeaseCall} (hp : s.processes[i]? = some p) (hk : p.calls[k]? = some pc)
    (hpc : A pc y rest) :
    ∃ labels t p' pc' rest', Transition.run step s labels = some t ∧ OnlyProcess i s t ∧
      t.redis = s.redis ∧ t.processes[i]? = some p' ∧ p'.calls[k]? = some pc' ∧ A pc' x rest' := by
  induction rest generalizing y s p pc with
  | nil =>
    obtain rfl : x = y := by simpa using hx
    exact ⟨[], s, p, pc, [], rfl, ⟨rfl, fun _ _ => rfl, rfl⟩, rfl, hp, hk, hpc⟩
  | cons y' rest ih =>
    by_cases hxy : x = y
    · subst hxy
      exact ⟨[], s, p, pc, y' :: rest, rfl, ⟨rfl, fun _ _ => rfl, rfl⟩, rfl, hp, hk, hpc⟩
    · obtain ⟨p', pc', hadv, hA', hconfig, hcalls⟩ := hA p s.redis s.now pc y y' rest hpc
      obtain ⟨t, q, hstep, honly, hredis, ht, hkt, -⟩ := step_command hp hk hadv hconfig hcalls
      have hx' : x ∈ y' :: rest := (List.mem_cons.mp hx).resolve_left hxy
      obtain ⟨labels, u, p'', pc'', rest', hrun, honly', hredis', hu, hku, hA''⟩ :=
        ih hx' ht hkt hA'
      exact ⟨.command i k .failed :: labels, u, p'', pc'', rest',
        Transition.run_cons_eq_some.mpr ⟨t, hstep, hrun⟩, honly.trans honly',
        hredis'.trans hredis, hu, hku, hA''⟩

theorem start_eq_some {s : Cluster} {i : Nat} {p : Process} (hp : s.processes[i]? = some p)
    {f : Process → Process × LeaseCall} (hconfig : (f p).1.config = p.config)
    (hcalls : (f p).1.calls = p.calls) :
    ∃ t p', s.start i f = some t ∧ OnlyProcess i s t ∧ t.redis = s.redis ∧
      t.processes[i]? = some p' ∧ p'.calls[p.calls.length]? = some (f p).2 := by
  let p' : Process := { (f p).1 with calls := (f p).1.calls ++ [(f p).2] }
  have hconfig' : p'.config = p.config := hconfig
  refine ⟨{ s with processes := s.processes.set i p' }, p', ?_, .set hp hconfig' s.redis, rfl, ?_,
    ?_⟩
  · simp only [Cluster.start, hp, p']
  · exact List.getElem?_set_self (List.getElem?_eq_some_iff.mp hp).1
  · simp [hcalls, p']

theorem OnlyProcess.map_config {i : Nat} {s t : Cluster} (h : OnlyProcess i s t) (j : Nat) :
    (t.processes[j]?).map Process.config = (s.processes[j]?).map Process.config := by
  by_cases hj : j = i
  · rw [hj, h.config]
  · rw [h.others j hj]

theorem OnlyProcess.config_eq {i : Nat} {s t : Cluster} (h : OnlyProcess i s t) {p q : Process}
    (hp : s.processes[i]? = some p) (hq : t.processes[i]? = some q) : q.config = p.config := by
  have hmap := h.config
  rw [hp, hq] at hmap
  exact Option.some.inj hmap

/-- `refresh_once` gets to each prefix of the process. -/
theorem exists_run_refreshClaim {s : Cluster} {i : Nat} {p : Process}
    (hp : s.processes[i]? = some p) {x : String} (hx : x ∈ p.config.prefixes) :
    ∃ labels t q, ∃ k : Nat, ∃ b rest, Transition.run step s labels = some t ∧
      OnlyProcess i s t ∧ t.redis = s.redis ∧ t.processes[i]? = some q ∧
      q.calls[k]? = some (.refreshClaim b x rest) := by
  obtain ⟨y, rest, hprefixes⟩ := List.exists_cons_of_ne_nil p.config.prefixes_nonempty
  have hnext : p.refreshNext true p.config.prefixes = (p, .refreshClaim true y rest) := by
    simp [Process.refreshNext, hprefixes]
  obtain ⟨s₁, p₁, hstart, honly₁, hredis₁, hp₁, hk₁⟩ :=
    start_eq_some hp (f := fun p => p.refreshNext true p.config.prefixes) (by rw [hnext])
      (by rw [hnext])
  obtain ⟨labels, t, q, _, rest', hrun, honly₂, hredis₂, hq, hk, b, rfl⟩ :=
    exists_run_to (A := fun pc y rest => ∃ b, pc = .refreshClaim b y rest)
      (fun p redis now pc y y' rest ⟨b, hpc⟩ =>
        ⟨p, .refreshClaim false y' rest, by rw [hpc]; rfl, ⟨false, rfl⟩, rfl, rfl⟩)
      rest (hprefixes ▸ hx) hp₁ hk₁ ⟨true, by rw [hnext]⟩
  exact ⟨.refreshOnce i :: labels, t, q, p.calls.length, b, rest',
    Transition.run_cons_eq_some.mpr ⟨s₁, hstart, hrun⟩, honly₁.trans honly₂,
    hredis₂.trans hredis₁, hq, hk⟩

/-- `release_all` gets to each prefix of the process. -/
theorem exists_run_releaseNext {s : Cluster} {i : Nat} {p : Process}
    (hp : s.processes[i]? = some p) {x : String} (hx : x ∈ p.config.prefixes) :
    ∃ labels t q, ∃ k : Nat, ∃ rest, Transition.run step s labels = some t ∧ OnlyProcess i s t ∧
      t.redis = s.redis ∧ t.processes[i]? = some q ∧ q.calls[k]? = some (.releaseNext x rest) := by
  obtain ⟨y, rest, hprefixes⟩ := List.exists_cons_of_ne_nil p.config.prefixes_nonempty
  obtain ⟨s₁, p₁, hstart, honly₁, hredis₁, hp₁, hk₁⟩ :=
    start_eq_some hp
      (f := fun p => ({ p with healthy := false }, Process.releaseRest p.config.prefixes)) rfl rfl
  obtain ⟨labels, t, q, _, rest', hrun, honly₂, hredis₂, hq, hk, rfl⟩ :=
    exists_run_to (A := fun pc y rest => pc = .releaseNext y rest)
      (fun p redis now pc y y' rest hpc =>
        ⟨{ p with heldUntil := p.heldUntil.removeIf y fun _ => true }, .releaseNext y' rest,
          by rw [hpc]; rfl, rfl, rfl, rfl⟩)
      rest (hprefixes ▸ hx) hp₁ hk₁ (by rw [hprefixes]; rfl)
  exact ⟨.releaseAll i :: labels, t, q, p.calls.length, rest',
    Transition.run_cons_eq_some.mpr ⟨s₁, hstart, hrun⟩, honly₁.trans honly₂,
    hredis₂.trans hredis₁, hq, hk⟩

/-- A process can claim a free prefix it owns, if Redis accepts its TTL. -/
theorem exists_run_claim {s : Cluster} {i : Nat} {p : Process} (hp : s.processes[i]? = some p)
    {x : String} (hx : x ∈ p.config.prefixes) (hfits : expiryFits s.now p.config.ttlSecs)
    (hfree : s.redis.getAt s.now x = none) :
    ∃ labels t, Transition.run step s labels = some t ∧ OnlyProcess i s t ∧ t.Holds i x ∧
      t.redis.getAt t.now x = some p.config.url := by
  obtain ⟨labels, s₁, q, k, b, rest, hrun, honly, hredis, hq, hk⟩ := exists_run_refreshClaim hp hx
  have hconfig := honly.config_eq hp hq
  let u := s.now + p.config.ttlSecs * 1000
  let q' : Process := { q with heldUntil := q.heldUntil.put x u }
  have hclaim : q.claim s₁.redis s₁.now x .ok =
      (s.redis.setEx x p.config.url u, q', some true) := by
    simp [Process.claim, claimShard, hredis, honly.now, hfree, hconfig, hfits, u, q']
  have hadv : q.advance s₁.redis s₁.now .ok (.refreshClaim b x rest) =
      some (s.redis.setEx x p.config.url u, (q'.refreshNext b rest).1,
        (q'.refreshNext b rest).2) := by
    simp [Process.advance, hclaim]
  have hnext : (q'.refreshNext b rest).1.config = q.config ∧
      (q'.refreshNext b rest).1.calls = q.calls ∧
      (q'.refreshNext b rest).1.heldUntil = q'.heldUntil := by
    cases rest <;> exact ⟨rfl, rfl, rfl⟩
  obtain ⟨t, q'', hstep, honly', hredis', hq'', -, hheld⟩ :=
    step_command hq hk hadv hnext.1 hnext.2.1
  have hnow : t.now = s.now := (honly.trans honly').now
  refine ⟨labels ++ [.command i k .ok], t, ?_, honly.trans honly', ⟨q'', hq'', u, ?_, ?_⟩, ?_⟩
  · rw [Transition.run_append, hrun]
    exact Transition.run_cons_eq_some.mpr ⟨t, hstep, rfl⟩
  · rw [hheld, hnext.2.2]
    exact DashMap.get_put_self _ _ _
  · rw [hnow]
    exact Nat.le_add_right _ _
  · rw [hredis', hnow]
    exact ExpiringStore.getAt_eq_some.mpr
      ⟨_, ExpiringStore.get_setEx_self _ _ _ _, Nat.le_add_right _ _, rfl⟩

/-- A process can release a lease that has its URL. -/
theorem exists_run_release {s : Cluster} {i : Nat} {p : Process} (hp : s.processes[i]? = some p)
    {x : String} (hx : x ∈ p.config.prefixes)
    (howner : s.redis.getAt s.now x = some p.config.url) :
    ∃ labels t, Transition.run step s labels = some t ∧ OnlyProcess i s t ∧
      t.redis.getAt t.now x = none := by
  obtain ⟨labels, s₁, q, k, rest, hrun, honly, hredis, hq, hk⟩ := exists_run_releaseNext hp hx
  have hconfig := honly.config_eq hp hq
  have hadv : q.advance s₁.redis s₁.now .ok (.releaseNext x rest) =
      some (s.redis.del x, { q with heldUntil := q.heldUntil.removeIf x fun _ => true },
        Process.releaseRest rest) := by
    simp [Process.advance, Process.release, releaseShard, hredis, honly.now, hconfig, howner]
  obtain ⟨t, q', hstep, honly', hredis', -⟩ := step_command hq hk hadv rfl rfl
  refine ⟨labels ++ [.command i k .ok], t, ?_, honly.trans honly', ?_⟩
  · rw [Transition.run_append, hrun]
    exact Transition.run_cons_eq_some.mpr ⟨t, hstep, rfl⟩
  · rw [hredis', ExpiringStore.getAt, ExpiringStore.get_del_self]
    rfl

/-- **Shard exclusivity.**  No run of processes with these configurations, from any
    content of Redis and at any time, reaches a state in which two of them hold one
    prefix, if and only if, where two processes can hold a prefix, no other process
    that owns it has the URL of one of them. -/
theorem shards_exclusive_iff (configs : List LeaseConfig) :
    (∀ (redis : ShardRegistry) (now : Nat) (labels : List Label) (t : Cluster),
      Transition.run step (initial configs redis now) labels = some t → t.Exclusive) ↔
      Separate configs := by
  constructor
  · -- `i` claims the prefix, `j` releases `i`'s lease, and `k` claims it
    intro h i j ci cj x hij hi hj hxi hxj hfits ⟨k, ck, hki, hk, hxk, hfitsk⟩ hurl
    let s := initial configs ∅ 0
    have hproc : ∀ (n : Nat) c, configs[n]? = some c →
        s.processes[n]? = some ({ config := c } : Process) := by
      intro n c hn
      simp [s, initial, hn]
    obtain ⟨labels₁, s₁, hrun₁, honly₁, ⟨p, hp, u, hu, hnow⟩, hget₁⟩ :=
      exists_run_claim (hproc i ci hi) hxi hfits (by simp [s, initial, ExpiringStore.getAt])
    obtain ⟨labels₂, s₂, hrun₂, honly₂, hget₂⟩ :=
      exists_run_release ((honly₁.others j (Ne.symm hij)).trans (hproc j cj hj)) hxj
        (hget₁.trans (congrArg some hurl))
    obtain ⟨q, hq, hqc⟩ : ∃ q, s₂.processes[k]? = some q ∧ q.config = ck := by
      refine Option.map_eq_some_iff.mp ?_
      rw [honly₂.map_config, honly₁.map_config, hproc k ck hk]
      rfl
    have hnow₂ : s₂.now = 0 := honly₂.now.trans honly₁.now
    obtain ⟨labels₃, t, hrun₃, honly₃, hholds, -⟩ :=
      exists_run_claim hq (hqc ▸ hxk) (hqc ▸ hnow₂ ▸ hfitsk) hget₂
    have hrun : Transition.run step s (labels₁ ++ (labels₂ ++ labels₃)) = some t := by
      rw [Transition.run_append, hrun₁, Option.bind_some, Transition.run_append, hrun₂]
      exact hrun₃
    have hholds' : t.Holds i x := by
      refine ⟨p, ?_, u, hu, ?_⟩
      · rw [honly₃.others i (Ne.symm hki), honly₂.others i hij, hp]
      · rw [honly₃.now, honly₂.now]
        exact hnow
    exact hki (h ∅ 0 _ t hrun x k i hholds hholds')
  · intro hsep redis now labels t hrun
    have hinv : t.Inv configs :=
      Transition.run_invariant_all (fun _ _ _ h hstep => h.step hsep hstep)
        (.initial configs redis now) hrun
    exact hinv.exclusive hsep

/-- Two workers on different hosts that own `tkrt` and keep the default port, URL and
    TTL. -/
def defaultConfig : LeaseConfig where
  prefixes := ["tkrt"]
  url := "ws://localhost:8081"
  ttlSecs := 30
  prefixes_nonempty := by decide
  prefixes_shape := by decide
  prefixes_nodup := by decide
  url_scheme := by decide
  ttl_range := by decide

theorem default_workers_share_shard :
    ¬∀ (configs : List LeaseConfig) (redis : ShardRegistry) (now : Nat) (labels : List Label)
      (t : Cluster), Transition.run step (initial configs redis now) labels = some t →
        t.Exclusive := by
  intro h
  have hboth := h [defaultConfig, defaultConfig] ∅ 0
    [.acquireAll 0, .command 0 0 .ok, .acquireAll 1, .command 1 0 .ok] _ rfl
  have hsame : (0 : Nat) = 1 :=
    hboth "tkrt" 0 1 ⟨_, rfl, 30000, rfl, by decide⟩ ⟨_, rfl, 30000, rfl, by decide⟩
  exact absurd hsame (by decide)

end Cluster
end PulseGrid.Worker
