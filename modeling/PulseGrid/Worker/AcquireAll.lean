/-
  PulseGrid.Worker.AcquireAll

  One `ShardLease::acquire_all` call (crates/fanout-worker/src/lease.rs) running
  alone against Redis, one command after another, from any content of the shard
  registry.

  The rollback releases every prefix the loop claimed.  `CLAIM_LUA` also answers 1
  for an entry that already carries the worker's URL, so such an entry counts as
  claimed and is deleted when a later claim fails: the call is all or nothing
  exactly when it succeeds, or no prefix it claimed was its own before.
-/

import PulseGrid.Worker.ShardExclusivity

namespace PulseGrid.Worker

-- ============================================================================
-- The call and what runs it
-- ============================================================================

/-- An `acquire_all` in progress, with the clock and the Redis it talks to. -/
structure AcquireCall where
  redis : ShardRegistry
  now : Nat
  process : Process
  call : LeaseCall

namespace AcquireCall

inductive Label where
  | tick (millis : Nat)
  | command (outcome : CommandOutcome)
deriving DecidableEq, Repr

/-- `acquire_all` before its first command. -/
def start (redis : ShardRegistry) (now : Nat) (process : Process) (prefixes : List String) :
    AcquireCall :=
  let (process, call) := process.acquireNext [] prefixes
  { redis := redis, now := now, process := process, call := call }

def step (s : AcquireCall) : Label → Option AcquireCall
  | .tick millis => some { s with now := s.now + millis }
  | .command outcome =>
      (s.process.advance s.redis s.now outcome s.call).map fun (redis, process, call) =>
        { s with redis := redis, process := process, call := call }

/-- The URL that owns a prefix now. -/
def owner (s : AcquireCall) (shardPrefix : String) : Option String :=
  s.redis.getAt s.now shardPrefix

/-- Nothing expires, a claim that fails has no effect and the rollback's releases
    succeed. -/
def Undisturbed (s : AcquireCall) : Label → Prop
  | .tick millis => ∀ shardPrefix, s.redis.getAt (s.now + millis) shardPrefix = s.owner shardPrefix
  | .command outcome => match s.call with
      | .acquireClaim _ _ _ => outcome ≠ .lost
      | .acquireRollback _ _ _ => outcome = .ok
      | _ => True

/-- What the call from `s` to `t` promises about the registry once it has returned. -/
def AllOrNothing (prefixes : List String) (s t : AcquireCall) : Prop :=
  match t.call with
  | .returned .acquired =>
      (∀ x ∈ prefixes, t.owner x = some s.process.config.url) ∧
      ∀ x ∉ prefixes, DashMap.get t.redis x = DashMap.get s.redis x
  | .returned (.notAcquired _) => ∀ x, t.owner x = s.owner x
  | _ => True

/-- A claim of `shardPrefix` succeeds when nobody or the worker itself owns it and
    Redis accepts the expiry time. -/
def claimable (owner : String → Option String) (config : LeaseConfig) (now : Nat)
    (shardPrefix : String) : Bool :=
  (owner shardPrefix = none || owner shardPrefix = some config.url) &&
    expiryFits now config.ttlSecs

/-- The prefixes whose claims succeed before the first claim that does not, given who
    owns what before the call and what becomes of each command. -/
def claimsWon (owner : String → Option String) (config : LeaseConfig) :
    Nat → List String → List Label → List String
  | _, [], _ | _, _, [] => []
  | now, x :: rest, .tick millis :: labels =>
      claimsWon owner config (now + millis) (x :: rest) labels
  | now, x :: rest, .command outcome :: labels =>
      if outcome = .ok ∧ claimable owner config now x = true then
        x :: claimsWon owner config now rest labels
      else []

-- ============================================================================
-- The registry during the call
-- ============================================================================

/-- Since `s` the call has claimed the prefixes `held`, which it still holds, and
    `dropped`, which it has released again. -/
structure Between (s : AcquireCall) (held dropped : List String) (t : AcquireCall) : Prop where
  config : t.process.config = s.process.config
  owner : ∀ x, t.owner x =
    if x ∈ held then some s.process.config.url else if x ∈ dropped then none else s.owner x
  entry : ∀ x, x ∉ held → x ∉ dropped → DashMap.get t.redis x = DashMap.get s.redis x

variable {s t t' : AcquireCall} {held dropped : List String}

theorem Between.refl (s : AcquireCall) : Between s [] [] s where
  config := rfl
  owner x := by simp
  entry _ _ _ := rfl

theorem Between.tick {millis : Nat} (h : Between s held dropped t)
    (hok : t.Undisturbed (.tick millis)) :
    Between s held dropped { t with now := t.now + millis } where
  config := h.config
  owner x := by
    rw [← h.owner x]
    exact hok x
  entry := h.entry

/-- Another position in the call, with the registry as it was. -/
theorem Between.goto {process : Process} (h : Between s held dropped t)
    (hconfig : process.config = t.process.config) (call : LeaseCall) :
    Between s held dropped { t with process := process, call := call } where
  config := hconfig.trans h.config
  owner := h.owner
  entry := h.entry

theorem getAt_of_get_eq {redis redis' : ShardRegistry} {now : Nat} {x : String}
    (h : DashMap.get redis' x = DashMap.get redis x) :
    redis'.getAt now x = redis.getAt now x := by
  unfold ExpiringStore.getAt
  rw [h]

theorem claimShard_of_claimable {redis : ShardRegistry} {now ttlSecs : Nat} {x url : String}
    (howner : redis.getAt now x = none ∨ redis.getAt now x = some url)
    (hfits : expiryFits now ttlSecs) :
    ∃ redis', claimShard redis now x url ttlSecs = some (redis', true) := by
  unfold claimShard
  rcases howner with howner | howner
  · rw [howner]
    exact ⟨_, if_pos hfits⟩
  · rw [howner]
    simp [hfits]

theorem claimShard_of_not_claimable {redis : ShardRegistry} {now ttlSecs : Nat} {x url : String}
    (h : ¬ ((redis.getAt now x = none ∨ redis.getAt now x = some url) ∧
      expiryFits now ttlSecs)) :
    claimShard redis now x url ttlSecs = none ∨
    claimShard redis now x url ttlSecs = some (redis, false) := by
  unfold claimShard
  cases howner : redis.getAt now x with
  | none =>
      have hfits : ¬ expiryFits now ttlSecs := fun hfits => h ⟨.inl howner, hfits⟩
      exact .inl (if_neg hfits)
  | some cur =>
      by_cases hcur : cur = url
      · have hfits : ¬ expiryFits now ttlSecs := by
          rw [hcur] at howner
          exact fun hfits => h ⟨.inr howner, hfits⟩
        left
        simp [hfits, hcur]
      · right
        simp [hcur]

/-- A claim that succeeds adds its prefix to those the call holds. -/
theorem Between.claim {redis : ShardRegistry} {x : String} {process : Process} (call : LeaseCall)
    (h : Between s held [] t)
    (hclaim : claimShard t.redis t.now x t.process.config.url t.process.config.ttlSecs =
      some (redis, true))
    (hconfig : process.config = t.process.config) :
    Between s (held ++ [x]) [] { t with redis := redis, process := process, call := call } where
  config := hconfig.trans h.config
  owner y := by
    obtain ⟨-, -, hself, hothers⟩ := claimShard_true hclaim
    by_cases hy : y = x
    · subst hy
      rw [if_pos (by simp), ← h.config]
      exact ExpiringStore.getAt_eq_some.mpr ⟨_, hself, Nat.le_add_right _ _, rfl⟩
    · have hkept : redis.getAt t.now y = t.owner y := getAt_of_get_eq (hothers y hy)
      simpa [AcquireCall.owner, hy, hkept] using h.owner y
  entry y hy _ := by
    obtain ⟨-, -, -, hothers⟩ := claimShard_true hclaim
    rw [List.mem_append, List.mem_singleton, not_or] at hy
    exact (hothers y hy.2).trans (h.entry y hy.1 List.not_mem_nil)

/-- A release moves its prefix from those the call holds to those it gave back. -/
theorem Between.release {x : String} {process : Process} (call : LeaseCall)
    (h : Between s (x :: held) dropped t) (hx : x ∉ held)
    (hconfig : process.config = t.process.config) :
    Between s held (x :: dropped)
      { t with
        redis := (releaseShard t.redis t.now x t.process.config.url).1
        process := process
        call := call } := by
  have howner : t.redis.getAt t.now x = some t.process.config.url := by
    rw [h.config]
    simpa [AcquireCall.owner] using h.owner x
  have hdel : (releaseShard t.redis t.now x t.process.config.url).1 = t.redis.del x := by
    unfold releaseShard
    rw [if_pos howner]
  rw [hdel]
  refine ⟨hconfig.trans h.config, fun y => ?_, fun y hheld hdropped => ?_⟩
  · by_cases hy : y = x
    · subst hy
      rw [if_neg hx, if_pos List.mem_cons_self]
      unfold AcquireCall.owner ExpiringStore.getAt
      rw [ExpiringStore.get_del_self]
      rfl
    · have hkept : (t.redis.del x).getAt t.now y = t.owner y :=
        getAt_of_get_eq (ExpiringStore.get_del_of_ne _ hy)
      simpa [AcquireCall.owner, hy, hkept] using h.owner y
  · rw [List.mem_cons, not_or] at hdropped
    rw [ExpiringStore.get_del_of_ne _ hdropped.1]
    refine h.entry y ?_ hdropped.2
    rw [List.mem_cons, not_or]
    exact ⟨hdropped.1, hheld⟩

-- ============================================================================
-- The rollback
-- ============================================================================

/-- The call has returned an error and released everything it had claimed. -/
def GivenBack (s : AcquireCall) (claimed : List String) (t : AcquireCall) : Prop :=
  (∃ error, t.call = .returned (.notAcquired error)) ∧
  ∀ x, t.owner x = if x ∈ claimed then none else s.owner x

theorem Between.givenBack {error : LeaseError} {claimed : List String}
    (h : Between s [] dropped t) (hcall : t.call = .returned (.notAcquired error))
    (hmem : ∀ x, x ∈ dropped ↔ x ∈ claimed) : GivenBack s claimed t := by
  refine ⟨⟨error, hcall⟩, fun x => ?_⟩
  rw [h.owner x, if_neg List.not_mem_nil]
  exact if_congr (hmem x) rfl rfl

theorem step_rollback {error : LeaseError} {x : String} {rest : List String}
    (hcall : t.call = .acquireRollback error x rest) (hstep : t.step (.command .ok) = some t') :
    ∃ process : Process, process.config = t.process.config ∧
      t' = { t with
        redis := (releaseShard t.redis t.now x t.process.config.url).1
        process := process
        call := Process.rollbackNext error rest } := by
  refine ⟨{ t.process with heldUntil := t.process.heldUntil.removeIf x fun _ => true }, rfl, ?_⟩
  simpa [step, hcall, Process.advance, Process.release] using hstep.symm

/-- From any point of the rollback on, the call ends with every claim given back. -/
theorem rollback_run {error : LeaseError} {claimed held dropped : List String}
    {labels : List Label} {u : AcquireCall} {result : LeaseResult}
    (h : Between s held dropped t) (hcall : t.call = Process.rollbackNext error held)
    (hnodup : held.Nodup) (hmem : ∀ x, x ∈ held ∨ x ∈ dropped ↔ x ∈ claimed)
    (hok : Transition.RunOk step Undisturbed t labels)
    (hrun : Transition.run step t labels = some u) (hret : u.call = .returned result) :
    GivenBack s claimed u := by
  induction labels generalizing t held dropped with
  | nil =>
      cases Option.some.inj hrun
      cases held with
      | nil => exact h.givenBack hcall (by simpa using hmem)
      | cons x held =>
          rw [hcall] at hret
          cases hret
  | cons label labels ih =>
      obtain ⟨t', hstep, hrest⟩ := Transition.run_cons_eq_some.mp hrun
      obtain ⟨hlabel, hokRest⟩ := Transition.runOk_cons hok hstep
      cases label with
      | tick millis =>
          cases Option.some.inj hstep
          exact ih (h.tick hlabel) hcall hnodup hmem hokRest hrest
      | command outcome =>
          cases held with
          | nil => simp [step, hcall, Process.rollbackNext, Process.advance] at hstep
          | cons x held =>
              have hoked : outcome = .ok := by
                simpa [Undisturbed, hcall, Process.rollbackNext] using hlabel
              subst hoked
              rw [List.nodup_cons] at hnodup
              obtain ⟨process, hconfig, rfl⟩ := step_rollback hcall hstep
              refine ih (h.release _ hnodup.1 hconfig) rfl hnodup.2 (fun y => ?_) hokRest hrest
              rw [← hmem y, List.mem_cons, List.mem_cons]
              tauto

/-- The lookup of the owner before the rollback changes nothing. -/
theorem lookup_run {claimed : List String} {x : String} {labels : List Label} {u : AcquireCall}
    {result : LeaseResult} (h : Between s claimed [] t)
    (hcall : t.call = .acquireLookup claimed x) (hnodup : claimed.Nodup)
    (hok : Transition.RunOk step Undisturbed t labels)
    (hrun : Transition.run step t labels = some u) (hret : u.call = .returned result) :
    GivenBack s claimed u := by
  induction labels generalizing t with
  | nil =>
      cases Option.some.inj hrun
      rw [hcall] at hret
      cases hret
  | cons label labels ih =>
      obtain ⟨t', hstep, hrest⟩ := Transition.run_cons_eq_some.mp hrun
      obtain ⟨hlabel, hokRest⟩ := Transition.runOk_cons hok hstep
      cases label with
      | tick millis =>
          cases Option.some.inj hstep
          exact ih (h.tick hlabel) hcall hokRest hrest
      | command outcome =>
          simp only [step, hcall, Process.advance, Option.map_some, Option.some.injEq] at hstep
          subst hstep
          exact rollback_run (h.goto rfl _) rfl hnodup (by simp) hokRest hrest hret

-- ============================================================================
-- The claims
-- ============================================================================

/-- A claim command: it succeeds exactly where `claimable` says so, and otherwise the
    registry stays as it is and the call goes on to its rollback. -/
theorem step_claim {claimed rest : List String} {x : String} {outcome : CommandOutcome}
    (hcall : t.call = .acquireClaim claimed x rest) (hlost : outcome ≠ .lost)
    (hstep : t.step (.command outcome) = some t') :
    ((outcome = .ok ∧ claimable t.owner t.process.config t.now x = true) ∧
      ∃ redis, claimShard t.redis t.now x t.process.config.url t.process.config.ttlSecs =
          some (redis, true) ∧
        ∃ process : Process, process.config = t.process.config ∧
          t' = { t with
            redis := redis
            process := (process.acquireNext (claimed ++ [x]) rest).1
            call := (process.acquireNext (claimed ++ [x]) rest).2 }) ∨
    (¬ (outcome = .ok ∧ claimable t.owner t.process.config t.now x = true) ∧
      (t' = { t with call := .acquireLookup claimed x } ∨
        t' = { t with call := Process.rollbackNext .cache claimed })) := by
  have hiff : claimable t.owner t.process.config t.now x = true ↔
      (t.redis.getAt t.now x = none ∨ t.redis.getAt t.now x = some t.process.config.url) ∧
        expiryFits t.now t.process.config.ttlSecs := by
    rw [claimable, Bool.and_eq_true, Bool.or_eq_true, decide_eq_true_iff, decide_eq_true_iff,
      decide_eq_true_iff]
    rfl
  by_cases hwins : outcome = .ok ∧ claimable t.owner t.process.config t.now x = true
  · obtain ⟨rfl, hclaimable⟩ := hwins
    obtain ⟨howner, hfits⟩ := hiff.mp hclaimable
    obtain ⟨redis, hclaim⟩ := claimShard_of_claimable howner hfits
    refine .inl ⟨⟨rfl, hclaimable⟩, redis, hclaim, { t.process with
      heldUntil := t.process.heldUntil.put x (t.now + t.process.config.ttlSecs * 1000) }, rfl, ?_⟩
    simpa [step, hcall, Process.advance, Process.claim, hclaim] using hstep.symm
  · refine .inr ⟨hwins, ?_⟩
    cases outcome with
    | lost => exact absurd rfl hlost
    | failed =>
        right
        simpa [step, hcall, Process.advance, Process.claim] using hstep.symm
    | ok =>
        have hnot := fun h => hwins ⟨rfl, hiff.mpr h⟩
        rcases claimShard_of_not_claimable hnot with hclaim | hclaim
        · right
          simpa [step, hcall, Process.advance, Process.claim, hclaim] using hstep.symm
        · left
          simpa [step, hcall, Process.advance, Process.claim, hclaim] using hstep.symm

theorem claimsWon_tick (owner : String → Option String) (config : LeaseConfig) (now millis : Nat)
    (rest : List String) (labels : List Label) :
    claimsWon owner config now rest (.tick millis :: labels) =
      claimsWon owner config (now + millis) rest labels := by
  cases rest with
  | nil => simp [claimsWon]
  | cons x rest => rfl

theorem owner_of_mem_claimsWon {owner : String → Option String} {config : LeaseConfig} {now : Nat}
    {rest : List String} {labels : List Label} {x : String}
    (hx : x ∈ claimsWon owner config now rest labels) :
    owner x = none ∨ owner x = some config.url := by
  induction labels generalizing now rest with
  | nil => cases rest <;> simp [claimsWon] at hx
  | cons label labels ih =>
      cases label with
      | tick millis =>
          rw [claimsWon_tick] at hx
          exact ih hx
      | command outcome =>
          cases rest with
          | nil => simp [claimsWon] at hx
          | cons y rest =>
              simp only [claimsWon] at hx
              split at hx
              · next hwins =>
                rcases List.mem_cons.mp hx with rfl | hx
                · have hclaimable := hwins.2
                  rw [claimable, Bool.and_eq_true, Bool.or_eq_true, decide_eq_true_iff,
                    decide_eq_true_iff] at hclaimable
                  exact hclaimable.1
                · exact ih hx
              · cases hx

/-- From any point of the claim loop on, the call ends in one of two ways: every claim
    succeeds, or everything claimed until the first that does not is given back. -/
theorem acquire_run {claimed rest : List String} {labels : List Label} {u : AcquireCall}
    {result : LeaseResult} (h : Between s claimed [] t)
    (hcall : t.call = (t.process.acquireNext claimed rest).2) (hnodup : (claimed ++ rest).Nodup)
    (hok : Transition.RunOk step Undisturbed t labels)
    (hrun : Transition.run step t labels = some u) (hret : u.call = .returned result) :
    (claimsWon s.owner s.process.config t.now rest labels = rest ∧
      u.call = .returned .acquired ∧ Between s (claimed ++ rest) [] u) ∨
    (claimsWon s.owner s.process.config t.now rest labels ≠ rest ∧
      GivenBack s (claimed ++ claimsWon s.owner s.process.config t.now rest labels) u) := by
  induction labels generalizing t claimed rest with
  | nil =>
      cases Option.some.inj hrun
      cases rest with
      | nil => exact .inl ⟨by simp [claimsWon], hcall, by simpa using h⟩
      | cons x rest =>
          rw [hcall] at hret
          cases hret
  | cons label labels ih =>
      obtain ⟨t', hstep, hrest⟩ := Transition.run_cons_eq_some.mp hrun
      obtain ⟨hlabel, hokRest⟩ := Transition.runOk_cons hok hstep
      cases label with
      | tick millis =>
          cases Option.some.inj hstep
          rw [claimsWon_tick]
          exact ih (h.tick hlabel) hcall hnodup hokRest hrest
      | command outcome =>
          cases rest with
          | nil => simp [step, hcall, Process.acquireNext, Process.advance] at hstep
          | cons x rest =>
              have hlost : outcome ≠ .lost := by
                simpa [Undisturbed, hcall, Process.acquireNext] using hlabel
              have hx : x ∉ claimed := by
                rw [List.nodup_append] at hnodup
                exact fun hmem => hnodup.2.2 x hmem x List.mem_cons_self rfl
              -- before its own claim the prefix has the owner it had before the call
              have howner : t.owner x = s.owner x := by
                simpa [hx] using h.owner x
              have hclaimable : claimable t.owner t.process.config t.now x =
                  claimable s.owner s.process.config t.now x := by
                rw [claimable, claimable, howner, h.config]
              rcases step_claim hcall hlost hstep with
                ⟨hwins, redis, hclaim, process, hconfig, rfl⟩ | ⟨hwins, hnext⟩
              · rw [hclaimable] at hwins
                have hwon : claimsWon s.owner s.process.config t.now (x :: rest)
                    (.command outcome :: labels) =
                    x :: claimsWon s.owner s.process.config t.now rest labels := by
                  simp [claimsWon, hwins]
                have hconfig' : (process.acquireNext (claimed ++ [x]) rest).1.config =
                    t.process.config := by
                  cases rest <;> exact hconfig
                have hcall' : (process.acquireNext (claimed ++ [x]) rest).2 =
                    ((process.acquireNext (claimed ++ [x]) rest).1.acquireNext
                      (claimed ++ [x]) rest).2 := by
                  cases rest <;> rfl
                have hih := ih (h.claim _ hclaim hconfig') hcall' (by simpa using hnodup)
                  hokRest hrest
                rw [hwon]
                simpa using hih
              · rw [hclaimable] at hwins
                have hwon : claimsWon s.owner s.process.config t.now (x :: rest)
                    (.command outcome :: labels) = [] := by
                  simp only [claimsWon]
                  exact if_neg hwins
                rw [hwon, List.append_nil]
                refine .inr ⟨by simp, ?_⟩
                have hclaimed : claimed.Nodup := (List.nodup_append.mp hnodup).1
                rcases hnext with rfl | rfl
                · exact lookup_run (h.goto rfl _) rfl hclaimed hokRest hrest hret
                · exact rollback_run (h.goto rfl _) rfl hclaimed (by simp) hokRest hrest hret

-- ============================================================================
-- All or nothing
-- ============================================================================

@[simp] theorem start_config (redis : ShardRegistry) (now : Nat) (process : Process)
    (prefixes : List String) :
    (start redis now process prefixes).process.config = process.config := by
  cases prefixes <;> rfl

@[simp] theorem start_now (redis : ShardRegistry) (now : Nat) (process : Process)
    (prefixes : List String) : (start redis now process prefixes).now = now := rfl

@[simp] theorem start_owner (redis : ShardRegistry) (now : Nat) (process : Process)
    (prefixes : List String) :
    (start redis now process prefixes).owner = redis.getAt now := rfl

theorem start_call (redis : ShardRegistry) (now : Nat) (process : Process)
    (prefixes : List String) :
    (start redis now process prefixes).call =
      ((start redis now process prefixes).process.acquireNext [] prefixes).2 := by
  cases prefixes <;> rfl

/-- `acquire_all` is all or nothing exactly when all its claims succeed, or none of the
    prefixes it claims before the first that does not was already its own. -/
theorem acquireAll_allOrNothing_iff (redis : ShardRegistry) (now : Nat) (process : Process)
    {prefixes : List String} (hnodup : prefixes.Nodup) {labels : List Label} {t : AcquireCall}
    {result : LeaseResult}
    (hok : Transition.RunOk step Undisturbed (start redis now process prefixes) labels)
    (hrun : Transition.run step (start redis now process prefixes) labels = some t)
    (hret : t.call = .returned result) :
    AllOrNothing prefixes (start redis now process prefixes) t ↔
      claimsWon (redis.getAt now) process.config now prefixes labels = prefixes ∨
      ∀ x ∈ claimsWon (redis.getAt now) process.config now prefixes labels,
        redis.getAt now x ≠ some process.config.url := by
  have hend := acquire_run (Between.refl _) (start_call redis now process prefixes) hnodup hok
    hrun hret
  rw [start_config, start_owner, start_now, List.nil_append, List.nil_append] at hend
  rcases hend with ⟨hwon, hacquired, hbetween⟩ | ⟨hwon, ⟨error, herror⟩, howner⟩
  · refine iff_of_true ?_ (.inl hwon)
    rw [AllOrNothing, hacquired]
    refine ⟨fun x hx => ?_, fun x hx => ?_⟩
    · rw [hbetween.owner x, if_pos hx]
    · rw [hbetween.entry x hx List.not_mem_nil]
  · rw [AllOrNothing, herror, or_iff_right hwon, start_owner]
    refine ⟨fun hsame x hx hown => ?_, fun hfree x => ?_⟩
    · -- the rollback deleted an entry that was the worker's own before the call
      have hgone : none = some process.config.url := by
        rw [← hown, ← hsame x, howner x, if_pos hx]
      cases hgone
    · rw [howner x]
      split
      · next hx =>
        rcases owner_of_mem_claimsWon hx with hnone | hown
        · exact hnone.symm
        · exact absurd hown (hfree x hx)
      · rw [start_owner]

/-- A worker of two shards. -/
def twoShardConfig : LeaseConfig where
  prefixes := ["tkrt", "tkrv"]
  url := "ws://worker-a:8081"
  ttlSecs := 30
  prefixes_nonempty := by decide
  prefixes_shape := by decide
  prefixes_nodup := by decide
  url_scheme := by decide
  ttl_range := Cluster.defaultConfig.ttl_range

/-- No command fails. -/
theorem undisturbed_replicate_ok (s : AcquireCall) (n : Nat) :
    Transition.RunOk step Undisturbed s (List.replicate n (.command .ok)) := by
  induction n generalizing s with
  | zero => trivial
  | succ n ih =>
      refine ⟨?_, ?_⟩
      · unfold Undisturbed
        cases s.call <;> simp
      · cases s.step (.command .ok) with
        | none => trivial
        | some t => exact ih t

/-- `tkrv` is leased to another worker as well. -/
def contested (redis : ShardRegistry) : ShardRegistry :=
  redis.setEx "tkrv" "ws://worker-b:8081" 30000

/-- `tkrt` is free: the failed call gives it back. -/
theorem acquireAll_conflict_restores :
    ∃ t, Transition.run step
        (start (contested ∅) 0 { config := twoShardConfig } twoShardConfig.prefixes)
        (List.replicate 4 (.command .ok)) = some t ∧
      AllOrNothing twoShardConfig.prefixes
        (start (contested ∅) 0 { config := twoShardConfig } twoShardConfig.prefixes) t := by
  refine ⟨_, rfl, ?_⟩
  exact (acquireAll_allOrNothing_iff _ 0 _ twoShardConfig.prefixes_nodup
    (undisturbed_replicate_ok _ 4) rfl rfl).mpr (.inr (by decide))

/-- `tkrt` is still leased to the worker's URL, from before a restart: the call fails and
    that lease is gone. -/
theorem acquireAll_drops_own_lease :
    ¬ ∀ (redis : ShardRegistry) (now : Nat) (process : Process) (prefixes : List String),
      prefixes.Nodup → ∀ (labels : List Label) (t : AcquireCall) (result : LeaseResult),
        Transition.RunOk step Undisturbed (start redis now process prefixes) labels →
        Transition.run step (start redis now process prefixes) labels = some t →
        t.call = .returned result →
        AllOrNothing prefixes (start redis now process prefixes) t := by
  intro h
  have hall := h
    (contested ((∅ : ShardRegistry).setEx "tkrt" "ws://worker-a:8081" 20000)) 0
    { config := twoShardConfig } twoShardConfig.prefixes twoShardConfig.prefixes_nodup
    (List.replicate 4 (.command .ok)) _ _ (undisturbed_replicate_ok _ 4) rfl rfl
  have hlost := hall "tkrt"
  exact absurd hlost (by decide)

end AcquireCall
end PulseGrid.Worker
