/-
  PulseGrid.Worker.ShardLease

  Shard ownership: `ShardRegistry` with its two Lua scripts
  (crates/infra/src/redis.rs) and `ShardLease` (crates/fanout-worker/src/lease.rs),
  as a cluster of processes that share one Redis and one clock.

  `acquire_all`, `refresh_once` and `release_all` run one Redis command at a time,
  any number of them at once in each process.  A command may also fail, or run and
  lose its reply.  Times are in milliseconds.
-/

import PulseGrid.Lib.ExpiringStore
import PulseGrid.Lib.Transition

namespace PulseGrid.Worker

-- ============================================================================
-- Configuration
-- ============================================================================

/-- `GEOHASH_ALPHABET`. -/
def geohashAlphabet : String := "0123456789bcdefghjkmnpqrstuvwxyz"

/-- What `parse_prefixes` accepts as one prefix. -/
def isShardPrefix (p : String) : Bool :=
  p.length = 4 && p.toList.all fun c => geohashAlphabet.toList.contains c

/-- What a worker's accepted configuration says about its leases. -/
structure LeaseConfig where
  /-- `owned_prefixes`. -/
  prefixes : List String
  /-- `public_url`. -/
  url : String
  /-- `lease_ttl_secs`. -/
  ttlSecs : Nat
  prefixes_nonempty : prefixes ≠ []
  prefixes_shape : ∀ p ∈ prefixes, isShardPrefix p = true
  prefixes_nodup : prefixes.Nodup
  url_scheme : "ws://".toList.isPrefixOf url.toList || "wss://".toList.isPrefixOf url.toList
  ttl_range : 3 ≤ ttlSecs ∧ ttlSecs < 2 ^ 64

-- ============================================================================
-- Redis
-- ============================================================================

/-- The `shard-worker:` keys: the URL of the owner of each prefix. -/
abbrev ShardRegistry := ExpiringStore String String

/-- Redis refuses an expiry time that does not fit in a signed 64-bit number of
    milliseconds. -/
def expiryFits (now ttlSecs : Nat) : Prop := now + ttlSecs * 1000 ≤ 2 ^ 63 - 1

instance (now ttlSecs : Nat) : Decidable (expiryFits now ttlSecs) :=
  inferInstanceAs (Decidable (_ ≤ _))

/-- `CLAIM_LUA`; `none` is the error Redis answers to an impossible TTL. -/
def claimShard (redis : ShardRegistry) (now : Nat) (shardPrefix workerWsUrl : String)
    (ttlSecs : Nat) : Option (ShardRegistry × Bool) :=
  match redis.getAt now shardPrefix with
  | none =>
      if expiryFits now ttlSecs then
        some (redis.setEx shardPrefix workerWsUrl (now + ttlSecs * 1000), true)
      else none
  | some cur =>
      if cur = workerWsUrl then
        if expiryFits now ttlSecs then
          some (redis.expire shardPrefix (now + ttlSecs * 1000), true)
        else none
      else some (redis, false)

/-- `RELEASE_LUA`. -/
def releaseShard (redis : ShardRegistry) (now : Nat) (shardPrefix workerWsUrl : String) :
    ShardRegistry × Bool :=
  if redis.getAt now shardPrefix = some workerWsUrl then (redis.del shardPrefix, true)
  else (redis, false)

/-- `GET`. -/
def lookupShard (redis : ShardRegistry) (now : Nat) (shardPrefix : String) : Option String :=
  redis.getAt now shardPrefix

/-- What becomes of one command: it runs, it fails without effect, or it runs and
    its reply is lost. -/
inductive CommandOutcome where
  | ok
  | failed
  | lost
deriving DecidableEq, Repr

-- ============================================================================
-- The calls of one process
-- ============================================================================

inductive LeaseError where
  | conflict (message : String)
  /-- `AppError::Cache`, with Redis's own text. -/
  | cache
deriving DecidableEq, Repr

inductive LeaseResult where
  | acquired
  | notAcquired (error : LeaseError)
  | refreshed (allHeld : Bool)
  | released
deriving DecidableEq, Repr

/-- The next Redis command of a call. -/
inductive LeaseCall where
  /-- `acquire_all` is about to claim `shardPrefix`. -/
  | acquireClaim (claimed : List String) (shardPrefix : String) (rest : List String)
  /-- `acquire_all` asks who owns `shardPrefix`. -/
  | acquireLookup (claimed : List String) (shardPrefix : String)
  /-- `acquire_all` releases what it claimed. -/
  | acquireRollback (error : LeaseError) (shardPrefix : String) (rest : List String)
  | refreshClaim (allHeld : Bool) (shardPrefix : String) (rest : List String)
  | releaseNext (shardPrefix : String) (rest : List String)
  | returned (result : LeaseResult)
deriving DecidableEq, Repr

/-- A fanout-worker process. -/
structure Process where
  config : LeaseConfig
  healthy : Bool := false
  calls : List LeaseCall := []
  /-- For each prefix, when the TTL of the last claim that returned true is over;
      nothing if `release_shard` was called since. -/
  heldUntil : DashMap String Nat := ∅

namespace Process

/-- Go on with `acquire_all` after `claimed` was claimed. -/
def acquireNext (p : Process) (claimed : List String) : List String → Process × LeaseCall
  | [] => ({ p with healthy := true }, .returned .acquired)
  | shardPrefix :: rest => (p, .acquireClaim claimed shardPrefix rest)

/-- `release(&claimed)` and the error after it. -/
def rollbackNext (error : LeaseError) : List String → LeaseCall
  | [] => .returned (.notAcquired error)
  | shardPrefix :: rest => .acquireRollback error shardPrefix rest

def refreshNext (p : Process) (allHeld : Bool) : List String → Process × LeaseCall
  | [] => ({ p with healthy := allHeld }, .returned (.refreshed allHeld))
  | shardPrefix :: rest => (p, .refreshClaim allHeld shardPrefix rest)

def releaseRest : List String → LeaseCall
  | [] => .returned .released
  | shardPrefix :: rest => .releaseNext shardPrefix rest

/-- `claim_shard` and what the process knows afterwards; the reply is `none` for an
    error. -/
def claim (p : Process) (redis : ShardRegistry) (now : Nat) (shardPrefix : String)
    (outcome : CommandOutcome) : ShardRegistry × Process × Option Bool :=
  match outcome, claimShard redis now shardPrefix p.config.url p.config.ttlSecs with
  | .failed, _ | _, none => (redis, p, none)
  | .lost, some (redis', _) => (redis', p, none)
  | .ok, some (redis', won) =>
      (redis', if won then
          { p with heldUntil := p.heldUntil.put shardPrefix (now + p.config.ttlSecs * 1000) }
        else p, some won)

/-- `release_shard`: whatever its outcome, the process has given the prefix up. -/
def release (p : Process) (redis : ShardRegistry) (now : Nat) (shardPrefix : String)
    (outcome : CommandOutcome) : ShardRegistry × Process :=
  (match outcome with
    | .failed => redis
    | .ok | .lost => (releaseShard redis now shardPrefix p.config.url).1,
   { p with heldUntil := p.heldUntil.removeIf shardPrefix fun _ => true })

/-- The text of the error `acquire_all` returns when another worker owns a prefix. -/
def conflictMessage (shardPrefix owner : String) : String :=
  "shard " ++ shardPrefix ++ " is already owned by " ++ owner ++ "; give each worker its own " ++
    "FANOUT_WORKER_SHARD_PREFIXES (or wait for the old lease to expire)"

/-- The next command of a call; `none` when it has returned. -/
def advance (p : Process) (redis : ShardRegistry) (now : Nat) (outcome : CommandOutcome) :
    LeaseCall → Option (ShardRegistry × Process × LeaseCall)
  | .acquireClaim claimed shardPrefix rest =>
      match p.claim redis now shardPrefix outcome with
      | (redis, p, some true) => some (redis, p.acquireNext (claimed ++ [shardPrefix]) rest)
      | (redis, p, some false) => some (redis, p, .acquireLookup claimed shardPrefix)
      | (redis, p, none) => some (redis, p, rollbackNext .cache claimed)
  | .acquireLookup claimed shardPrefix =>
      let owner := if outcome = .ok then lookupShard redis now shardPrefix else none
      some (redis, p, rollbackNext
        (.conflict (conflictMessage shardPrefix (owner.getD "another worker"))) claimed)
  | .acquireRollback error shardPrefix rest =>
      let (redis, p) := p.release redis now shardPrefix outcome
      some (redis, p, rollbackNext error rest)
  | .refreshClaim allHeld shardPrefix rest =>
      match p.claim redis now shardPrefix outcome with
      | (redis, p, some true) => some (redis, p.refreshNext allHeld rest)
      | (redis, p, _) => some (redis, p.refreshNext false rest)
  | .releaseNext shardPrefix rest =>
      let (redis, p) := p.release redis now shardPrefix outcome
      some (redis, p, releaseRest rest)
  | .returned _ => none

end Process

-- ============================================================================
-- All processes
-- ============================================================================

structure Cluster where
  redis : ShardRegistry := ∅
  now : Nat := 0
  processes : List Process := []

namespace Cluster

inductive Label where
  /-- Time passes. -/
  | tick (millis : Nat)
  | acquireAll (i : Nat)
  | refreshOnce (i : Nat)
  | releaseAll (i : Nat)
  /-- The next command of call `k` of process `i`. -/
  | command (i k : Nat) (outcome : CommandOutcome)
deriving DecidableEq, Repr

/-- Process `i` starts a call. -/
def start (s : Cluster) (i : Nat) (f : Process → Process × LeaseCall) : Option Cluster :=
  match s.processes[i]? with
  | none => none
  | some p =>
      let (p, pc) := f p
      some { s with processes := s.processes.set i { p with calls := p.calls ++ [pc] } }

def step (s : Cluster) : Label → Option Cluster
  | .tick millis => some { s with now := s.now + millis }
  | .acquireAll i => s.start i fun p => p.acquireNext [] p.config.prefixes
  | .refreshOnce i => s.start i fun p => p.refreshNext true p.config.prefixes
  | .releaseAll i =>
      s.start i fun p => ({ p with healthy := false }, Process.releaseRest p.config.prefixes)
  | .command i k outcome =>
      match s.processes[i]? with
      | none => none
      | some p => match p.calls[k]? with
        | none => none
        | some pc => (p.advance s.redis s.now outcome pc).map fun (redis, p', pc') =>
            { s with
              redis := redis
              processes := s.processes.set i { p' with calls := p'.calls.set k pc' } }

/-- Process `i` holds the prefix: the TTL of its last true claim is not over and it
    has not released it since. -/
def Holds (s : Cluster) (i : Nat) (shardPrefix : String) : Prop :=
  ∃ p, s.processes[i]? = some p ∧ ∃ u, p.heldUntil.get shardPrefix = some u ∧ s.now ≤ u

/-- No prefix is held by two processes. -/
def Exclusive (s : Cluster) : Prop :=
  ∀ shardPrefix i j, s.Holds i shardPrefix → s.Holds j shardPrefix → i = j

/-- Processes with these configurations before they did anything. -/
def initial (configs : List LeaseConfig) (redis : ShardRegistry) (now : Nat) : Cluster :=
  { redis := redis, now := now, processes := configs.map fun config => { config := config } }

end Cluster
end PulseGrid.Worker
