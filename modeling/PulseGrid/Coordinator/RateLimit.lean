/-
  PulseGrid.Coordinator.RateLimit

  The rate limit of a route: `refill_period_ms` and `with_limit` (crates/api-coordinator/src/
  middleware/rate_limit.rs).  A `tower_governor` layer is one token bucket a client, that
  regains a token every refill period; idle clients are forgotten now and then.

  The refill period is a whole number of milliseconds, rounded down, so the rate that is
  enforced is the configured one only where that divides 1000 (`rateBounded_iff`).
-/

import PulseGrid.Coordinator.Config
import PulseGrid.Lib.TokenBucket

namespace PulseGrid.Coordinator

-- ============================================================================
-- The layer
-- ============================================================================

inductive IpAddr where
  | v4 (bits : BitVec 32)
  | v6 (bits : BitVec 128)
deriving DecidableEq, Repr

/-- What a request says about its client: the address of the socket peer, and the first
    address that its forwarding headers name. -/
structure ClientInfo where
  peer : Option IpAddr
  forwardedFor : Option IpAddr
deriving DecidableEq, Repr

inductive KeyExtractor where
  | peerIp
  | smartIp
deriving DecidableEq, Repr

def KeyExtractor.extract (client : ClientInfo) : KeyExtractor → Option IpAddr
  | .peerIp => client.peer
  | .smartIp => client.forwardedFor.or client.peer

structure GovernorLayer where
  extractor : KeyExtractor
  bucket : TokenBucket
deriving DecidableEq, Repr

/-- Milliseconds between two refilled tokens. -/
def refillPeriodMs (limit : Limit) : Nat := max (1000 / max limit.perSec 1) 1

/-- `per_millisecond(period).burst_size(burst).finish()`, in nanoseconds; `none` when either is
    zero. -/
def finish (periodMs burst : Nat) : Option TokenBucket :=
  if periodMs = 0 ∨ burst = 0 then none
  else some { capacity := burst, period := periodMs * 1_000_000 }

/-- `with_limit`: the layer it puts around the route, none when limits are disabled.  The outer
    `none` is the `expect` of a configuration that `finish` refuses. -/
def withLimit (limit : Limit) (limits : RateLimits) : Option (Option GovernorLayer) :=
  if limits.disabled then some none
  else
    (finish (refillPeriodMs limit) limit.burst).map fun bucket =>
      some { extractor := if limits.trustProxyHeaders then .smartIp else .peerIp, bucket }

inductive LayerEvent where
  | request (client : ClientInfo)
  /-- A tick of the task that calls `retain_recent`. -/
  | retainRecent
deriving DecidableEq, Repr

namespace GovernorLayer

/-- A request without a key is refused before it gets to a bucket. -/
def bucketEvent (layer : GovernorLayer) : LayerEvent → Option (TokenBucket.Event IpAddr)
  | .request client => (layer.extractor.extract client).map .request
  | .retainRecent => some .forgetIdle

def bucketEvents (layer : GovernorLayer) (run : List (Nat × LayerEvent)) :
    List (Nat × TokenBucket.Event IpAddr) :=
  run.filterMap fun e => (layer.bucketEvent e.2).map fun event => (e.1, event)

/-- The requests of a client that the layer lets through from `lo` to `hi`, both included, out
    of a run of timed events.  Times are nanoseconds. -/
def admittedIn (layer : GovernorLayer) (run : List (Nat × LayerEvent)) (client : IpAddr)
    (lo hi : Nat) : Nat :=
  layer.bucket.admittedForIn (layer.bucketEvents run) client lo hi

theorem bucketEvents_times_sublist (layer : GovernorLayer) (run : List (Nat × LayerEvent)) :
    ((layer.bucketEvents run).map Prod.fst).Sublist (run.map Prod.fst) := by
  induction run with
  | nil => exact List.Sublist.refl _
  | cons e run ih =>
      rw [bucketEvents, List.filterMap_cons, List.map_cons]
      split
      · exact ih.cons _
      · next b h =>
          obtain ⟨event, -, rfl⟩ := Option.map_eq_some_iff.mp h
          exact ih.cons_cons _

end GovernorLayer

-- ============================================================================
-- The enforced rate
-- ============================================================================

/-- `perSec` a second over a number of nanoseconds, rounded up. -/
def allowance (limit : Limit) (nanos : Nat) : Nat :=
  (limit.perSec * nanos + 999_999_999) / 1_000_000_000

/-- In every run, no client gets more than the burst and the configured rate through in any
    window. -/
def RateBounded (layer : GovernorLayer) (limit : Limit) : Prop :=
  ∀ run : List (Nat × LayerEvent), (run.map Prod.fst).Pairwise (· ≤ ·) →
    ∀ (client : IpAddr) (start nanos : Nat),
      layer.admittedIn run client start (start + nanos) ≤ limit.burst + allowance limit nanos

/-- An accepted limit makes a layer, unless limits are disabled: `expect` does not panic. -/
theorem withLimit_of_accepted {get : Lookup} {perSecName burstName : String}
    {default limit : Limit} (h : parseLimit get perSecName burstName default = .ok limit)
    (limits : RateLimits) :
    withLimit limit limits = some (if limits.disabled then none
      else some { extractor := if limits.trustProxyHeaders then .smartIp else .peerIp,
                  bucket := { capacity := limit.burst,
                              period := refillPeriodMs limit * 1_000_000 } }) := by
  have hburst := (parseLimit_eq_ok h).2
  have hperiod : 1 ≤ refillPeriodMs limit := Nat.le_max_right _ _
  have hvalid : ¬ (refillPeriodMs limit = 0 ∨ limit.burst = 0) := by omega
  rw [withLimit]
  split
  · rfl
  · rw [finish, if_neg hvalid]
    rfl

/-- The layer enforces one request per refill period. -/
theorem admittedIn_le {layer : GovernorLayer} (hperiod : 0 < layer.bucket.period)
    {run : List (Nat × LayerEvent)} (hsorted : (run.map Prod.fst).Pairwise (· ≤ ·))
    (client : IpAddr) (start nanos : Nat) :
    layer.admittedIn run client start (start + nanos) ≤
      layer.bucket.capacity + nanos / layer.bucket.period := by
  have hbound := TokenBucket.admittedForIn_le hperiod client (Nat.le_add_right start nanos)
    (hsorted.sublist (layer.bucketEvents_times_sublist run))
  rwa [Nat.add_sub_cancel_left] at hbound

/-- A client that uses the layer's rate to the full. -/
def greedyRun (layer : GovernorLayer) (client : IpAddr) (n : Nat) : List (Nat × LayerEvent) :=
  (layer.bucket.saturating n).map fun now =>
    (now, .request { peer := some client, forwardedFor := none })

theorem admittedIn_greedyRun (layer : GovernorLayer) (hcapacity : 1 ≤ layer.bucket.capacity)
    (client : IpAddr) (n : Nat) :
    ((greedyRun layer client n).map Prod.fst).Pairwise (· ≤ ·) ∧
    layer.admittedIn (greedyRun layer client n) client 0 (0 + n * layer.bucket.period) =
      layer.bucket.capacity + n := by
  have hkey : layer.extractor.extract { peer := some client, forwardedFor := none } =
      some client := by
    cases layer.extractor <;> rfl
  have hevents : layer.bucketEvents (greedyRun layer client n) =
      layer.bucket.saturatingFor client n := by
    rw [GovernorLayer.bucketEvents, greedyRun, List.filterMap_map, TokenBucket.saturatingFor,
      ← List.filterMap_eq_map]
    apply List.filterMap_congr
    intro now _
    show Option.map _ (Option.map _ _) = _
    rw [hkey]
    rfl
  have htimes : (greedyRun layer client n).map Prod.fst = layer.bucket.saturating n := by
    rw [greedyRun, List.map_map]
    exact List.map_id _
  refine ⟨?_, ?_⟩
  · rw [htimes]
    exact (List.pairwise_cons.mp (TokenBucket.saturating_sorted n)).2
  · rw [GovernorLayer.admittedIn, hevents, Nat.zero_add]
    exact (TokenBucket.admittedForIn_saturatingFor hcapacity client n).2

-- ============================================================================
-- Against the configured rate
-- ============================================================================

/-- The refill period, times the rate, is a second exactly when the rate divides it. -/
theorem refillPeriodMs_mul {limit : Limit} (h1 : 1 ≤ limit.perSec) (h : limit.perSec ≤ 1000) :
    (limit.perSec ∣ 1000 → refillPeriodMs limit * limit.perSec = 1000) ∧
    (¬ limit.perSec ∣ 1000 → refillPeriodMs limit * limit.perSec ≤ 999) := by
  have hquot : 1 ≤ 1000 / limit.perSec := (Nat.one_le_div_iff h1).mpr h
  have hperiod : refillPeriodMs limit = 1000 / limit.perSec := by
    rw [refillPeriodMs]
    rw [Nat.max_eq_left h1, Nat.max_eq_left hquot]
  rw [hperiod]
  constructor
  · exact fun hdvd => Nat.div_mul_cancel hdvd
  · intro hdvd
    have hle := Nat.div_mul_le_self 1000 limit.perSec
    have hne : 1000 / limit.perSec * limit.perSec ≠ 1000 := by
      intro heq
      exact hdvd (Dvd.intro_left _ heq)
    omega

section

variable {layer : GovernorLayer} {limit : Limit}

/-- Where a refill period is the configured one, so is the rate. -/
theorem rateBounded_of_exact (hcapacity : layer.bucket.capacity = limit.burst)
    (hexact : layer.bucket.period * limit.perSec = 1_000_000_000) : RateBounded layer limit := by
  intro run hsorted client start nanos
  have hperiod : 0 < layer.bucket.period := by
    apply Nat.pos_of_ne_zero
    intro hzero
    rw [hzero, Nat.zero_mul] at hexact
    cases hexact
  have hbound := admittedIn_le hperiod hsorted client start nanos
  rw [hcapacity] at hbound
  have hrate : nanos / layer.bucket.period ≤ allowance limit nanos := by
    have hpaid : nanos / layer.bucket.period * 1_000_000_000 ≤ limit.perSec * nanos :=
      calc nanos / layer.bucket.period * 1_000_000_000
          = nanos / layer.bucket.period * layer.bucket.period * limit.perSec := by
            rw [← hexact, Nat.mul_assoc]
        _ ≤ nanos * limit.perSec := Nat.mul_le_mul_right _ (Nat.div_mul_le_self _ _)
        _ = limit.perSec * nanos := Nat.mul_comm _ _
    rw [allowance, Nat.le_div_iff_mul_le (by decide)]
    omega
  omega

/-- Where it is shorter, a greedy client gets a request too many through within a thousand
    periods. -/
theorem not_rateBounded_of_short (hcapacity : layer.bucket.capacity = limit.burst)
    (hburst : 1 ≤ limit.burst)
    (hshort : layer.bucket.period * limit.perSec ≤ 999_000_000) : ¬ RateBounded layer limit := by
  intro hbounded
  obtain ⟨hsorted, hcount⟩ :=
    admittedIn_greedyRun layer (by omega) (.v4 0) 1000
  have hle := hbounded _ hsorted (.v4 0) 0 (1000 * layer.bucket.period)
  rw [hcount, hcapacity] at hle
  have hallowed : allowance limit (1000 * layer.bucket.period) ≤ 999 := by
    rw [allowance, ← Nat.lt_succ_iff, Nat.div_lt_iff_lt_mul (by decide)]
    rw [Nat.mul_left_comm, Nat.mul_comm limit.perSec]
    omega
  omega

end

/-- **The enforced rate exceeds the configured one unless that divides 1000.**  For every limit
    that `parse_limit` accepts and the layer that `with_limit` builds from it, the requests
    admitted in any window stay within the burst and the configured rate, in every run and for
    every client, if and only if the rate divides 1000. -/
theorem rateBounded_iff {get : Lookup} {perSecName burstName : String} {default limit : Limit}
    (h : parseLimit get perSecName burstName default = .ok limit) {limits : RateLimits}
    {layer : GovernorLayer} (hlayer : withLimit limit limits = some (some layer)) :
    RateBounded layer limit ↔ limit.perSec ∣ 1000 := by
  obtain ⟨⟨hone, hmax⟩, hburst⟩ := parseLimit_eq_ok h
  have hbuilt := withLimit_of_accepted h limits
  rw [hlayer, Option.some.injEq] at hbuilt
  obtain ⟨hcapacity, hperiod⟩ : layer.bucket.capacity = limit.burst ∧
      layer.bucket.period = refillPeriodMs limit * 1_000_000 := by
    split at hbuilt
    · cases hbuilt
    · obtain rfl := Option.some.inj hbuilt
      exact ⟨rfl, rfl⟩
  obtain ⟨hdivides, hshort⟩ := refillPeriodMs_mul hone hmax
  have hscale : layer.bucket.period * limit.perSec =
      refillPeriodMs limit * limit.perSec * 1_000_000 := by
    rw [hperiod, Nat.mul_right_comm]
  constructor
  · intro hbounded
    by_contra hdvd
    have hms := hshort hdvd
    exact not_rateBounded_of_short hcapacity hburst (by omega) hbounded
  · intro hdvd
    exact rateBounded_of_exact hcapacity (by rw [hscale, hdivides hdvd])

/-- Limits that are on, and keyed by the socket peer. -/
def exampleLimits (limit : Limit) : RateLimits where
  register := limit
  location := limit
  alerts := limit
  disabled := false
  trustProxyHeaders := false

/-- The default of registrations is five a second, ten at once. -/
theorem withLimit_register : withLimit ⟨5, 10⟩ (exampleLimits ⟨5, 10⟩) =
    some (some ⟨.peerIp, 10, 200_000_000⟩) := by
  decide

theorem rateBounded_iff_register : RateBounded ⟨.peerIp, 10, 200_000_000⟩ ⟨5, 10⟩ := by
  have haccepted : parseLimit (fun _ => none) "RATE_LIMIT_REGISTER_PER_SEC"
      "RATE_LIMIT_REGISTER_BURST" ⟨5, 10⟩ = .ok ⟨5, 10⟩ := rfl
  exact (rateBounded_iff haccepted withLimit_register).mpr (by decide)

/-- 600 a second become one a millisecond. -/
theorem rate_exceeds_configured :
    ¬ ∀ (get : Lookup) (perSecName burstName : String) (default limit : Limit)
      (limits : RateLimits) (layer : GovernorLayer),
      parseLimit get perSecName burstName default = .ok limit →
      withLimit limit limits = some (some layer) → RateBounded layer limit := by
  intro hall
  let alerts : Lookup := fun name =>
    if name = "RATE_LIMIT_ALERTS_PER_SEC" then some "600".toList else none
  have haccepted : parseLimit alerts "RATE_LIMIT_ALERTS_PER_SEC" "RATE_LIMIT_ALERTS_BURST" ⟨2, 5⟩ =
      .ok ⟨600, 5⟩ := by decide +kernel
  have hlayer : withLimit ⟨600, 5⟩ (exampleLimits ⟨600, 5⟩) =
      some (some ⟨.peerIp, 5, 1_000_000⟩) := by decide
  exact not_rateBounded_of_short rfl (by decide) (by decide)
    (hall alerts _ _ _ _ _ _ haccepted hlayer)

end PulseGrid.Coordinator
