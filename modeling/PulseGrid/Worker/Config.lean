/-
  PulseGrid.Worker.Config

  A worker's configuration: `Config::from_lookup` (crates/fanout-worker/src/config.rs).  The
  helpers that read one variable are those of the coordinator, word for word.

  `fromLookup_eq_ok_iff` takes the reading apart into one condition a field.  An accepted
  configuration is one that leases can be taken with (`Config.lease`), and `respelled_iff` says
  when it is read again from its own spelling.
-/

import PulseGrid.Coordinator.Config
import PulseGrid.Domain.Protocol
import PulseGrid.Worker.ShardPrefixes

namespace PulseGrid.Worker

open RustStr
open Coordinator (Lookup Limit ensure nonBlank required parseOr parseBool readEnvironment
  readLogJson bind_eq_ok ensure_eq_ok)

structure Config where
  production : Bool
  redisUrl : List Char
  natsUrl : List Char
  port : Nat
  ownedPrefixes : List (List Char)
  publicUrl : List Char
  leaseTtlSecs : Nat
  connectLimit : Limit
  rateLimitDisabled : Bool
  trustProxyHeaders : Bool
  operatorKeys : ApiKeys
  logJson : Bool
  alertStreamMaxAgeSecs : Nat
  replayMaxAlerts : Nat
  instanceId : List Char
deriving DecidableEq, Repr

-- ============================================================================
-- `Config::from_lookup`
-- ============================================================================

def hasScheme (url : List Char) : Bool :=
  "ws://".toList.isPrefixOf url || "wss://".toList.isPrefixOf url

/-- `url.trim().trim_end_matches('/')`. -/
def tidyUrl (url : List Char) : List Char := (trim url).rdropWhile (· == '/')

def readPublicUrl (get : Lookup) (port : Nat) : Except String (List Char) := do
  let url := tidyUrl ((nonBlank get "WORKER_PUBLIC_URL").getD
    ("ws://localhost:".toList ++ Nat.toDigits 10 port))
  ensure (hasScheme url)
    ("WORKER_PUBLIC_URL must start with ws:// or wss://, got '" ++ String.ofList url ++ "'")
  return url

def readLeaseTtlSecs (get : Lookup) : Except String Nat := do
  let leaseTtlSecs ← parseOr (parseUnsigned 64) get "SHARD_LEASE_TTL_SECS" 30
  ensure (3 ≤ leaseTtlSecs) "SHARD_LEASE_TTL_SECS must be at least 3"
  return leaseTtlSecs

def readConnectLimit (get : Lookup) : Except String Limit := do
  let perSec ← parseOr (parseUnsigned 32) get "WS_CONNECT_RATE_PER_SEC" 50
  let burst ← parseOr (parseUnsigned 32) get "WS_CONNECT_BURST" 100
  ensure ((1 ≤ perSec && perSec ≤ 10000) && burst != 0)
    "WS_CONNECT_RATE_PER_SEC must be 1-10000 and WS_CONNECT_BURST at least 1"
  return { perSec, burst }

def readAlertStreamMaxAgeSecs (get : Lookup) : Except String Nat := do
  let maxAge ← parseOr (parseUnsigned 64) get "ALERT_STREAM_MAX_AGE_SECS" 3600
  ensure (maxAge != 0) "ALERT_STREAM_MAX_AGE_SECS must be at least 1"
  return maxAge

def readReplayMaxAlerts (get : Lookup) : Except String Nat := do
  let maxAlerts ← parseOr (parseUnsigned 64) get "REPLAY_MAX_ALERTS" 50
  ensure (1 ≤ maxAlerts && maxAlerts ≤ 500) "REPLAY_MAX_ALERTS must be between 1 and 500"
  return maxAlerts

/-- `id` is what `Uuid::new_v4` gives. -/
def Config.fromLookup (get : Lookup) (id : Uuid) : Except String Config := do
  let environment ← readEnvironment get
  let production := environment == .production
  let port ← parseOr (parseUnsigned 16) get "FANOUT_WORKER_PORT" 8081
  let raw ← required get "FANOUT_WORKER_SHARD_PREFIXES"
  let ownedPrefixes ← parsePrefixes raw
  let publicUrl ← readPublicUrl get port
  let leaseTtlSecs ← readLeaseTtlSecs get
  let connectLimit ← readConnectLimit get
  let operatorKeys ← ApiKeys.fromCsv ((get "OPERATOR_API_KEYS").getD []) production
  let logJson ← readLogJson get
  let alertStreamMaxAgeSecs ← readAlertStreamMaxAgeSecs get
  let replayMaxAlerts ← readReplayMaxAlerts get
  let redisUrl ← required get "REDIS_URL"
  let natsUrl ← required get "NATS_URL"
  let rateLimitDisabled ← parseBool get "RATE_LIMIT_DISABLED" false
  let trustProxyHeaders ← parseBool get "TRUST_PROXY_HEADERS" false
  return { production, redisUrl, natsUrl, port, ownedPrefixes, publicUrl, leaseTtlSecs,
           connectLimit, rateLimitDisabled, trustProxyHeaders, operatorKeys, logJson,
           alertStreamMaxAgeSecs, replayMaxAlerts, instanceId := id.display }

/-- Where each field of a configuration comes from. -/
structure Config.ReadFrom (config : Config) (get : Lookup) (id : Uuid) : Prop where
  production : ∃ environment, readEnvironment get = .ok environment ∧
    config.production = (environment == .production)
  port : parseOr (parseUnsigned 16) get "FANOUT_WORKER_PORT" 8081 = .ok config.port
  ownedPrefixes : ∃ raw, required get "FANOUT_WORKER_SHARD_PREFIXES" = .ok raw ∧
    parsePrefixes raw = .ok config.ownedPrefixes
  publicUrl : readPublicUrl get config.port = .ok config.publicUrl
  leaseTtlSecs : readLeaseTtlSecs get = .ok config.leaseTtlSecs
  connectLimit : readConnectLimit get = .ok config.connectLimit
  operatorKeys : ApiKeys.fromCsv ((get "OPERATOR_API_KEYS").getD []) config.production =
    .ok config.operatorKeys
  logJson : readLogJson get = .ok config.logJson
  alertStreamMaxAgeSecs : readAlertStreamMaxAgeSecs get = .ok config.alertStreamMaxAgeSecs
  replayMaxAlerts : readReplayMaxAlerts get = .ok config.replayMaxAlerts
  redisUrl : required get "REDIS_URL" = .ok config.redisUrl
  natsUrl : required get "NATS_URL" = .ok config.natsUrl
  rateLimitDisabled : parseBool get "RATE_LIMIT_DISABLED" false = .ok config.rateLimitDisabled
  trustProxyHeaders : parseBool get "TRUST_PROXY_HEADERS" false = .ok config.trustProxyHeaders
  instanceId : config.instanceId = id.display

theorem fromLookup_eq_ok_iff {get : Lookup} {id : Uuid} {config : Config} :
    Config.fromLookup get id = .ok config ↔ config.ReadFrom get id := by
  constructor
  · intro h
    obtain ⟨environment, henvironment, h⟩ := bind_eq_ok.mp h
    obtain ⟨port, hport, h⟩ := bind_eq_ok.mp h
    obtain ⟨raw, hraw, h⟩ := bind_eq_ok.mp h
    obtain ⟨ownedPrefixes, hprefixes, h⟩ := bind_eq_ok.mp h
    obtain ⟨publicUrl, hurl, h⟩ := bind_eq_ok.mp h
    obtain ⟨leaseTtlSecs, httl, h⟩ := bind_eq_ok.mp h
    obtain ⟨connectLimit, hlimit, h⟩ := bind_eq_ok.mp h
    obtain ⟨operatorKeys, hkeys, h⟩ := bind_eq_ok.mp h
    obtain ⟨logJson, hlog, h⟩ := bind_eq_ok.mp h
    obtain ⟨maxAge, hage, h⟩ := bind_eq_ok.mp h
    obtain ⟨maxAlerts, halerts, h⟩ := bind_eq_ok.mp h
    obtain ⟨redisUrl, hredis, h⟩ := bind_eq_ok.mp h
    obtain ⟨natsUrl, hnats, h⟩ := bind_eq_ok.mp h
    obtain ⟨disabled, hdisabled, h⟩ := bind_eq_ok.mp h
    obtain ⟨trust, htrust, h⟩ := bind_eq_ok.mp h
    obtain rfl := Except.ok.inj h
    exact ⟨⟨environment, henvironment, rfl⟩, hport, ⟨raw, hraw, hprefixes⟩, hurl, httl, hlimit,
      hkeys, hlog, hage, halerts, hredis, hnats, hdisabled, htrust, rfl⟩
  · intro h
    obtain ⟨environment, henvironment, hproduction⟩ := h.production
    obtain ⟨raw, hraw, hprefixes⟩ := h.ownedPrefixes
    have hkeys := h.operatorKeys
    rw [hproduction] at hkeys
    refine bind_eq_ok.mpr ⟨_, henvironment, bind_eq_ok.mpr ⟨_, h.port, bind_eq_ok.mpr ⟨_, hraw,
      bind_eq_ok.mpr ⟨_, hprefixes, bind_eq_ok.mpr ⟨_, h.publicUrl,
      bind_eq_ok.mpr ⟨_, h.leaseTtlSecs, bind_eq_ok.mpr ⟨_, h.connectLimit,
      bind_eq_ok.mpr ⟨_, hkeys, bind_eq_ok.mpr ⟨_, h.logJson,
      bind_eq_ok.mpr ⟨_, h.alertStreamMaxAgeSecs, bind_eq_ok.mpr ⟨_, h.replayMaxAlerts,
      bind_eq_ok.mpr ⟨_, h.redisUrl, bind_eq_ok.mpr ⟨_, h.natsUrl,
      bind_eq_ok.mpr ⟨_, h.rateLimitDisabled, bind_eq_ok.mpr ⟨_, h.trustProxyHeaders,
      ?_⟩⟩⟩⟩⟩⟩⟩⟩⟩⟩⟩⟩⟩⟩⟩
    show Except.ok _ = _
    rw [← hproduction, ← h.instanceId]

-- ============================================================================
-- What is accepted
-- ============================================================================

theorem parseOr_of_eq_ok {T : Type} {P : T → Prop} {parse : List Char → Option T} {get : Lookup}
    {name : String} {default v : T} (hdefault : P default)
    (hparse : ∀ s v, parse s = some v → P v) (h : parseOr parse get name default = .ok v) :
    P v := by
  rw [parseOr] at h
  cases hraw : nonBlank get name with
  | none =>
      rw [hraw] at h
      exact Except.ok.inj h ▸ hdefault
  | some raw =>
      rw [hraw] at h
      dsimp only at h
      cases hv : parse (trim raw) with
      | none =>
          rw [hv] at h
          cases h
      | some w =>
          rw [hv] at h
          exact Except.ok.inj h ▸ hparse _ w hv

theorem readLeaseTtlSecs_range {get : Lookup} {ttlSecs : Nat}
    (h : readLeaseTtlSecs get = .ok ttlSecs) : 3 ≤ ttlSecs ∧ ttlSecs < 2 ^ 64 := by
  obtain ⟨ttl, hparse, h⟩ := bind_eq_ok.mp h
  obtain ⟨_, hmin, h⟩ := bind_eq_ok.mp h
  obtain rfl := Except.ok.inj h
  refine ⟨of_decide_eq_true (ensure_eq_ok.mp hmin), ?_⟩
  exact parseOr_of_eq_ok (P := fun ttl => ttl < 2 ^ 64) (by decide) (fun _ _ => parseUnsigned_lt)
    hparse

theorem readPublicUrl_eq_ok_iff {get : Lookup} {port : Nat} {url : List Char} :
    readPublicUrl get port = .ok url ↔
      url = tidyUrl ((nonBlank get "WORKER_PUBLIC_URL").getD
        ("ws://localhost:".toList ++ Nat.toDigits 10 port)) ∧ hasScheme url = true := by
  rw [readPublicUrl]
  constructor
  · intro h
    obtain ⟨_, hscheme, h⟩ := bind_eq_ok.mp h
    obtain rfl := Except.ok.inj h
    exact ⟨rfl, ensure_eq_ok.mp hscheme⟩
  · rintro ⟨rfl, hscheme⟩
    exact bind_eq_ok.mpr ⟨(), ensure_eq_ok.mpr hscheme, rfl⟩

/-- The leases of a worker with an accepted configuration. -/
def Config.lease (config : Config) {get : Lookup} {id : Uuid} (h : config.ReadFrom get id) :
    LeaseConfig where
  prefixes := config.ownedPrefixes.map String.ofList
  url := String.ofList config.publicUrl
  ttlSecs := config.leaseTtlSecs
  prefixes_nonempty := h.ownedPrefixes.elim fun _ hraw => (parsePrefixes_owned hraw.2).1
  prefixes_shape := h.ownedPrefixes.elim fun _ hraw => (parsePrefixes_owned hraw.2).2.1
  prefixes_nodup := h.ownedPrefixes.elim fun _ hraw => (parsePrefixes_owned hraw.2).2.2
  url_scheme := by
    have htext : (String.ofList config.publicUrl).toList = config.publicUrl :=
      String.toList_ofList
    rw [htext]
    exact (readPublicUrl_eq_ok_iff.mp h.publicUrl).2
  ttl_range := readLeaseTtlSecs_range h.leaseTtlSecs

/-- What the rest of the worker relies on. -/
structure Config.WellFormed (config : Config) : Prop where
  lease : ∃ lease : LeaseConfig, lease.prefixes = config.ownedPrefixes.map String.ofList ∧
    lease.url = String.ofList config.publicUrl ∧ lease.ttlSecs = config.leaseTtlSecs
  url_end : config.publicUrl.getLast? ≠ some '/'
  perSec : 1 ≤ config.connectLimit.perSec ∧ config.connectLimit.perSec ≤ 10000
  burst : 1 ≤ config.connectLimit.burst
  maxAge : 1 ≤ config.alertStreamMaxAgeSecs
  maxAlerts : 1 ≤ config.replayMaxAlerts ∧ config.replayMaxAlerts ≤ 500
  operatorKeys : config.production = true → config.operatorKeys.keys ≠ []

theorem getLast?_tidyUrl (url : List Char) : (tidyUrl url).getLast? ≠ some '/' := by
  intro hlast
  have hne : tidyUrl url ≠ [] := by
    intro hnil
    rw [hnil] at hlast
    cases hlast
  have hnot := List.rdropWhile_last_not (· == '/') (trim url) hne
  rw [List.getLast?_eq_some_getLast hne, Option.some.injEq] at hlast
  exact hnot (beq_iff_eq.mpr hlast)

theorem readConnectLimit_range {get : Lookup} {limit : Limit}
    (h : readConnectLimit get = .ok limit) :
    (1 ≤ limit.perSec ∧ limit.perSec ≤ 10000) ∧ 1 ≤ limit.burst := by
  obtain ⟨perSec, -, h⟩ := bind_eq_ok.mp h
  obtain ⟨burst, -, h⟩ := bind_eq_ok.mp h
  obtain ⟨_, hrange, h⟩ := bind_eq_ok.mp h
  obtain rfl := Except.ok.inj h
  have hrange := ensure_eq_ok.mp hrange
  simp only [Bool.and_eq_true, decide_eq_true_eq, bne_iff_ne, ne_eq] at hrange
  exact ⟨hrange.1, Nat.one_le_iff_ne_zero.mpr hrange.2⟩

theorem readAlertStreamMaxAgeSecs_pos {get : Lookup} {maxAge : Nat}
    (h : readAlertStreamMaxAgeSecs get = .ok maxAge) : 1 ≤ maxAge := by
  obtain ⟨_, -, h⟩ := bind_eq_ok.mp h
  obtain ⟨_, hmin, h⟩ := bind_eq_ok.mp h
  obtain rfl := Except.ok.inj h
  exact Nat.one_le_iff_ne_zero.mpr (bne_iff_ne.mp (ensure_eq_ok.mp hmin))

theorem readReplayMaxAlerts_range {get : Lookup} {maxAlerts : Nat}
    (h : readReplayMaxAlerts get = .ok maxAlerts) : 1 ≤ maxAlerts ∧ maxAlerts ≤ 500 := by
  obtain ⟨_, -, h⟩ := bind_eq_ok.mp h
  obtain ⟨_, hrange, h⟩ := bind_eq_ok.mp h
  obtain rfl := Except.ok.inj h
  have hrange := ensure_eq_ok.mp hrange
  simpa only [Bool.and_eq_true, decide_eq_true_eq] using hrange

theorem fromCsv_production {csv : List Char} {keys : ApiKeys}
    (h : ApiKeys.fromCsv csv true = .ok keys) : keys.keys ≠ [] := by
  obtain ⟨collected, -, h⟩ := bind_eq_ok.mp h
  split at h
  · cases h
  · next hne =>
      obtain rfl := Except.ok.inj h
      simpa using hne

/-- **An accepted configuration is well-formed**: leases can be taken with it, and every limit
    is in its range. -/
theorem Config.wellFormed_of_fromLookup (get : Lookup) (id : Uuid) (config : Config)
    (h : Config.fromLookup get id = .ok config) : config.WellFormed := by
  have hread := fromLookup_eq_ok_iff.mp h
  exact {
    lease := ⟨config.lease hread, rfl, rfl, rfl⟩
    url_end := (readPublicUrl_eq_ok_iff.mp hread.publicUrl).1 ▸ getLast?_tidyUrl _
    perSec := (readConnectLimit_range hread.connectLimit).1
    burst := (readConnectLimit_range hread.connectLimit).2
    maxAge := readAlertStreamMaxAgeSecs_pos hread.alertStreamMaxAgeSecs
    maxAlerts := readReplayMaxAlerts_range hread.replayMaxAlerts
    operatorKeys := fun hproduction => fromCsv_production (hproduction ▸ hread.operatorKeys) }

/-- What the tests start from, with a URL that has a slash at its end. -/
def workerLookup : Lookup := fun name =>
  if name = "REDIS_URL" then some "redis://h".toList
  else if name = "NATS_URL" then some "nats://h".toList
  else if name = "FANOUT_WORKER_SHARD_PREFIXES" then some " TKRT , tkrw,tkrt ,, ".toList
  else if name = "WORKER_PUBLIC_URL" then some "wss://ws.example.com/".toList
  else none

def workerConfig : Config where
  production := false
  redisUrl := "redis://h".toList
  natsUrl := "nats://h".toList
  port := 8081
  ownedPrefixes := ["tkrt".toList, "tkrw".toList]
  publicUrl := "wss://ws.example.com".toList
  leaseTtlSecs := 30
  connectLimit := ⟨50, 100⟩
  rateLimitDisabled := false
  trustProxyHeaders := false
  operatorKeys := ⟨[]⟩
  logJson := false
  alertStreamMaxAgeSecs := 3600
  replayMaxAlerts := 50
  instanceId := Uuid.display 5

theorem fromLookup_workerLookup : Config.fromLookup workerLookup 5 = .ok workerConfig := by
  decide +kernel

theorem Config.wellFormed_of_fromLookup_workerLookup : workerConfig.WellFormed :=
  Config.wellFormed_of_fromLookup workerLookup 5 workerConfig fromLookup_workerLookup

-- ============================================================================
-- Read again
-- ============================================================================

theorem mem_intersperse {α : Type} {sep p : α} {ps : List α} (h : p ∈ ps) :
    p ∈ ps.intersperse sep := by
  induction ps with
  | nil => cases h
  | cons q ps ih =>
      cases ps with
      | nil => exact h
      | cons r ps =>
          rw [List.intersperse_cons_cons, List.mem_cons, List.mem_cons]
          rcases List.mem_cons.mp h with rfl | h
          · exact .inl rfl
          · exact .inr (.inr (ih h))

/-- A text with a character that is no white space is not blank. -/
theorem nonBlank_eq_some {get : Lookup} {name : String} {v : List Char} (h : get name = some v)
    {c : Char} (hc : c ∈ v) (hblank : isWhitespace c = false) : nonBlank get name = some v := by
  have htrim : trim v ≠ [] := by
    intro hnil
    rw [trim_eq_nil_iff.mp hnil c hc] at hblank
    cases hblank
  rw [nonBlank, h, Option.filter_some, if_pos (by simpa using htrim)]

/-- `get` with an accepted configuration's own prefixes and URL. -/
def Config.respelled (config : Config) (get : Lookup) : Lookup := fun name =>
  if name = "FANOUT_WORKER_SHARD_PREFIXES" then some ([','].intercalate config.ownedPrefixes)
  else if name = "WORKER_PUBLIC_URL" then some config.publicUrl
  else get name

/-- The list of prefixes is read again as it is. -/
theorem Config.ReadFrom.respelled_prefixes {config : Config} {get : Lookup} {id : Uuid}
    (h : config.ReadFrom get id) :
    ∃ raw, required (config.respelled get) "FANOUT_WORKER_SHARD_PREFIXES" = .ok raw ∧
      parsePrefixes raw = .ok config.ownedPrefixes := by
  obtain ⟨raw, -, hparse⟩ := h.ownedPrefixes
  obtain ⟨hne, hnodup, hshape⟩ := owned_of_parsePrefixes hparse
  refine ⟨_, ?_, parsePrefixes_intercalate hne hnodup hshape⟩
  obtain ⟨p, hp⟩ := List.exists_mem_of_ne_nil _ hne
  obtain ⟨c, hc⟩ := List.exists_mem_of_ne_nil _ (hshape p hp).ne_nil
  have hjoined : c ∈ [','].intercalate config.ownedPrefixes :=
    List.mem_flatten.mpr ⟨p, mem_intersperse hp, hc⟩
  have hplain := (geohashAlphabet_plain ((hshape p hp).2 c hc)).2.1
  have hread : nonBlank (config.respelled get) "FANOUT_WORKER_SHARD_PREFIXES" = _ :=
    nonBlank_eq_some (if_pos rfl) hjoined hplain
  rw [required, hread]

theorem tidyUrl_tidyUrl_iff (url : List Char) :
    tidyUrl (tidyUrl url) = tidyUrl url ↔ trim (tidyUrl url) = tidyUrl url := by
  constructor
  · intro h
    have hstart : tidyUrl (tidyUrl url) <+: trim (tidyUrl url) := List.rdropWhile_prefix _ _
    rw [h] at hstart
    exact (trim_sublist _).eq_of_length_le hstart.length_le
  · intro h
    conv => lhs; rw [tidyUrl, h]
    exact List.rdropWhile_idempotent _ _

/-- The URL is read again as it is, unless there was a blank before its last slashes. -/
theorem Config.ReadFrom.respelled_url {config : Config} {get : Lookup} {id : Uuid}
    (h : config.ReadFrom get id) :
    readPublicUrl (config.respelled get) config.port = .ok config.publicUrl ↔
      trim config.publicUrl = config.publicUrl := by
  obtain ⟨htidy, hscheme⟩ := readPublicUrl_eq_ok_iff.mp h.publicUrl
  have hw : 'w' ∈ config.publicUrl := by
    rw [hasScheme, Bool.or_eq_true, List.isPrefixOf_iff_prefix, List.isPrefixOf_iff_prefix]
      at hscheme
    rcases hscheme with hstart | hstart
    · exact hstart.subset (by decide)
    · exact hstart.subset (by decide)
  have hread : nonBlank (config.respelled get) "WORKER_PUBLIC_URL" = some config.publicUrl :=
    nonBlank_eq_some rfl hw (by decide)
  rw [readPublicUrl_eq_ok_iff, hread, Option.getD_some, and_iff_left hscheme, eq_comm, htidy]
  exact tidyUrl_tidyUrl_iff _

/-- **An accepted configuration is one of its own spelling**, if and only if its URL has no
    white space at its ends: with the prefixes and the URL that were read in the place of what
    they were read from, the same configuration is read. -/
theorem Config.respelled_iff (get : Lookup) (id : Uuid) (config : Config)
    (h : Config.fromLookup get id = .ok config) :
    Config.fromLookup (config.respelled get) id = .ok config ↔
      trim config.publicUrl = config.publicUrl := by
  have hread := fromLookup_eq_ok_iff.mp h
  rw [fromLookup_eq_ok_iff, ← hread.respelled_url]
  refine ⟨fun hagain => hagain.publicUrl, fun hurl => ?_⟩
  exact {
    production := hread.production
    port := hread.port
    ownedPrefixes := hread.respelled_prefixes
    publicUrl := hurl
    leaseTtlSecs := hread.leaseTtlSecs
    connectLimit := hread.connectLimit
    operatorKeys := hread.operatorKeys
    logJson := hread.logJson
    alertStreamMaxAgeSecs := hread.alertStreamMaxAgeSecs
    replayMaxAlerts := hread.replayMaxAlerts
    redisUrl := hread.redisUrl
    natsUrl := hread.natsUrl
    rateLimitDisabled := hread.rateLimitDisabled
    trustProxyHeaders := hread.trustProxyHeaders
    instanceId := hread.instanceId }

theorem Config.respelled_iff_workerLookup :
    Config.fromLookup (workerConfig.respelled workerLookup) 5 = .ok workerConfig ↔
      trim workerConfig.publicUrl = workerConfig.publicUrl :=
  Config.respelled_iff workerLookup 5 workerConfig fromLookup_workerLookup

end PulseGrid.Worker
