/-
  PulseGrid.Coordinator.Config

  The coordinator's configuration: `Config::from_lookup` (crates/api-coordinator/src/
  config.rs) over any environment lookup, with the texts of its errors.

  `fromLookup_eq_ok` says what an accepted lookup fixes about the fields that later
  computations use: each is the parsed value of its variable, or the default, and passed
  its lower bound.
-/

import PulseGrid.Domain.ApiKeys

namespace PulseGrid.Coordinator

open RustStr

-- ============================================================================
-- Reading variables
-- ============================================================================

/-- An environment: the value of a variable, if it is set. -/
abbrev Lookup := String → Option (List Char)

inductive Environment where
  | development
  | production
deriving DecidableEq, Repr

inductive JwtConfig where
  | hs256 (secret : List Char)
  | edDsa (privateKeyPath publicKeyPath : List Char)
deriving DecidableEq, Repr

/-- `perSec` requests per second per client, with room for `burst` requests at once. -/
structure Limit where
  perSec : Nat
  burst : Nat
deriving DecidableEq, Repr

structure RateLimits where
  register : Limit
  location : Limit
  alerts : Limit
  disabled : Bool
  trustProxyHeaders : Bool
deriving DecidableEq, Repr

structure Config where
  environment : Environment
  databaseUrl : List Char
  redisUrl : List Char
  natsUrl : List Char
  jwt : JwtConfig
  tokenTtlHours : Int
  wsTicketTtlSecs : Nat
  operatorKeys : ApiKeys
  port : Nat
  logJson : Bool
  rateLimits : RateLimits
  deviceRetentionDays : Int
  alertRetentionDays : Int
  retentionSweepIntervalMinutes : Nat
  alertStreamMaxAgeSecs : Nat
deriving DecidableEq, Repr

/-- `if !cond { return Err(…) }`, with the text of the `AppError::Config`. -/
def ensure (cond : Bool) (message : String) : Except String Unit :=
  if cond then .ok () else .error message

/-- `get(name).filter(|v| !v.trim().is_empty())`. -/
def nonBlank (get : Lookup) (name : String) : Option (List Char) :=
  (get name).filter fun v => !(trim v).isEmpty

def required (get : Lookup) (name : String) : Except String (List Char) :=
  match nonBlank get name with
  | some v => .ok v
  | none => .error (name ++ " not set")

/-- `parse_or`, for a type with the given `FromStr`. -/
def parseOr {T : Type} (parse : List Char → Option T) (get : Lookup) (name : String)
    (default : T) : Except String T :=
  match nonBlank get name with
  | none => .ok default
  | some raw =>
      match parse (trim raw) with
      | some v => .ok v
      | none => .error (name ++ " has an invalid value: '" ++ String.ofList raw ++ "'")

def parseBool (get : Lookup) (name : String) (default : Bool) : Except String Bool :=
  match nonBlank get name with
  | none => .ok default
  | some raw =>
      let v := toAsciiLowercase (trim raw)
      if v ∈ ["true".toList, "1".toList, "yes".toList] then .ok true
      else if v ∈ ["false".toList, "0".toList, "no".toList] then .ok false
      else .error (name ++ " must be true or false, got '" ++ String.ofList raw ++ "'")

def parseLimit (get : Lookup) (perSecName burstName : String) (default : Limit) :
    Except String Limit := do
  let perSec ← parseOr (parseUnsigned 32) get perSecName default.perSec
  let burst ← parseOr (parseUnsigned 32) get burstName default.burst
  ensure (1 ≤ perSec && perSec ≤ 1000) (perSecName ++ " must be between 1 and 1000")
  ensure (burst != 0) (burstName ++ " must be at least 1")
  return { perSec, burst }

-- ============================================================================
-- `Config::from_lookup`
-- ============================================================================

/-- `get(name).map(|v| v.trim().to_ascii_lowercase())`. -/
def keyword (get : Lookup) (name : String) : Option (List Char) :=
  (get name).map fun v => toAsciiLowercase (trim v)

def readEnvironment (get : Lookup) : Except String Environment :=
  match keyword get "PULSEGRID_ENV" with
  | none => .ok .development
  | some v =>
      if v ∈ [[], "dev".toList, "development".toList] then .ok .development
      else if v ∈ ["prod".toList, "production".toList] then .ok .production
      else .error ("PULSEGRID_ENV must be 'dev' or 'production', got '" ++ String.ofList v ++ "'")

def readJwt (get : Lookup) (production : Bool) : Except String JwtConfig :=
  match nonBlank get "JWT_PRIVATE_KEY_PATH", nonBlank get "JWT_PUBLIC_KEY_PATH" with
  | some privateKey, some publicKey => .ok (.edDsa (trim privateKey) (trim publicKey))
  | none, none => do
      let secret ← required get "JWT_SECRET"
      validateSecretStrength "JWT_SECRET" secret production
      return .hs256 secret
  | _, _ => .error "JWT_PRIVATE_KEY_PATH and JWT_PUBLIC_KEY_PATH must be set together"

def readLogJson (get : Lookup) : Except String Bool :=
  match keyword get "LOG_FORMAT" with
  | none => .ok false
  | some v =>
      if v ∈ [[], "pretty".toList] then .ok false
      else if v = "json".toList then .ok true
      else .error ("LOG_FORMAT must be 'pretty' or 'json', got '" ++ String.ofList v ++ "'")

def readRateLimits (get : Lookup) : Except String RateLimits := do
  let register ← parseLimit get "RATE_LIMIT_REGISTER_PER_SEC" "RATE_LIMIT_REGISTER_BURST" ⟨5, 10⟩
  let location ← parseLimit get "RATE_LIMIT_LOCATION_PER_SEC" "RATE_LIMIT_LOCATION_BURST" ⟨10, 20⟩
  let alerts ← parseLimit get "RATE_LIMIT_ALERTS_PER_SEC" "RATE_LIMIT_ALERTS_BURST" ⟨2, 5⟩
  let disabled ← parseBool get "RATE_LIMIT_DISABLED" false
  let trustProxyHeaders ← parseBool get "TRUST_PROXY_HEADERS" false
  return { register, location, alerts, disabled, trustProxyHeaders }

/-- `DEFAULT_TOKEN_TTL_HOURS`. -/
def defaultTokenTtlHours : Int := 24 * 30

/-- The variables that durations are computed from. -/
def readTokenTtlHours (get : Lookup) : Except String Int :=
  parseOr (parseSigned 64) get "DEVICE_TOKEN_TTL_HOURS" defaultTokenTtlHours

def readDeviceRetentionDays (get : Lookup) : Except String Int :=
  parseOr (parseSigned 64) get "DEVICE_RETENTION_DAYS" 90

def readAlertRetentionDays (get : Lookup) : Except String Int :=
  parseOr (parseSigned 64) get "ALERT_RETENTION_DAYS" 365

def readSweepIntervalMinutes (get : Lookup) : Except String Nat :=
  parseOr (parseUnsigned 64) get "RETENTION_SWEEP_INTERVAL_MINUTES" 60

def Config.fromLookup (get : Lookup) : Except String Config := do
  let environment ← readEnvironment get
  let production := environment == .production
  let databaseUrl ← required get "DATABASE_URL"
  let redisUrl ← required get "REDIS_URL"
  let natsUrl ← required get "NATS_URL"
  let jwt ← readJwt get production
  let operatorKeys ← ApiKeys.fromCsv ((get "OPERATOR_API_KEYS").getD []) production
  let port ← parseOr (parseUnsigned 16) get "COORDINATOR_PORT" 8080
  let tokenTtlHours ← readTokenTtlHours get
  ensure (1 ≤ tokenTtlHours) "DEVICE_TOKEN_TTL_HOURS must be at least 1"
  let wsTicketTtlSecs ← parseOr (parseUnsigned 64) get "WS_TICKET_TTL_SECS" 30
  ensure (wsTicketTtlSecs != 0) "WS_TICKET_TTL_SECS must be at least 1"
  let logJson ← readLogJson get
  let rateLimits ← readRateLimits get
  let deviceRetentionDays ← readDeviceRetentionDays get
  let alertRetentionDays ← readAlertRetentionDays get
  ensure (1 ≤ deviceRetentionDays && 1 ≤ alertRetentionDays)
    "retention periods must be at least 1 day"
  let retentionSweepIntervalMinutes ← readSweepIntervalMinutes get
  ensure (retentionSweepIntervalMinutes != 0)
    "RETENTION_SWEEP_INTERVAL_MINUTES must be at least 1"
  let alertStreamMaxAgeSecs ← parseOr (parseUnsigned 64) get "ALERT_STREAM_MAX_AGE_SECS" 3600
  ensure (alertStreamMaxAgeSecs != 0) "ALERT_STREAM_MAX_AGE_SECS must be at least 1"
  return { environment, databaseUrl, redisUrl, natsUrl, jwt, tokenTtlHours, wsTicketTtlSecs,
           operatorKeys, port, logJson, rateLimits, deviceRetentionDays, alertRetentionDays,
           retentionSweepIntervalMinutes, alertStreamMaxAgeSecs }

-- ============================================================================
-- What is accepted
-- ============================================================================

theorem bind_eq_ok {α β : Type} {x : Except String α} {f : α → Except String β} {b : β} :
    (x >>= f) = .ok b ↔ ∃ a, x = .ok a ∧ f a = .ok b := by
  cases x with
  | error e => simp [bind, Except.bind]
  | ok a => simp [bind, Except.bind]

theorem ensure_eq_ok {cond : Bool} {message : String} {u : Unit} :
    ensure cond message = .ok u ↔ cond = true := by
  cases cond <;> simp [ensure]

/-- A limit that is accepted is within its bounds. -/
theorem parseLimit_eq_ok {get : Lookup} {perSecName burstName : String} {default limit : Limit}
    (h : parseLimit get perSecName burstName default = .ok limit) :
    (1 ≤ limit.perSec ∧ limit.perSec ≤ 1000) ∧ 1 ≤ limit.burst := by
  obtain ⟨perSec, -, h⟩ := bind_eq_ok.mp h
  obtain ⟨burst, -, h⟩ := bind_eq_ok.mp h
  obtain ⟨_, hrange, h⟩ := bind_eq_ok.mp h
  obtain ⟨_, hburst, h⟩ := bind_eq_ok.mp h
  obtain rfl := Except.ok.inj h
  have hrange := ensure_eq_ok.mp hrange
  have hburst := ensure_eq_ok.mp hburst
  simp only [Bool.and_eq_true, decide_eq_true_eq] at hrange
  exact ⟨hrange, Nat.one_le_iff_ne_zero.mpr (by simpa using hburst)⟩

/-- The fields that durations are computed from hold the values of their variables, and these
    are at least 1. -/
theorem fromLookup_eq_ok {get : Lookup} {config : Config}
    (h : Config.fromLookup get = .ok config) :
    (readTokenTtlHours get = .ok config.tokenTtlHours ∧ 1 ≤ config.tokenTtlHours) ∧
    (readDeviceRetentionDays get = .ok config.deviceRetentionDays ∧
      1 ≤ config.deviceRetentionDays) ∧
    (readAlertRetentionDays get = .ok config.alertRetentionDays ∧
      1 ≤ config.alertRetentionDays) ∧
    (readSweepIntervalMinutes get = .ok config.retentionSweepIntervalMinutes ∧
      1 ≤ config.retentionSweepIntervalMinutes) := by
  obtain ⟨environment, -, h⟩ := bind_eq_ok.mp h
  obtain ⟨databaseUrl, -, h⟩ := bind_eq_ok.mp h
  obtain ⟨redisUrl, -, h⟩ := bind_eq_ok.mp h
  obtain ⟨natsUrl, -, h⟩ := bind_eq_ok.mp h
  obtain ⟨jwt, -, h⟩ := bind_eq_ok.mp h
  obtain ⟨operatorKeys, -, h⟩ := bind_eq_ok.mp h
  obtain ⟨port, -, h⟩ := bind_eq_ok.mp h
  obtain ⟨ttl, httl, h⟩ := bind_eq_ok.mp h
  obtain ⟨_, httl1, h⟩ := bind_eq_ok.mp h
  obtain ⟨ticketTtl, -, h⟩ := bind_eq_ok.mp h
  obtain ⟨_, -, h⟩ := bind_eq_ok.mp h
  obtain ⟨logJson, -, h⟩ := bind_eq_ok.mp h
  obtain ⟨rateLimits, -, h⟩ := bind_eq_ok.mp h
  obtain ⟨deviceDays, hdevice, h⟩ := bind_eq_ok.mp h
  obtain ⟨alertDays, halert, h⟩ := bind_eq_ok.mp h
  obtain ⟨_, hdays, h⟩ := bind_eq_ok.mp h
  obtain ⟨minutes, hminutes, h⟩ := bind_eq_ok.mp h
  obtain ⟨_, hminutes1, h⟩ := bind_eq_ok.mp h
  obtain ⟨maxAge, -, h⟩ := bind_eq_ok.mp h
  obtain ⟨_, -, h⟩ := bind_eq_ok.mp h
  obtain rfl := Except.ok.inj h
  have httl1 := ensure_eq_ok.mp httl1
  have hdays := ensure_eq_ok.mp hdays
  have hminutes1 := ensure_eq_ok.mp hminutes1
  simp only [Bool.and_eq_true, decide_eq_true_eq, bne_iff_ne, ne_eq] at httl1 hdays hminutes1
  exact ⟨⟨httl, httl1⟩, ⟨hdevice, hdays.1⟩, ⟨halert, hdays.2⟩,
    hminutes, Nat.one_le_iff_ne_zero.mpr hminutes1⟩

end PulseGrid.Coordinator
