/-
  PulseGrid.Coordinator.ConfigRange

  The computations that start-up, the retention sweep and token issue make from the
  configured values: `build_state` and `start_background_tasks` (crates/api-coordinator/
  src/lib.rs), `RetentionService::new` and `cutoffs`, and `TokenSigner::issue`.

  `Config::from_lookup` bounds the configured values from below only.  `noOverflow_iff`
  gives the bounds from above under which none of the computations leaves its range.
-/

import PulseGrid.Coordinator.Config
import PulseGrid.Coordinator.Retention
import PulseGrid.Coordinator.TokenRevocation

namespace PulseGrid.Coordinator

-- ============================================================================
-- Unsigned arithmetic
-- ============================================================================

/-- The result of a `u64` operation, unless it overflows. -/
def u64 (n : Nat) : Option Nat := if n < 2 ^ 64 then some n else none

theorem u64_eq_some {n m : Nat} : u64 n = some m ↔ m = n ∧ n < 2 ^ 64 := by
  rw [u64, Option.ite_none_right_eq_some, Option.some.injEq, and_comm, eq_comm]

theorem u64_of_lt {n : Nat} (h : n < 2 ^ 64) : u64 n = some n := if_pos h

/-- `as u64` of an `i64`. -/
def asU64 (n : Int) : Nat := (n % 2 ^ 64).toNat

theorem asU64_of_range {n : Int} (h0 : 0 ≤ n) (h : n < 2 ^ 64) : asU64 n = n.toNat := by
  rw [asU64, Int.emod_eq_of_lt h0 h]

-- ============================================================================
-- The derived values
-- ============================================================================

/-- `location_ttl_secs`. -/
def Config.locationTtlSecs (config : Config) : Option Nat := do
  let days ← u64 (asU64 config.deviceRetentionDays + 1)
  u64 (days * 86_400)

/-- `revocation_ttl_secs`. -/
def Config.revocationTtlSecs (config : Config) : Option Nat := do
  let secs ← u64 (asU64 config.tokenTtlHours * 3_600)
  u64 (secs + 86_400)

/-- The period of the retention sweep, in seconds. -/
def Config.sweepPeriodSecs (config : Config) : Option Nat :=
  u64 (config.retentionSweepIntervalMinutes * 60)

def Config.retention (config : Config) : Option RetentionService :=
  RetentionService.new config.deviceRetentionDays config.alertRetentionDays

/-- `now + Duration::hours(ttl_hours)` of `TokenSigner::issue`, in microseconds. -/
def Config.tokenExpiry (config : Config) (now : Int) : Option Int := do
  let ttl ← Chrono.hours config.tokenTtlHours
  Chrono.utc (now + ttl)

/-- None of the derived computations overflows or panics at `now`. -/
structure NoOverflow (config : Config) (now : Int) : Prop where
  location_ttl : config.locationTtlSecs.isSome = true
  revocation_ttl : config.revocationTtlSecs.isSome = true
  sweep_period : config.sweepPeriodSecs.isSome = true
  cutoffs : (config.retention >>= fun service => service.cutoffs now).isSome = true
  token_expiry : (config.tokenExpiry now).isSome = true

/-- The last microsecond of the year 9999. -/
def year9999End : Int := 253_402_300_799_999_999

/-- Bounds from above on the variables, as read: both retention periods reach back no further
    than year -262143, the token TTL no further than year 262142, and the sweep interval in
    seconds fits 64 bits. -/
def InRange (get : Lookup) (now : Int) : Prop :=
  ∃ deviceDays alertDays ttlHours : Int, ∃ minutes : Nat,
    (readDeviceRetentionDays get = .ok deviceDays ∧ readAlertRetentionDays get = .ok alertDays ∧
      readTokenTtlHours get = .ok ttlHours ∧ readSweepIntervalMinutes get = .ok minutes) ∧
    deviceDays * Chrono.microsPerDay ≤ now - Chrono.minUtc ∧
    alertDays * Chrono.microsPerDay ≤ now - Chrono.minUtc ∧
    ttlHours * Chrono.microsPerHour ≤ Chrono.maxUtc - now ∧
    minutes * 60 < 2 ^ 64

-- ============================================================================
-- One computation at a time
-- ============================================================================

section

variable {config : Config} {now : Int}

/-- Where the retention period reaches back far enough for `cutoffs`, its seconds fit. -/
theorem locationTtlSecs_of_le (h1 : 1 ≤ config.deviceRetentionDays)
    (h : config.deviceRetentionDays ≤ 100_000_000) :
    config.locationTtlSecs = some ((config.deviceRetentionDays.toNat + 1) * 86_400) := by
  rw [Config.locationTtlSecs, asU64_of_range (by omega) (by omega), u64_of_lt (by omega),
    Option.bind_eq_bind, Option.bind_some, u64_of_lt (by omega)]

theorem revocationTtlSecs_of_le (h1 : 1 ≤ config.tokenTtlHours)
    (h : config.tokenTtlHours ≤ 3_000_000_000) :
    config.revocationTtlSecs = some (config.tokenTtlHours.toNat * 3_600 + 86_400) := by
  rw [Config.revocationTtlSecs, asU64_of_range (by omega) (by omega), u64_of_lt (by omega),
    Option.bind_eq_bind, Option.bind_some, u64_of_lt (by omega)]

/-- A number of units fits a duration and leads from `now` to a representable time. -/
theorem range_of_le (hnow : 0 ≤ now ∧ now ≤ year9999End) {micros : Int}
    (h0 : 0 ≤ micros) :
    (micros ≤ now - Chrono.minUtc →
      Chrono.ofMicros micros = some micros ∧ Chrono.utc (now - micros) = some (now - micros)) ∧
    (micros ≤ Chrono.maxUtc - now →
      Chrono.ofMicros micros = some micros ∧ Chrono.utc (now + micros) = some (now + micros)) := by
  have hend : year9999End = 253_402_300_799_999_999 := rfl
  have hmin : Chrono.minUtc = -8_334_601_228_800_000_000 := rfl
  have hmax : Chrono.maxUtc = 8_210_266_876_799_999_999 := rfl
  have hdur : Chrono.maxDuration = 9_223_372_036_854_775_807_000 := rfl
  refine ⟨fun h => ⟨?_, ?_⟩, fun h => ⟨?_, ?_⟩⟩
  · exact Chrono.ofMicros_eq_some.mpr ⟨rfl, by omega, by omega⟩
  · exact Chrono.utc_eq_some.mpr ⟨rfl, by omega, by omega⟩
  · exact Chrono.ofMicros_eq_some.mpr ⟨rfl, by omega, by omega⟩
  · exact Chrono.utc_eq_some.mpr ⟨rfl, by omega, by omega⟩

/-- `cutoffs` succeeds exactly when neither period reaches back beyond the first year. -/
theorem cutoffs_isSome_iff (hnow : 0 ≤ now ∧ now ≤ year9999End)
    (hdevice : 1 ≤ config.deviceRetentionDays) (halert : 1 ≤ config.alertRetentionDays) :
    (config.retention >>= fun service => service.cutoffs now).isSome = true ↔
      config.deviceRetentionDays * Chrono.microsPerDay ≤ now - Chrono.minUtc ∧
      config.alertRetentionDays * Chrono.microsPerDay ≤ now - Chrono.minUtc := by
  have hday : (0 : Int) ≤ Chrono.microsPerDay := by decide
  constructor
  · intro h
    obtain ⟨cutoffs, h⟩ := Option.isSome_iff_exists.mp h
    obtain ⟨service, hservice, h⟩ := Option.bind_eq_some_iff.mp h
    obtain ⟨device, hd, hservice⟩ := Option.bind_eq_some_iff.mp hservice
    obtain ⟨alert, ha, hservice⟩ := Option.bind_eq_some_iff.mp hservice
    obtain rfl := Option.some.inj hservice
    obtain ⟨deviceCutoff, hdc, h⟩ := Option.bind_eq_some_iff.mp h
    obtain ⟨alertCutoff, hac, -⟩ := Option.bind_eq_some_iff.mp h
    obtain ⟨rfl, -⟩ := Chrono.ofMicros_eq_some.mp hd
    obtain ⟨rfl, -⟩ := Chrono.ofMicros_eq_some.mp ha
    have hd := (Chrono.utc_eq_some.mp hdc).2.1
    have ha := (Chrono.utc_eq_some.mp hac).2.1
    exact ⟨by linarith, by linarith⟩
  · rintro ⟨hd, ha⟩
    obtain ⟨hdays, hdc⟩ :=
      (range_of_le hnow (Int.mul_nonneg (by omega) hday)).1 hd
    obtain ⟨hdays', hac⟩ :=
      (range_of_le hnow (Int.mul_nonneg (by omega) hday)).1 ha
    rw [Config.retention, RetentionService.new, Chrono.days, Chrono.days, hdays, hdays']
    simp only [Option.bind_eq_bind, Option.bind_some, Option.pure_def, RetentionService.cutoffs,
      hdc, hac, Option.isSome_some]

/-- The expiry is in range exactly when the token TTL reaches no further than the last year. -/
theorem tokenExpiry_isSome_iff (hnow : 0 ≤ now ∧ now ≤ year9999End)
    (httl : 1 ≤ config.tokenTtlHours) :
    (config.tokenExpiry now).isSome = true ↔
      config.tokenTtlHours * Chrono.microsPerHour ≤ Chrono.maxUtc - now := by
  have hhour : (0 : Int) ≤ Chrono.microsPerHour := by decide
  constructor
  · intro h
    obtain ⟨expiry, h⟩ := Option.isSome_iff_exists.mp h
    obtain ⟨ttl, hhours, h⟩ := Option.bind_eq_some_iff.mp h
    obtain ⟨rfl, -⟩ := Chrono.ofMicros_eq_some.mp hhours
    have hle := (Chrono.utc_eq_some.mp h).2.2
    linarith
  · intro h
    obtain ⟨hhours, hutc⟩ := (range_of_le hnow (Int.mul_nonneg (by omega) hhour)).2 h
    rw [Config.tokenExpiry, Chrono.hours, hhours]
    simp only [Option.bind_eq_bind, Option.bind_some, hutc, Option.isSome_some]

theorem sweepPeriodSecs_isSome_iff :
    config.sweepPeriodSecs.isSome = true ↔ config.retentionSweepIntervalMinutes * 60 < 2 ^ 64 := by
  rw [Config.sweepPeriodSecs, Option.isSome_iff_exists]
  simp only [u64_eq_some, exists_eq_left]

/-- On the fields of a configuration: three bounds from above keep every computation in range. -/
theorem noOverflow_iff_fields (hnow : 0 ≤ now ∧ now ≤ year9999End)
    (hdevice : 1 ≤ config.deviceRetentionDays) (halert : 1 ≤ config.alertRetentionDays)
    (httl : 1 ≤ config.tokenTtlHours) :
    NoOverflow config now ↔
      config.deviceRetentionDays * Chrono.microsPerDay ≤ now - Chrono.minUtc ∧
      config.alertRetentionDays * Chrono.microsPerDay ≤ now - Chrono.minUtc ∧
      config.tokenTtlHours * Chrono.microsPerHour ≤ Chrono.maxUtc - now ∧
      config.retentionSweepIntervalMinutes * 60 < 2 ^ 64 := by
  constructor
  · intro h
    obtain ⟨hd, ha⟩ := (cutoffs_isSome_iff hnow hdevice halert).mp h.cutoffs
    exact ⟨hd, ha, (tokenExpiry_isSome_iff hnow httl).mp h.token_expiry,
      sweepPeriodSecs_isSome_iff.mp h.sweep_period⟩
  · rintro ⟨hd, ha, ht, hm⟩
    -- a time in range is far below what 64 bits hold in seconds
    have hend : year9999End = 253_402_300_799_999_999 := rfl
    have hmin : Chrono.minUtc = -8_334_601_228_800_000_000 := rfl
    have hmax : Chrono.maxUtc = 8_210_266_876_799_999_999 := rfl
    have hdays : config.deviceRetentionDays ≤ 100_000_000 := by
      rw [Chrono.microsPerDay] at hd
      omega
    have hhours : config.tokenTtlHours ≤ 3_000_000_000 := by
      rw [Chrono.microsPerHour] at ht
      omega
    exact {
      location_ttl := by rw [locationTtlSecs_of_le hdevice hdays]; rfl
      revocation_ttl := by rw [revocationTtlSecs_of_le httl hhours]; rfl
      sweep_period := sweepPeriodSecs_isSome_iff.mpr hm
      cutoffs := (cutoffs_isSome_iff hnow hdevice halert).mpr ⟨hd, ha⟩
      token_expiry := (tokenExpiry_isSome_iff hnow httl).mpr ht }

/-- Where nothing overflows, the key of a revoked device lives for what the token service
    computes without bounds. -/
theorem revocationTtlSecs_eq_tokenConfig {tokens : TokenConfig}
    (httl : config.tokenTtlHours = tokens.tokenTtlHours)
    (h : config.tokenTtlHours ≤ 3_000_000_000) :
    config.revocationTtlSecs = some tokens.revocationTtlSecs := by
  have hrange := tokens.ttl_range
  rw [revocationTtlSecs_of_le (by omega) h, TokenConfig.revocationTtlSecs,
    Nat.mod_eq_of_lt (by omega), httl, Int.toNat_natCast]

/-- The expiry in microseconds is in range exactly when the token service's, in milliseconds,
    is. -/
theorem tokenExpiry_isSome_iff_issue {tokens : TokenConfig} {D : Type} (deviceId : D)
    (httl : config.tokenTtlHours = tokens.tokenTtlHours)
    (hnow : 0 ≤ now ∧ now ≤ year9999End) :
    (config.tokenExpiry now).isSome = true ↔
      (tokens.signer.issue TokenService.maxUtcMillis (now / 1_000).toNat deviceId).isSome = true := by
  have hrange := tokens.ttl_range
  have hmax : Chrono.maxUtc = 8_210_266_876_799_999_999 := rfl
  have hmillis : TokenService.maxUtcMillis = 8_210_266_876_799_999 := rfl
  have hsigner : tokens.signer.ttlHours = tokens.tokenTtlHours := rfl
  rw [tokenExpiry_isSome_iff hnow (by omega), Chrono.microsPerHour, TokenSigner.issue, hsigner]
  split
  · next hlt =>
      simp only [Option.isSome_none, Bool.false_eq_true, iff_false]
      omega
  · next hle =>
      simp only [Option.isSome_some, iff_true]
      omega

end

-- ============================================================================
-- Accepted configurations
-- ============================================================================

/-- **Accepted configuration overflows exactly beyond its missing upper bounds.**  For every
    lookup that `Config::from_lookup` accepts and every time of the years 1970 to 9999, none
    of the derived computations overflows or panics if and only if the variables are in
    range. -/
theorem noOverflow_iff_inRange {get : Lookup} {config : Config} {now : Int}
    (h : Config.fromLookup get = .ok config) (hnow : 0 ≤ now ∧ now ≤ year9999End) :
    NoOverflow config now ↔ InRange get now := by
  obtain ⟨⟨httl, httl1⟩, ⟨hdevice, hdevice1⟩, ⟨halert, halert1⟩, ⟨hminutes, -⟩⟩ :=
    fromLookup_eq_ok h
  rw [noOverflow_iff_fields hnow hdevice1 halert1 httl1]
  constructor
  · intro hrange
    exact ⟨_, _, _, _, ⟨hdevice, halert, httl, hminutes⟩, hrange⟩
  · rintro ⟨d, a, t, m, ⟨hd, ha, ht, hm⟩, hrange⟩
    rw [hdevice] at hd
    rw [halert] at ha
    rw [httl] at ht
    rw [hminutes] at hm
    obtain rfl := Except.ok.inj hd
    obtain rfl := Except.ok.inj ha
    obtain rfl := Except.ok.inj ht
    obtain rfl := Except.ok.inj hm
    exact hrange

/-- A development environment with the given further variables. -/
def devLookup (extra : String → Option (List Char)) : Lookup := fun name =>
  if name = "DATABASE_URL" then some "postgres://localhost/pulsegrid".toList
  else if name = "REDIS_URL" then some "redis://localhost".toList
  else if name = "NATS_URL" then some "nats://localhost".toList
  else if name = "JWT_SECRET" then some "dev-secret".toList
  else extra name

/-- Some time in June 2025. -/
def june2025 : Int := 1_750_000_000_000_000

/-- The configuration of `devLookup` without further variables. -/
def defaultConfig : Config where
  environment := .development
  databaseUrl := "postgres://localhost/pulsegrid".toList
  redisUrl := "redis://localhost".toList
  natsUrl := "nats://localhost".toList
  jwt := .hs256 "dev-secret".toList
  tokenTtlHours := 720
  wsTicketTtlSecs := 30
  operatorKeys := ⟨[]⟩
  port := 8080
  logJson := false
  rateLimits := ⟨⟨5, 10⟩, ⟨10, 20⟩, ⟨2, 5⟩, false, false⟩
  deviceRetentionDays := 90
  alertRetentionDays := 365
  retentionSweepIntervalMinutes := 60
  alertStreamMaxAgeSecs := 3600

theorem fromLookup_defaults :
    Config.fromLookup (devLookup fun _ => none) = .ok defaultConfig := by
  decide +kernel

theorem noOverflow_iff_inRange_defaults : NoOverflow defaultConfig june2025 :=
  (noOverflow_iff_inRange fromLookup_defaults (by decide)).mpr
    ⟨90, 365, 720, 60, by decide +kernel⟩

/-- Devices are kept for 100 million days. -/
def longRetention : Lookup := devLookup fun name =>
  if name = "DEVICE_RETENTION_DAYS" then some "100000000".toList else none

/-- `longRetention` is accepted, but the cutoffs of its sweeps lie before the first year. -/
theorem accepted_config_overflows :
    ¬ ∀ (get : Lookup) (config : Config) (now : Int), Config.fromLookup get = .ok config →
      0 ≤ now ∧ now ≤ year9999End → NoOverflow config now := by
  intro hall
  have haccepted : (Config.fromLookup longRetention).isOk = true := by decide +kernel
  obtain ⟨config, hconfig⟩ : ∃ config, Config.fromLookup longRetention = .ok config := by
    cases hload : Config.fromLookup longRetention with
    | ok config => exact ⟨config, rfl⟩
    | error message =>
        rw [hload] at haccepted
        cases haccepted
  have hdays : config.deviceRetentionDays = 100_000_000 := by
    obtain ⟨-, ⟨hdevice, -⟩, -⟩ := fromLookup_eq_ok hconfig
    have hread : readDeviceRetentionDays longRetention = .ok 100_000_000 := by decide +kernel
    rw [hread] at hdevice
    exact (Except.ok.inj hdevice).symm
  obtain ⟨-, ⟨-, hdevice⟩, ⟨-, halert⟩, -⟩ := fromLookup_eq_ok hconfig
  have hnow : 0 ≤ june2025 ∧ june2025 ≤ year9999End := by decide
  have hcutoffs := (hall longRetention config june2025 hconfig hnow).cutoffs
  have hle := ((cutoffs_isSome_iff hnow hdevice halert).mp hcutoffs).1
  rw [hdays] at hle
  exact absurd hle (by decide)

end PulseGrid.Coordinator
