/-
  PulseGrid.Coordinator.TokenRevocation

  Does a revoked token stay dead?

  A device's token is issued at registration and expires by the token TTL of that time
  (`TokenSigner::issue` in crates/domain/src/auth.rs).  Its revocation key lives as long as
  the TTL in force when it is written says (`build_state` in
  crates/api-coordinator/src/lib.rs), and a restart may have changed that in between.

  `revoked_token_stays_dead`: in every run in which each revocation key that is written
  outlives the tokens of its device, no request of a revoked or deleted device is
  authenticated again.
-/

import PulseGrid.Domain.Auth
import PulseGrid.Lib.ExpiringStore
import PulseGrid.Lib.RunHistory

namespace PulseGrid.Coordinator

variable {D : Type}

-- ============================================================================
-- Requests
-- ============================================================================

/-- What `Config::from_lookup` accepts, as far as tokens are concerned:
    `DEVICE_TOKEN_TTL_HOURS` is an `i64` and at least 1. -/
structure TokenConfig where
  tokenTtlHours : Nat
  ttl_range : 1 ≤ tokenTtlHours ∧ tokenTtlHours < 2 ^ 63
deriving DecidableEq

/-- `revocation_ttl_secs`, computed in `u64`. -/
def TokenConfig.revocationTtlSecs (config : TokenConfig) : Nat :=
  (config.tokenTtlHours * 3_600 + 86_400) % 2 ^ 64

def TokenConfig.signer (config : TokenConfig) : TokenSigner :=
  { ttlHours := config.tokenTtlHours }

/-- The coordinator and the stores that authentication depends on. -/
structure TokenService (D : Type) where
  config : TokenConfig
  /-- The clock of the last request, in milliseconds. -/
  now : Nat := 0
  /-- The ids `Uuid::new_v4` has given to registrations. -/
  drawn : List D := []
  rows : List D := []
  /-- The tokens signed with the coordinator's key. -/
  tokens : List (Claims D) := []
  revocations : ExpiringStore D Unit := ∅

inductive TokenRequest (D : Type) where
  /-- `DeviceService::register`, for the id it draws. -/
  | register (deviceId : D)
  | revoke (deviceId : D)
  | delete (deviceId : D)
  /-- `AuthDevice::from_request_parts`, for the bearer token of the request. -/
  | authenticate (bearer : Option (Claims D))
deriving DecidableEq, Repr

inductive TokenResponse (D : Type) where
  | registered (token : Claims D)
  | ok
  | authenticated (deviceId : D)
  | deviceNotFound
  | unauthorized
  | serviceUnavailable
  /-- A store failed, or the request panicked. -/
  | failed
deriving DecidableEq, Repr

namespace TokenService

variable [DecidableEq D]

/-- The last moment at which a revocation key written at `now` is there. -/
def keyExpiresAt (s : TokenService D) (now : Nat) : Nat :=
  now + s.config.revocationTtlSecs * 1_000

/-- `RevocationStore::revoke` with the TTL of the current configuration; `none` if Redis
    fails or refuses the expiry time. -/
def revokeKey (s : TokenService D) (now : Nat) (redisOk : Bool) (deviceId : D) :
    Option (TokenService D) :=
  if redisOk ∧ 0 < s.config.revocationTtlSecs ∧ s.keyExpiresAt now < 2 ^ 63 then
    some { s with revocations := s.revocations.setEx deviceId () (s.keyExpiresAt now) }
  else none

/-- The end of `register`: the token it returns, if `TokenSigner::issue` gave one. -/
def storeToken (s : TokenService D) : Option (Claims D) → TokenService D × TokenResponse D
  | none => (s, .failed)
  | some token => ({ s with tokens := token :: s.tokens }, .registered token)

/-- A request at time `now`, with Redis and Postgres up or down. -/
def handle (lastMillis : Nat) (s : TokenService D) (now : Nat) (redisOk postgresOk : Bool) :
    TokenRequest D → TokenService D × TokenResponse D
  | .register deviceId =>
      let s := { s with drawn := deviceId :: s.drawn }
      if !postgresOk || !redisOk then (s, .failed)
      else { s with rows := deviceId :: s.rows }.storeToken
        (s.config.signer.issue lastMillis now deviceId)
  | .revoke deviceId =>
      if !postgresOk then (s, .failed)
      else if deviceId ∉ s.rows then (s, .deviceNotFound)
      else match s.revokeKey now redisOk deviceId with
        | none => (s, .failed)
        | some s => (s, .ok)
  | .delete deviceId =>
      match s.revokeKey now redisOk deviceId with
      | none => (s, .failed)
      | some s =>
          if !postgresOk then (s, .failed)
          else ({ s with rows := s.rows.filter (· ≠ deviceId) },
            if deviceId ∈ s.rows then .ok else .deviceNotFound)
  | .authenticate bearer =>
      (s, match bearer with
        | none => .unauthorized
        | some token =>
            if token ∉ s.tokens ∨ token.verifiesUntil < now then .unauthorized
            else if !redisOk then .serviceUnavailable
            else if (s.revocations.getAt now token.sub).isSome then .unauthorized
            else .authenticated token.sub)

inductive Label (D : Type) where
  | request (now : Nat) (redisOk postgresOk : Bool) (request : TokenRequest D)
  | restart (config : TokenConfig)

/-- The clock does not run backwards, and no id is drawn twice. -/
def step (lastMillis : Nat) (s : TokenService D) : Label D → Option (TokenService D)
  | .restart config => some { s with config := config }
  | .request now redisOk postgresOk request =>
      if now < s.now ∨ ∃ deviceId ∈ s.drawn, request = .register deviceId then none
      else some { (handle lastMillis s now redisOk postgresOk request).1 with now := now }

/-- A revocation key written now would outlive the device's tokens. -/
def Outlives (s : TokenService D) (now : Nat) (deviceId : D) : Prop :=
  ∀ token ∈ s.tokens, token.sub = deviceId →
    token.verifiesUntil ≤ s.keyExpiresAt now

/-- Every revocation key that is written outlives the device's tokens. -/
def StepOk (s : TokenService D) : Label D → Prop
  | .request now redisOk postgresOk (.revoke deviceId) =>
      postgresOk = true → deviceId ∈ s.rows →
        (s.revokeKey now redisOk deviceId).isSome = true → s.Outlives now deviceId
  | .request now redisOk _ (.delete deviceId) =>
      (s.revokeKey now redisOk deviceId).isSome = true → s.Outlives now deviceId
  | _ => True

instance (s : TokenService D) (now : Nat) (deviceId : D) : Decidable (s.Outlives now deviceId) :=
  inferInstanceAs (Decidable (∀ token ∈ s.tokens, token.sub = deviceId →
    token.verifiesUntil ≤ s.keyExpiresAt now))

instance (s : TokenService D) : DecidablePred s.StepOk
  | .request now redisOk postgresOk (.revoke deviceId) => inferInstanceAs (Decidable
      (postgresOk = true → deviceId ∈ s.rows →
        (s.revokeKey now redisOk deviceId).isSome = true → s.Outlives now deviceId))
  | .request now redisOk _ (.delete deviceId) => inferInstanceAs (Decidable
      ((s.revokeKey now redisOk deviceId).isSome = true → s.Outlives now deviceId))
  | .request _ _ _ (.register _) | .request _ _ _ (.authenticate _) | .restart _ => isTrue trivial

/-- No request of a device is authenticated after a `revoke` or `delete` of it returned
    `Ok`. -/
def StaysDead (lastMillis : Nat) (start : TokenService D) (labels : List (Label D)) : Prop :=
  ∀ m n s₁ s₂ now₁ now₂ redis₁ redis₂ postgres₁ postgres₂ deviceId request bearer, m < n →
    Transition.StepAt (step lastMillis) start labels m s₁
      (.request now₁ redis₁ postgres₁ request) →
    request = .revoke deviceId ∨ request = .delete deviceId →
    (handle lastMillis s₁ now₁ redis₁ postgres₁ request).2 = .ok →
    Transition.StepAt (step lastMillis) start labels n s₂
      (.request now₂ redis₂ postgres₂ (.authenticate bearer)) →
    (handle lastMillis s₂ now₂ redis₂ postgres₂ (.authenticate bearer)).2 ≠
      .authenticated deviceId

-- ============================================================================
-- One request
-- ============================================================================

variable {lastMillis now : Nat} {redisOk postgresOk : Bool} {s t : TokenService D}
  {deviceId : D} {request : TokenRequest D}

/-- The device's key outlives its tokens, and it will get no other token. -/
def Dead (s : TokenService D) (deviceId : D) : Prop :=
  deviceId ∈ s.drawn ∧ ∃ key, DashMap.get s.revocations deviceId = some key ∧
    ∀ token ∈ s.tokens, token.sub = deviceId →
      token.verifiesUntil ≤ key.expiresAt

/-- Every row is of a registered device. -/
def RowsDrawn (s : TokenService D) : Prop := ∀ deviceId ∈ s.rows, deviceId ∈ s.drawn

theorem revokeKey_eq_some (h : s.revokeKey now redisOk deviceId = some t) :
    t = { s with revocations := s.revocations.setEx deviceId () (s.keyExpiresAt now) } := by
  unfold revokeKey at h
  split at h
  · exact (Option.some.inj h).symm
  · cases h

/-- Writing a key that outlives the device's tokens. -/
theorem dead_of_revokeKey (hdrawn : deviceId ∈ s.drawn) (houtlives : s.Outlives now deviceId)
    (h : s.revokeKey now redisOk deviceId = some t) : t.Dead deviceId := by
  rw [revokeKey_eq_some h]
  exact ⟨hdrawn, _, ExpiringStore.get_setEx_self _ _ _ _, houtlives⟩

theorem Dead.revokeKey {other : D} (hdead : s.Dead deviceId) (houtlives : s.Outlives now other)
    (h : s.revokeKey now redisOk other = some t) : t.Dead deviceId := by
  by_cases heq : deviceId = other
  · rw [← heq] at houtlives h
    exact dead_of_revokeKey hdead.1 houtlives h
  · obtain ⟨hdrawn, key, hkey, hcovers⟩ := hdead
    rw [revokeKey_eq_some h]
    refine ⟨hdrawn, key, ?_, hcovers⟩
    rw [← hkey]
    exact ExpiringStore.get_setEx_of_ne _ _ _ heq

omit [DecidableEq D] in
theorem sub_of_issue {signer : TokenSigner} {token : Claims D}
    (h : signer.issue lastMillis now deviceId = some token) : token.sub = deviceId := by
  unfold TokenSigner.issue at h
  dsimp only at h
  split at h
  · cases h
  · rw [← Option.some.inj h]

/-- A token for another device changes nothing. -/
theorem Dead.storeToken (hdead : s.Dead deviceId) {issued : Option (Claims D)}
    (hsub : ∀ token ∈ issued, token.sub ≠ deviceId) : (s.storeToken issued).1.Dead deviceId := by
  cases issued with
  | none => exact hdead
  | some new =>
      obtain ⟨hdrawn, key, hkey, hcovers⟩ := hdead
      refine ⟨hdrawn, key, hkey, fun token htoken htokenSub => ?_⟩
      rcases List.mem_cons.mp htoken with rfl | hold
      · exact absurd htokenSub (hsub token rfl)
      · exact hcovers token hold htokenSub

/-- A registration draws another id. -/
theorem Dead.register {other : D} (hdead : s.Dead deviceId) (hne : deviceId ≠ other) :
    (handle lastMillis s now redisOk postgresOk (.register other)).1.Dead deviceId := by
  obtain ⟨hdrawn, hkey⟩ := hdead
  have hdrawn' : deviceId ∈ other :: s.drawn := List.mem_cons_of_mem _ hdrawn
  simp only [handle]
  split
  · exact ⟨hdrawn', hkey⟩
  · have hdead' : ({ s with drawn := other :: s.drawn, rows := other :: s.rows } :
        TokenService D).Dead deviceId := ⟨hdrawn', hkey⟩
    refine hdead'.storeToken fun token htoken hsub => ?_
    exact hne (hsub.symm.trans (sub_of_issue htoken))

theorem Dead.handle (hdead : s.Dead deviceId)
    (hok : s.StepOk (.request now redisOk postgresOk request))
    (hfresh : request ≠ .register deviceId) :
    (handle lastMillis s now redisOk postgresOk request).1.Dead deviceId := by
  cases request with
  | register other =>
      refine hdead.register fun heq => ?_
      rw [heq] at hfresh
      exact hfresh rfl
  | revoke other =>
      unfold TokenService.handle
      dsimp only
      split
      · exact hdead
      · next hpostgres =>
        split
        · exact hdead
        · next hrow =>
          split
          · exact hdead
          · next t ht =>
            have houtlives := hok (by simpa using hpostgres) (not_not.mp hrow)
              (Option.isSome_iff_exists.mpr ⟨t, ht⟩)
            exact hdead.revokeKey houtlives ht
  | delete other =>
      unfold TokenService.handle
      dsimp only
      split
      · exact hdead
      · next t ht =>
        have houtlives := hok (Option.isSome_iff_exists.mpr ⟨t, ht⟩)
        obtain ⟨hdrawn, hkey⟩ := hdead.revokeKey houtlives ht
        split
        · exact ⟨hdrawn, hkey⟩
        · exact ⟨hdrawn, hkey⟩
  | authenticate bearer => exact hdead

/-- What a `revoke` or `delete` that returns `Ok` leaves behind. -/
theorem dead_of_ok (hrows : s.RowsDrawn)
    (hok : s.StepOk (.request now redisOk postgresOk request))
    (hrequest : request = .revoke deviceId ∨ request = .delete deviceId)
    (hresponse : (TokenService.handle lastMillis s now redisOk postgresOk request).2 = .ok) :
    (TokenService.handle lastMillis s now redisOk postgresOk request).1.Dead deviceId := by
  rcases hrequest with rfl | rfl
  · unfold TokenService.handle at hresponse ⊢
    dsimp only at hresponse ⊢
    split at hresponse
    · cases hresponse
    · next hpostgres =>
      split at hresponse
      · cases hresponse
      · next hrow =>
        split at hresponse
        · cases hresponse
        · next t ht =>
          have hmem := not_not.mp hrow
          have houtlives := hok (by simpa using hpostgres) hmem
            (Option.isSome_iff_exists.mpr ⟨t, ht⟩)
          rw [if_neg hpostgres, if_neg hrow]
          exact dead_of_revokeKey (hrows deviceId hmem) houtlives ht
  · unfold TokenService.handle at hresponse ⊢
    dsimp only at hresponse ⊢
    split at hresponse
    · cases hresponse
    · next t ht =>
      have houtlives := hok (Option.isSome_iff_exists.mpr ⟨t, ht⟩)
      split at hresponse
      · cases hresponse
      · next hpostgres =>
        have hmem : deviceId ∈ s.rows := by
          by_contra hnot
          rw [revokeKey_eq_some ht, if_neg hnot] at hresponse
          cases hresponse
        obtain ⟨hdrawn, hkey⟩ := dead_of_revokeKey (hrows deviceId hmem) houtlives ht
        rw [if_neg hpostgres]
        exact ⟨hdrawn, hkey⟩

/-- The tokens of a dead device are refused: while one verifies, the key is there. -/
theorem Dead.not_authenticated (hdead : s.Dead deviceId) (bearer : Option (Claims D)) :
    (TokenService.handle lastMillis s now redisOk postgresOk (.authenticate bearer)).2 ≠
      .authenticated deviceId := by
  obtain ⟨-, key, hkey, hcovers⟩ := hdead
  intro hresponse
  cases bearer with
  | none => cases hresponse
  | some token =>
      unfold TokenService.handle at hresponse
      dsimp only at hresponse
      split at hresponse
      · cases hresponse
      · next hvalid =>
        split at hresponse
        · cases hresponse
        · split at hresponse
          · cases hresponse
          · next habsent =>
            cases hresponse
            obtain ⟨hmem, hverifies⟩ : token ∈ s.tokens ∧ now ≤ token.verifiesUntil := by
              simpa using hvalid
            have hvisible : s.revocations.getAt now token.sub = some key.value :=
              ExpiringStore.getAt_eq_some.mpr
                ⟨key, hkey, le_trans hverifies (hcovers token hmem rfl), rfl⟩
            rw [hvisible] at habsent
            exact habsent rfl

-- ============================================================================
-- Runs
-- ============================================================================

theorem RowsDrawn.handle (hrows : s.RowsDrawn) (request : TokenRequest D) :
    (TokenService.handle lastMillis s now redisOk postgresOk request).1.RowsDrawn := by
  have hkey : ∀ {other t}, s.revokeKey now redisOk other = some t → t.RowsDrawn := by
    intro other t ht
    rw [revokeKey_eq_some ht]
    exact hrows
  cases request with
  | register other =>
      have hdrawn : ∀ deviceId ∈ s.rows, deviceId ∈ other :: s.drawn :=
        fun deviceId hmem => List.mem_cons_of_mem _ (hrows deviceId hmem)
      simp only [TokenService.handle]
      split
      · exact hdrawn
      · have hcons : ∀ deviceId ∈ other :: s.rows, deviceId ∈ other :: s.drawn := by
          intro deviceId hmem
          rcases List.mem_cons.mp hmem with rfl | hmem
          · exact List.mem_cons_self
          · exact hdrawn deviceId hmem
        cases s.config.signer.issue lastMillis now other with
        | none => exact hcons
        | some token => exact hcons
  | revoke other =>
      unfold TokenService.handle
      dsimp only
      split
      · exact hrows
      · split
        · exact hrows
        · split
          · exact hrows
          · next t ht => exact hkey ht
  | delete other =>
      unfold TokenService.handle
      dsimp only
      split
      · exact hrows
      · next t ht =>
        split
        · exact hkey ht
        · intro deviceId hmem
          exact hkey ht deviceId (List.mem_of_mem_filter hmem)
  | authenticate bearer => exact hrows

/-- A step is a request that draws no id twice, or a restart. -/
theorem step_cases {a : Label D} (hstep : step lastMillis s a = some t) :
    (∃ now redisOk postgresOk request, a = .request now redisOk postgresOk request ∧
      (∀ deviceId ∈ s.drawn, request ≠ .register deviceId) ∧
      t = { (TokenService.handle lastMillis s now redisOk postgresOk request).1 with now := now }) ∨
    ∃ config, a = .restart config ∧ t = { s with config := config } := by
  cases a with
  | request now redisOk postgresOk request =>
      simp only [step] at hstep
      split at hstep
      · cases hstep
      · next hfresh =>
        refine .inl ⟨now, redisOk, postgresOk, request, rfl, fun deviceId hmem heq => ?_,
          (Option.some.inj hstep).symm⟩
        exact hfresh (.inr ⟨deviceId, hmem, heq⟩)
  | restart config => exact .inr ⟨config, rfl, (Option.some.inj hstep).symm⟩

theorem RowsDrawn.step {a : Label D} (hrows : s.RowsDrawn)
    (hstep : step lastMillis s a = some t) : t.RowsDrawn := by
  rcases step_cases hstep with ⟨now, redisOk, postgresOk, request, -, -, rfl⟩ | ⟨config, -, rfl⟩
  · exact hrows.handle request
  · exact hrows

theorem Dead.step {a : Label D} (hdead : s.Dead deviceId) (hok : s.StepOk a)
    (hstep : step lastMillis s a = some t) : t.Dead deviceId := by
  rcases step_cases hstep with ⟨now, redisOk, postgresOk, request, rfl, hfresh, rfl⟩ |
    ⟨config, -, rfl⟩
  · exact hdead.handle hok (hfresh deviceId hdead.1)
  · exact hdead

theorem stepOk_of_stepAt {start : TokenService D} {labels : List (Label D)} {n : Nat} {a : Label D}
    (hok : Transition.RunOk (step lastMillis) StepOk start labels)
    (hat : Transition.StepAt (step lastMillis) start labels n s a) : s.StepOk a := by
  have hrest := (Transition.runOk_take hok hat.2).2
  obtain ⟨hlt, ha⟩ := List.getElem?_eq_some_iff.mp hat.1
  rw [List.drop_eq_getElem_cons hlt, ha] at hrest
  exact hrest.1

/-- **A revoked token stays dead**, in every run in which each revocation key outlives the
    tokens of its device when it is written. -/
theorem revoked_token_stays_dead (config : TokenConfig) {labels : List (Label D)}
    (hok : Transition.RunOk (step lastMillis) StepOk { config := config } labels) :
    StaysDead lastMillis { config := config } labels := by
  intro m n s₁ s₂ now₁ now₂ redis₁ redis₂ postgres₁ postgres₂ deviceId request bearer hlt hat₁
    hrequest hresponse hat₂
  have hrows : s₁.RowsDrawn :=
    Transition.run_invariant_all (fun _ _ _ h hstep => h.step hstep)
      (fun deviceId hmem => by cases hmem) hat₁.2
  have hdead := dead_of_ok hrows (stepOk_of_stepAt hok hat₁) hrequest hresponse
  obtain ⟨s₁', hs₁', -⟩ := Transition.run_take_of_le hlt hat₂.2
  have hdead' : s₁'.Dead deviceId := by
    rw [hat₁.take_succ] at hs₁'
    rcases step_cases hs₁' with ⟨_, _, _, _, heq, -, rfl⟩ | ⟨_, heq, -⟩
    · cases heq
      exact hdead
    · cases heq
  have hlater : s₂.Dead deviceId :=
    Transition.run_take_invariant (P := fun s : TokenService D => s.Dead deviceId)
      (fun _ _ _ h hok hstep => h.step hok hstep) hok hs₁' hdead' hlt hat₂.2
  exact hlater.not_authenticated bearer

/-- 30 days, the default. -/
def defaultTtl : TokenConfig := { tokenTtlHours := 720, ttl_range := by decide }

def oneHour : TokenConfig := { tokenTtlHours := 1, ttl_range := by decide }

/-- `DateTime::<Utc>::MAX_UTC`. -/
def maxUtcMillis : Nat := 8_210_266_876_799_999

def freshStart : TokenService Nat := { config := defaultTtl }

/-- The token that a registration at time 0 gets by default. -/
def thirtyDayToken : Claims Nat := { sub := 7, exp := 2_592_000, iat := 0 }

/-- The device is revoked a minute after its registration, without a restart, and shows its
    token again 26 hours later. -/
def revokeAtOnce : List (Label Nat) :=
  [.request 0 true true (.register 7), .request 60_000 true true (.revoke 7),
   .request 93_660_000 true true (.authenticate (some thirtyDayToken))]

theorem revokeAtOnce_stays_dead :
    Transition.RunOk (step maxUtcMillis) StepOk freshStart revokeAtOnce ∧
      StaysDead maxUtcMillis freshStart revokeAtOnce := by
  have hok : Transition.RunOk (step maxUtcMillis) StepOk freshStart revokeAtOnce := by
    decide +kernel
  exact ⟨hok, revoked_token_stays_dead defaultTtl hok⟩

/-- The same with a restart in between that lowers the TTL: the key is gone after 25
    hours. -/
def revokeAfterRestart : List (Label Nat) :=
  [.request 0 true true (.register 7), .restart oneHour,
   .request 60_000 true true (.revoke 7),
   .request 93_660_000 true true (.authenticate (some thirtyDayToken))]

theorem revokeAfterRestart_before_revoke :
    (Transition.run (step maxUtcMillis) freshStart (revokeAfterRestart.take 2)).isSome = true := by
  decide +kernel

theorem revokeAfterRestart_before_authenticate :
    (Transition.run (step maxUtcMillis) freshStart (revokeAfterRestart.take 3)).isSome = true := by
  decide +kernel

theorem revokeAfterRestart_revives :
    ¬ StaysDead maxUtcMillis freshStart revokeAfterRestart := by
  intro h
  have hat₁ := (Option.some_get revokeAfterRestart_before_revoke).symm
  have hat₂ := (Option.some_get revokeAfterRestart_before_authenticate).symm
  exact h 2 3 _ _ 60_000 93_660_000 true true true true 7 (.revoke 7) (some thirtyDayToken)
    (by decide) ⟨rfl, hat₁⟩ (.inl rfl) (by decide +kernel) ⟨rfl, hat₂⟩ (by decide +kernel)

end TokenService
end PulseGrid.Coordinator
