/-
  PulseGrid.System.Tickets

  WebSocket tickets, from `issue_ws_ticket` on the coordinators to `authorize` on the
  workers (crates/api-coordinator/src/services/device_service.rs,
  crates/fanout-worker/src/ws.rs, `WsTicketStore` in crates/infra/src/redis.rs), for all
  devices at once.

  The requests and the connects are the ones of `Coordinator.advance` and
  `WorkerState.advance`, each working on the stores as far as its device is concerned.
  Here a store command may also fail, a key may expire at any time, and rows, records,
  revocation keys and the workers' shards may change under a call.

  What one step of a request and of an `authorize` does is said in
  `ServiceCall.advance_cases` and `AuthorizeCall.advance_cases`.
-/

import PulseGrid.Domain.Auth
import PulseGrid.Worker.Connect

namespace PulseGrid.System

open Coordinator Worker

variable {D W F : Type} [CommRing F] [LinearOrder F]

-- ============================================================================
-- Stores
-- ============================================================================

/-- What became of a store command. -/
inductive Reply where
  | ok
  /-- It failed and had no effect. -/
  | failed
  /-- It took effect, but the caller was told that it failed. -/
  | lost
deriving DecidableEq, Repr

/-- The stores for all devices. -/
structure SharedStores (D F : Type) [CommRing F] [LinearOrder F] where
  row : D → Option (Device D F) := fun _ => none
  record : D → Option (DeviceLocationRecord F) := fun _ => none
  revoked : D → Bool := fun _ => false
  tickets : DashMap String D := ∅
  shards : DashMap String String := ∅

namespace SharedStores

/-- The stores, as far as one device is concerned. -/
def view (stores : SharedStores D F) (deviceId : D) : Stores D F :=
  { row := stores.row deviceId, record := stores.record deviceId
    revoked := stores.revoked deviceId, tickets := stores.tickets, shards := stores.shards }

/-- The stores after a command about one device. -/
def write [DecidableEq D] (stores : SharedStores D F) (deviceId : D) (new : Stores D F) :
    SharedStores D F :=
  { row := Function.update stores.row deviceId new.row
    record := Function.update stores.record deviceId new.record
    revoked := Function.update stores.revoked deviceId new.revoked
    tickets := new.tickets, shards := new.shards }

/-- The stores after a command that was answered with `reply`. -/
def after [DecidableEq D] (stores : SharedStores D F) (deviceId : D) (new : Stores D F) :
    Reply → SharedStores D F
  | .ok | .lost => stores.write deviceId new
  | .failed => stores

end SharedStores

-- ============================================================================
-- Requests
-- ============================================================================

/-- A request to the device service. -/
structure ServiceCall (D F : Type) [CommRing F] [LinearOrder F] where
  deviceId : D
  request : Request F
  /-- `none` once it has returned because a store command failed. -/
  pc : Option (RequestPc D F)
deriving DecidableEq

namespace ServiceCall

/-- Where a request goes on when its command failed; `none` if it returns the error. -/
def afterFailure (parts : DeviceServiceParts F) (deviceId : D) :
    RequestPc D F → Option (RequestPc D F)
  | .updateLookup device =>
      some (.updateNotify (.shardChanged device.shardPrefix none)
        { shardPrefix := device.shardPrefix, shardChanged := true, wsUrl := none })
  | .updateNotify _ update => some (.done (.located update))
  | .ticketLookup ticket device =>
      some (.done (.ticket
        { ticket := ticket, shardPrefix := device.shardPrefix, wsUrl := none,
          expiresInSecs := parts.wsTicketTtlSecs }))
  | .revokeNotify => some (.done .ok)
  | .deleteRecord existed => some (.deleteNotify existed)
  | .deleteNotify existed =>
      some (.done (if existed then .ok else .failed (.deviceNotFound deviceId)))
  | _ => none

/-- The next store command of a request; `none` when it has returned. -/
def advance [DecidableEq D] (parts : DeviceServiceParts F) (reply : Reply)
    (stores : SharedStores D F) (call : ServiceCall D F) :
    Option (SharedStores D F × ServiceCall D F) :=
  match call.pc with
  | none => none
  | some pc =>
      (Coordinator.advance parts call.deviceId (stores.view call.deviceId) pc).map
        fun (new, pc') => (stores.after call.deviceId new reply,
          { call with pc := if reply = .ok then some pc' else afterFailure parts call.deviceId pc })

/-- The ticket that a request has yet to store. -/
def ticketOf? : RequestPc D F → Option String
  | .ticketFind ticket | .ticketRecord ticket _ | .ticketIssue ticket _ => some ticket
  | _ => none

def ticket? (call : ServiceCall D F) : Option String := call.pc.bind ticketOf?

end ServiceCall

-- ============================================================================
-- Connects
-- ============================================================================

def backendUnavailable : Rejection :=
  { status := 503, reason := "backend_unavailable",
    message := "authentication backend unavailable" }

/-- A call of `authorize`.  It has returned `Ok` when its next step would be to register
    the connection. -/
structure AuthorizeCall (D W F : Type) [CommRing F] [LinearOrder F] where
  worker : W
  deviceId : D
  params : ConnectParams
  pc : ConnectPc F
deriving DecidableEq

namespace AuthorizeCall

/-- Where `authorize` goes on when its command failed.  No command is sent for a malformed
    ticket. -/
def afterFailure : ConnectPc F → ConnectPc F
  | .consume params =>
      if !isTicketShaped params.ticket then .rejected .invalidTicket
      else .rejected backendUnavailable
  | .checkRevoked _ | .readLocation _ => .rejected backendUnavailable
  | .lookupShard shardPrefix => .rejected (.wrongShard shardPrefix none)
  | pc => pc

/-- The next step of `authorize` on a worker that owns `owned`; `none` when it has
    returned. -/
def advance [DecidableEq D] (owned : List String) (reply : Reply) (stores : SharedStores D F)
    (call : AuthorizeCall D W F) : Option (SharedStores D F × AuthorizeCall D W F) :=
  match call.pc with
  | .register _ => none
  | pc =>
      (WorkerState.advance call.deviceId (stores.view call.deviceId)
          ({ owned := owned } : WorkerState D F Unit) pc).map
        fun (new, _, pc') => (stores.after call.deviceId new reply,
          { call with pc := if reply = .ok then pc' else afterFailure pc })

end AuthorizeCall

-- ============================================================================
-- The system
-- ============================================================================

/-- The stores, the shards each worker owns, and all calls in the order they came in. -/
structure TicketSystem (D W F : Type) [CommRing F] [LinearOrder F] where
  stores : SharedStores D F := {}
  owned : W → List String := fun _ => []
  requests : List (ServiceCall D F) := []
  authorizes : List (AuthorizeCall D W F) := []

namespace TicketSystem

inductive Label (D W F : Type) [CommRing F] [LinearOrder F] where
  /-- A call of `issue_ws_ticket`, with the UUIDs `new_ws_ticket` will draw for it. -/
  | issueWsTicket (deviceId : D) (first second : BitVec 128)
  /-- Any other request to the device service. -/
  | request (deviceId : D) (request : Request F)
  | requestStep (i : Nat) (reply : Reply)
  | authorize (worker : W) (deviceId : D) (params : ConnectParams)
  | authorizeStep (j : Nat) (reply : Reply)
  | expireTicket (ticket : String)
  /-- A device registers, or its record or revocation key expires. -/
  | setDevice (deviceId : D) (row : Option (Device D F))
      (record : Option (DeviceLocationRecord F)) (revoked : Bool)
  /-- A worker acquires or loses shards. -/
  | setOwned (worker : W) (owned : List String)
  | setShards (shards : DashMap String String)

variable [DecidableEq D] [DecidableEq W]

def step (parts : DeviceServiceParts F) (s : TicketSystem D W F) :
    Label D W F → Option (TicketSystem D W F)
  | .issueWsTicket deviceId first second =>
      let request := .issueWsTicket (newWsTicket first second)
      some { s with requests := s.requests ++
        [{ deviceId := deviceId, request := request, pc := some (.start request) }] }
  | .request deviceId request => match request with
      | .issueWsTicket _ => none
      | request => some { s with requests := s.requests ++
          [{ deviceId := deviceId, request := request, pc := some (.start request) }] }
  | .requestStep i reply => match s.requests[i]? with
      | none => none
      | some call => (call.advance parts reply s.stores).map fun (stores, call') =>
          { s with stores := stores, requests := s.requests.set i call' }
  | .authorize worker deviceId params =>
      some { s with authorizes := s.authorizes ++
        [{ worker := worker, deviceId := deviceId, params := params, pc := .consume params }] }
  | .authorizeStep j reply => match s.authorizes[j]? with
      | none => none
      | some call => (call.advance (s.owned call.worker) reply s.stores).map fun (stores, call') =>
          { s with stores := stores, authorizes := s.authorizes.set j call' }
  | .expireTicket ticket =>
      some { s with stores :=
        { s.stores with tickets := s.stores.tickets.removeIf ticket fun _ => true } }
  | .setDevice deviceId row record revoked =>
      some { s with stores :=
        { s.stores with
          row := Function.update s.stores.row deviceId row
          record := Function.update s.stores.record deviceId record
          revoked := Function.update s.stores.revoked deviceId revoked } }
  | .setOwned worker owned => some { s with owned := Function.update s.owned worker owned }
  | .setShards shards => some { s with stores := { s.stores with shards := shards } }

/-- No two calls of `issue_ws_ticket` draw the same ticket. -/
def TicketsDistinct (s : TicketSystem D W F) : Label D W F → Prop
  | .issueWsTicket _ first second =>
      ∀ call ∈ s.requests, call.request ≠ .issueWsTicket (newWsTicket first second)
  | _ => True

instance (s : TicketSystem D W F) : DecidablePred s.TicketsDistinct
  | .issueWsTicket _ first second => inferInstanceAs (Decidable
      (∀ call ∈ s.requests, call.request ≠ .issueWsTicket (newWsTicket first second)))
  | .request _ _ | .requestStep _ _ | .authorize _ _ _ | .authorizeStep _ _ | .expireTicket _
  | .setDevice _ _ _ _ | .setOwned _ _ | .setShards _ => isTrue trivial

/-- Before the first call: any devices and any owned shards, but no tickets. -/
def initial (stores : SharedStores D F) (owned : W → List String) : TicketSystem D W F :=
  { stores := { stores with tickets := ∅ }, owned := owned }

end TicketSystem

-- ============================================================================
-- What a step of a call does
-- ============================================================================

section Calls

variable [DecidableEq D] {parts : DeviceServiceParts F} {reply : Reply}
  {stores stores' : SharedStores D F}

@[simp] theorem SharedStores.tickets_after (stores : SharedStores D F) (deviceId : D)
    (new : Stores D F) (reply : Reply) :
    (stores.after deviceId new reply).tickets =
      if reply = .failed then stores.tickets else new.tickets := by
  cases reply <;> rfl

omit [DecidableEq D] in
/-- Only `tickets.issue` stores a ticket, and then the request is done with it. -/
theorem ServiceCall.ticketOf_advance {deviceId : D} {old new : Stores D F} {pc pc' : RequestPc D F}
    (h : Coordinator.advance parts deviceId old pc = some (new, pc')) :
    (∀ ticket, ticketOf? pc' = some ticket → ticketOf? pc = some ticket) ∧
      (new.tickets = old.tickets ∨ ∃ ticket device, pc = .ticketIssue ticket device ∧
        ticketOf? pc' = none ∧ new.tickets = old.tickets.put ticket deviceId) := by
  cases pc with
  | ticketIssue ticket device =>
      obtain ⟨rfl, rfl⟩ := by simpa [Coordinator.advance] using h
      exact ⟨by simp [ticketOf?], .inr ⟨ticket, device, rfl, rfl, rfl⟩⟩
  | done response => simp [Coordinator.advance] at h
  | updateRow device location moved shardChanged =>
      simp only [Coordinator.advance] at h
      split at h
      · obtain ⟨rfl, rfl⟩ := by simpa using h
        exact ⟨by simp [ticketOf?], .inl rfl⟩
      · obtain ⟨rfl, rfl⟩ := by simpa using h
        exact ⟨by simp [ticketOf?], .inl rfl⟩
  | updateFind lat lon =>
      obtain ⟨rfl, rfl⟩ := by simpa [Coordinator.advance] using h
      refine ⟨fun ticket hticket => ?_, .inl rfl⟩
      cases hrow : old.row with
      | none => simp [hrow, ticketOf?] at hticket
      | some device =>
          cases hplan : planUpdate parts device lat lon <;> simp [hrow, hplan, ticketOf?] at hticket
  | updateRecord device location moved shardChanged =>
      obtain ⟨rfl, rfl⟩ := by simpa [Coordinator.advance] using h
      refine ⟨fun ticket hticket => ?_, .inl rfl⟩
      unfold afterRecord at hticket
      split at hticket
      · cases hticket
      · split at hticket <;> cases hticket
  | heartbeatFind | heartbeatTouch | ticketFind | revokeFind =>
      obtain ⟨rfl, rfl⟩ := by simpa [Coordinator.advance] using h
      refine ⟨fun ticket hticket => ?_, .inl rfl⟩
      cases hrow : old.row <;> simp_all [ticketOf?]
  | _ =>
      obtain ⟨rfl, rfl⟩ := by simpa [Coordinator.advance] using h
      exact ⟨by simp [ticketOf?], .inl rfl⟩

omit [DecidableEq D] in
theorem ServiceCall.ticketOf_afterFailure {deviceId : D} {pc pc' : RequestPc D F}
    (h : afterFailure parts deviceId pc = some pc') : ticketOf? pc' = none := by
  cases pc with
  | updateLookup | updateNotify | ticketLookup | revokeNotify | deleteRecord | deleteNotify =>
      rw [← Option.some.inj h]
      rfl
  | _ => cases h

/-- The step of a request: the call keeps its device and request, and the tickets change only
    by the one it stores. -/
theorem ServiceCall.advance_cases {call call' : ServiceCall D F}
    (h : call.advance parts reply stores = some (stores', call')) :
    call'.deviceId = call.deviceId ∧ call'.request = call.request ∧
      (∀ ticket, call'.ticket? = some ticket → call.ticket? = some ticket) ∧
      (stores'.tickets = stores.tickets ∨ ∃ ticket device,
        call.pc = some (.ticketIssue ticket device) ∧ reply ≠ .failed ∧ call'.ticket? = none ∧
        stores'.tickets = stores.tickets.put ticket call.deviceId) := by
  cases hpc : call.pc with
  | none => simp [advance, hpc] at h
  | some pc =>
      simp only [advance, hpc, Option.map_eq_some_iff] at h
      obtain ⟨⟨new, pc'⟩, hadv, heq⟩ := h
      cases heq
      obtain ⟨hticket, hstored⟩ := ticketOf_advance hadv
      have hfailure : ∀ ticket, (afterFailure parts call.deviceId pc).bind ticketOf? ≠ some ticket := by
        intro ticket hsome
        obtain ⟨q, hq, hqticket⟩ := Option.bind_eq_some_iff.mp hsome
        rw [ticketOf_afterFailure hq] at hqticket
        cases hqticket
      refine ⟨rfl, rfl, fun ticket hafter => ?_, ?_⟩
      · show call.pc.bind ticketOf? = some ticket
        rw [hpc]
        cases reply with
        | ok => exact hticket ticket hafter
        | failed => exact absurd hafter (hfailure ticket)
        | lost => exact absurd hafter (hfailure ticket)
      · rw [SharedStores.tickets_after]
        rcases hstored with hsame | ⟨ticket, device, rfl, hnone, hput⟩
        · refine .inl ?_
          rw [hsame]
          exact ite_self _
        · cases reply with
          | failed => exact .inl rfl
          | ok => exact .inr ⟨ticket, device, rfl, by simp, hnone, hput⟩
          | lost => exact .inr ⟨ticket, device, rfl, by simp, rfl, hput⟩

/-- The record `authorize` accepted. -/
structure RecordAccepted (owned : List String) (params : ConnectParams)
    (record : DeviceLocationRecord F) (auth : Authorized F) : Prop where
  location : record.location (D := D) = .ok auth.location
  shard : auth.shardPrefix = record.shardPrefix
  owned : record.shardPrefix ∈ owned
  hint : ∀ claimed ∈ params.shardPrefix, claimed = record.shardPrefix

omit [DecidableEq D] in
theorem recordAccepted_of_checkRecord {owned : List String} {params : ConnectParams}
    {record : DeviceLocationRecord F} {auth : Authorized F}
    (h : checkRecord D owned params record = .register auth) :
    RecordAccepted (D := D) owned params record auth := by
  unfold checkRecord at h
  split at h
  · cases h
  · next location hlocation =>
    split at h
    · cases h
    · next howned =>
      have hmem : record.shardPrefix ∈ owned := by simpa using howned
      split at h
      · next claimed hclaimed =>
        split at h
        · cases h
        · next heq =>
          cases h
          refine ⟨hlocation, rfl, hmem, ?_⟩
          rw [hclaimed]
          intro hint hhint
          cases hhint
          simpa using heq
      · next hnone =>
        cases h
        refine ⟨hlocation, rfl, hmem, ?_⟩
        rw [hnone]
        intro hint hhint
        cases hhint

omit [DecidableEq D] in
/-- What `tickets.consume` leads to. -/
theorem advance_consume {deviceId : D} {old new : Stores D F} {w : WorkerState D F Unit}
    {registry : ConnectionRegistry D String (Location F) Unit} {params : ConnectParams}
    [DecidableEq D] {pc : ConnectPc F}
    (h : w.advance deviceId old (.consume params) = some (new, registry, pc)) :
    ((∃ rejection, pc = .rejected rejection) ∨
      pc = .checkRevoked params ∧ old.tickets.get params.ticket = some deviceId) ∧
    (∀ ticket d, new.tickets.get ticket = some d → old.tickets.get ticket = some d) ∧
    (isTicketShaped params.ticket = true → new.tickets.get params.ticket = none) := by
  simp only [WorkerState.advance] at h
  split at h
  · next hshape =>
    obtain ⟨rfl, -, rfl⟩ := by simpa using h
    refine ⟨.inl ⟨_, rfl⟩, fun _ _ hget => hget, fun hshaped => ?_⟩
    rw [hshaped] at hshape
    cases hshape
  · split at h
    · next hnone =>
      obtain ⟨rfl, -, rfl⟩ := by simpa using h
      exact ⟨.inl ⟨_, rfl⟩, fun _ _ hget => hget, fun _ => hnone⟩
    · next ticketDevice hsome =>
      simp only [Option.some.injEq, Prod.mk.injEq] at h
      obtain ⟨rfl, -, rfl⟩ := h
      have hgone : (old.tickets.removeIf params.ticket fun _ => true).get params.ticket = none := by
        rw [DashMap.get_removeIf_self, hsome]
        rfl
      refine ⟨?_, fun ticket d hget => ?_, fun _ => hgone⟩
      · by_cases hdevice : ticketDevice = deviceId
        · rw [hsome, hdevice]
          exact .inr ⟨if_neg (not_not.mpr rfl), rfl⟩
        · exact .inl ⟨_, if_pos hdevice⟩
      · by_cases hticket : ticket = params.ticket
        · rw [hticket, hgone] at hget
          cases hget
        · rwa [DashMap.get_removeIf_of_ne _ _ hticket] at hget

theorem AuthorizeCall.advance_eq_some {owned : List String} {call call' : AuthorizeCall D W F}
    (h : call.advance owned reply stores = some (stores', call')) :
    ∃ new registry pc', WorkerState.advance call.deviceId (stores.view call.deviceId)
        ({ owned := owned } : WorkerState D F Unit) call.pc = some (new, registry, pc') ∧
      stores' = stores.after call.deviceId new reply ∧
      call' = { call with pc := if reply = .ok then pc' else afterFailure call.pc } ∧
      call.pc.registers? = none := by
  cases hpc : call.pc with
  | register auth => simp [advance, hpc] at h
  | _ =>
      simp only [advance, hpc, Option.map_eq_some_iff] at h
      obtain ⟨⟨new, registry, pc'⟩, hadv, heq⟩ := h
      cases heq
      exact ⟨new, registry, pc', hadv, rfl, rfl, rfl⟩

theorem AuthorizeCall.afterFailure_eq_rejected {deviceId : D} {old : Stores D F}
    {w : WorkerState D F Unit} {pc : ConnectPc F} (hnot : pc.registers? = none)
    (h : (w.advance deviceId old pc).isSome = true) :
    ∃ rejection, afterFailure pc = .rejected rejection := by
  cases pc with
  | consume params =>
      cases hshape : isTicketShaped params.ticket with
      | true => exact ⟨backendUnavailable, by simp [afterFailure, hshape]⟩
      | false => exact ⟨.invalidTicket, by simp [afterFailure, hshape]⟩
  | checkRevoked params => exact ⟨_, rfl⟩
  | readLocation params => exact ⟨_, rfl⟩
  | lookupShard shardPrefix => exact ⟨_, rfl⟩
  | register auth => cases hnot
  | connected connId => cases h
  | rejected rejection => cases h

/-- A step of `authorize`: what it needs to go on past each check. -/
theorem AuthorizeCall.advance_cases {owned : List String} {call call' : AuthorizeCall D W F}
    (h : call.advance owned reply stores = some (stores', call')) :
    (∃ params, call.pc = .consume params ∧ reply = .ok ∧ call'.pc = .checkRevoked params ∧
        stores.tickets.get params.ticket = some call.deviceId) ∨
      (∃ params, call.pc = .checkRevoked params ∧ reply = .ok ∧
        call'.pc = .readLocation params ∧ stores.revoked call.deviceId = false) ∨
      (∃ params record, call.pc = .readLocation params ∧ reply = .ok ∧
        stores.record call.deviceId = some record ∧
        call'.pc = checkRecord D owned params record) ∨
      ∃ rejection, call'.pc = .rejected rejection := by
  obtain ⟨new, registry, pc', hadv, -, rfl, hnot⟩ := advance_eq_some h
  by_cases hreply : reply = .ok
  · rw [if_pos hreply]
    cases hpc : call.pc with
    | consume params =>
        rw [hpc] at hadv
        rcases (advance_consume hadv).1 with hrejected | ⟨hnext, hget⟩
        · exact .inr (.inr (.inr hrejected))
        · exact .inl ⟨params, rfl, hreply, hnext, hget⟩
    | checkRevoked params =>
        rw [hpc] at hadv
        obtain ⟨-, -, hnext⟩ := by simpa [WorkerState.advance] using hadv
        cases hrevoked : stores.revoked call.deviceId with
        | true =>
            refine .inr (.inr (.inr ⟨.revoked, ?_⟩))
            simpa [SharedStores.view, hrevoked] using hnext.symm
        | false =>
            refine .inr (.inl ⟨params, rfl, hreply, ?_, rfl⟩)
            simpa [SharedStores.view, hrevoked] using hnext.symm
    | readLocation params =>
        rw [hpc] at hadv
        obtain ⟨-, -, hnext⟩ := by simpa [WorkerState.advance] using hadv
        cases hrecord : stores.record call.deviceId with
        | none =>
            refine .inr (.inr (.inr ⟨.locationUnknown, ?_⟩))
            simpa [SharedStores.view, hrecord] using hnext.symm
        | some record =>
            refine .inr (.inr (.inl ⟨params, record, rfl, hreply, rfl, ?_⟩))
            simpa [SharedStores.view, hrecord] using hnext.symm
    | lookupShard shardPrefix =>
        rw [hpc] at hadv
        obtain ⟨-, -, hnext⟩ := by simpa [WorkerState.advance] using hadv
        exact .inr (.inr (.inr ⟨_, hnext.symm⟩))
    | register auth =>
        rw [hpc] at hnot
        cases hnot
    | connected connId =>
        rw [hpc] at hadv
        cases hadv
    | rejected rejection =>
        rw [hpc] at hadv
        cases hadv
  · rw [if_neg hreply]
    refine .inr (.inr (.inr ?_))
    exact afterFailure_eq_rejected hnot (Option.isSome_iff_exists.mpr ⟨_, hadv⟩)

/-- The parameters a call of `authorize` has at hand. -/
def params? : ConnectPc F → Option ConnectParams
  | .consume params | .checkRevoked params | .readLocation params => some params
  | _ => none

omit [DecidableEq D] in
theorem params_checkRecord {owned : List String} {params : ConnectParams}
    {record : DeviceLocationRecord F} : params? (checkRecord D owned params record) = none := by
  unfold checkRecord
  split
  · rfl
  · split
    · rfl
    · split
      · split <;> rfl
      · rfl

/-- `authorize` hands its parameters on. -/
theorem AuthorizeCall.params_of_advance {owned : List String} {call call' : AuthorizeCall D W F}
    {params : ConnectParams} (h : call.advance owned reply stores = some (stores', call'))
    (hparams : params? call'.pc = some params) : params? call.pc = some params := by
  rcases advance_cases h with ⟨_, hpc, -, hpc', -⟩ | ⟨_, hpc, -, hpc', -⟩ |
    ⟨_, _, -, -, -, hpc'⟩ | ⟨_, hpc'⟩
  · rw [hpc'] at hparams
    rw [hpc]
    exact hparams
  · rw [hpc'] at hparams
    rw [hpc]
    exact hparams
  · rw [hpc', params_checkRecord] at hparams
    cases hparams
  · rw [hpc'] at hparams
    cases hparams

theorem AuthorizeCall.of_register {owned : List String} {call call' : AuthorizeCall D W F}
    {auth : Authorized F} (h : call.advance owned reply stores = some (stores', call'))
    (hpc' : call'.pc = .register auth) :
    ∃ params record, call.pc = .readLocation params ∧ reply = .ok ∧
      stores.record call.deviceId = some record ∧
      RecordAccepted (D := D) owned params record auth := by
  rcases advance_cases h with ⟨_, -, -, hnext, -⟩ | ⟨_, -, -, hnext, -⟩ |
    ⟨params, record, hpc, hreply, hrecord, hnext⟩ | ⟨_, hnext⟩
  · rw [hpc'] at hnext
    cases hnext
  · rw [hpc'] at hnext
    cases hnext
  · exact ⟨params, record, hpc, hreply, hrecord,
      recordAccepted_of_checkRecord (hnext.symm.trans hpc')⟩
  · rw [hpc'] at hnext
    cases hnext

theorem AuthorizeCall.of_readLocation {owned : List String} {call call' : AuthorizeCall D W F}
    {params : ConnectParams} (h : call.advance owned reply stores = some (stores', call'))
    (hpc' : call'.pc = .readLocation params) :
    call.pc = .checkRevoked params ∧ reply = .ok ∧ stores.revoked call.deviceId = false := by
  rcases advance_cases h with ⟨_, -, -, hnext, -⟩ | ⟨_, hpc, hreply, hnext, hrevoked⟩ |
    ⟨_, _, -, -, -, hnext⟩ | ⟨_, hnext⟩
  · rw [hpc'] at hnext
    cases hnext
  · rw [hpc'] at hnext
    cases hnext
    exact ⟨hpc, hreply, hrevoked⟩
  · have hnone := congrArg params? (hnext.symm.trans hpc')
    rw [params_checkRecord] at hnone
    cases hnone
  · rw [hpc'] at hnext
    cases hnext

theorem AuthorizeCall.of_checkRevoked {owned : List String} {call call' : AuthorizeCall D W F}
    {params : ConnectParams} (h : call.advance owned reply stores = some (stores', call'))
    (hpc' : call'.pc = .checkRevoked params) :
    call.pc = .consume params ∧ reply = .ok ∧
      stores.tickets.get params.ticket = some call.deviceId := by
  rcases advance_cases h with ⟨_, hpc, hreply, hnext, hget⟩ | ⟨_, -, -, hnext, -⟩ |
    ⟨_, _, -, -, -, hnext⟩ | ⟨_, hnext⟩
  · rw [hpc'] at hnext
    cases hnext
    exact ⟨hpc, hreply, hget⟩
  · rw [hpc'] at hnext
    cases hnext
  · have hnone := congrArg params? (hnext.symm.trans hpc')
    rw [params_checkRecord] at hnone
    cases hnone
  · rw [hpc'] at hnext
    cases hnext

/-- `authorize` stores no ticket. -/
theorem AuthorizeCall.get_of_advance {owned : List String} {call call' : AuthorizeCall D W F}
    (h : call.advance owned reply stores = some (stores', call')) {ticket : String} {deviceId : D}
    (hget : stores'.tickets.get ticket = some deviceId) :
    stores.tickets.get ticket = some deviceId := by
  obtain ⟨new, registry, pc', hadv, rfl, -, hnot⟩ := advance_eq_some h
  rw [SharedStores.tickets_after] at hget
  split at hget
  · exact hget
  · cases hpc : call.pc with
    | consume params =>
        rw [hpc] at hadv
        exact (advance_consume hadv).2.1 ticket deviceId hget
    | register auth =>
        rw [hpc] at hnot
        cases hnot
    | connected connId =>
        rw [hpc] at hadv
        cases hadv
    | rejected rejection =>
        rw [hpc] at hadv
        cases hadv
    | _ =>
        rw [hpc] at hadv
        obtain ⟨rfl, -⟩ := by simpa [WorkerState.advance] using hadv
        exact hget

/-- A ticket that was presented is gone. -/
theorem AuthorizeCall.get_consume {owned : List String} {call call' : AuthorizeCall D W F}
    {params : ConnectParams} (hpc : call.pc = .consume params)
    (hshaped : isTicketShaped params.ticket = true) (hreply : reply ≠ .failed)
    (h : call.advance owned reply stores = some (stores', call')) :
    stores'.tickets.get params.ticket = none := by
  obtain ⟨new, registry, pc', hadv, rfl, -, -⟩ := advance_eq_some h
  rw [hpc] at hadv
  rw [SharedStores.tickets_after, if_neg hreply]
  exact (advance_consume hadv).2.2 hshaped

end Calls
end PulseGrid.System
