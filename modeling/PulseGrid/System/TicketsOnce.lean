/-
  PulseGrid.System.TicketsOnce

  Tickets authorize once.

  Looking back from a successful `authorize`, its ticket was stored for its own device by
  one call of `issue_ws_ticket` (`exists_authorizedBy`).  Looking ahead from any
  `authorize` that presents an issued ticket, the ticket is spent
  (`not_authorized_of_presents`).  `tickets_authorize_once` puts the two together.
-/

import PulseGrid.System.Tickets
import PulseGrid.Lib.RunHistory
import PulseGrid.Lib.TaskPool

namespace PulseGrid.System

open Coordinator Worker TaskPool

variable {D W F : Type} [CommRing F] [LinearOrder F]

namespace TicketSystem

variable [DecidableEq D] [DecidableEq W] {parts : DeviceServiceParts F} {s t : TicketSystem D W F}
  {a : Label D W F}

-- ============================================================================
-- What a step of the system does
-- ============================================================================

omit [DecidableEq W] in
/-- A new call to the device service. -/
def IsNewRequest (a : Label D W F) (call : ServiceCall D F) : Prop :=
  call.pc = some (.start call.request) ∧
    ((∃ first second, a = .issueWsTicket call.deviceId first second ∧
        call.request = .issueWsTicket (newWsTicket first second)) ∨
      ∀ ticket, call.request ≠ .issueWsTicket ticket)

/-- What a step can do to the calls and the tickets. -/
theorem step_cases (hstep : step parts s a = some t) :
    (∃ call, IsNewRequest a call ∧ t = { s with requests := s.requests ++ [call] }) ∨
      (∃ i reply call stores call', a = .requestStep i reply ∧ s.requests[i]? = some call ∧
        call.advance parts reply s.stores = some (stores, call') ∧
        t = { s with stores := stores, requests := s.requests.set i call' }) ∨
      (∃ call, call.pc = .consume call.params ∧
        t = { s with authorizes := s.authorizes ++ [call] }) ∨
      (∃ j reply call stores call', a = .authorizeStep j reply ∧ s.authorizes[j]? = some call ∧
        call.advance (s.owned call.worker) reply s.stores = some (stores, call') ∧
        t = { s with stores := stores, authorizes := s.authorizes.set j call' }) ∨
      (t.requests = s.requests ∧ t.authorizes = s.authorizes ∧ ∀ ticket deviceId,
        t.stores.tickets.get ticket = some deviceId →
          s.stores.tickets.get ticket = some deviceId) := by
  cases a with
  | issueWsTicket deviceId first second =>
      cases Option.some.inj hstep
      exact .inl ⟨_, ⟨rfl, .inl ⟨first, second, rfl, rfl⟩⟩, rfl⟩
  | request deviceId request =>
      cases request with
      | issueWsTicket ticket => cases hstep
      | _ =>
          cases Option.some.inj hstep
          exact .inl ⟨_, ⟨rfl, .inr (by simp)⟩, rfl⟩
  | requestStep i reply =>
      cases hi : s.requests[i]? with
      | none => simp [step, hi] at hstep
      | some call =>
          simp only [step, hi, Option.map_eq_some_iff] at hstep
          obtain ⟨⟨stores, call'⟩, hadv, rfl⟩ := hstep
          exact .inr (.inl ⟨i, reply, call, stores, call', rfl, hi, hadv, rfl⟩)
  | authorize worker deviceId params =>
      cases Option.some.inj hstep
      exact .inr (.inr (.inl ⟨_, rfl, rfl⟩))
  | authorizeStep j reply =>
      cases hj : s.authorizes[j]? with
      | none => simp [step, hj] at hstep
      | some call =>
          simp only [step, hj, Option.map_eq_some_iff] at hstep
          obtain ⟨⟨stores, call'⟩, hadv, rfl⟩ := hstep
          exact .inr (.inr (.inr (.inl ⟨j, reply, call, stores, call', rfl, hj, hadv, rfl⟩)))
  | expireTicket gone =>
      cases Option.some.inj hstep
      refine .inr (.inr (.inr (.inr ⟨rfl, rfl, fun ticket deviceId hget => ?_⟩)))
      by_cases heq : ticket = gone
      · subst heq
        have hnone : (s.stores.tickets.removeIf ticket fun _ => true).get ticket = none := by
          rw [DashMap.get_removeIf_self]
          cases s.stores.tickets.get ticket <;> rfl
        rw [hnone] at hget
        cases hget
      · rwa [DashMap.get_removeIf_of_ne _ _ heq] at hget
  | _ =>
      cases Option.some.inj hstep
      exact .inr (.inr (.inr (.inr ⟨rfl, rfl, fun _ _ hget => hget⟩)))

/-- A request after a step is an old one that may have taken a step, or a new one. -/
theorem requests_of_step (hstep : step parts s a = some t) {i : Nat} {call' : ServiceCall D F}
    (hi : t.requests[i]? = some call') :
    (∃ call, s.requests[i]? = some call ∧ call'.request = call.request ∧
        ∀ ticket, call'.ticket? = some ticket → call.ticket? = some ticket) ∨
      i = s.requests.length ∧ IsNewRequest a call' := by
  rcases step_cases hstep with ⟨call, hnew, rfl⟩ |
    ⟨k, reply, call, stores, call'', -, hk, hadv, rfl⟩ | ⟨call, -, rfl⟩ |
    ⟨j, reply, call, stores, call'', -, -, -, rfl⟩ | ⟨hsame, -, -⟩
  · rcases getElem?_append_cases hi with hi | ⟨hlen, rfl⟩
    · exact .inl ⟨call', hi, rfl, fun _ h => h⟩
    · exact .inr ⟨hlen, hnew⟩
  · rcases getElem?_set_cases hk hi with ⟨rfl, rfl⟩ | ⟨-, hi⟩
    · obtain ⟨-, hrequest, hticket, -⟩ := ServiceCall.advance_cases hadv
      exact .inl ⟨call, hk, hrequest, hticket⟩
    · exact .inl ⟨call', hi, rfl, fun _ h => h⟩
  · exact .inl ⟨call', hi, rfl, fun _ h => h⟩
  · exact .inl ⟨call', hi, rfl, fun _ h => h⟩
  · rw [hsame] at hi
    exact .inl ⟨call', hi, rfl, fun _ h => h⟩

/-- A call of `authorize` after a step is an old one, a new one, or the one that took the
    step. -/
theorem authorizes_of_step (hstep : step parts s a = some t) {j : Nat}
    {call' : AuthorizeCall D W F} (hj : t.authorizes[j]? = some call') :
    s.authorizes[j]? = some call' ∨ call'.pc = .consume call'.params ∨
      ∃ reply call stores, a = .authorizeStep j reply ∧ s.authorizes[j]? = some call ∧
        call.advance (s.owned call.worker) reply s.stores = some (stores, call') ∧
        t.stores = stores := by
  rcases step_cases hstep with ⟨call, -, rfl⟩ | ⟨k, reply, call, stores, call'', -, -, -, rfl⟩ |
    ⟨call, hnew, rfl⟩ | ⟨k, reply, call, stores, call'', hlabel, hk, hadv, rfl⟩ | ⟨-, hsame, -⟩
  · exact .inl hj
  · exact .inl hj
  · rcases getElem?_append_cases hj with hj | ⟨-, rfl⟩
    · exact .inl hj
    · exact .inr (.inl hnew)
  · rcases getElem?_set_cases hk hj with ⟨rfl, rfl⟩ | ⟨-, hj⟩
    · exact .inr (.inr ⟨reply, call, stores, hlabel, hk, hadv, rfl⟩)
    · exact .inl hj
  · rw [hsame] at hj
    exact .inl hj

/-- The step is the `tickets.issue` of request `i`, which stores this ticket for this device. -/
def StoresTicket (s : TicketSystem D W F) (a : Label D W F) (i : Nat) (ticket : String)
    (deviceId : D) : Prop :=
  ∃ reply call device, a = .requestStep i reply ∧ reply ≠ .failed ∧
    s.requests[i]? = some call ∧ call.deviceId = deviceId ∧
    call.pc = some (.ticketIssue ticket device)

/-- A ticket that is stored after a step was there before, or the step stored it. -/
theorem tickets_of_step (hstep : step parts s a = some t) {ticket : String} {deviceId : D}
    (hget : t.stores.tickets.get ticket = some deviceId) :
    s.stores.tickets.get ticket = some deviceId ∨
      ∃ i call', s.StoresTicket a i ticket deviceId ∧ t.requests[i]? = some call' ∧
        call'.ticket? = none := by
  rcases step_cases hstep with ⟨call, -, rfl⟩ |
    ⟨i, reply, call, stores, call', hlabel, hi, hadv, rfl⟩ | ⟨call, -, rfl⟩ |
    ⟨j, reply, call, stores, call', -, -, hadv, rfl⟩ | ⟨-, -, hkept⟩
  · exact .inl hget
  · obtain ⟨-, -, -, hsame | ⟨stored, device, hpc, hreply, hdone, hput⟩⟩ :=
      ServiceCall.advance_cases hadv
    · rw [hsame] at hget
      exact .inl hget
    · rw [hput, DashMap.get_put] at hget
      split at hget
      · next heq =>
        subst heq
        refine .inr ⟨i, call', ⟨reply, call, device, hlabel, hreply, hi, Option.some.inj hget, hpc⟩,
          ?_, hdone⟩
        rw [List.getElem?_set_self (List.getElem?_eq_some_iff.mp hi).1]
      · exact .inl hget
  · exact .inl hget
  · exact .inl (AuthorizeCall.get_of_advance hadv hget)
  · exact .inl (hkept ticket deviceId hget)

/-- Requests are never forgotten, and one that is done with its ticket stays so. -/
theorem requests_persist (hstep : step parts s a = some t) {i : Nat} {call : ServiceCall D F}
    (hi : s.requests[i]? = some call) :
    ∃ call', t.requests[i]? = some call' ∧ call'.request = call.request ∧
      (call.ticket? = none → call'.ticket? = none) := by
  have hlt : i < s.requests.length := (List.getElem?_eq_some_iff.mp hi).1
  rcases step_cases hstep with ⟨new, -, rfl⟩ | ⟨k, reply, old, stores, call', -, hk, hadv, rfl⟩ |
    ⟨new, -, rfl⟩ | ⟨j, reply, old, stores, call', -, -, -, rfl⟩ | ⟨hsame, -, -⟩
  · refine ⟨call, ?_, rfl, fun h => h⟩
    rw [List.getElem?_append_left hlt]
    exact hi
  · by_cases hik : i = k
    · subst hik
      rw [hi] at hk
      cases hk
      obtain ⟨-, hrequest, hticket, -⟩ := ServiceCall.advance_cases hadv
      refine ⟨call', List.getElem?_set_self hlt, hrequest, fun hnone => ?_⟩
      cases hafter : call'.ticket? with
      | none => rfl
      | some ticket =>
          rw [hticket ticket hafter] at hnone
          cases hnone
    · refine ⟨call, ?_, rfl, fun h => h⟩
      rw [List.getElem?_set_ne (Ne.symm hik)]
      exact hi
  · exact ⟨call, hi, rfl, fun h => h⟩
  · exact ⟨call, hi, rfl, fun h => h⟩
  · rw [hsame]
    exact ⟨call, hi, rfl, fun h => h⟩

-- ============================================================================
-- The invariant
-- ============================================================================

/-- Some call of `issue_ws_ticket` drew this ticket and is done storing it. -/
def Issued (s : TicketSystem D W F) (ticket : String) : Prop :=
  ∃ (i : Nat) (call : ServiceCall D F), s.requests[i]? = some call ∧
    call.request = .issueWsTicket ticket ∧ call.ticket? = none

structure Inv (s : TicketSystem D W F) : Prop where
  pending : ∀ (i : Nat) call ticket, s.requests[i]? = some call → call.ticket? = some ticket →
    call.request = .issueWsTicket ticket
  distinct : ∀ (i k : Nat) call call' ticket, s.requests[i]? = some call →
    s.requests[k]? = some call' → call.request = .issueWsTicket ticket →
    call'.request = .issueWsTicket ticket → i = k
  shaped : ∀ (i : Nat) call ticket, s.requests[i]? = some call →
    call.request = .issueWsTicket ticket → isTicketShaped ticket = true
  stored : ∀ ticket deviceId, s.stores.tickets.get ticket = some deviceId → s.Issued ticket
  params : ∀ (j : Nat) call params, s.authorizes[j]? = some call →
    params? call.pc = some params → params = call.params

omit [DecidableEq D] [DecidableEq W] in
theorem Inv.initial (stores : SharedStores D F) (owned : W → List String) :
    (initial stores owned).Inv where
  pending i call ticket h := by simp [TicketSystem.initial] at h
  distinct i k call call' ticket h := by simp [TicketSystem.initial] at h
  shaped i call ticket h := by simp [TicketSystem.initial] at h
  stored ticket deviceId h := by simp [TicketSystem.initial] at h
  params j call params h := by simp [TicketSystem.initial] at h

/-- What `new_ws_ticket` draws passes `is_ticket_shaped`. -/
theorem isTicketShaped_newWsTicket (first second : BitVec 128) :
    isTicketShaped (newWsTicket first second) = true := by
  have hhex : ∀ n < 16, ((Nat.digitChar n).isDigit ||
      ('a' ≤ Nat.digitChar n && Nat.digitChar n ≤ 'f') ||
      ('A' ≤ Nat.digitChar n && Nat.digitChar n ≤ 'F')) = true := by decide
  rw [isTicketShaped, utf8ByteSize_newWsTicket, decide_eq_true rfl, Bool.true_and, List.all_eq_true]
  intro c hc
  obtain ⟨n, hn, rfl⟩ := exists_digitChar_of_mem_newWsTicket hc
  exact hhex n hn

omit [DecidableEq D] [DecidableEq W] in
theorem IsNewRequest.request_of_ticket {call : ServiceCall D F} (h : IsNewRequest a call)
    {ticket : String} (hticket : call.ticket? = some ticket) :
    call.request = .issueWsTicket ticket := by
  rw [ServiceCall.ticket?, h.1, Option.bind_some] at hticket
  cases hrequest : call.request with
  | issueWsTicket drawn =>
      rw [hrequest] at hticket
      cases hticket
      rfl
  | _ =>
      rw [hrequest] at hticket
      cases hticket

omit [DecidableEq D] [DecidableEq W] in
theorem IsNewRequest.exists_newWsTicket {call : ServiceCall D F} (h : IsNewRequest a call)
    {ticket : String} (hrequest : call.request = .issueWsTicket ticket) :
    ∃ first second, a = .issueWsTicket call.deviceId first second ∧
      ticket = newWsTicket first second := by
  rcases h.2 with ⟨first, second, ha, hdrawn⟩ | hother
  · rw [hrequest] at hdrawn
    cases hdrawn
    exact ⟨first, second, ha, rfl⟩
  · exact absurd hrequest (hother ticket)

theorem Issued.step {ticket : String} (h : s.Issued ticket) (hstep : step parts s a = some t) :
    t.Issued ticket := by
  obtain ⟨i, call, hi, hrequest, hdone⟩ := h
  obtain ⟨call', hi', hrequest', hdone'⟩ := requests_persist hstep hi
  exact ⟨i, call', hi', hrequest'.trans hrequest, hdone' hdone⟩

theorem Inv.step (h : s.Inv) (hok : s.TicketsDistinct a) (hstep : step parts s a = some t) :
    t.Inv where
  pending i call' ticket hi hticket := by
    rcases requests_of_step hstep hi with ⟨call, hi, hrequest, hkept⟩ | ⟨-, hnew⟩
    · rw [hrequest]
      exact h.pending i call ticket hi (hkept ticket hticket)
    · exact hnew.request_of_ticket hticket
  distinct i k call call' ticket hi hk hrequest hrequest' := by
    -- a new request drew a ticket that no earlier one has
    have hfresh : ∀ (m : Nat) old new, s.requests[m]? = some old → IsNewRequest a new →
        new.request = .issueWsTicket ticket → old.request ≠ .issueWsTicket ticket := by
      intro m old new hm hnew hdrawn
      obtain ⟨first, second, rfl, rfl⟩ := hnew.exists_newWsTicket hdrawn
      exact hok old (List.mem_of_getElem? hm)
    rcases requests_of_step hstep hi with ⟨old, hi, hsame, -⟩ | ⟨hlen, hnew⟩
    · rcases requests_of_step hstep hk with ⟨old', hk, hsame', -⟩ | ⟨-, hnew'⟩
      · exact h.distinct i k old old' ticket hi hk (hsame.symm.trans hrequest)
          (hsame'.symm.trans hrequest')
      · exact absurd (hsame.symm.trans hrequest) (hfresh i old call' hi hnew' hrequest')
    · rcases requests_of_step hstep hk with ⟨old', hk, hsame', -⟩ | ⟨hlen', -⟩
      · exact absurd (hsame'.symm.trans hrequest') (hfresh k old' call hk hnew hrequest)
      · rw [hlen, hlen']
  shaped i call' ticket hi hrequest := by
    rcases requests_of_step hstep hi with ⟨call, hi, hsame, -⟩ | ⟨-, hnew⟩
    · exact h.shaped i call ticket hi (hsame.symm.trans hrequest)
    · obtain ⟨first, second, -, rfl⟩ := hnew.exists_newWsTicket hrequest
      exact isTicketShaped_newWsTicket first second
  stored ticket deviceId hget := by
    rcases tickets_of_step hstep hget with hold | ⟨i, call', hstores, hi, hdone⟩
    · exact (h.stored ticket deviceId hold).step hstep
    · obtain ⟨reply, call, device, -, -, hcall, -, hpc⟩ := hstores
      have hticket : call.ticket? = some ticket := by
        rw [ServiceCall.ticket?, hpc]
        rfl
      have hrequest := h.pending i call ticket hcall hticket
      obtain ⟨after, hafter, hsame, -⟩ := requests_persist hstep hcall
      rw [hi] at hafter
      cases hafter
      exact ⟨i, call', hi, hsame.trans hrequest, hdone⟩
  params j call' params hj hparams := by
    rcases authorizes_of_step hstep hj with hj | hnew | ⟨reply, call, stores, -, hj, hadv, -⟩
    · exact h.params j call' params hj hparams
    · rw [hnew] at hparams
      cases hparams
      rfl
    · have hsame : call'.params = call.params := by
        obtain ⟨new, registry, pc', -, -, rfl, -⟩ := AuthorizeCall.advance_eq_some hadv
        rfl
      rw [hsame]
      exact h.params j call params hj (AuthorizeCall.params_of_advance hadv hparams)

-- ============================================================================
-- A presented ticket
-- ============================================================================

/-- The step is call `j`'s `tickets.consume` of this ticket. -/
def Presents (s : TicketSystem D W F) (a : Label D W F) (j : Nat) (reply : Reply)
    (ticket : String) : Prop :=
  a = .authorizeStep j reply ∧ ∃ call, s.authorizes[j]? = some call ∧
    call.pc = .consume call.params ∧ call.params.ticket = ticket

/-- The ticket was issued and is not stored any more. -/
def Spent (s : TicketSystem D W F) (ticket : String) : Prop :=
  s.Issued ticket ∧ s.stores.tickets.get ticket = none

/-- No step stores a spent ticket again. -/
theorem Spent.step {ticket : String} (hinv : s.Inv) (h : s.Spent ticket)
    (hstep : step parts s a = some t) : t.Spent ticket := by
  refine ⟨h.1.step hstep, ?_⟩
  by_contra hsome
  obtain ⟨deviceId, hget⟩ := Option.ne_none_iff_exists'.mp hsome
  rcases tickets_of_step hstep hget with hold | ⟨i, -, hstores, -, -⟩
  · rw [h.2] at hold
    cases hold
  · obtain ⟨reply, call, device, -, -, hi, -, hpc⟩ := hstores
    obtain ⟨k, issuer, hk, hdrawn, hdone⟩ := h.1
    have hticket : call.ticket? = some ticket := by
      rw [ServiceCall.ticket?, hpc]
      rfl
    have hsame : i = k :=
      hinv.distinct i k call issuer ticket hi hk (hinv.pending i call ticket hi hticket) hdrawn
    rw [hsame, hk] at hi
    cases hi
    rw [hticket] at hdone
    cases hdone

theorem authorizeStep_eq_some {j : Nat} {reply : Reply} {call : AuthorizeCall D W F}
    (hj : s.authorizes[j]? = some call) (hstep : step parts s (.authorizeStep j reply) = some t) :
    ∃ stores call', call.advance (s.owned call.worker) reply s.stores = some (stores, call') ∧
      t.stores = stores ∧ t.authorizes[j]? = some call' := by
  simp only [TicketSystem.step, hj, Option.map_eq_some_iff] at hstep
  obtain ⟨⟨stores, call'⟩, hadv, rfl⟩ := hstep
  exact ⟨stores, call', hadv, rfl, List.getElem?_set_self (List.getElem?_eq_some_iff.mp hj).1⟩

/-- Presenting an issued ticket spends it. -/
theorem Presents.spent {j : Nat} {reply : Reply} {ticket : String} (hinv : s.Inv)
    (h : s.Presents a j reply ticket) (hreply : reply ≠ .failed) (hissued : s.Issued ticket)
    (hstep : step parts s a = some t) : t.Spent ticket := by
  refine ⟨hissued.step hstep, ?_⟩
  obtain ⟨rfl, call, hj, hpc, rfl⟩ := h
  obtain ⟨i, issuer, hi, hdrawn, -⟩ := hissued
  obtain ⟨stores, call', hadv, rfl, -⟩ := authorizeStep_eq_some hj hstep
  exact AuthorizeCall.get_consume hpc (hinv.shaped i issuer _ hi hdrawn) hreply hadv

/-- Call `j` was refused. -/
def Refused (s : TicketSystem D W F) (j : Nat) : Prop :=
  ∃ call rejection, s.authorizes[j]? = some call ∧ call.pc = .rejected rejection

/-- Presenting a spent ticket is refused. -/
theorem Presents.refused {j : Nat} {reply : Reply} {ticket : String}
    (h : s.Presents a j reply ticket) (hspent : s.Spent ticket)
    (hstep : step parts s a = some t) : t.Refused j := by
  obtain ⟨rfl, call, hj, hpc, rfl⟩ := h
  obtain ⟨stores, call', hadv, -, hj'⟩ := authorizeStep_eq_some hj hstep
  rcases AuthorizeCall.advance_cases hadv with ⟨params, hpc', -, -, hget⟩ | ⟨params, hpc', -⟩ |
    ⟨params, record, hpc', -⟩ | ⟨rejection, hrejected⟩
  · rw [hpc] at hpc'
    cases hpc'
    rw [hspent.2] at hget
    cases hget
  · rw [hpc] at hpc'
    cases hpc'
  · rw [hpc] at hpc'
    cases hpc'
  · exact ⟨call', rejection, hj', hrejected⟩

theorem Refused.step {j : Nat} (h : s.Refused j) (hstep : step parts s a = some t) :
    t.Refused j := by
  obtain ⟨call, rejection, hj, hpc⟩ := h
  refine ⟨call, rejection, ?_, hpc⟩
  rcases step_cases hstep with ⟨new, -, rfl⟩ | ⟨k, reply, old, stores, call', -, -, -, rfl⟩ |
    ⟨new, -, rfl⟩ | ⟨k, reply, old, stores, call', -, hk, hadv, rfl⟩ | ⟨-, hsame, -⟩
  · exact hj
  · exact hj
  · rw [List.getElem?_append_left (List.getElem?_eq_some_iff.mp hj).1]
    exact hj
  · have hne : k ≠ j := by
      rintro rfl
      rw [hj] at hk
      cases hk
      simp [AuthorizeCall.advance, hpc, WorkerState.advance] at hadv
    rw [List.getElem?_set_ne hne]
    exact hj
  · rw [hsame]
    exact hj

-- ============================================================================
-- Runs
-- ============================================================================

/-- The steps by which call `j` was authorized: request `i` stored the ticket for the very
    device, the call presented it, found no revocation key, and accepted the location
    record it read. -/
def AuthorizedBy (parts : DeviceServiceParts F) (start : TicketSystem D W F)
    (labels : List (Label D W F)) (j : Nat) (call : AuthorizeCall D W F) (auth : Authorized F)
    (i : Nat) : Prop :=
  ∃ n₀ n₁ n₂ n₃ s₀ s₁ s₂ s₃ issue record,
    (n₀ < n₁ ∧ n₁ < n₂ ∧ n₂ < n₃) ∧
    (Transition.StepAt (step parts) start labels n₀ s₀ issue ∧
      s₀.StoresTicket issue i call.params.ticket call.deviceId) ∧
    (Transition.StepAt (step parts) start labels n₁ s₁ (.authorizeStep j .ok) ∧
      s₁.authorizes[j]? = some { call with pc := .consume call.params } ∧
      s₁.stores.tickets.get call.params.ticket = some call.deviceId) ∧
    (Transition.StepAt (step parts) start labels n₂ s₂ (.authorizeStep j .ok) ∧
      s₂.authorizes[j]? = some { call with pc := .checkRevoked call.params } ∧
      s₂.stores.revoked call.deviceId = false) ∧
    (Transition.StepAt (step parts) start labels n₃ s₃ (.authorizeStep j .ok) ∧
      s₃.authorizes[j]? = some { call with pc := .readLocation call.params } ∧
      s₃.stores.record call.deviceId = some record ∧
      RecordAccepted (D := D) (s₃.owned call.worker) call.params record auth)

section Runs

variable {stores : SharedStores D F} {owned : W → List String} {labels : List (Label D W F)}

/-- The step that took call `j` to a program counter past `consume`. -/
theorem exists_authorizeStep {call : AuthorizeCall D W F} {pc' : ConnectPc F} {n j : Nat}
    (hpc' : pc' ≠ .consume call.params)
    (hrun : Transition.run (step parts) (initial stores owned) (labels.take n) = some s)
    (hj : s.authorizes[j]? = some { call with pc := pc' }) :
    ∃ m s₁ reply pc after, m < n ∧
      Transition.StepAt (step parts) (initial stores owned) labels m s₁ (.authorizeStep j reply) ∧
      s₁.authorizes[j]? = some { call with pc := pc } ∧
      AuthorizeCall.advance (s₁.owned call.worker) reply s₁.stores { call with pc := pc } =
        some (after, { call with pc := pc' }) := by
  have hinit : ¬ (initial stores owned : TicketSystem D W F).authorizes[j]? =
      some { call with pc := pc' } := by
    simp [initial]
  obtain ⟨m, s₁, a, s₂, hm, hat, hstep, hbefore, hafter⟩ := Transition.exists_stepAt
    (P := fun s : TicketSystem D W F => s.authorizes[j]? = some { call with pc := pc' })
    hinit hrun hj
  rcases authorizes_of_step hstep hafter with hold | hnew | ⟨reply, old, after, rfl, hold, hadv, -⟩
  · exact absurd hold hbefore
  · exact absurd hnew hpc'
  · obtain ⟨new, registry, pc'', -, -, heq, -⟩ := AuthorizeCall.advance_eq_some hadv
    have hsame : old = { call with pc := old.pc } := by
      obtain ⟨worker, deviceId, params, pc⟩ := old
      simp only [AuthorizeCall.mk.injEq] at heq
      obtain ⟨rfl, rfl, rfl, -⟩ := heq
      rfl
    rw [hsame] at hold hadv
    exact ⟨m, s₁, reply, old.pc, after, hm, hat, hold, hadv⟩

theorem inv_of_run
    (hok : Transition.RunOk (step parts) TicketsDistinct (initial stores owned) labels)
    {n : Nat} (hrun : Transition.run (step parts) (initial stores owned) (labels.take n) = some s) :
    s.Inv :=
  Transition.run_invariant (fun _ _ _ h hok hstep => h.step hok hstep) (.initial stores owned)
    (Transition.runOk_take hok hrun).1 hrun

/-- The step that stored a ticket. -/
theorem exists_storesTicket {ticket : String} {deviceId : D} {n : Nat}
    (hrun : Transition.run (step parts) (initial stores owned) (labels.take n) = some s)
    (hget : s.stores.tickets.get ticket = some deviceId) :
    ∃ m s₁ a i, m < n ∧ Transition.StepAt (step parts) (initial stores owned) labels m s₁ a ∧
      s₁.StoresTicket a i ticket deviceId := by
  have hinit : ¬ (initial stores owned : TicketSystem D W F).stores.tickets.get ticket =
      some deviceId := by
    simp [initial]
  obtain ⟨m, s₁, a, s₂, hm, hat, hstep, hbefore, hafter⟩ := Transition.exists_stepAt
    (P := fun s : TicketSystem D W F => s.stores.tickets.get ticket = some deviceId)
    hinit hrun hget
  rcases tickets_of_step hstep hafter with hold | ⟨i, -, hstores, -, -⟩
  · exact absurd hold hbefore
  · exact ⟨m, s₁, a, i, hm, hat, hstores⟩

/-- A successful call traced back to the request that issued its ticket. -/
theorem exists_authorizedBy
    (hok : Transition.RunOk (step parts) TicketsDistinct (initial stores owned) labels)
    (hrun : Transition.run (step parts) (initial stores owned) labels = some t) {j : Nat}
    {call : AuthorizeCall D W F} {auth : Authorized F} (hj : t.authorizes[j]? = some call)
    (hpc : call.pc = .register auth) :
    ∃ i, AuthorizedBy parts (initial stores owned) labels j call auth i := by
  have hcall : { call with pc := .register auth } = call := by
    rw [← hpc]
  rw [← List.take_length (l := labels)] at hrun
  rw [← hcall] at hj
  obtain ⟨n₃, s₃, _, _, _, -, hat₃, hj₃, hadv₃⟩ := exists_authorizeStep (by simp) hrun hj
  obtain ⟨params, record, hpc₃, rfl, hrecord, haccepted⟩ := AuthorizeCall.of_register hadv₃ rfl
  have hparams := (inv_of_run hok hat₃.2).params j _ params hj₃ (congrArg params? hpc₃)
  obtain rfl : params = call.params := hparams
  cases hpc₃
  obtain ⟨n₂, s₂, _, _, _, hn₂, hat₂, hj₂, hadv₂⟩ := exists_authorizeStep (by simp) hat₃.2 hj₃
  obtain ⟨hpc₂, rfl, hrevoked⟩ := AuthorizeCall.of_readLocation hadv₂ rfl
  cases hpc₂
  obtain ⟨n₁, s₁, _, _, _, hn₁, hat₁, hj₁, hadv₁⟩ := exists_authorizeStep (by simp) hat₂.2 hj₂
  obtain ⟨hpc₁, rfl, hget⟩ := AuthorizeCall.of_checkRevoked hadv₁ rfl
  cases hpc₁
  obtain ⟨n₀, s₀, issue, i, hn₀, hat₀, hstores⟩ := exists_storesTicket hat₁.2 hget
  exact ⟨i, n₀, n₁, n₂, n₃, s₀, s₁, s₂, s₃, issue, record, ⟨hn₀, hn₁, hn₂⟩, ⟨hat₀, hstores⟩,
    ⟨hat₁, hj₁, hget⟩, ⟨hat₂, hj₂, hrevoked⟩, ⟨hat₃, hj₃, hrecord, haccepted⟩⟩

/-- A call that presents an issued ticket after another one did does not succeed. -/
theorem not_authorized_of_presents
    (hok : Transition.RunOk (step parts) TicketsDistinct (initial stores owned) labels)
    (hrun : Transition.run (step parts) (initial stores owned) labels = some t)
    {n m j k : Nat} {s₁ s₂ : TicketSystem D W F} {a₁ a₂ : Label D W F} {reply₁ reply₂ : Reply}
    {ticket : String} (hlt : n < m)
    (hat₁ : Transition.StepAt (step parts) (initial stores owned) labels n s₁ a₁)
    (hissued : s₁.Issued ticket) (hpresents₁ : s₁.Presents a₁ j reply₁ ticket)
    (hreply : reply₁ ≠ .failed)
    (hat₂ : Transition.StepAt (step parts) (initial stores owned) labels m s₂ a₂)
    (hpresents₂ : s₂.Presents a₂ k reply₂ ticket) {call : AuthorizeCall D W F}
    (hk : t.authorizes[k]? = some call) (auth : Authorized F) : call.pc ≠ .register auth := by
  obtain ⟨s₁', hstep₁⟩ := hat₁.exists_step hrun
  obtain ⟨s₂', hstep₂⟩ := hat₂.exists_step hrun
  have hinv₁ := inv_of_run hok hat₁.2
  have hinv₁' : s₁'.Inv := inv_of_run hok (hat₁.take_succ.trans hstep₁)
  -- the ticket is spent from step `n` on
  have hspent : s₂.Inv ∧ s₂.Spent ticket :=
    Transition.run_take_invariant (P := fun s : TicketSystem D W F => s.Inv ∧ s.Spent ticket)
      (fun _ _ _ h hok hstep => ⟨h.1.step hok hstep, h.2.step h.1 hstep⟩) hok
      (hat₁.take_succ.trans hstep₁)
      ⟨hinv₁', hpresents₁.spent hinv₁ hreply hissued hstep₁⟩ hlt hat₂.2
  have hbound : m + 1 ≤ labels.length := (List.getElem?_eq_some_iff.mp hat₂.1).1
  rw [← List.take_length (l := labels)] at hrun
  -- and call `k` is refused from step `m` on
  have hrefused : t.Refused k :=
    Transition.run_take_invariant (P := fun s : TicketSystem D W F => s.Refused k)
      (fun _ _ _ h _ hstep => h.step hstep) hok (hat₂.take_succ.trans hstep₂)
      (hpresents₂.refused hspent.2 hstep₂) hbound hrun
  obtain ⟨refused, rejection, hk', hrejected⟩ := hrefused
  rw [hk] at hk'
  cases hk'
  rw [hrejected]
  simp

end Runs

/-- Every successful call used an issued ticket of its own, for its own device, and passed
    the checks; and no call succeeds with an issued ticket that was presented before. -/
structure AuthorizesOnce (parts : DeviceServiceParts F) (start : TicketSystem D W F)
    (labels : List (Label D W F)) (t : TicketSystem D W F) : Prop where
  authorizedBy : ∀ (j : Nat) call auth, t.authorizes[j]? = some call → call.pc = .register auth →
    ∃ i, AuthorizedBy parts start labels j call auth i
  differentTickets : ∀ (j k : Nat) call call' auth auth',
    t.authorizes[j]? = some call → call.pc = .register auth →
    t.authorizes[k]? = some call' → call'.pc = .register auth' →
    call.params.ticket = call'.params.ticket → j = k
  presentedOnce : ∀ n m s₁ s₂ a₁ a₂ j k reply₁ reply₂ ticket, n < m →
    Transition.StepAt (step parts) start labels n s₁ a₁ →
    s₁.Issued ticket → s₁.Presents a₁ j reply₁ ticket → reply₁ ≠ .failed →
    Transition.StepAt (step parts) start labels m s₂ a₂ →
    s₂.Presents a₂ k reply₂ ticket →
    ∀ call auth, t.authorizes[k]? = some call → call.pc ≠ .register auth

/-- **Tickets authorize once.**  For any devices and any interleaving of the steps of
    `issue_ws_ticket` and `authorize` calls, with any other requests, failing commands and
    expiring keys between them. -/
theorem tickets_authorize_once {stores : SharedStores D F} {owned : W → List String}
    {labels : List (Label D W F)}
    (hok : Transition.RunOk (step parts) TicketsDistinct (initial stores owned) labels)
    (hrun : Transition.run (step parts) (initial stores owned) labels = some t) :
    AuthorizesOnce parts (initial stores owned) labels t where
  authorizedBy j call auth hj hpc := exists_authorizedBy hok hrun hj hpc
  differentTickets j k call call' auth auth' hj hpc hk hpc' hticket := by
    obtain ⟨-, -, n, -, -, -, s₁, -, -, -, -, -, -, ⟨hat₁, hj₁, hget₁⟩, -⟩ :=
      exists_authorizedBy hok hrun hj hpc
    obtain ⟨-, -, m, -, -, -, s₂, -, -, -, -, -, -, ⟨hat₂, hk₂, hget₂⟩, -⟩ :=
      exists_authorizedBy hok hrun hk hpc'
    have hissued₁ := (inv_of_run hok hat₁.2).stored _ _ hget₁
    have hissued₂ := (inv_of_run hok hat₂.2).stored _ _ hget₂
    have hpresents₁ : s₁.Presents (.authorizeStep j .ok) j .ok call.params.ticket :=
      ⟨rfl, _, hj₁, rfl, rfl⟩
    have hpresents₂ : s₂.Presents (.authorizeStep k .ok) k .ok call'.params.ticket :=
      ⟨rfl, _, hk₂, rfl, rfl⟩
    rcases Nat.lt_trichotomy n m with hlt | heq | hgt
    · rw [← hticket] at hpresents₂
      exact absurd hpc' (not_authorized_of_presents hok hrun hlt hat₁ hissued₁ hpresents₁ (by simp)
        hat₂ hpresents₂ hk auth')
    · have hlabel := hat₁.1
      rw [heq, hat₂.1] at hlabel
      cases hlabel
      rfl
    · rw [hticket] at hpresents₁
      exact absurd hpc (not_authorized_of_presents hok hrun hgt hat₂ hissued₂ hpresents₂ (by simp)
        hat₁ hpresents₁ hj auth)
  presentedOnce n m s₁ s₂ a₁ a₂ j k reply₁ reply₂ ticket hlt hat₁ hissued hpresents₁ hreply hat₂
      hpresents₂ call auth hk :=
    not_authorized_of_presents hok hrun hlt hat₁ hissued hpresents₁ hreply hat₂ hpresents₂ hk auth

/-- The device of `exampleDevice`, and two workers that own its shard. -/
def exampleStores : SharedStores Nat ℚ where
  row := fun deviceId => if deviceId = 1 then some exampleDevice else none

/-- The device gets a ticket and connects with it to both workers. -/
def connectTwice : List (Label Nat Bool ℚ) :=
  [.issueWsTicket 1 5 7, .requestStep 0 .ok, .requestStep 0 .ok, .requestStep 0 .ok,
   .authorize false 1 { ticket := newWsTicket 5 7 },
   .authorize true 1 { ticket := newWsTicket 5 7, shardPrefix := some "tkrt" },
   .authorizeStep 1 .ok, .authorizeStep 0 .ok, .authorizeStep 1 .ok, .authorizeStep 1 .ok]

def twoWorkers : TicketSystem Nat Bool ℚ := initial exampleStores fun _ => ["tkrt"]

theorem connectTwice_runs :
    (Transition.run (step exampleParts) twoWorkers connectTwice).isSome = true := by
  decide +kernel

theorem connectTwice_authorizes_once :
    Transition.RunOk (step exampleParts) TicketsDistinct twoWorkers connectTwice ∧
      ((Transition.run (step exampleParts) twoWorkers connectTwice).get
        connectTwice_runs).authorizes.map (fun call => call.pc.registers?.isSome) =
          [false, true] ∧
      AuthorizesOnce exampleParts twoWorkers connectTwice
        ((Transition.run (step exampleParts) twoWorkers connectTwice).get connectTwice_runs) := by
  have hok : Transition.RunOk (step exampleParts) TicketsDistinct twoWorkers connectTwice := by
    decide +kernel
  refine ⟨hok, by decide +kernel, ?_⟩
  exact tickets_authorize_once hok (Option.some_get _).symm

end TicketSystem
end PulseGrid.System
