/-
  PulseGrid.Worker.SocketCell

  What one connection's queue and tasks can do, seen from that connection alone.

  `Cell.Move` lists everything that can happen to a cell; `Cell.Ok` is the
  invariant of the queue's bookkeeping, `Cell.Silent` says that no alert that
  enters from some point on is ever written to the socket.  The last part shows
  the converse: a cell that is not closed and whose replay task still has an
  alert can go on to write it.
-/

import PulseGrid.Worker.Socket

namespace PulseGrid.Worker
namespace Cell

variable {P : Type*} {replayComplete : Nat → String} {replayMaxAlerts : Nat}

/-- What can happen to a cell in one step of the worker; `registered` says
    whether the registry still has the connection. -/
inductive Move (replayComplete : Nat → String) (replayMaxAlerts : Nat) (registered : Prop) :
    Cell P → Cell P → Prop where
  | keep (c : Cell P) : Move replayComplete replayMaxAlerts registered c c
  | offer (c : Cell P) (m : Outbound P) (h : registered) :
      Move replayComplete replayMaxAlerts registered c (c.offer m)
  | spawn {c c' : Cell P} (b : Bool) (hb : b = true → registered)
      (h : c.spawnReplay b = some c') : Move replayComplete replayMaxAlerts registered c c'
  | task {c c' : Cell P} (op : TaskOp P)
      (h : c.exec replayComplete replayMaxAlerts op = some c') :
      Move replayComplete replayMaxAlerts registered c c'

-- ============================================================================
-- The bookkeeping of the queue
-- ============================================================================

/-- The replay task holds a permit. -/
def holdsPermit : ReplayTask P → Bool
  | .sending _ .granted => true
  | _ => false

structure Ok (c : Cell P) : Prop where
  capacity : c.channel.capacity = connectionChannelCapacity
  reserved : c.channel.reserved = if holdsPermit c.tasks.replay then 1 else 0
  /-- A sender waits only while there is no room. -/
  waiting : ∀ rest, c.tasks.replay = .sending rest .waiting → c.channel.rxOpen = true →
    c.channel.capacity ≤ c.channel.queue.length
  /-- What is left of a replay is alerts and the final control frame. -/
  rest : ∀ rest send, c.tasks.replay = .sending rest send →
    ∃ (payloads : List P) (text : String), rest = payloads.map .alert ++ [.control text false]
  hand : ∀ n m, c.tasks.hand = some (n, m) → n < c.tasks.taken ∧ c.channel.rxOpen = true
  written : ∀ n p, (n, p) ∈ c.tasks.written → n < c.tasks.taken

theorem afterSend_rest {payloads : List P} {text : String} {m : Outbound P}
    {rest rest' : List (Outbound P)} {send : SendState}
    (h : m :: rest = payloads.map .alert ++ [.control text false])
    (ha : afterSend rest = .sending rest' send) :
    send = .idle ∧
      ∃ (payloads : List P) (text : String), rest' = payloads.map .alert ++ [.control text false] := by
  unfold afterSend at ha
  split at ha
  · cases ha
  · next hne =>
    obtain ⟨rfl, rfl⟩ : rest = rest' ∧ SendState.idle = send := by simpa using ha
    cases payloads with
    | nil =>
      have : rest = [] := by simpa using (List.cons.inj h).2
      exact absurd this hne
    | cons p ps => exact ⟨rfl, ps, text, (List.cons.inj h).2⟩

@[simp] theorem holdsPermit_afterSend (rest : List (Outbound P)) :
    holdsPermit (afterSend rest) = false := by
  unfold afterSend
  split <;> rfl

theorem sendNext_cases {c c' : Cell P} (h : c.sendNext = some c') :
    ∃ m rest, c.tasks.replay = .sending (m :: rest) .idle ∧
      ((c.channel.rxOpen = false ∧
          c' = { c with tasks := { c.tasks with replay := .ended } }) ∨
        (c.channel.rxOpen = true ∧ c.channel.hasRoom = true ∧
          c' = { channel := { c.channel with queue := c.channel.queue ++ [m] }
                 tasks := { c.tasks with replay := afterSend rest } }) ∨
        (c.channel.rxOpen = true ∧ c.channel.hasRoom = false ∧
          c' = { c with tasks := { c.tasks with replay := .sending (m :: rest) .waiting } })) := by
  unfold sendNext at h
  split at h
  · next m rest hr =>
    refine ⟨m, rest, hr, ?_⟩
    split at h
    · next hopen => exact .inl ⟨by simpa using hopen, (Option.some.inj h).symm⟩
    · next hopen =>
      have hopen : c.channel.rxOpen = true := by simpa using hopen
      split at h
      · next hroom => exact .inr (.inl ⟨hopen, hroom, (Option.some.inj h).symm⟩)
      · next hroom => exact .inr (.inr ⟨hopen, by simpa using hroom, (Option.some.inj h).symm⟩)
  · cases h

theorem sendGranted_cases {c c' : Cell P} (h : c.sendGranted = some c') :
    ∃ m rest, c.tasks.replay = .sending (m :: rest) .granted ∧
      ((c.channel.rxOpen = false ∧
          c' = { channel := { c.channel with reserved := c.channel.reserved - 1 }
                 tasks := { c.tasks with replay := .ended } }) ∨
        (c.channel.rxOpen = true ∧
          c' = { channel := c.channel.sendReserved m
                 tasks := { c.tasks with replay := afterSend rest } })) := by
  unfold sendGranted at h
  split at h
  · next m rest hr =>
    refine ⟨m, rest, hr, ?_⟩
    split at h
    · next hopen => exact .inl ⟨by simpa using hopen, (Option.some.inj h).symm⟩
    · next hopen => exact .inr ⟨by simpa using hopen, (Option.some.inj h).symm⟩
  · cases h

/-- Ending a replay touches neither the stored messages nor the writer. -/
theorem endReplay_cases {c c' : Cell P} (h : c.endReplay = some c') :
    c'.tasks = { c.tasks with replay := .ended } ∧
      c'.channel = { c.channel with
        reserved := if holdsPermit c.tasks.replay then c.channel.reserved - 1
          else c.channel.reserved } := by
  unfold endReplay at h
  split at h
  · next rest hr =>
    obtain rfl := Option.some.inj h
    simp [hr, holdsPermit]
  · next hr =>
    obtain rfl := Option.some.inj h
    refine ⟨rfl, ?_⟩
    have hp : holdsPermit c.tasks.replay = false := by
      unfold holdsPermit
      split
      · next rest hrest => exact absurd hrest (hr rest)
      · rfl
    simp [hp]

theorem take_cases {c c' : Cell P} (h : c.take = some c') :
    ∃ m queue, c.channel.rxOpen = true ∧ c.tasks.hand = none ∧ c.channel.queue = m :: queue ∧
      c'.tasks.hand = some (c.tasks.taken, m) ∧ c'.tasks.taken = c.tasks.taken + 1 ∧
      c'.tasks.written = c.tasks.written ∧ c'.channel.queue = queue ∧
      c'.channel.rxOpen = true ∧ c'.channel.capacity = c.channel.capacity ∧
      ((∃ rest, c.tasks.replay = .sending rest .waiting ∧
          c'.tasks.replay = .sending rest .granted ∧
          c'.channel.reserved = c.channel.reserved + 1) ∨
        ((∀ rest, c.tasks.replay ≠ .sending rest .waiting) ∧
          c'.tasks.replay = c.tasks.replay ∧ c'.channel.reserved = c.channel.reserved)) := by
  unfold take at h
  split at h
  · next m queue hopen hhand hqueue =>
    refine ⟨m, queue, hopen, hhand, hqueue, ?_⟩
    dsimp only at h
    split at h
    · next rest hr =>
      obtain rfl := Option.some.inj h
      exact ⟨rfl, rfl, rfl, rfl, hopen, rfl, .inl ⟨rest, hr, rfl, rfl⟩⟩
    · next hr =>
      obtain rfl := Option.some.inj h
      exact ⟨rfl, rfl, rfl, rfl, hopen, rfl, .inr ⟨fun rest hrest => hr rest hrest, rfl, rfl⟩⟩
  · cases h

theorem sent_cases {c c' : Cell P} {ok : Bool} (h : c.sent ok = some c') :
    ∃ n m, c.tasks.hand = some (n, m) ∧
      (c' = c.stop ∨
        (m.stops = false ∧ ∃ p, m = .alert p ∧ c' = { c with tasks := { c.tasks with
          hand := none, written := c.tasks.written ++ [(n, p)] } }) ∨
        (m.stops = false ∧ m.isAlert = false ∧
          c' = { c with tasks := { c.tasks with hand := none } })) := by
  unfold sent at h
  split at h
  · cases h
  · next n p hhand =>
    refine ⟨n, _, hhand, ?_⟩
    split at h
    · exact .inr (.inl ⟨rfl, p, rfl, (Option.some.inj h).symm⟩)
    · exact .inl (Option.some.inj h).symm
  · next n t close hhand =>
    refine ⟨n, _, hhand, ?_⟩
    split at h
    · exact .inl (Option.some.inj h).symm
    · next hc =>
      have hclose : close = false := by
        cases close
        · rfl
        · simp at hc
      exact .inr (.inr ⟨hclose, rfl, (Option.some.inj h).symm⟩)
  · next n hhand => exact ⟨n, _, hhand, .inl (Option.some.inj h).symm⟩

theorem spawnReplay_cases {c c' : Cell P} {b : Bool} (h : c.spawnReplay b = some c') :
    c.tasks.replay = .unspawned ∧
      c' = { c with tasks := { c.tasks with replay := if b then .reading else .ended } } := by
  unfold spawnReplay at h
  split at h
  · next hr => exact ⟨hr, (Option.some.inj h).symm⟩
  · cases h

theorem fetched_cases {c c' : Cell P} {payloads : List P}
    (h : c.fetched replayComplete replayMaxAlerts payloads = some c') :
    c.tasks.replay = .reading ∧ payloads.length ≤ replayMaxAlerts ∧
      c' = { c with tasks := { c.tasks with replay := .sending (payloads.map .alert ++
        [.control (replayComplete payloads.length) false]) .idle } } := by
  unfold fetched at h
  split at h
  · next hr =>
    split at h
    · next hlen => exact ⟨hr, hlen, (Option.some.inj h).symm⟩
    · cases h
  · cases h

theorem Ok.initial : Ok ({ channel := { capacity := connectionChannelCapacity }
                           tasks := {} } : Cell P) := by
  constructor <;> simp [holdsPermit]

/-- `try_send` appends the message or does nothing. -/
theorem offer_cases (c : Cell P) (m : Outbound P) :
    (c.channel.accepts = true ∧
        c.offer m = { c with channel := { c.channel with queue := c.channel.queue ++ [m] } }) ∨
      (c.channel.accepts = false ∧ c.offer m = c) := by
  unfold offer
  rw [Channel.offer_eq]
  cases hacc : c.channel.accepts with
  | true => exact .inl ⟨rfl, rfl⟩
  | false => exact .inr ⟨rfl, rfl⟩

theorem Ok.offer {c : Cell P} (h : c.Ok) (m : Outbound P) : (c.offer m).Ok := by
  obtain ⟨-, heq⟩ | ⟨-, heq⟩ := offer_cases c m
  · rw [heq]
    refine ⟨h.capacity, h.reserved, ?_, h.rest, h.hand, h.written⟩
    intro rest hr hopen
    have := h.waiting rest hr hopen
    simp only [List.length_append, List.length_singleton]
    omega
  · rw [heq]
    exact h

theorem Ok.stop {c : Cell P} (h : c.Ok) : c.stop.Ok where
  capacity := h.capacity
  reserved := h.reserved
  waiting := by simp [Cell.stop, Channel.dropReceiver]
  rest := h.rest
  hand := by simp [Cell.stop]
  written := h.written

theorem Ok.exec {c c' : Cell P} (h : c.Ok) {op : TaskOp P}
    (hexec : c.exec replayComplete replayMaxAlerts op = some c') : c'.Ok := by
  cases op with
  | fetched payloads =>
    obtain ⟨hr, -, rfl⟩ := fetched_cases hexec
    refine ⟨h.capacity, ?_, by simp, ?_, h.hand, h.written⟩
    · simpa [hr, holdsPermit] using h.reserved
    · rintro rest send hrest
      obtain ⟨rfl, -⟩ := by simpa using hrest
      exact ⟨payloads, _, rfl⟩
  | sendNext =>
    obtain ⟨m, rest, hr, hcase⟩ := sendNext_cases hexec
    obtain ⟨ps, text, hps⟩ := h.rest _ _ hr
    have hres : c.channel.reserved = 0 := by simpa [hr, holdsPermit] using h.reserved
    obtain ⟨-, rfl⟩ | ⟨-, -, rfl⟩ | ⟨-, hroom, rfl⟩ := hcase
    · exact ⟨h.capacity, by simpa [holdsPermit] using hres, by simp, by simp, h.hand, h.written⟩
    · refine ⟨h.capacity, by simpa using hres, ?_, ?_, h.hand, h.written⟩
      · intro rest' hrest'
        cases (afterSend_rest hps hrest').1
      · exact fun rest' send hrest' => (afterSend_rest hps hrest').2
    · refine ⟨h.capacity, by simpa [holdsPermit] using hres, ?_, ?_, h.hand, h.written⟩
      · intro _ _ _
        have := by simpa [Channel.hasRoom, hres] using hroom
        exact this
      · rintro rest' send hrest'
        obtain ⟨rfl, -⟩ := by simpa using hrest'
        exact ⟨ps, text, hps⟩
  | sendGranted =>
    obtain ⟨m, rest, hr, hcase⟩ := sendGranted_cases hexec
    obtain ⟨ps, text, hps⟩ := h.rest _ _ hr
    have hres : c.channel.reserved = 1 := by simpa [hr, holdsPermit] using h.reserved
    obtain ⟨-, rfl⟩ | ⟨-, rfl⟩ := hcase
    · exact ⟨h.capacity, by simp [holdsPermit, hres], by simp, by simp, h.hand, h.written⟩
    · refine ⟨h.capacity, by simp [Channel.sendReserved, hres], ?_, ?_, h.hand, h.written⟩
      · intro rest' hrest'
        cases (afterSend_rest hps hrest').1
      · exact fun rest' send hrest' => (afterSend_rest hps hrest').2
  | endReplay =>
    obtain ⟨htasks, hchannel⟩ := endReplay_cases hexec
    have hres := h.reserved
    refine ⟨?_, ?_, ?_, ?_, ?_, ?_⟩
    · rw [hchannel]
      exact h.capacity
    · rw [hchannel, htasks]
      show (if holdsPermit c.tasks.replay then c.channel.reserved - 1
        else c.channel.reserved) = 0
      rw [hres]
      split <;> rfl
    · simp [htasks]
    · simp [htasks]
    · rw [htasks, hchannel]
      exact h.hand
    · rw [htasks]
      exact h.written
  | take =>
    obtain ⟨m, queue, hopen, hhand, hqueue, hhand', htaken, hwritten, hqueue', hopen', hcap,
      hreplay⟩ := take_cases hexec
    have hres := h.reserved
    refine ⟨hcap ▸ h.capacity, ?_, ?_, ?_, ?_, ?_⟩
    · obtain ⟨rest, hr, hr', hres'⟩ | ⟨-, hr', hres'⟩ := hreplay
      · rw [hres', hr', hres, hr]
        rfl
      · rw [hres', hr', hres]
    · intro rest hrest
      obtain ⟨rest', hr, hr', -⟩ | ⟨hne, hr', -⟩ := hreplay
      · simp [hr'] at hrest
      · exact absurd (hr' ▸ hrest) (hne rest)
    · intro rest send hrest
      obtain ⟨rest', hr, hr', -⟩ | ⟨-, hr', -⟩ := hreplay
      · obtain ⟨rfl, -⟩ : rest' = rest ∧ _ := by simpa [hr'] using hrest
        exact h.rest _ _ hr
      · exact h.rest _ _ (hr' ▸ hrest)
    · intro n m' hn
      obtain ⟨rfl, -⟩ : c.tasks.taken = n ∧ m = m' := by simpa [hhand'] using hn
      exact ⟨by omega, hopen'⟩
    · intro n p hn
      have := h.written n p (hwritten ▸ hn)
      omega
  | sent ok =>
    obtain ⟨n, m, hhand, rfl | ⟨-, p, -, rfl⟩ | ⟨-, -, rfl⟩⟩ := sent_cases hexec
    · exact h.stop
    · refine ⟨h.capacity, h.reserved, h.waiting, h.rest, by simp, ?_⟩
      intro n' p' hn'
      obtain hn' | ⟨rfl, -⟩ : (n', p') ∈ c.tasks.written ∨ n' = n ∧ p' = p := by
        simpa using hn'
      · exact h.written n' p' hn'
      · exact (h.hand n' m hhand).1
    · exact ⟨h.capacity, h.reserved, h.waiting, h.rest, by simp, h.written⟩
  | stop =>
    obtain rfl := Option.some.inj hexec
    exact h.stop

theorem Ok.move {c c' : Cell P} {registered : Prop} (h : c.Ok)
    (hmove : Move replayComplete replayMaxAlerts registered c c') : c'.Ok := by
  cases hmove with
  | keep => exact h
  | offer m _ => exact h.offer m
  | spawn b hb hspawn =>
    obtain ⟨hr, rfl⟩ := spawnReplay_cases hspawn
    have hres : c.channel.reserved = 0 := by simpa [hr, holdsPermit] using h.reserved
    refine ⟨h.capacity, ?_, ?_, ?_, h.hand, h.written⟩ <;> cases b <;> simp [holdsPermit, hres]
  | task op hexec => exact h.exec hexec

-- ============================================================================
-- Nothing that enters later is written
-- ============================================================================

/-- The writer has stopped, or will stop before it comes to message number `n`. -/
def Closing (n : Nat) (c : Cell P) : Prop :=
  (c.channel.rxOpen = false ∧ c.tasks.hand = none) ∨
    (∃ i m, c.tasks.hand = some (i, m) ∧ m.stops = true) ∨
    ∃ k m, c.channel.queue[k]? = some m ∧ m.stops = true ∧ c.tasks.taken + k < n

/-- No alert numbered `n` or later is in the queue and none will be put there by
    the replay task. -/
def Muted (replayMaxAlerts n : Nat) (c : Cell P) : Prop :=
  (∀ k p, c.channel.queue[k]? = some (.alert p) → c.tasks.taken + k < n) ∧
    c.tasks.replay.alertLeft replayMaxAlerts = false

/-- No alert numbered `n` or later has been written, is being written, or ever
    will be. -/
structure Silent (replayMaxAlerts n : Nat) (registered : Prop) (c : Cell P) : Prop where
  written : ∀ i p, (i, p) ∈ c.tasks.written → i < n
  hand : ∀ i p, c.tasks.hand = some (i, .alert p) → i < n
  later : c.Closing n ∨ (¬registered ∧ c.Muted replayMaxAlerts n)

theorem Closing.append {n : Nat} {c c' : Cell P} (h : c.Closing n)
    (hopen : c'.channel.rxOpen = c.channel.rxOpen) (hhand : c'.tasks.hand = c.tasks.hand)
    (htaken : c'.tasks.taken = c.tasks.taken)
    (hqueue : ∃ ms, c'.channel.queue = c.channel.queue ++ ms) : c'.Closing n := by
  obtain ⟨ho, hh⟩ | ⟨i, m, hh, hm⟩ | ⟨k, m, hk, hm, hlt⟩ := h
  · exact .inl ⟨hopen ▸ ho, hhand ▸ hh⟩
  · exact .inr (.inl ⟨i, m, hhand ▸ hh, hm⟩)
  · obtain ⟨ms, hms⟩ := hqueue
    refine .inr (.inr ⟨k, m, ?_, hm, by omega⟩)
    rw [hms, List.getElem?_append_left (List.getElem?_eq_some_iff.mp hk).1]
    exact hk

theorem Silent.mono {n : Nat} {registered registered' : Prop} {c : Cell P}
    (h : c.Silent replayMaxAlerts n registered) (hreg : registered' → registered) :
    c.Silent replayMaxAlerts n registered' :=
  ⟨h.written, h.hand, h.later.imp_right fun hm => ⟨fun hr => hm.1 (hreg hr), hm.2⟩⟩

theorem Silent.offer {n : Nat} {registered : Prop} {c : Cell P}
    (h : c.Silent replayMaxAlerts n registered) (hreg : registered) (m : Outbound P) :
    (c.offer m).Silent replayMaxAlerts n registered := by
  obtain hc | ⟨hnot, -⟩ := h.later
  · obtain ⟨-, heq⟩ | ⟨-, heq⟩ := offer_cases c m
    · rw [heq]
      exact ⟨h.written, h.hand, .inl (hc.append rfl rfl rfl ⟨[m], rfl⟩)⟩
    · rw [heq]
      exact h
  · exact absurd hreg hnot

theorem Silent.stop {n : Nat} {registered : Prop} {c : Cell P}
    (h : c.Silent replayMaxAlerts n registered) : c.stop.Silent replayMaxAlerts n registered :=
  ⟨h.written, by simp [Cell.stop], .inl (.inl ⟨rfl, rfl⟩)⟩

theorem alertLeft_afterSend {rest : List (Outbound P)} {m : Outbound P} {send : SendState}
    (h : (ReplayTask.sending (m :: rest) send).alertLeft replayMaxAlerts = false) :
    m.isAlert = false ∧ (afterSend rest).alertLeft replayMaxAlerts = false := by
  simp only [ReplayTask.alertLeft, List.any_cons, Bool.or_eq_false_iff] at h
  refine ⟨h.1, ?_⟩
  unfold afterSend
  split
  · rfl
  · exact h.2

/-- A message that is not an alert may enter a muted cell. -/
theorem Muted.append {n : Nat} {c c' : Cell P} (h : c.Muted replayMaxAlerts n)
    (htaken : c'.tasks.taken = c.tasks.taken) {m : Outbound P} (hm : m.isAlert = false)
    (hqueue : c'.channel.queue = c.channel.queue ++ [m])
    (hreplay : c'.tasks.replay.alertLeft replayMaxAlerts = false) :
    c'.Muted replayMaxAlerts n := by
  refine ⟨?_, hreplay⟩
  intro k p hk
  rw [hqueue, List.getElem?_append] at hk
  rw [htaken]
  split at hk
  · exact h.1 k p hk
  · have hmem := List.mem_of_getElem? hk
    obtain rfl : Outbound.alert p = m := by simpa using hmem
    cases hm

theorem Silent.take {n : Nat} {registered : Prop} {c c' : Cell P}
    (h : c.Silent replayMaxAlerts n registered) (htake : c.take = some c') :
    c'.Silent replayMaxAlerts n registered := by
  obtain ⟨m, queue, hopen, hhand, hqueue, hhand', htaken, hwritten, hqueue', hopen', -,
    hreplay⟩ := take_cases htake
  have hleft : c'.tasks.replay.alertLeft replayMaxAlerts =
      c.tasks.replay.alertLeft replayMaxAlerts := by
    obtain ⟨rest, hr, hr', -⟩ | ⟨-, hr', -⟩ := hreplay
    · rw [hr, hr']
      rfl
    · rw [hr']
  refine ⟨hwritten ▸ h.written, ?_, ?_⟩
  · intro i p hi
    obtain ⟨rfl, rfl⟩ : c.tasks.taken = i ∧ m = .alert p := by simpa [hhand'] using hi
    obtain (⟨hclosed, -⟩ | ⟨j, m', hj, -⟩ | ⟨k, m', hk, hm', hlt⟩) | ⟨-, hmuted, -⟩ := h.later
    · simp [hopen] at hclosed
    · simp [hhand] at hj
    · omega
    · exact hmuted 0 p (by simp [hqueue])
  · obtain (⟨hclosed, -⟩ | ⟨j, m', hj, -⟩ | ⟨k, m', hk, hm', hlt⟩) | ⟨hnot, hmuted, hl⟩ := h.later
    · simp [hopen] at hclosed
    · simp [hhand] at hj
    · -- the closing message moves one place forward, or into the writer's hand
      rw [hqueue] at hk
      cases k with
      | zero =>
        obtain rfl : m = m' := by simpa using hk
        exact .inl (.inr (.inl ⟨_, m, hhand', hm'⟩))
      | succ k =>
        refine .inl (.inr (.inr ⟨k, m', ?_, hm', by omega⟩))
        rw [hqueue']
        simpa using hk
    · refine .inr ⟨hnot, ?_, hleft.trans hl⟩
      intro k p hk
      rw [hqueue'] at hk
      have := hmuted (k + 1) p (by simpa [hqueue] using hk)
      omega

theorem Silent.sent {n : Nat} {registered : Prop} {c c' : Cell P} {ok : Bool}
    (h : c.Silent replayMaxAlerts n registered) (hsent : c.sent ok = some c') :
    c'.Silent replayMaxAlerts n registered := by
  obtain ⟨i, m, hhand, hcase⟩ := sent_cases hsent
  have hlater : m.stops = false → ∀ tasks : Tasks P, tasks.taken = c.tasks.taken →
      tasks.replay = c.tasks.replay → tasks.hand = none →
      Closing n { c with tasks := tasks } ∨
        (¬registered ∧ Muted replayMaxAlerts n { c with tasks := tasks }) := by
    intro hm tasks htaken hreplay hnone
    obtain (⟨-, hh⟩ | ⟨j, m', hj, hm'⟩ | ⟨k, m', hk, hm', hlt⟩) | ⟨hnot, hmuted, hl⟩ := h.later
    · simp [hhand] at hh
    · obtain ⟨-, rfl⟩ : i = j ∧ m = m' := by simpa [hhand] using hj
      simp [hm] at hm'
    · exact .inl (.inr (.inr ⟨k, m', hk, hm', by simpa [htaken] using hlt⟩))
    · refine .inr ⟨hnot, fun k p hk => ?_, ?_⟩
      · simpa [htaken] using hmuted k p hk
      · simpa [hreplay] using hl
  obtain rfl | ⟨hm, p, rfl, rfl⟩ | ⟨hm, -, rfl⟩ := hcase
  · exact h.stop
  · refine ⟨?_, by simp, hlater hm _ rfl rfl rfl⟩
    intro i' p' hi'
    obtain hi' | ⟨rfl, rfl⟩ : (i', p') ∈ c.tasks.written ∨ i' = i ∧ p' = p := by simpa using hi'
    · exact h.written i' p' hi'
    · exact h.hand i' p' hhand
  · exact ⟨h.written, by simp, hlater hm _ rfl rfl rfl⟩

theorem Silent.exec {n : Nat} {registered : Prop} {c c' : Cell P} {op : TaskOp P}
    (h : c.Silent replayMaxAlerts n registered)
    (hexec : c.exec replayComplete replayMaxAlerts op = some c') :
    c'.Silent replayMaxAlerts n registered := by
  cases op with
  | fetched payloads =>
    obtain ⟨hr, hlen, rfl⟩ := fetched_cases hexec
    refine ⟨h.written, h.hand, ?_⟩
    obtain hc | ⟨hnot, hmuted, hl⟩ := h.later
    · exact .inl (hc.append rfl rfl rfl ⟨[], by simp⟩)
    · -- nothing is left to read only when the limit is zero
      have hzero : payloads = [] := by
        simp only [hr, ReplayTask.alertLeft, decide_eq_false_iff_not] at hl
        exact List.length_eq_zero_iff.mp (by omega)
      refine .inr ⟨hnot, hmuted, ?_⟩
      simp [hzero, ReplayTask.alertLeft, Outbound.isAlert]
  | sendNext =>
    obtain ⟨m, rest, hr, hcase⟩ := sendNext_cases hexec
    obtain ⟨-, rfl⟩ | ⟨-, -, rfl⟩ | ⟨-, -, rfl⟩ := hcase
    · refine ⟨h.written, h.hand, ?_⟩
      obtain hc | ⟨hnot, hmuted, -⟩ := h.later
      · exact .inl (hc.append rfl rfl rfl ⟨[], by simp⟩)
      · exact .inr ⟨hnot, hmuted, rfl⟩
    · refine ⟨h.written, h.hand, ?_⟩
      obtain hc | ⟨hnot, hmuted⟩ := h.later
      · exact .inl (hc.append rfl rfl rfl ⟨[m], rfl⟩)
      · obtain ⟨hm, hrest⟩ := alertLeft_afterSend (hr ▸ hmuted.2)
        exact .inr ⟨hnot, hmuted.append rfl hm rfl hrest⟩
    · refine ⟨h.written, h.hand, ?_⟩
      obtain hc | ⟨hnot, hmuted, hl⟩ := h.later
      · exact .inl (hc.append rfl rfl rfl ⟨[], by simp⟩)
      · refine .inr ⟨hnot, hmuted, ?_⟩
        rw [hr] at hl
        exact hl
  | sendGranted =>
    obtain ⟨m, rest, hr, hcase⟩ := sendGranted_cases hexec
    obtain ⟨-, rfl⟩ | ⟨-, rfl⟩ := hcase
    · refine ⟨h.written, h.hand, ?_⟩
      obtain hc | ⟨hnot, hmuted, -⟩ := h.later
      · exact .inl (hc.append rfl rfl rfl ⟨[], by simp⟩)
      · exact .inr ⟨hnot, hmuted, rfl⟩
    · refine ⟨h.written, h.hand, ?_⟩
      obtain hc | ⟨hnot, hmuted⟩ := h.later
      · exact .inl (hc.append rfl rfl rfl ⟨[m], rfl⟩)
      · obtain ⟨hm, hrest⟩ := alertLeft_afterSend (hr ▸ hmuted.2)
        exact .inr ⟨hnot, hmuted.append rfl hm rfl hrest⟩
  | endReplay =>
    obtain ⟨htasks, hchannel⟩ := endReplay_cases hexec
    refine ⟨by rw [htasks]; exact h.written, by rw [htasks]; exact h.hand, ?_⟩
    obtain hc | ⟨hnot, hmuted, -⟩ := h.later
    · refine .inl (hc.append ?_ ?_ ?_ ⟨[], ?_⟩) <;> simp [htasks, hchannel]
    · refine .inr ⟨hnot, ?_, by rw [htasks]; rfl⟩
      rw [htasks, hchannel]
      exact hmuted
  | take => exact h.take hexec
  | sent ok => exact h.sent hexec
  | stop =>
    obtain rfl := Option.some.inj hexec
    exact h.stop

theorem Silent.move {n : Nat} {registered : Prop} {c c' : Cell P}
    (h : c.Silent replayMaxAlerts n registered)
    (hmove : Move replayComplete replayMaxAlerts registered c c') :
    c'.Silent replayMaxAlerts n registered := by
  cases hmove with
  | keep => exact h
  | offer m hreg => exact h.offer hreg m
  | spawn b hb hspawn =>
    obtain ⟨-, rfl⟩ := spawnReplay_cases hspawn
    refine ⟨h.written, h.hand, ?_⟩
    obtain hc | ⟨hnot, hmuted, -⟩ := h.later
    · exact .inl (hc.append rfl rfl rfl ⟨[], by simp⟩)
    · have hb' : b = false := by
        cases b
        · rfl
        · exact absurd (hb rfl) hnot
      exact .inr ⟨hnot, hmuted, by simp [hb', ReplayTask.alertLeft]⟩
  | task op hexec => exact h.exec hexec

-- ============================================================================
-- A cell that is not closed goes on
-- ============================================================================

/-- The writer is running and no message it holds or will come to makes it stop. -/
structure Running (c : Cell P) : Prop where
  rxOpen : c.channel.rxOpen = true
  queue : ∀ m ∈ c.channel.queue, m.stops = false
  hand : ∀ i m, c.tasks.hand = some (i, m) → m.stops = false

/-- The operations in `ops` lead from `c` to `c'`. -/
def Leads (replayComplete : Nat → String) (replayMaxAlerts : Nat) (c c' : Cell P) : Prop :=
  ∃ ops, Transition.run (Cell.exec replayComplete replayMaxAlerts) c ops = some c'

theorem Leads.refl (c : Cell P) : Leads replayComplete replayMaxAlerts c c := ⟨[], rfl⟩

theorem Leads.exec_trans {c c' c'' : Cell P} {op : TaskOp P}
    (h : c.exec replayComplete replayMaxAlerts op = some c')
    (h' : Leads replayComplete replayMaxAlerts c' c'') :
    Leads replayComplete replayMaxAlerts c c'' := by
  obtain ⟨ops, hops⟩ := h'
  exact ⟨op :: ops, Transition.run_cons_eq_some.mpr ⟨c', h, hops⟩⟩

/-- The writer can finish the message in its hand. -/
theorem Running.finish_hand {c : Cell P} (h : c.Running) {i : Nat} {m : Outbound P}
    (hhand : c.tasks.hand = some (i, m)) :
    ∃ tasks : Tasks P, c.exec replayComplete replayMaxAlerts (.sent true) =
        some { c with tasks := tasks } ∧ tasks.hand = none ∧ tasks.taken = c.tasks.taken ∧
      tasks.replay = c.tasks.replay ∧ ∀ p, m = .alert p → (i, p) ∈ tasks.written := by
  have hm := h.hand i m hhand
  cases m with
  | alert p =>
    refine ⟨{ c.tasks with hand := none, written := c.tasks.written ++ [(i, p)] },
      by simp [exec, sent, hhand], rfl, rfl, rfl, ?_⟩
    rintro p' hp
    obtain rfl : p = p' := by simpa using hp
    simp
  | control text close =>
    have hclose : close = false := hm
    exact ⟨{ c.tasks with hand := none }, by simp [exec, sent, hhand, hclose], rfl, rfl, rfl,
      by simp⟩
  | close => cases hm

/-- To get somewhere from a running cell, start with nothing in the writer's hand. -/
theorem Running.from_free {c : Cell P} (h : c.Running) {Q : Cell P → Prop}
    (hfree : ∀ tasks : Tasks P, tasks.hand = none → tasks.taken = c.tasks.taken →
      tasks.replay = c.tasks.replay → Running { c with tasks := tasks } →
      ∃ c', Leads replayComplete replayMaxAlerts { c with tasks := tasks } c' ∧ Q c') :
    ∃ c', Leads replayComplete replayMaxAlerts c c' ∧ Q c' := by
  cases hhand : c.tasks.hand with
  | none => exact hfree c.tasks hhand rfl rfl h
  | some im =>
    obtain ⟨tasks, hsent, hnone, htaken, hreplay, -⟩ := h.finish_hand hhand
    obtain ⟨c', hlead, hq⟩ := hfree tasks hnone htaken hreplay
      ⟨h.rxOpen, h.queue, by simp [hnone]⟩
    exact ⟨c', .exec_trans hsent hlead, hq⟩

theorem Running.take {c : Cell P} (h : c.Running) (hhand : c.tasks.hand = none) {m : Outbound P}
    {queue : List (Outbound P)} (hqueue : c.channel.queue = m :: queue) :
    ∃ c', c.exec replayComplete replayMaxAlerts .take = some c' ∧ c'.Running ∧
      c'.tasks.hand = some (c.tasks.taken, m) ∧ c'.tasks.taken = c.tasks.taken + 1 ∧
      c'.channel.queue = queue ∧
      ∀ rest, c.tasks.replay = .sending rest .waiting →
        c'.tasks.replay = .sending rest .granted := by
  obtain ⟨c', hc'⟩ : ∃ c', c.take = some c' := by
    simp only [Cell.take, h.rxOpen, hhand, hqueue]
    split <;> exact ⟨_, rfl⟩
  obtain ⟨m', queue', -, -, hq, hhand', htaken, -, hqueue', hopen', -, hreplay⟩ := take_cases hc'
  obtain ⟨rfl, rfl⟩ : m = m' ∧ queue = queue' := by simpa [hqueue] using hq
  refine ⟨c', hc', ⟨hopen', ?_, ?_⟩, hhand', htaken, hqueue', ?_⟩
  · intro x hx
    exact h.queue x (by rw [hqueue]; exact List.mem_cons_of_mem _ (hqueue' ▸ hx))
  · intro i x hx
    obtain ⟨-, rfl⟩ : c.tasks.taken = i ∧ m = x := by simpa [hhand'] using hx
    exact h.queue m (by simp [hqueue])
  · intro rest hrest
    obtain ⟨rest', hr, hr', -⟩ | ⟨hne, -⟩ := hreplay
    · obtain rfl : rest = rest' := by simpa [hrest] using hr
      exact hr'
    · exact absurd hrest (hne rest)

/-- An alert in the queue of a running cell can be written. -/
theorem Running.drain {c : Cell P} (h : c.Running) {k : Nat} {p : P}
    (hk : c.channel.queue[k]? = some (.alert p)) :
    ∃ c', Leads replayComplete replayMaxAlerts c c' ∧ (c.tasks.taken + k, p) ∈ c'.tasks.written := by
  -- on the position of the alert
  induction k generalizing c with
  | zero =>
    refine h.from_free fun tasks hhand htaken _ h0 => ?_
    obtain ⟨queue, hqueue⟩ : ∃ queue, c.channel.queue = .alert p :: queue := by
      cases hq : c.channel.queue with
      | nil => simp [hq] at hk
      | cons m queue => exact ⟨queue, by simpa [hq] using hk⟩
    obtain ⟨c1, htake, h1, hhand1, -⟩ := h0.take hhand hqueue
    obtain ⟨tasks', hsent, -, -, -, hwritten⟩ := h1.finish_hand hhand1
    refine ⟨_, .exec_trans htake (.exec_trans hsent (.refl _)), ?_⟩
    simpa [htaken] using hwritten p rfl
  | succ k ih =>
    refine h.from_free fun tasks hhand htaken _ h0 => ?_
    obtain ⟨m, queue, hqueue⟩ : ∃ m queue, c.channel.queue = m :: queue := by
      cases hq : c.channel.queue with
      | nil => simp [hq] at hk
      | cons m queue => exact ⟨m, queue, rfl⟩
    obtain ⟨c1, htake, h1, -, htaken1, hqueue1, -⟩ := h0.take hhand hqueue
    obtain ⟨c', hlead, hmem⟩ := ih h1 (by simpa [hqueue1, hqueue] using hk)
    refine ⟨c', .exec_trans htake hlead, ?_⟩
    have hnum : c1.tasks.taken + k = c.tasks.taken + (k + 1) := by
      rw [htaken1]
      simp only [htaken]
      omega
    rwa [hnum] at hmem

/-- A replay task that holds a permit for an alert stores it, and it is written. -/
theorem Running.write_granted {c : Cell P} (h : c.Running) {p : P} {rest : List (Outbound P)}
    (hreplay : c.tasks.replay = .sending (.alert p :: rest) .granted) :
    ∃ c', Leads replayComplete replayMaxAlerts c c' ∧ (c.entered, p) ∈ c'.tasks.written := by
  have hexec : c.exec replayComplete replayMaxAlerts .sendGranted =
      some { channel := c.channel.sendReserved (.alert p)
             tasks := { c.tasks with replay := afterSend rest } } := by
    simp [exec, sendGranted, hreplay, h.rxOpen]
  have h1 : Running { channel := c.channel.sendReserved (.alert p)
                      tasks := { c.tasks with replay := afterSend rest } } := by
    refine ⟨h.rxOpen, ?_, h.hand⟩
    intro m hm
    obtain hm | rfl : m ∈ c.channel.queue ∨ m = .alert p := by
      simpa [Channel.sendReserved] using hm
    · exact h.queue m hm
    · rfl
  obtain ⟨c', hlead, hmem⟩ := h1.drain (k := c.channel.queue.length) (p := p)
    (by simp [Channel.sendReserved])
  exact ⟨c', .exec_trans hexec hlead, hmem⟩

/-- A replay task that waits with an alert gets its permit from the next message
    the writer takes. -/
theorem Running.write_waiting {c : Cell P} (h : c.Running) (hok : c.Ok) {p : P}
    {rest : List (Outbound P)}
    (hreplay : c.tasks.replay = .sending (.alert p :: rest) .waiting) :
    ∃ c', Leads replayComplete replayMaxAlerts c c' ∧ (c.entered, p) ∈ c'.tasks.written := by
  refine h.from_free fun tasks hhand htaken hreplay0 h0 => ?_
  obtain ⟨m, queue, hqueue⟩ : ∃ m queue, c.channel.queue = m :: queue := by
    have hfull := hok.waiting _ hreplay h.rxOpen
    rw [hok.capacity, connectionChannelCapacity] at hfull
    cases hq : c.channel.queue with
    | nil => simp [hq] at hfull
    | cons m queue => exact ⟨m, queue, rfl⟩
  obtain ⟨c1, htake, h1, -, htaken1, hqueue1, hgrant⟩ := h0.take hhand hqueue
  obtain ⟨c', hlead, hmem⟩ := h1.write_granted (hgrant _ (hreplay0.trans hreplay))
  refine ⟨c', .exec_trans htake hlead, ?_⟩
  have hnum : c1.entered = c.entered := by
    rw [entered, htaken1, hqueue1, entered, hqueue, List.length_cons]
    simp only [htaken]
    omega
  rwa [hnum] at hmem

/-- A replay task about to send an alert stores it or waits, and it is written. -/
theorem Running.write_idle {c : Cell P} (h : c.Running) (hok : c.Ok) {p : P}
    {rest : List (Outbound P)} (hreplay : c.tasks.replay = .sending (.alert p :: rest) .idle) :
    ∃ c', Leads replayComplete replayMaxAlerts c c' ∧ (c.entered, p) ∈ c'.tasks.written := by
  cases hroom : c.channel.hasRoom with
  | true =>
    have hexec : c.exec replayComplete replayMaxAlerts .sendNext =
        some { channel := { c.channel with queue := c.channel.queue ++ [.alert p] }
               tasks := { c.tasks with replay := afterSend rest } } := by
      simp [exec, sendNext, hreplay, h.rxOpen, hroom]
    have h1 : Running { channel := { c.channel with queue := c.channel.queue ++ [.alert p] }
                        tasks := { c.tasks with replay := afterSend rest } } := by
      refine ⟨h.rxOpen, ?_, h.hand⟩
      intro m hm
      obtain hm | rfl : m ∈ c.channel.queue ∨ m = .alert p := by simpa using hm
      · exact h.queue m hm
      · rfl
    obtain ⟨c', hlead, hmem⟩ := h1.drain (k := c.channel.queue.length) (p := p) (by simp)
    exact ⟨c', .exec_trans hexec hlead, hmem⟩
  | false =>
    have hexec : c.exec replayComplete replayMaxAlerts .sendNext =
        some { c with tasks :=
          { c.tasks with replay := .sending (.alert p :: rest) .waiting } } := by
      simp [exec, sendNext, hreplay, h.rxOpen, hroom]
    have h1 : Running { c with tasks :=
        { c.tasks with replay := .sending (.alert p :: rest) .waiting } } :=
      ⟨h.rxOpen, h.queue, h.hand⟩
    obtain ⟨c', hlead, hmem⟩ := h1.write_waiting (hok.exec hexec) rfl
    exact ⟨c', .exec_trans hexec hlead, hmem⟩

/-- **A running cell whose replay task has an alert left can write an alert that
    enters the queue from now on.** -/
theorem Running.writes_later [Inhabited P] {c : Cell P} (h : c.Running) (hok : c.Ok)
    (hleft : c.tasks.replay.alertLeft replayMaxAlerts = true) :
    ∃ c' p, Leads replayComplete replayMaxAlerts c c' ∧ (c.entered, p) ∈ c'.tasks.written := by
  cases hreplay : c.tasks.replay with
  | unspawned => simp [hreplay, ReplayTask.alertLeft] at hleft
  | ended => simp [hreplay, ReplayTask.alertLeft] at hleft
  | reading =>
    have hlimit : 0 < replayMaxAlerts := by simpa [hreplay, ReplayTask.alertLeft] using hleft
    have hexec : c.exec replayComplete replayMaxAlerts (.fetched [default]) =
        some { c with tasks := { c.tasks with
          replay := .sending [.alert default, .control (replayComplete 1) false] .idle } } := by
      simp only [exec, fetched, hreplay]
      rw [if_pos (show [(default : P)].length ≤ replayMaxAlerts from hlimit)]
      rfl
    have h1 : Running { c with tasks := { c.tasks with
        replay := .sending [.alert default, .control (replayComplete 1) false] .idle } } :=
      ⟨h.rxOpen, h.queue, h.hand⟩
    obtain ⟨c', hlead, hmem⟩ := h1.write_idle (hok.exec hexec) rfl
    exact ⟨c', default, .exec_trans hexec hlead, hmem⟩
  | sending rest send =>
    obtain ⟨payloads, text, hrest⟩ := hok.rest rest send hreplay
    cases payloads with
    | nil => simp [hreplay, hrest, ReplayTask.alertLeft, Outbound.isAlert] at hleft
    | cons p ps =>
      rw [hrest] at hreplay
      cases send with
      | idle =>
        obtain ⟨c', hlead, hmem⟩ := h.write_idle hok hreplay
        exact ⟨c', p, hlead, hmem⟩
      | waiting =>
        obtain ⟨c', hlead, hmem⟩ := h.write_waiting hok hreplay
        exact ⟨c', p, hlead, hmem⟩
      | granted =>
        obtain ⟨c', hlead, hmem⟩ := h.write_granted hreplay
        exact ⟨c', p, hlead, hmem⟩

end Cell
end PulseGrid.Worker
