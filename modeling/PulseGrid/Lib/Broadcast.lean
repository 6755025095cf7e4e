/-
  PulseGrid.Lib.Broadcast

  A broadcast channel: every receiver reads at its own position, and one that has fallen
  further behind than the channel reaches is told how many values it missed.

  `BroadcastChannel` is what such a channel offers and `Documented` what it promises.  To a
  receiver it looks like a queue of its own that drops its oldest values (`recv_eq_look`), so
  what it reads does not depend on the other receivers.  What was read, missed and is still
  to be read of such a queue adds up to what was sent (`Reader.Accounts`).

  `Broadcast.channel` keeps the last values in one buffer.
-/

import Mathlib

namespace Broadcast

variable {μ : Type*}

/-- What a receiver is given. -/
inductive Recv (μ : Type*) where
  | value (m : μ)
  | lagged (missed : Nat)
  | empty
deriving DecidableEq, Repr

-- ============================================================================
-- A queue of one's own
-- ============================================================================

/-- Read from a queue that holds everything sent since the last read, and lets go of all but
    the last `capacity` values. -/
def look (capacity : Nat) (pending : List μ) : Recv μ × List μ :=
  if capacity < pending.length then
    (.lagged (pending.length - capacity), pending.drop (pending.length - capacity))
  else
    match pending with
    | m :: rest => (.value m, rest)
    | [] => (.empty, [])

theorem look_behind {capacity : Nat} {pending : List μ} (h : capacity < pending.length) :
    look capacity pending =
      (.lagged (pending.length - capacity), pending.drop (pending.length - capacity)) := if_pos h

theorem look_cons {capacity : Nat} {m : μ} {rest : List μ} (h : (m :: rest).length ≤ capacity) :
    look capacity (m :: rest) = (.value m, rest) := if_neg (Nat.not_lt.mpr h)

theorem look_nil (capacity : Nat) : look capacity ([] : List μ) = (.empty, []) :=
  if_neg (Nat.not_lt_zero _)

/-- A receiver by itself: what it was given so far, and what it has yet to read. -/
structure Reader (μ : Type*) where
  got : List (Recv μ) := []
  pending : List μ := []

namespace Reader

def publish (r : Reader μ) (m : μ) : Reader μ := { r with pending := r.pending ++ [m] }

def read (capacity : Nat) (r : Reader μ) : Reader μ :=
  { got := r.got ++ [(look capacity r.pending).1], pending := (look capacity r.pending).2 }

/-- The values that the receiver was given. -/
def values (r : Reader μ) : List μ :=
  r.got.filterMap fun
    | .value m => some m
    | _ => none

/-- How many values it was told that it missed. -/
def missed (r : Reader μ) : Nat :=
  (r.got.map fun
    | .lagged n => n
    | _ => 0).sum

/-- The receiver's books for the values that were published to it: what it was given is part
    of them, in order, and together with the missed and the pending ones it is all of them. -/
structure Accounts (r : Reader μ) (published : List μ) : Prop where
  ordered : (r.values ++ r.pending).Sublist published
  total : r.values.length + r.missed + r.pending.length = published.length

theorem accounts_new : (({} : Reader μ)).Accounts [] := ⟨List.Sublist.refl _, rfl⟩

theorem Accounts.publish {r : Reader μ} {published : List μ} (h : r.Accounts published) (m : μ) :
    (r.publish m).Accounts (published ++ [m]) := by
  obtain ⟨hordered, htotal⟩ := h
  refine ⟨?_, ?_⟩
  · show (r.values ++ (r.pending ++ [m])).Sublist _
    rw [← List.append_assoc]
    exact hordered.append (List.Sublist.refl _)
  · show r.values.length + r.missed + (r.pending ++ [m]).length = _
    rw [List.length_append, List.length_append, List.length_singleton]
    omega

theorem values_read (capacity : Nat) (r : Reader μ) :
    (r.read capacity).values = r.values ++
      match (look capacity r.pending).1 with
      | .value m => [m]
      | _ => [] := by
  show List.filterMap _ (r.got ++ [_]) = _
  rw [List.filterMap_append]
  cases (look capacity r.pending).1 <;> rfl

theorem missed_read (capacity : Nat) (r : Reader μ) :
    (r.read capacity).missed = r.missed +
      match (look capacity r.pending).1 with
      | .lagged n => n
      | _ => 0 := by
  show (List.map _ (r.got ++ [_])).sum = _
  rw [List.map_append, List.sum_append, List.map_singleton, List.sum_singleton]
  rfl

theorem Accounts.read {r : Reader μ} {published : List μ} (h : r.Accounts published)
    (capacity : Nat) : (r.read capacity).Accounts published := by
  obtain ⟨hordered, htotal⟩ := h
  have hvalues := values_read capacity r
  have hmissed := missed_read capacity r
  have hpending : (r.read capacity).pending = (look capacity r.pending).2 := rfl
  by_cases hlag : capacity < r.pending.length
  · rw [look_behind hlag] at hvalues hmissed hpending
    refine ⟨?_, ?_⟩
    · rw [hvalues, List.append_nil, hpending]
      exact ((List.Sublist.refl _).append (List.drop_sublist _ _)).trans hordered
    · rw [hvalues, hmissed, hpending, List.append_nil, List.length_drop]
      show r.values.length + (r.missed + (r.pending.length - capacity)) + _ = _
      omega
  · cases hqueue : r.pending with
    | nil =>
        rw [hqueue, look_nil] at hvalues hmissed hpending
        rw [hqueue] at hordered htotal
        refine ⟨?_, ?_⟩
        · rw [hvalues, hpending]
          simpa using hordered
        · rw [hvalues, hmissed, hpending]
          simpa using htotal
    | cons m rest =>
        rw [hqueue] at hlag hordered htotal
        rw [hqueue, look_cons (Nat.le_of_not_lt hlag)] at hvalues hmissed hpending
        refine ⟨?_, ?_⟩
        · rw [hvalues, hpending]
          simpa using hordered
        · rw [hvalues, hmissed, hpending]
          simp only [List.length_append, List.length_cons, List.length_nil] at htotal ⊢
          omega

/-- A receiver that is not behind when it reads is not told that it missed anything. -/
theorem missed_read_of_le {capacity : Nat} {r : Reader μ} (h : r.pending.length ≤ capacity) :
    (r.read capacity).missed = r.missed := by
  rw [missed_read]
  cases hqueue : r.pending with
  | nil => rw [look_nil, Nat.add_zero]
  | cons m rest =>
      rw [hqueue] at h
      rw [look_cons h, Nat.add_zero]

theorem pending_read_length_le (capacity : Nat) (r : Reader μ) :
    (r.read capacity).pending.length ≤ r.pending.length := by
  show (look capacity r.pending).2.length ≤ _
  by_cases hlag : capacity < r.pending.length
  · rw [look_behind hlag]
    exact (List.drop_sublist _ _).length_le
  · cases hqueue : r.pending with
    | nil => rw [look_nil]
    | cons m rest =>
        rw [hqueue] at hlag
        rw [look_cons (Nat.le_of_not_lt hlag)]
        exact Nat.le_succ _

/-- One that missed nothing was given everything up to where it is. -/
theorem Accounts.eq_of_missed_eq_zero {r : Reader μ} {published : List μ}
    (h : r.Accounts published) (hmissed : r.missed = 0) : r.values ++ r.pending = published := by
  apply h.ordered.eq_of_length
  have htotal := h.total
  rw [List.length_append]
  omega

/-- What happens to a receiver. -/
inductive Act (μ : Type*) where
  | publish (m : μ)
  | read
deriving DecidableEq, Repr

def act (capacity : Nat) (r : Reader μ) : Act μ → Reader μ
  | .publish m => r.publish m
  | .read => r.read capacity

/-- A receiver from its first moment on. -/
def run (capacity : Nat) (acts : List (Act μ)) : Reader μ := acts.foldl (act capacity) {}

/-- What was published to it. -/
def published (acts : List (Act μ)) : List μ :=
  acts.filterMap fun
    | .publish m => some m
    | .read => none

theorem run_append (capacity : Nat) (acts more : List (Act μ)) :
    run capacity (acts ++ more) = more.foldl (act capacity) (run capacity acts) :=
  List.foldl_append

/-- The books are right at any time. -/
theorem accounts_run (capacity : Nat) (acts : List (Act μ)) :
    (run capacity acts).Accounts (published acts) := by
  induction acts using List.reverseRecOn with
  | nil => exact accounts_new
  | append_singleton acts a ih =>
      rw [run_append, published, List.filterMap_append, ← published]
      cases a with
      | publish m => exact ih.publish m
      | read =>
          show ((run capacity acts).read capacity).Accounts (published acts ++ [])
          rw [List.append_nil]
          exact ih.read capacity

end Reader

end Broadcast

-- ============================================================================
-- The channel
-- ============================================================================

/-- The operations of a broadcast channel. -/
structure BroadcastChannel (μ : Type*) where
  Sender : Type
  Receiver : Type
  new : (capacity : Nat) → Sender
  /-- A new receiver. -/
  subscribe : Sender → Sender × Receiver
  /-- With the number of receivers; `none` for the error that there is none. -/
  send : Sender → μ → Option (Sender × Nat)
  recv : Sender → Receiver → Broadcast.Recv μ × Sender × Receiver
  /-- A receiver is dropped. -/
  drop : Sender → Receiver → Sender

namespace BroadcastChannel

open Broadcast

variable {μ : Type*}

/-- What is promised of the operations.  `Sent tx log n`: the channel was sent the values of
    `log` and has `n` receivers.  `position rx`: how many values were sent before the one that
    the receiver reads next. -/
structure Documented (ch : BroadcastChannel μ) (capacity : Nat)
    (Sent : ch.Sender → List μ → Nat → Prop) (position : ch.Receiver → Nat) : Prop where
  new : Sent (ch.new capacity) [] 0
  /-- A new receiver sees what is sent from now on. -/
  subscribe : ∀ tx log n, Sent tx log n →
    Sent (ch.subscribe tx).1 log (n + 1) ∧ position (ch.subscribe tx).2 = log.length
  send_none : ∀ tx log m, Sent tx log 0 → ch.send tx m = none
  send_some : ∀ tx log n m, Sent tx log (n + 1) →
    ∃ tx', ch.send tx m = some (tx', n + 1) ∧ Sent tx' (log ++ [m]) (n + 1)
  recv : ∀ tx log n rx, Sent tx log n → Sent (ch.recv tx rx).2.1 log n
  /-- One that is too far behind goes on with the oldest value that is kept. -/
  recv_lagged : ∀ tx log n rx, Sent tx log n → position rx + capacity < log.length →
    (ch.recv tx rx).1 = .lagged (log.length - capacity - position rx) ∧
      position (ch.recv tx rx).2.2 = log.length - capacity
  recv_value : ∀ tx log n rx m, Sent tx log n → log.length ≤ position rx + capacity →
    log[position rx]? = some m →
    (ch.recv tx rx).1 = .value m ∧ position (ch.recv tx rx).2.2 = position rx + 1
  recv_empty : ∀ tx log n rx, Sent tx log n → position rx = log.length →
    (ch.recv tx rx).1 = .empty ∧ position (ch.recv tx rx).2.2 = position rx
  drop : ∀ tx log n rx, Sent tx log (n + 1) → Sent (ch.drop tx rx) log n

variable {ch : BroadcastChannel μ} {capacity : Nat} {Sent : ch.Sender → List μ → Nat → Prop}
  {position : ch.Receiver → Nat}

/-- **One channel for all receivers works like a queue for each.** -/
theorem Documented.recv_eq_look (h : ch.Documented capacity Sent position) {tx : ch.Sender}
    {log : List μ} {n : Nat} (hsent : Sent tx log n) {rx : ch.Receiver}
    (hle : position rx ≤ log.length) :
    (ch.recv tx rx).1 = (look capacity (log.drop (position rx))).1 ∧
      log.drop (position (ch.recv tx rx).2.2) = (look capacity (log.drop (position rx))).2 ∧
      position (ch.recv tx rx).2.2 ≤ log.length := by
  have hlen : (log.drop (position rx)).length = log.length - position rx := List.length_drop
  by_cases hbehind : position rx + capacity < log.length
  · obtain ⟨hitem, hnext⟩ := h.recv_lagged tx log n rx hsent hbehind
    have hmissed : log.length - capacity - position rx =
        (log.drop (position rx)).length - capacity := by omega
    have hsum : position rx + (log.length - capacity - position rx) = log.length - capacity := by
      omega
    rw [look_behind (by omega), ← hmissed, List.drop_drop, hsum]
    exact ⟨hitem, by rw [hnext], by omega⟩
  · by_cases hend : position rx < log.length
    · obtain ⟨hitem, hnext⟩ := h.recv_value tx log n rx _ hsent (by omega)
        (List.getElem?_eq_getElem hend)
      have hqueue := List.drop_eq_getElem_cons hend
      rw [hqueue, look_cons (by rw [← hqueue]; omega)]
      exact ⟨hitem, by rw [hnext], by omega⟩
    · have hlast : position rx = log.length := by omega
      obtain ⟨hitem, hnext⟩ := h.recv_empty tx log n rx hsent hlast
      rw [List.drop_of_length_le (by omega : log.length ≤ position rx), look_nil]
      refine ⟨hitem, ?_, by omega⟩
      rw [hnext]
      exact List.drop_of_length_le (by omega)

end BroadcastChannel

-- ============================================================================
-- One buffer
-- ============================================================================

structure Broadcast (μ : Type*) where
  capacity : Nat
  receivers : Nat := 0
  /-- How many values were sent. -/
  sent : Nat := 0
  /-- The values that are kept, oldest first. -/
  buffer : List μ := []

namespace Broadcast

variable {μ : Type*}

/-- The position of the oldest value that is kept. -/
def oldest (c : Broadcast μ) : Nat := c.sent - c.buffer.length

def send (c : Broadcast μ) (m : μ) : Broadcast μ :=
  { c with
    sent := c.sent + 1
    buffer := (c.buffer ++ [m]).drop (c.buffer.length + 1 - c.capacity) }

/-- Read at a position; with it comes the next position. -/
def recv (c : Broadcast μ) (next : Nat) : Recv μ × Nat :=
  if next < c.oldest then (.lagged (c.oldest - next), c.oldest)
  else
    match c.buffer[next - c.oldest]? with
    | some m => (.value m, next + 1)
    | none => (.empty, next)

/-- The channel with one buffer.  A receiver is its position. -/
def channel (μ : Type) : BroadcastChannel μ where
  Sender := Broadcast μ
  Receiver := Nat
  new capacity := { capacity }
  subscribe c := ({ c with receivers := c.receivers + 1 }, c.sent)
  send c m := if c.receivers = 0 then none else some (c.send m, c.receivers)
  recv c next := ((c.recv next).1, c, (c.recv next).2)
  drop c _ := { c with receivers := c.receivers - 1 }

/-- The buffer holds the last of the values that were sent. -/
structure Keeps (capacity : Nat) (c : Broadcast μ) (log : List μ) (receivers : Nat) : Prop where
  capacity_eq : c.capacity = capacity
  receivers_eq : c.receivers = receivers
  sent : c.sent = log.length
  buffer : c.buffer = log.drop (log.length - capacity)

theorem Keeps.length {capacity receivers : Nat} {c : Broadcast μ} {log : List μ}
    (h : c.Keeps capacity log receivers) : c.buffer.length = min log.length capacity := by
  rw [h.buffer, List.length_drop]
  omega

theorem Keeps.oldest_eq {capacity receivers : Nat} {c : Broadcast μ} {log : List μ}
    (h : c.Keeps capacity log receivers) : c.oldest = log.length - capacity := by
  have hlen := h.length
  have hsent := h.sent
  unfold oldest
  omega

theorem Keeps.send {capacity receivers : Nat} {c : Broadcast μ} {log : List μ}
    (h : c.Keeps capacity log receivers) (m : μ) :
    (c.send m).Keeps capacity (log ++ [m]) receivers := by
  refine ⟨h.capacity_eq, h.receivers_eq, ?_, ?_⟩
  · rw [List.length_append, ← h.sent]
    rfl
  · show (c.buffer ++ [m]).drop (c.buffer.length + 1 - c.capacity) = _
    have hlen := h.length
    have hsplit : (log ++ [m]).length - capacity =
        (log.length - capacity) + (c.buffer.length + 1 - c.capacity) := by
      rw [h.capacity_eq, hlen, List.length_append, List.length_singleton]
      omega
    rw [hsplit, ← List.drop_drop, List.drop_append_of_le_length (Nat.sub_le _ _), ← h.buffer]

theorem Keeps.subscribe {capacity receivers : Nat} {c : Broadcast μ} {log : List μ}
    (h : c.Keeps capacity log receivers) :
    { c with receivers := c.receivers + 1 }.Keeps capacity log (receivers + 1) :=
  ⟨h.capacity_eq, congrArg (· + 1) h.receivers_eq, h.sent, h.buffer⟩

theorem Keeps.drop {capacity receivers : Nat} {c : Broadcast μ} {log : List μ}
    (h : c.Keeps capacity log (receivers + 1)) :
    { c with receivers := c.receivers - 1 }.Keeps capacity log receivers :=
  ⟨h.capacity_eq, congrArg (· - 1) h.receivers_eq, h.sent, h.buffer⟩

theorem Keeps.recv_lagged {capacity receivers : Nat} {c : Broadcast μ} {log : List μ}
    (h : c.Keeps capacity log receivers) {next : Nat} (hnext : next + capacity < log.length) :
    c.recv next = (.lagged (log.length - capacity - next), log.length - capacity) := by
  have holdest := h.oldest_eq
  rw [recv, if_pos (by omega), holdest]

theorem Keeps.recv_of_le {capacity receivers : Nat} {c : Broadcast μ} {log : List μ}
    (h : c.Keeps capacity log receivers) {next : Nat} (hnext : log.length ≤ next + capacity) :
    c.recv next = match log[next]? with
      | some m => (.value m, next + 1)
      | none => (.empty, next) := by
  have holdest := h.oldest_eq
  have hread : c.buffer[next - c.oldest]? = log[next]? := by
    rw [h.buffer, List.getElem?_drop]
    congr 1
    omega
  rw [recv, if_neg (by omega), hread]

theorem Keeps.recv_value {capacity receivers : Nat} {c : Broadcast μ} {log : List μ}
    (h : c.Keeps capacity log receivers) {next : Nat} {m : μ}
    (hnext : log.length ≤ next + capacity) (hm : log[next]? = some m) :
    c.recv next = (.value m, next + 1) := by
  rw [h.recv_of_le hnext, hm]

theorem Keeps.recv_empty {capacity receivers : Nat} {c : Broadcast μ} {log : List μ}
    (h : c.Keeps capacity log receivers) {next : Nat} (hnext : next = log.length) :
    c.recv next = (.empty, next) := by
  rw [h.recv_of_le (by omega), List.getElem?_eq_none (by omega)]

theorem documented_channel (μ : Type) (capacity : Nat) :
    (channel μ).Documented capacity (Keeps capacity) id where
  new := ⟨rfl, rfl, rfl, List.drop_nil.symm⟩
  subscribe _ _ _ h := ⟨Keeps.subscribe h, Keeps.sent h⟩
  send_none _ _ _ h := if_pos (Keeps.receivers_eq h)
  send_some tx _ n m h := by
    have hcount : Broadcast.receivers tx = n + 1 := Keeps.receivers_eq h
    refine ⟨Broadcast.send tx m, ?_, Keeps.send h m⟩
    show (if Broadcast.receivers tx = 0 then none
      else some (Broadcast.send tx m, Broadcast.receivers tx)) = _
    rw [hcount, if_neg (Nat.succ_ne_zero n)]
    rfl
  recv _ _ _ _ h := h
  recv_lagged _ _ _ _ h hbehind :=
    ⟨congrArg Prod.fst (Keeps.recv_lagged h hbehind),
      congrArg Prod.snd (Keeps.recv_lagged h hbehind)⟩
  recv_value _ _ _ _ _ h hle hm :=
    ⟨congrArg Prod.fst (Keeps.recv_value h hle hm), congrArg Prod.snd (Keeps.recv_value h hle hm)⟩
  recv_empty _ _ _ _ h hend :=
    ⟨congrArg Prod.fst (Keeps.recv_empty h hend), congrArg Prod.snd (Keeps.recv_empty h hend)⟩
  drop _ _ _ _ h := Keeps.drop h

end Broadcast
