/-
  PulseGrid.Lib.Channel

  A bounded first-in first-out channel with one receiver and any number of
  senders.  A slot is taken either by a stored message or by a permit that was
  handed to a waiting sender which has not stored its message yet (`reserved`);
  `trySend` never waits and succeeds only when a slot is free and the receiver
  is still there.
-/

import Mathlib

structure Channel (μ : Type*) where
  capacity : Nat
  /-- Stored messages, the next one to be received first. -/
  queue : List μ := []
  /-- Permits handed to waiting senders and not used yet. -/
  reserved : Nat := 0
  /-- The receiver has not been dropped. -/
  rxOpen : Bool := true
deriving DecidableEq, Repr

inductive TrySendError where
  | full
  | closed
deriving DecidableEq, Repr

namespace Channel

variable {μ : Type*}

def hasRoom (c : Channel μ) : Bool := c.queue.length + c.reserved < c.capacity

/-- Whether a `trySend` would be accepted now. -/
def accepts (c : Channel μ) : Bool := c.rxOpen && c.hasRoom

/-- Store a message without waiting. -/
def trySend (c : Channel μ) (m : μ) : Except TrySendError (Channel μ) :=
  if !c.rxOpen then .error .closed
  else if c.hasRoom then .ok { c with queue := c.queue ++ [m] }
  else .error .full

/-- The channel after a `trySend` whose outcome nobody looks at. -/
def offer (c : Channel μ) (m : μ) : Channel μ :=
  match c.trySend m with
  | .ok c' => c'
  | .error _ => c

/-- Take the oldest message. -/
def recv (c : Channel μ) : Option μ × Channel μ :=
  match c.queue with
  | [] => (none, c)
  | m :: rest => (some m, { c with queue := rest })

/-- Dropping the receiver discards what was stored and closes the channel. -/
def dropReceiver (c : Channel μ) : Channel μ := { c with queue := [], rxOpen := false }

/-- Hand a free slot to a waiting sender. -/
def reserve (c : Channel μ) : Channel μ := { c with reserved := c.reserved + 1 }

/-- The sender holding a permit stores its message in the slot. -/
def sendReserved (c : Channel μ) (m : μ) : Channel μ :=
  { c with reserved := c.reserved - 1, queue := c.queue ++ [m] }

/-- The sender holding a permit gives it back. -/
def release (c : Channel μ) : Channel μ := { c with reserved := c.reserved - 1 }

theorem trySend_eq_ok {c : Channel μ} {m : μ} (h : c.accepts = true) :
    c.trySend m = .ok { c with queue := c.queue ++ [m] } := by
  obtain ⟨hopen, hroom⟩ := Bool.and_eq_true_iff.mp h
  simp [trySend, hopen, hroom]

theorem trySend_eq_error {c : Channel μ} {m : μ} (h : c.accepts = false) :
    ∃ e, c.trySend m = .error e := by
  unfold trySend
  unfold accepts at h
  cases hopen : c.rxOpen with
  | false => exact ⟨.closed, by simp⟩
  | true =>
      rw [hopen, Bool.true_and] at h
      exact ⟨.full, by simp [h]⟩

/-- `offer` appends the message exactly when the channel accepts it. -/
theorem offer_eq (c : Channel μ) (m : μ) :
    c.offer m = if c.accepts then { c with queue := c.queue ++ [m] } else c := by
  unfold offer
  cases h : c.accepts with
  | true => simp [trySend_eq_ok h]
  | false =>
      obtain ⟨e, he⟩ := trySend_eq_error (m := m) h
      simp [he]

theorem offer_capacity (c : Channel μ) (m : μ) : (c.offer m).capacity = c.capacity := by
  rw [offer_eq]
  split <;> rfl

theorem offer_reserved (c : Channel μ) (m : μ) : (c.offer m).reserved = c.reserved := by
  rw [offer_eq]
  split <;> rfl

/-- Nothing was taken out, and at most one message was put behind the others, while the
    receiver was there. -/
structure Grew (c c' : Channel μ) : Prop where
  rxOpen : c'.rxOpen = c.rxOpen
  queue : c'.queue = c.queue ∨ c.rxOpen = true ∧ ∃ m, c'.queue = c.queue ++ [m]

theorem Grew.refl (c : Channel μ) : Grew c c := ⟨rfl, .inl rfl⟩

theorem Grew.reserve (c : Channel μ) : Grew c c.reserve := ⟨rfl, .inl rfl⟩

theorem Grew.release (c : Channel μ) : Grew c c.release := ⟨rfl, .inl rfl⟩

theorem Grew.sendReserved {c : Channel μ} (h : c.rxOpen = true) (m : μ) :
    Grew c (c.sendReserved m) := ⟨rfl, .inr ⟨h, m, rfl⟩⟩

theorem Grew.offer (c : Channel μ) (m : μ) : Grew c (c.offer m) := by
  rw [offer_eq]
  cases haccepts : c.accepts with
  | true => exact ⟨rfl, .inr ⟨(Bool.and_eq_true_iff.mp haccepts).1, m, rfl⟩⟩
  | false => exact .refl c

theorem recv_snd_capacity (c : Channel μ) : c.recv.2.capacity = c.capacity := by
  unfold recv
  split <;> rfl

theorem recv_snd_reserved (c : Channel μ) : c.recv.2.reserved = c.reserved := by
  unfold recv
  split <;> rfl

end Channel
