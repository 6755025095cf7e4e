/-
  PulseGrid.Lib.ExpiringStore

  A key-value store whose entries carry an expiry time, as a cache server keeps
  them: an entry is visible up to and including its expiry time and gone
  afterwards.  Time is a number handed to each command; the store has no clock.
-/

import PulseGrid.Lib.DashMap

/-- A stored value and the last moment at which it is visible. -/
structure Expiring (ν : Type*) where
  value : ν
  expiresAt : Nat
deriving DecidableEq

abbrev ExpiringStore (κ ν : Type*) := DashMap κ (Expiring ν)

namespace ExpiringStore

variable {κ ν : Type*} [DecidableEq κ]

/-- The visible value of a key at time `now`. -/
def getAt (s : ExpiringStore κ ν) (now : Nat) (k : κ) : Option ν :=
  (DashMap.get s k).bind fun e => if now ≤ e.expiresAt then some e.value else none

/-- Write a value and its expiry time. -/
def setEx (s : ExpiringStore κ ν) (k : κ) (v : ν) (expiresAt : Nat) : ExpiringStore κ ν :=
  DashMap.put s k ⟨v, expiresAt⟩

/-- Change the expiry time of a key, if it is there. -/
def expire (s : ExpiringStore κ ν) (k : κ) (expiresAt : Nat) : ExpiringStore κ ν :=
  match DashMap.get s k with
  | some e => DashMap.put s k { e with expiresAt }
  | none => s

def del (s : ExpiringStore κ ν) (k : κ) : ExpiringStore κ ν :=
  DashMap.removeIf s k fun _ => true

theorem getAt_eq_some {s : ExpiringStore κ ν} {now : Nat} {k : κ} {v : ν} :
    s.getAt now k = some v ↔
      ∃ e, DashMap.get s k = some e ∧ now ≤ e.expiresAt ∧ e.value = v := by
  unfold getAt
  rw [Option.bind_eq_some_iff]
  constructor
  · rintro ⟨e, he, hv⟩
    split at hv
    · next hnow => exact ⟨e, he, hnow, Option.some.inj hv⟩
    · cases hv
  · rintro ⟨e, he, hnow, rfl⟩
    exact ⟨e, he, if_pos hnow⟩

@[simp] theorem get_setEx_self (s : ExpiringStore κ ν) (k : κ) (v : ν) (expiresAt : Nat) :
    DashMap.get (s.setEx k v expiresAt) k = some ⟨v, expiresAt⟩ :=
  DashMap.get_put_self s k _

theorem get_setEx_of_ne (s : ExpiringStore κ ν) {k k' : κ} (v : ν) (expiresAt : Nat) (h : k' ≠ k) :
    DashMap.get (s.setEx k v expiresAt) k' = DashMap.get s k' :=
  DashMap.get_put_of_ne s _ h

theorem get_expire_self {s : ExpiringStore κ ν} {k : κ} {e : Expiring ν}
    (he : DashMap.get s k = some e) (expiresAt : Nat) :
    DashMap.get (s.expire k expiresAt) k = some { e with expiresAt } := by
  unfold expire
  rw [he]
  exact DashMap.get_put_self s k _

theorem get_expire_of_ne (s : ExpiringStore κ ν) {k k' : κ} (expiresAt : Nat) (h : k' ≠ k) :
    DashMap.get (s.expire k expiresAt) k' = DashMap.get s k' := by
  unfold expire
  split
  · exact DashMap.get_put_of_ne s _ h
  · rfl

@[simp] theorem get_del_self (s : ExpiringStore κ ν) (k : κ) : DashMap.get (s.del k) k = none := by
  unfold del
  rw [DashMap.get_removeIf_self]
  cases DashMap.get s k <;> rfl

theorem get_del_of_ne (s : ExpiringStore κ ν) {k k' : κ} (h : k' ≠ k) :
    DashMap.get (s.del k) k' = DashMap.get s k' :=
  DashMap.get_removeIf_of_ne s _ h

end ExpiringStore
