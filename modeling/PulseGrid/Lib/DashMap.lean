/-
  PulseGrid.Lib.DashMap

  Finite maps with the operations of a concurrent hash map: `get`, `put`
  (insert, replacing what was there), `removeIf` (remove a key when its value
  passes a test) and iteration.  The representation is Mathlib's `AList`, whose
  keys are duplicate free by construction; the lemmas below speak about
  lookups only, so no proof depends on the iteration order.

  The second half is about maps of maps, as used for a secondary index: an
  inner map per outer key, created on first use (`entryInsert`) and emptied
  with `removeIfIn`.
-/

import Mathlib

/-- A finite map from `κ` to `ν`. -/
abbrev DashMap (κ : Type*) (ν : Type*) := AList (fun _ : κ => ν)

namespace DashMap

variable {κ κ' ν : Type*} [DecidableEq κ] [DecidableEq κ']

def get (m : DashMap κ ν) (k : κ) : Option ν := m.lookup k

/-- Insert, replacing the value that was there (which is `m.get k`). -/
def put (m : DashMap κ ν) (k : κ) (v : ν) : DashMap κ ν := m.insert k v

/-- Remove the key if it is there and its value passes the test. -/
def removeIf (m : DashMap κ ν) (k : κ) (p : ν → Bool) : DashMap κ ν :=
  match m.get k with
  | some v => if p v then m.erase k else m
  | none => m

/-- The entries, each key once. -/
def iter (m : DashMap κ ν) : List (κ × ν) := m.entries.map fun e => (e.1, e.2)

def len (m : DashMap κ ν) : Nat := m.entries.length

@[simp] theorem get_empty (k : κ) : get (∅ : DashMap κ ν) k = none :=
  AList.lookup_empty k

@[simp] theorem get_put_self (m : DashMap κ ν) (k : κ) (v : ν) : (m.put k v).get k = some v :=
  AList.lookup_insert m

theorem get_put_of_ne (m : DashMap κ ν) {k k' : κ} (v : ν) (h : k' ≠ k) :
    (m.put k v).get k' = m.get k' :=
  AList.lookup_insert_ne h

theorem get_put (m : DashMap κ ν) (k k' : κ) (v : ν) :
    (m.put k v).get k' = if k' = k then some v else m.get k' := by
  split
  · next h => rw [h, get_put_self]
  · next h => exact get_put_of_ne m v h

theorem get_removeIf_of_ne (m : DashMap κ ν) {k k' : κ} (p : ν → Bool) (h : k' ≠ k) :
    (m.removeIf k p).get k' = m.get k' := by
  unfold removeIf
  split
  · split
    · exact AList.lookup_erase_ne h
    · rfl
  · rfl

@[simp] theorem get_removeIf_self (m : DashMap κ ν) (k : κ) (p : ν → Bool) :
    (m.removeIf k p).get k = (m.get k).filter fun v => !p v := by
  unfold removeIf
  cases hk : m.get k with
  | none => simpa using hk
  | some v =>
      cases hp : p v with
      | false => simp [hp, hk, Option.filter]
      | true =>
          have herase : get (m.erase k) k = none := AList.lookup_erase k m
          simp [hp, herase, Option.filter]

theorem mem_iter {m : DashMap κ ν} {k : κ} {v : ν} : (k, v) ∈ m.iter ↔ m.get k = some v := by
  have hmem : m.get k = some v ↔ (⟨k, v⟩ : Sigma fun _ : κ => ν) ∈ m.entries :=
    AList.mem_lookup_iff
  rw [hmem, iter, List.mem_map]
  constructor
  · rintro ⟨⟨k', v'⟩, he, heq⟩
    obtain ⟨rfl, rfl⟩ := Prod.mk.inj heq
    exact he
  · intro he
    exact ⟨⟨k, v⟩, he, rfl⟩

omit [DecidableEq κ] in
/-- The iteration meets every key once. -/
theorem nodup_keys_iter (m : DashMap κ ν) : (m.iter.map Prod.fst).Nodup := by
  have h : m.iter.map Prod.fst = m.keys := by
    simp only [iter, List.map_map, AList.keys, List.keys]
    rfl
  rw [h]
  exact m.keys_nodup

/-! ## Maps of maps -/

/-- Lookup through both levels. -/
def getIn (m : DashMap κ (DashMap κ' ν)) (k : κ) (k' : κ') : Option ν :=
  (m.get k).bind fun inner => inner.get k'

/-- Insert into the inner map of `k`, creating that map if it is missing. -/
def entryInsert (m : DashMap κ (DashMap κ' ν)) (k : κ) (k' : κ') (v : ν) :
    DashMap κ (DashMap κ' ν) :=
  m.put k (((m.get k).getD ∅).put k' v)

/-- Remove `k'` from the inner map of `k`, if there is one and the value passes. -/
def removeIfIn (m : DashMap κ (DashMap κ' ν)) (k : κ) (k' : κ') (p : ν → Bool) :
    DashMap κ (DashMap κ' ν) :=
  match m.get k with
  | some inner => m.put k (inner.removeIf k' p)
  | none => m

@[simp] theorem getIn_empty (k : κ) (k' : κ') :
    getIn (∅ : DashMap κ (DashMap κ' ν)) k k' = none := rfl

@[simp] theorem getIn_entryInsert_self (m : DashMap κ (DashMap κ' ν)) (k : κ) (k' : κ') (v : ν) :
    (m.entryInsert k k' v).getIn k k' = some v := by
  simp [getIn, entryInsert]

theorem getIn_entryInsert_of_ne (m : DashMap κ (DashMap κ' ν)) {k j : κ} {k' j' : κ'} (v : ν)
    (h : ¬(j = k ∧ j' = k')) : (m.entryInsert k k' v).getIn j j' = m.getIn j j' := by
  unfold getIn entryInsert
  by_cases hj : j = k
  · subst hj
    have hj' : j' ≠ k' := fun h' => h ⟨rfl, h'⟩
    rw [get_put_self]
    cases hm : m.get j with
    | none => simp [get_put_of_ne _ v hj']
    | some inner => simp [get_put_of_ne _ v hj']
  · rw [get_put_of_ne _ _ hj]

theorem getIn_entryInsert (m : DashMap κ (DashMap κ' ν)) (k j : κ) (k' j' : κ') (v : ν) :
    (m.entryInsert k k' v).getIn j j' = if j = k ∧ j' = k' then some v else m.getIn j j' := by
  split
  · next h =>
      obtain ⟨rfl, rfl⟩ := h
      exact getIn_entryInsert_self m j j' v
  · next h => exact getIn_entryInsert_of_ne m v h

theorem getIn_removeIfIn_of_ne (m : DashMap κ (DashMap κ' ν)) {k j : κ} {k' j' : κ'}
    (p : ν → Bool) (h : ¬(j = k ∧ j' = k')) :
    (m.removeIfIn k k' p).getIn j j' = m.getIn j j' := by
  unfold removeIfIn
  cases hk : m.get k with
  | none => rfl
  | some inner =>
      simp only [getIn]
      by_cases hj : j = k
      · subst hj
        have hj' : j' ≠ k' := fun h' => h ⟨rfl, h'⟩
        simp [hk, get_removeIf_of_ne _ p hj']
      · rw [get_put_of_ne _ _ hj]

@[simp] theorem getIn_removeIfIn_self (m : DashMap κ (DashMap κ' ν)) (k : κ) (k' : κ')
    (p : ν → Bool) :
    (m.removeIfIn k k' p).getIn k k' = (m.getIn k k').filter fun v => !p v := by
  unfold removeIfIn
  cases hk : m.get k with
  | none => simp [getIn, hk]
  | some inner => simp [getIn, hk]

theorem getIn_removeIfIn (m : DashMap κ (DashMap κ' ν)) (k j : κ) (k' j' : κ') (p : ν → Bool) :
    (m.removeIfIn k k' p).getIn j j' =
      if j = k ∧ j' = k' then (m.getIn j j').filter fun v => !p v else m.getIn j j' := by
  split
  · next h =>
      obtain ⟨rfl, rfl⟩ := h
      exact getIn_removeIfIn_self m j j' p
  · next h => exact getIn_removeIfIn_of_ne m p h

end DashMap
