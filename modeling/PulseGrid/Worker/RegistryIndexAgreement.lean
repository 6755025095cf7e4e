/-
  PulseGrid.Worker.RegistryIndexAgreement

  When do the two indexes of the connection registry agree after concurrent
  `register` and `deregister` calls?

  The argument is about one device at a time.  `DeviceInv` says what its entry in
  `by_device`, its entries in the shard indexes and the calls in progress have to
  do with each other; each map operation keeps it, provided a call looks for the
  shard index of the connection it replaced only after that connection is in it.
  When no call is in progress `DeviceInv` is the agreement of the two indexes.
-/

import PulseGrid.Worker.RegistryInterleaving
import PulseGrid.Worker.RegistryLemmas

namespace PulseGrid.Worker
namespace Interleaved

variable {D S L P : Type*}

-- ============================================================================
-- One device
-- ============================================================================

/-- What holds of one device between any two map operations.  `dev` is its entry
    in `by_device`, `slot sh` its entry in the index of shard `sh`; `fresh`,
    `pend`, `early` and `late` are the connections that calls in progress have
    built, have to put into a shard index, have replaced (`early c p`: `c`
    replaced `p`), and have to take out of a shard index. -/
structure DeviceInv (dev : Option Nat) (slot : S → Option Nat) (shardAt : Nat → Option S)
    (len : Nat) (fresh pend : Nat → Prop) (early : Nat → Nat → Prop) (late : Nat → Prop) :
    Prop where
  dev_lt : ∀ a, dev = some a → a < len
  fresh_lt : ∀ a, fresh a → a < len
  pend_lt : ∀ a, pend a → a < len
  early_lt : ∀ c p, early c p → p < len
  late_lt : ∀ p, late p → p < len
  fresh_dev : ∀ a, fresh a → dev ≠ some a
  fresh_pend : ∀ a, fresh a → ¬pend a
  fresh_early : ∀ a c, fresh a → ¬early c a
  fresh_late : ∀ a, fresh a → ¬late a
  early_pend : ∀ c p, early c p → pend c
  slot_shard : ∀ sh a, slot sh = some a → shardAt a = some sh
  slot_dev : ∀ sh a, slot sh = some a → dev = some a ∨ late a ∨ ∃ c, early c a
  dev_slot : ∀ a, dev = some a → (∃ sh, slot sh = some a) ∨ pend a
  early_dev : ∀ c p, early c p → dev ≠ some p
  late_dev : ∀ p, late p → dev ≠ some p
  late_pend : ∀ p, late p → ¬pend p
  -- a connection still to be put into its shard index is the current one, or the
  -- call that replaced it has not looked for it there
  order : ∀ a, pend a → dev = some a ∨ ∃ c, early c a
  -- replacement is well founded among the calls in progress
  rank : ∃ (rank : Nat → Nat) (bound : Nat), (∀ c p, early c p → rank p < rank c) ∧
    (∀ a, pend a → rank a < bound) ∧ ∀ a, dev = some a → rank a < bound

namespace DeviceInv

variable {dev : Option Nat} {slot : S → Option Nat} {shardAt : Nat → Option S} {len : Nat}
    {fresh pend : Nat → Prop} {early : Nat → Nat → Prop} {late : Nat → Prop}

/-- Follow the replacements from a connection still to be put into its shard
    index: they end at the current connection, whose own call is in progress. -/
theorem current_early (h : DeviceInv dev slot shardAt len fresh pend early late) {a : Nat}
    (ha : pend a) (hdev : dev ≠ some a) : ∃ c p, dev = some c ∧ early c p := by
  obtain ⟨rank, bound, hearly, hpend, -⟩ := h.rank
  -- on the distance of the rank of `a` from the bound
  induction hn : bound - rank a using Nat.strong_induction_on generalizing a with
  | _ n ih =>
    obtain hcur | ⟨c, hc⟩ := h.order a ha
    · exact absurd hcur hdev
    · by_cases hcd : dev = some c
      · exact ⟨c, a, hcd, hc⟩
      · have hpc := h.early_pend c a hc
        have h1 := hearly c a hc
        have h2 := hpend c hpc
        exact ih (bound - rank c) (by omega) hpc hcd rfl

theorem alloc (h : DeviceInv dev slot shardAt len fresh pend early late)
    {shardAt' : Nat → Option S} (fresh' : Nat → Prop)
    (hshard : ∀ a, a < len → shardAt' a = shardAt a)
    (hfresh : ∀ a, fresh' a → fresh a ∨ a = len) :
    DeviceInv dev slot shardAt' (len + 1) fresh' pend early late := by
  obtain ⟨h1, h2, h3, h4, h5, h6, h7, h8, h9, h10, h11, h12, h13, h14, h15, h16, h17, h18⟩ := h
  constructor
  case rank => exact h18
  all_goals grind

/-- The invariant depends only on the values of its parameters, and still holds
    when fewer connections are fresh. -/
theorem congr (h : DeviceInv dev slot shardAt len fresh pend early late)
    {dev' : Option Nat} {slot' : S → Option Nat} {shardAt' : Nat → Option S} {len' : Nat}
    {fresh' pend' : Nat → Prop} {early' : Nat → Nat → Prop} {late' : Nat → Prop}
    (hdev : dev' = dev) (hslot : ∀ sh, slot' sh = slot sh)
    (hshard : ∀ a, shardAt' a = shardAt a) (hlen : len' = len)
    (hfresh : ∀ a, fresh' a → fresh a) (hpend : ∀ a, pend' a ↔ pend a)
    (hearly : ∀ c p, early' c p ↔ early c p) (hlate : ∀ p, late' p ↔ late p) :
    DeviceInv dev' slot' shardAt' len' fresh' pend' early' late' := by
  obtain rfl : slot' = slot := funext hslot
  obtain rfl : shardAt' = shardAt := funext hshard
  obtain rfl : pend' = pend := funext fun a => propext (hpend a)
  obtain rfl : early' = early := funext fun c => funext fun p => propext (hearly c p)
  obtain rfl : late' = late := funext fun p => propext (hlate p)
  subst hdev hlen
  obtain ⟨h1, h2, h3, h4, h5, h6, h7, h8, h9, h10, h11, h12, h13, h14, h15, h16, h17, h18⟩ := h
  constructor
  case rank => exact h18
  all_goals grind

theorem insertDevice (h : DeviceInv dev slot shardAt len fresh pend early late) {a : Nat}
    (ha : fresh a) (fresh' pend' : Nat → Prop) (early' : Nat → Nat → Prop)
    (hfresh : ∀ x, fresh' x → fresh x ∧ x ≠ a) (hpend : ∀ x, pend' x ↔ pend x ∨ x = a)
    (hearly : ∀ c p, early' c p ↔ early c p ∨ c = a ∧ dev = some p) :
    DeviceInv (some a) slot shardAt len fresh' pend' early' late := by
  obtain ⟨h1, h2, h3, h4, h5, h6, h7, h8, h9, h10, h11, h12, h13, h14, h15, h16, h17, h18⟩ := h
  constructor
  case rank =>
    obtain ⟨rank, bound, hr1, hr2, hr3⟩ := h18
    refine ⟨Function.update rank a bound, bound + 1, ?_, ?_, ?_⟩
    · intro c p hcp
      obtain hcp | ⟨rfl, hp⟩ := (hearly c p).1 hcp
      · have hc : c ≠ a := fun hc => h7 a ha (hc ▸ h10 c p hcp)
        have hp : p ≠ a := fun hp => h8 a c ha (hp ▸ hcp)
        simpa [Function.update_of_ne, hc, hp] using hr1 c p hcp
      · have hpc : p ≠ c := fun hpc => h6 c ha (hpc ▸ hp)
        simpa [Function.update_of_ne, hpc] using hr3 p hp
    · intro x hx
      obtain hx | rfl := (hpend x).1 hx
      · have hxa : x ≠ a := fun hxa => h7 a ha (hxa ▸ hx)
        have := hr2 x hx
        simp only [Function.update_of_ne hxa]
        omega
      · simp
    · intro x hx
      obtain rfl : a = x := by simpa using hx
      simp
  case slot_dev =>
    intro sh x hx
    obtain hd | hl | ⟨c, hc⟩ := h12 sh x hx
    · exact .inr (.inr ⟨a, (hearly a x).2 (.inr ⟨rfl, hd⟩)⟩)
    · exact .inr (.inl hl)
    · exact .inr (.inr ⟨c, (hearly c x).2 (.inl hc)⟩)
  case order =>
    intro x hx
    obtain hx | rfl := (hpend x).1 hx
    · obtain hd | ⟨c, hc⟩ := h17 x hx
      · exact .inr ⟨a, (hearly a x).2 (.inr ⟨rfl, hd⟩)⟩
      · exact .inr ⟨c, (hearly c x).2 (.inl hc)⟩
    · exact .inl rfl
  all_goals grind

theorem getShard (h : DeviceInv dev slot shardAt len fresh pend early late) {c p : Nat}
    (hcp : early c p) (hp : ¬pend p) (early' : Nat → Nat → Prop) (late' : Nat → Prop)
    (hearly : ∀ x y, early' x y → early x y)
    (hearly' : ∀ x y, early x y → early' x y ∨ y = p)
    (hlate : ∀ x, late' x → late x ∨ x = p) (hlate' : ∀ x, late x → late' x)
    (hnone : late' p ∨ ∀ sh, slot sh ≠ some p) :
    DeviceInv dev slot shardAt len fresh pend early' late' := by
  obtain ⟨h1, h2, h3, h4, h5, h6, h7, h8, h9, h10, h11, h12, h13, h14, h15, h16, h17, h18⟩ := h
  constructor
  case rank =>
    obtain ⟨rank, bound, hr1, hr2, hr3⟩ := h18
    exact ⟨rank, bound, fun x y hxy => hr1 x y (hearly x y hxy), hr2, hr3⟩
  all_goals grind

theorem removeIf [DecidableEq S] (h : DeviceInv dev slot shardAt len fresh pend early late)
    {p : Nat} (hp : late p) (slot' : S → Option Nat) (late' : Nat → Prop)
    (hslot : ∀ sh, slot' sh = if shardAt p = some sh ∧ slot sh = some p then none else slot sh)
    (hlate : ∀ x, late' x → late x) (hlate' : ∀ x, late x → late' x ∨ x = p) :
    DeviceInv dev slot' shardAt len fresh pend early late' := by
  obtain ⟨h1, h2, h3, h4, h5, h6, h7, h8, h9, h10, h11, h12, h13, h14, h15, h16, h17, h18⟩ := h
  constructor
  case rank => exact h18
  all_goals grind

/-- A `deregister` that finds no index for the shard of the connection. -/
theorem deregNone (h : DeviceInv dev slot shardAt len fresh pend early late) {p : Nat}
    (late' : Nat → Prop) (hnone : ∀ sh, slot sh ≠ some p)
    (hlate : ∀ x, late' x → late x) (hlate' : ∀ x, late x → late' x ∨ x = p) :
    DeviceInv dev slot shardAt len fresh pend early late' := by
  obtain ⟨h1, h2, h3, h4, h5, h6, h7, h8, h9, h10, h11, h12, h13, h14, h15, h16, h17, h18⟩ := h
  constructor
  case rank => exact h18
  all_goals grind

theorem insertShard [DecidableEq S]
    (h : DeviceInv dev slot shardAt len fresh pend early late) {a : Nat} {sh : S}
    (ha : pend a) (hsh : shardAt a = some sh) (slot' : S → Option Nat) (pend' : Nat → Prop)
    (hslot : ∀ sh', slot' sh' = if sh' = sh then some a else slot sh')
    (hpend : ∀ x, pend' x → pend x) (hpend' : ∀ x, pend x → pend' x ∨ x = a)
    (hearly : ∀ c p, early c p → pend' c) :
    DeviceInv dev slot' shardAt len fresh pend' early late := by
  -- the slot that is overwritten holds no connection that is to stay there
  have hover : ∀ x, dev = some x → x ≠ a → pend x ∨ slot sh ≠ some x := by
    intro x hx hxa
    left
    obtain ⟨c, p, hc, hcp⟩ := h.current_early ha (by simpa [hx] using hxa)
    obtain rfl : c = x := by simpa [hc] using hx
    exact h.early_pend c p hcp
  obtain ⟨h1, h2, h3, h4, h5, h6, h7, h8, h9, h10, h11, h12, h13, h14, h15, h16, h17, h18⟩ := h
  constructor
  case rank =>
    obtain ⟨rank, bound, hr1, hr2, hr3⟩ := h18
    exact ⟨rank, bound, hr1, fun x hx => hr2 x (hpend x hx), hr3⟩
  all_goals grind

theorem removeDevice (h : DeviceInv dev slot shardAt len fresh pend early late) {a : Nat}
    (ha : dev = some a) (hpa : ¬pend a) (late' : Nat → Prop)
    (hlate : ∀ x, late' x ↔ late x ∨ x = a) :
    DeviceInv none slot shardAt len fresh pend early late' := by
  obtain ⟨h1, h2, h3, h4, h5, h6, h7, h8, h9, h10, h11, h12, h13, h14, h15, h16, h17, h18⟩ := h
  constructor
  case rank =>
    obtain ⟨rank, bound, hr1, hr2, hr3⟩ := h18
    exact ⟨rank, bound, hr1, hr2, by simp⟩
  all_goals grind

/-- With no call in progress the two indexes agree on the device. -/
theorem agree (h : DeviceInv dev slot shardAt len fresh pend early late)
    (hpend : ∀ a, ¬pend a) (hlate : ∀ p, ¬late p) (sh : S) (a : Nat) :
    slot sh = some a ↔ dev = some a ∧ shardAt a = some sh := by
  constructor
  · intro hs
    obtain hd | hl | ⟨c, hc⟩ := h.slot_dev sh a hs
    · exact ⟨hd, h.slot_shard sh a hs⟩
    · exact absurd hl (hlate a)
    · exact absurd (h.early_pend c a hc) (hpend c)
  · rintro ⟨hd, hsh⟩
    obtain ⟨sh', hs⟩ | hp := h.dev_slot a hd
    · have hsh' := h.slot_shard sh' a hs
      rw [hsh] at hsh'
      obtain rfl : sh = sh' := by simpa using hsh'
      exact hs
    · exact absurd hp (hpend a)

end DeviceInv

end Interleaved
end PulseGrid.Worker
