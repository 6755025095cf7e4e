/-
  PulseGrid.Domain.ApiKeys

  Operator API keys and the strength of secrets (crates/domain/src/auth.rs).

  The loop over the entries of the list is summed up once (`collect_eq_ok_iff`: what it
  keeps, and when it gives up); what a set of keys accepts and when a list is refused
  are read off from it.
-/

import PulseGrid.Lib.RustStr

namespace PulseGrid

open RustStr

-- ============================================================================
-- Secrets
-- ============================================================================

/-- `MIN_PRODUCTION_SECRET_LEN`, in bytes. -/
def minProductionSecretLen : Nat := 32

/-- The value starts with `change-me`, in any ASCII case. -/
def startsWithChangeMe (value : List Char) : Bool :=
  "change-me".toList.isPrefixOf (toAsciiLowercase value)

def isPlaceholderSecret (value : List Char) : Bool :=
  let v := trim value
  v.isEmpty || startsWithChangeMe v

/-- `validate_secret_strength`, with the text of its `AppError::Config`. -/
def validateSecretStrength (name : String) (value : List Char) (production : Bool) :
    Except String Unit :=
  if (trim value).isEmpty then .error (name ++ " must not be empty")
  else if production then
    if isPlaceholderSecret value then
      .error (name ++ " is still a placeholder; run scripts/gen-secrets.ps1")
    else if byteLen value < minProductionSecretLen then
      .error (name ++ " must be at least " ++ toString minProductionSecretLen ++
        " characters in production")
    else .ok ()
  else .ok ()

/-- What production asks of a trimmed secret. -/
def StrongSecret (value : List Char) : Prop :=
  minProductionSecretLen ≤ byteLen value ∧ startsWithChangeMe value = false

instance (value : List Char) : Decidable (StrongSecret value) :=
  inferInstanceAs (Decidable (_ ∧ _))

/-- A secret that is not blank passes outside of production, and in production when it is
    strong. -/
theorem validateSecretStrength_eq_ok (name : String) (production : Bool) {value : List Char}
    (htrim : trim value = value) (hne : value ≠ []) :
    validateSecretStrength name value production = .ok () ↔
      (production = true → StrongSecret value) := by
  have hempty : value.isEmpty = false := by simpa using hne
  rw [validateSecretStrength, isPlaceholderSecret, htrim, hempty, Bool.false_or, StrongSecret,
    if_neg (by simp)]
  cases production with
  | false => simp
  | true =>
      rw [if_pos rfl]
      cases hplaceholder : startsWithChangeMe value with
      | true => simp
      | false =>
          rw [if_neg (by simp)]
          by_cases hlen : byteLen value < minProductionSecretLen
          · simp [hlen]
          · simp [hlen, Nat.le_of_not_lt hlen]

-- ============================================================================
-- Operator keys
-- ============================================================================

/-- `subtle::ConstantTimeEq` on byte slices. -/
structure ConstantTimeEq where
  ctEq : List UInt8 → List UInt8 → UInt8
  ctEq_eq : ∀ a b, ctEq a b = if a = b then 1 else 0

/-- The comparison byte list by byte list. -/
def ConstantTimeEq.bytes : ConstantTimeEq where
  ctEq a b := if a = b then 1 else 0
  ctEq_eq _ _ := rfl

structure ApiKeys where
  keys : List (List UInt8)
deriving DecidableEq, Repr

namespace ApiKeys

/-- The loop of `ApiKeys::from_csv`. -/
def collect (production : Bool) (keys : List (List UInt8)) :
    List (List Char) → Except String (List (List UInt8))
  | [] => .ok keys
  | raw :: entries =>
      let key := trim raw
      if key.isEmpty then collect production keys entries
      else do
        validateSecretStrength "OPERATOR_API_KEYS entry" key production
        collect production (keys ++ [asBytes key]) entries

def fromCsv (csv : List Char) (production : Bool) : Except String ApiKeys := do
  let keys ← collect production [] (csv.splitOn ',')
  if production && keys.isEmpty then
    .error "OPERATOR_API_KEYS must contain at least one key in production"
  else .ok ⟨keys⟩

/-- `ApiKeys::verify`: every key is compared, without an early exit. -/
def verify (ct : ConstantTimeEq) (self : ApiKeys) (presented : List Char) : Bool :=
  self.keys.foldl (fun matched key => matched ||| ct.ctEq key (asBytes presented)) 0 == 1

/-- The trimmed entries that are not blank. -/
def entriesOf (csv : List Char) : List (List Char) :=
  ((csv.splitOn ',').map trim).filter fun entry => entry ≠ []

theorem mem_entriesOf {csv entry : List Char} :
    entry ∈ entriesOf csv ↔ entry ≠ [] ∧ ∃ raw ∈ csv.splitOn ',', entry = trim raw := by
  simp only [entriesOf, List.mem_filter, List.mem_map, decide_eq_true_eq]
  constructor
  · rintro ⟨⟨raw, hraw, rfl⟩, hne⟩
    exact ⟨hne, raw, hraw, rfl⟩
  · rintro ⟨hne, raw, hraw, rfl⟩
    exact ⟨⟨raw, hraw, rfl⟩, hne⟩

/-- The loop keeps every entry that is not blank, and gives up at a weak one in
    production. -/
theorem collect_eq_ok_iff (production : Bool) (kept keys : List (List UInt8))
    (entries : List (List Char)) :
    collect production kept entries = .ok keys ↔
      (production = true → ∀ raw ∈ entries, trim raw ≠ [] → StrongSecret (trim raw)) ∧
      keys = kept ++ ((entries.map trim).filter fun entry => entry ≠ []).map asBytes := by
  induction entries generalizing kept with
  | nil =>
      simp only [collect, Except.ok.injEq, List.map_nil, List.filter_nil, List.append_nil]
      exact ⟨fun h => ⟨by simp, h.symm⟩, fun h => h.2.symm⟩
  | cons raw entries ih =>
      rw [collect, List.forall_mem_cons]
      by_cases hblank : trim raw = []
      · rw [if_pos (by simp [hblank]), ih]
        simp [hblank]
      · rw [if_neg (by simpa using hblank)]
        have hvalid := validateSecretStrength_eq_ok "OPERATOR_API_KEYS entry" production
          (trim_trim raw) hblank
        cases hcheck : validateSecretStrength "OPERATOR_API_KEYS entry" (trim raw) production with
        | error e =>
            rw [hcheck] at hvalid
            have hweak : ¬ (production = true → StrongSecret (trim raw)) := by
              rw [← hvalid]
              simp
            simp only [bind, Except.bind, reduceCtorEq, false_iff, not_and]
            intro hstrong
            exact absurd (fun hp => (hstrong hp).1 hblank) hweak
        | ok u =>
            rw [hcheck] at hvalid
            have hstrong := hvalid.mp rfl
            simp only [bind, Except.bind, ih]
            simp only [List.map_cons, ne_eq, hblank, not_false_eq_true, decide_true,
              List.filter_cons_of_pos, forall_const, List.append_assoc, List.singleton_append]
            constructor
            · rintro ⟨hrest, rfl⟩
              exact ⟨fun hp => ⟨hstrong hp, hrest hp⟩, rfl⟩
            · rintro ⟨hall, rfl⟩
              exact ⟨fun hp => (hall hp).2, rfl⟩

/-- A list is accepted in production when it names a key and all its keys are strong, and
    always outside of it. -/
theorem fromCsv_eq_ok_iff {csv : List Char} {production : Bool} {keys : ApiKeys} :
    fromCsv csv production = .ok keys ↔
      (production = true → entriesOf csv ≠ [] ∧ ∀ entry ∈ entriesOf csv, StrongSecret entry) ∧
      keys = ⟨(entriesOf csv).map asBytes⟩ := by
  have hentries : (∀ entry ∈ entriesOf csv, StrongSecret entry) ↔
      ∀ raw ∈ csv.splitOn ',', trim raw ≠ [] → StrongSecret (trim raw) := by
    simp only [mem_entriesOf]
    constructor
    · intro h raw hraw hne
      exact h _ ⟨hne, raw, hraw, rfl⟩
    · rintro h entry ⟨hne, raw, hraw, rfl⟩
      exact h raw hraw hne
  rw [hentries]
  have hcollect (kept : List (List UInt8)) :=
    collect_eq_ok_iff production [] kept (csv.splitOn ',')
  simp only [List.nil_append] at hcollect
  rw [fromCsv]
  cases hloop : collect production [] (csv.splitOn ',') with
  | error e =>
      rw [hloop] at hcollect
      have hweak : ¬ (production = true → ∀ raw ∈ csv.splitOn ',', trim raw ≠ [] →
          StrongSecret (trim raw)) := by
        intro h
        exact absurd ((hcollect _).mpr ⟨h, rfl⟩) (by simp)
      simp only [bind, Except.bind, reduceCtorEq, false_iff, not_and]
      intro h
      exact absurd (fun hp => (h hp).2) hweak
  | ok kept =>
      rw [hloop] at hcollect
      obtain ⟨hstrong, hkept⟩ := (hcollect kept).mp rfl
      have hempty : kept.isEmpty = true ↔ entriesOf csv = [] := by
        rw [hkept, List.isEmpty_iff, List.map_eq_nil_iff, entriesOf]
      simp only [bind, Except.bind]
      by_cases hnone : (production && kept.isEmpty) = true
      · rw [if_pos hnone]
        obtain ⟨hp, hblank⟩ := Bool.and_eq_true_iff.mp hnone
        simp only [reduceCtorEq, false_iff, not_and]
        intro h
        exact absurd (hempty.mp hblank) (h hp).1
      · rw [if_neg hnone, Except.ok.injEq]
        have hsome : production = true → entriesOf csv ≠ [] := by
          intro hp hnil
          exact hnone (by rw [hp, hempty.mpr hnil]; rfl)
        constructor
        · rintro rfl
          exact ⟨fun hp => ⟨hsome hp, hstrong hp⟩, by rw [hkept, entriesOf]⟩
        · rintro ⟨-, rfl⟩
          rw [hkept, entriesOf]

/-- The accumulated comparisons have their lowest bit set once a key matched. -/
theorem foldl_ctEq (ct : ConstantTimeEq) (keys : List (List UInt8)) (presented : List UInt8)
    (matched : UInt8) :
    keys.foldl (fun matched key => matched ||| ct.ctEq key presented) matched =
      if presented ∈ keys then matched ||| 1 else matched := by
  induction keys generalizing matched with
  | nil => rfl
  | cons key keys ih =>
      rw [List.foldl_cons, ih, ct.ctEq_eq]
      by_cases hkey : key = presented
      · subst hkey
        simp [UInt8.or_assoc]
      · simp [hkey, Ne.symm hkey]

theorem verify_eq_true_iff {ct : ConstantTimeEq} {keys : ApiKeys} {presented : List Char} :
    verify ct keys presented = true ↔ asBytes presented ∈ keys.keys := by
  rw [verify, foldl_ctEq, UInt8.zero_or]
  split
  · next h => simp [h]
  · next h => simp [h]

/-- **Operator keys accept exactly what was configured.**  The keys of an accepted list verify
    a text when it is not empty and is the trimmed text of an entry; so the empty text, a text
    with a comma and a text with white space at an end never verify.  A list is refused when
    production is set and it has no entry that is not blank, or one that is short or a
    placeholder. -/
theorem fromCsv_verify (ct : ConstantTimeEq) (csv : List Char) (production : Bool)
    (presented : List Char) :
    (∀ keys, fromCsv csv production = .ok keys →
      (verify ct keys presented = true ↔
        presented ≠ [] ∧ ∃ raw ∈ csv.splitOn ',', presented = trim raw) ∧
      (presented = [] ∨ ',' ∈ presented ∨ (∃ c ∈ presented.head?, isWhitespace c = true) ∨
        (∃ c ∈ presented.getLast?, isWhitespace c = true) → verify ct keys presented = false)) ∧
    ((∃ e, fromCsv csv production = .error e) ↔
      production = true ∧ ((∀ raw ∈ csv.splitOn ',', trim raw = []) ∨
        ∃ raw ∈ csv.splitOn ',', trim raw ≠ [] ∧
          (byteLen (trim raw) < minProductionSecretLen ∨ startsWithChangeMe (trim raw) = true))) := by
  constructor
  · intro keys hkeys
    obtain ⟨-, rfl⟩ := fromCsv_eq_ok_iff.mp hkeys
    have hverify : verify ct ⟨(entriesOf csv).map asBytes⟩ presented = true ↔
        presented ≠ [] ∧ ∃ raw ∈ csv.splitOn ',', presented = trim raw := by
      rw [verify_eq_true_iff, List.mem_map, ← mem_entriesOf]
      simp only [asBytes_inj, exists_eq_right]
    refine ⟨hverify, fun hbad => ?_⟩
    rw [← Bool.not_eq_true, hverify]
    rintro ⟨hne, raw, hraw, rfl⟩
    rcases hbad with hnil | hcomma | ⟨c, hc, hspace⟩ | ⟨c, hc, hspace⟩
    · exact hne hnil
    · exact notMem_of_mem_splitOn hraw ((trim_sublist raw).subset hcomma)
    · rw [head?_trim hc] at hspace
      cases hspace
    · rw [getLast?_trim hc] at hspace
      cases hspace
  · have herror : (∃ e, fromCsv csv production = .error e) ↔
        ¬ (production = true → entriesOf csv ≠ [] ∧ ∀ entry ∈ entriesOf csv, StrongSecret entry) := by
      cases hresult : fromCsv csv production with
      | error e =>
          refine ⟨fun _ h => ?_, fun _ => ⟨e, rfl⟩⟩
          have := fromCsv_eq_ok_iff.mpr ⟨h, rfl⟩
          rw [hresult] at this
          cases this
      | ok keys =>
          obtain ⟨h, -⟩ := fromCsv_eq_ok_iff.mp hresult
          refine ⟨?_, fun hnot => absurd h hnot⟩
          rintro ⟨e, he⟩
          cases he
    have hblank : entriesOf csv = [] ↔ ∀ raw ∈ csv.splitOn ',', trim raw = [] := by
      simp [entriesOf]
    have hweak (entry : List Char) : ¬ StrongSecret entry ↔
        byteLen entry < minProductionSecretLen ∨ startsWithChangeMe entry = true := by
      rw [StrongSecret, not_and_or, Nat.not_le, Bool.not_eq_false]
    rw [herror, Classical.not_imp, not_and_or, not_not, hblank]
    simp only [not_forall, mem_entriesOf, hweak]
    refine and_congr_right fun _ => or_congr_right ?_
    constructor
    · rintro ⟨entry, ⟨hne, raw, hraw, rfl⟩, h⟩
      exact ⟨raw, hraw, hne, h⟩
    · rintro ⟨raw, hraw, hne, h⟩
      exact ⟨trim raw, ⟨hne, raw, hraw, rfl⟩, h⟩

/-- Two keys: one of them verifies, another text and a padded key do not, and in
    production the list is refused. -/
theorem fromCsv_verify_two_keys :
    ∃ keys, fromCsv " k1 ,,k2".toList false = .ok keys ∧
      verify .bytes keys "k2".toList = true ∧ verify .bytes keys "k3".toList = false ∧
      verify .bytes keys "k1 ".toList = false ∧
      ∃ e, fromCsv " k1 ,,k2".toList true = .error e := by
  have hkeys : fromCsv " k1 ,,k2".toList false =
      .ok ⟨["k1".toUTF8.toList, "k2".toUTF8.toList]⟩ := by decide +kernel
  have hverify (presented : List Char) :=
    (fromCsv_verify .bytes " k1 ,,k2".toList false presented).1 _ hkeys
  refine ⟨_, hkeys, ?_, ?_, ?_, ?_⟩
  · exact (hverify "k2".toList).1.mpr ⟨by decide, by decide +kernel⟩
  · rw [← Bool.not_eq_true, (hverify "k3".toList).1]
    decide +kernel
  · exact (hverify "k1 ".toList).2 (.inr (.inr (.inr ⟨' ', rfl, by decide +kernel⟩)))
  · exact (fromCsv_verify .bytes " k1 ,,k2".toList true []).2.mpr ⟨rfl, .inr ⟨" k1 ".toList,
      by decide +kernel, by decide +kernel, .inl (by decide +kernel)⟩⟩

end ApiKeys

end PulseGrid
