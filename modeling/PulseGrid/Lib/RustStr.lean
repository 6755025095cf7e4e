/-
  PulseGrid.Lib.RustStr

  The string functions of the Rust standard library that configuration and encoding
  code uses, on texts as lists of Unicode scalar values.
-/

import PulseGrid.Lib.FixedWidth

namespace RustStr

/-- The test for equal texts, found at once wherever texts are looked up in lists. -/
instance lawfulBEqText : LawfulBEq (List Char) := List.instLawfulBEq

-- ============================================================================
-- Splitting
-- ============================================================================

/-- `str::split_once`: the texts before and after the first `sep`. -/
def splitOnce (sep : Char) : List Char → Option (List Char × List Char)
  | [] => none
  | c :: s =>
      if c = sep then some ([], s)
      else (splitOnce sep s).map fun (before, after) => (c :: before, after)

/-- What precedes the first separator has none; the rest is arbitrary. -/
theorem splitOnce_append {sep : Char} {before : List Char} (h : sep ∉ before)
    (after : List Char) : splitOnce sep (before ++ sep :: after) = some (before, after) := by
  induction before with
  | nil => simp [splitOnce]
  | cons c before ih =>
      have hc : c ≠ sep := fun heq => h (heq ▸ List.mem_cons_self)
      have hrest : sep ∉ before := fun hmem => h (List.mem_cons_of_mem _ hmem)
      rw [List.cons_append, splitOnce, if_neg hc, ih hrest]
      rfl

theorem splitOnce_eq_none {sep : Char} {s : List Char} (h : sep ∉ s) :
    splitOnce sep s = none := by
  induction s with
  | nil => rfl
  | cons c s ih =>
      have hc : c ≠ sep := fun heq => h (heq ▸ List.mem_cons_self)
      rw [splitOnce, if_neg hc, ih fun hmem => h (List.mem_cons_of_mem _ hmem)]
      rfl

theorem eq_of_splitOnce_eq_some {sep : Char} {s before after : List Char}
    (h : splitOnce sep s = some (before, after)) : s = before ++ sep :: after := by
  induction s generalizing before with
  | nil => cases h
  | cons c s ih =>
      rw [splitOnce] at h
      split at h
      · next hc =>
          obtain ⟨rfl, rfl⟩ := Prod.mk.inj (Option.some.inj h)
          rw [hc, List.nil_append]
      · obtain ⟨⟨b, a⟩, hrest, heq⟩ := Option.map_eq_some_iff.mp h
        obtain ⟨rfl, rfl⟩ := Prod.mk.inj heq
        rw [ih hrest, List.cons_append]

/-- The parts of a split text hold no separator. -/
theorem notMem_of_mem_splitOn {sep : Char} {s part : List Char} (h : part ∈ s.splitOn sep) :
    sep ∉ part := by
  induction s generalizing part with
  | nil =>
      rw [List.splitOn_nil, List.mem_singleton] at h
      simp [h]
  | cons c s ih =>
      rw [List.splitOn_cons_eq_if_modifyHead] at h
      split at h
      · rcases List.mem_cons.mp h with rfl | h
        · simp
        · exact ih h
      · next hc =>
          have hc : c ≠ sep := by simpa using hc
          obtain ⟨first, rest, hsplit⟩ :=
            List.exists_cons_of_ne_nil (List.splitOn_ne_nil sep s)
          rw [hsplit, List.modifyHead_cons] at h
          rcases List.mem_cons.mp h with rfl | h
          · have hfirst : sep ∉ first := ih (hsplit ▸ List.mem_cons_self)
            rw [List.mem_cons]
            exact not_or.mpr ⟨hc.symm, hfirst⟩
          · exact ih (hsplit ▸ List.mem_cons_of_mem _ h)

-- ============================================================================
-- White space
-- ============================================================================

/-- `char::is_whitespace`: the Unicode property `White_Space`. -/
def isWhitespace (c : Char) : Bool :=
  let n := c.toNat
  (0x09 ≤ n && n ≤ 0x0D) || n = 0x20 || n = 0x85 || n = 0xA0 || n = 0x1680 ||
    (0x2000 ≤ n && n ≤ 0x200A) || n = 0x2028 || n = 0x2029 || n = 0x202F || n = 0x205F ||
    n = 0x3000

/-- `str::trim`. -/
def trim (s : List Char) : List Char := (s.dropWhile isWhitespace).rdropWhile isWhitespace

theorem trim_sublist (s : List Char) : (trim s).Sublist s := by
  have hstart : trim s <+: s.dropWhile isWhitespace := List.rdropWhile_prefix _ _
  exact hstart.sublist.trans (List.dropWhile_sublist _)

theorem head?_trim {s : List Char} {c : Char} (h : (trim s).head? = some c) :
    isWhitespace c = false := by
  have hstart : trim s <+: s.dropWhile isWhitespace := List.rdropWhile_prefix _ _
  obtain ⟨rest, hrest⟩ := hstart
  have hhead : (s.dropWhile isWhitespace).head? = some c := by
    rw [← hrest, List.head?_append, h]
    rfl
  have := List.head?_dropWhile_not isWhitespace s
  rw [hhead] at this
  exact this

theorem getLast?_trim {s : List Char} {c : Char} (h : (trim s).getLast? = some c) :
    isWhitespace c = false := by
  have hne : (s.dropWhile isWhitespace).rdropWhile isWhitespace ≠ [] := by
    intro hnil
    rw [trim, hnil] at h
    cases h
  have hlast := List.rdropWhile_last_not isWhitespace (s.dropWhile isWhitespace) hne
  rw [trim, List.getLast?_eq_some_getLast hne, Option.some.injEq] at h
  rw [h] at hlast
  simpa using hlast

/-- A text without white space at its ends is its own trim. -/
theorem trim_eq_self {s : List Char} (hhead : ∀ c, s.head? = some c → isWhitespace c = false)
    (hlast : ∀ c, s.getLast? = some c → isWhitespace c = false) : trim s = s := by
  have hdrop : s.dropWhile isWhitespace = s := by
    cases s with
    | nil => rfl
    | cons c s => rw [List.dropWhile_cons_of_neg (by simpa using hhead c rfl)]
  rw [trim, hdrop, List.rdropWhile_eq_self_iff]
  intro hne
  have := hlast _ (List.getLast?_eq_some_getLast hne)
  simpa using this

@[simp] theorem trim_trim (s : List Char) : trim (trim s) = trim s :=
  trim_eq_self (fun _ => head?_trim) (fun _ => getLast?_trim)

theorem trim_eq_nil_iff {s : List Char} : trim s = [] ↔ ∀ c ∈ s, isWhitespace c = true := by
  constructor
  · intro h
    rw [trim, List.rdropWhile_eq_nil_iff] at h
    have hnil : s.dropWhile isWhitespace = [] := by
      by_contra hne
      obtain ⟨c, rest, hdrop⟩ := List.exists_cons_of_ne_nil hne
      have hhead := List.head?_dropWhile_not isWhitespace s
      rw [hdrop] at hhead
      have := h c (hdrop ▸ List.mem_cons_self)
      rw [show isWhitespace c = false from hhead] at this
      cases this
    exact List.dropWhile_eq_nil_iff.mp hnil
  · intro h
    rw [trim, List.dropWhile_eq_nil_iff.mpr h]
    rfl

-- ============================================================================
-- Letters and bytes
-- ============================================================================

/-- `str::replace` of a character. -/
def replace (c : Char) (replacement s : List Char) : List Char :=
  s.flatMap fun d => if d = c then replacement else [d]

/-- `str::to_ascii_lowercase`; `Char.toLower` changes ASCII letters only. -/
def toAsciiLowercase (s : List Char) : List Char := s.map Char.toLower

/-- `str::as_bytes`. -/
def asBytes (s : List Char) : List UInt8 := s.flatMap String.utf8EncodeChar

/-- `str::len`. -/
def byteLen (s : List Char) : Nat := (asBytes s).length

theorem asBytes_inj {s t : List Char} : asBytes s = asBytes t ↔ s = t := by
  constructor
  · intro h
    have hbytes : s.utf8Encode = t.utf8Encode := by
      rw [List.utf8Encode, List.utf8Encode]
      exact congrArg List.toByteArray h
    have hdecode := congrArg ByteArray.utf8Decode? hbytes
    rw [List.utf8Decode?_utf8Encode, List.utf8Decode?_utf8Encode] at hdecode
    simpa using hdecode
  · rintro rfl
    rfl

-- ============================================================================
-- Integers
-- ============================================================================

/-- One or more ASCII digits. -/
def parseDigits (s : List Char) : Option Nat :=
  if s.isEmpty || !s.all Char.isDigit then none else some (FixedWidth.number s)

/-- `str::parse` to an unsigned integer of the given width: an optional `+` and digits. -/
def parseUnsigned (bits : Nat) (s : List Char) : Option Nat :=
  let digits := match s with
    | '+' :: rest => rest
    | _ => s
  (parseDigits digits).filter fun n => n < 2 ^ bits

/-- `str::parse` to a signed integer of the given width: an optional sign and digits. -/
def parseSigned (bits : Nat) (s : List Char) : Option Int :=
  let value := match s with
    | '-' :: rest => (parseDigits rest).map fun n => -(n : Int)
    | '+' :: rest => (parseDigits rest).map Int.ofNat
    | _ => (parseDigits s).map Int.ofNat
  value.filter fun n => -2 ^ (bits - 1) ≤ n ∧ n < 2 ^ (bits - 1)

theorem parseUnsigned_lt {bits : Nat} {s : List Char} {n : Nat}
    (h : parseUnsigned bits s = some n) : n < 2 ^ bits := by
  simpa using (Option.filter_eq_some_iff.mp h).2

end RustStr
