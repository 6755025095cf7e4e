/-
  PulseGrid.Infra.MetricsText

  The pieces of the metrics page are read back: names, escaped label values and help texts,
  integers and doubles.
-/

import PulseGrid.Infra.Metrics
import PulseGrid.Lib.ExpositionReading

namespace PulseGrid.Infra

open Exposition

-- ============================================================================
-- Names
-- ============================================================================

theorem isWord_of_validName {name : List Char} (h : validName name = true) :
    IsWord isNameStart isNameChar name := by
  cases name with
  | nil => cases h
  | cons c cs =>
      rw [validName, Bool.and_eq_true, List.all_eq_true] at h
      exact ⟨c, cs, rfl, h.1, h.2⟩

/-- A valid name is a label name when it has no colon. -/
theorem isWord_label {label : List Char} (h : validName label = true) (hcolon : ':' ∉ label) :
    IsWord isLabelStart isLabelChar label := by
  obtain ⟨c, cs, rfl, hc, hcs⟩ := isWord_of_validName h
  obtain ⟨hne, hcolon⟩ := List.ne_and_not_mem_of_not_mem_cons hcolon
  refine ⟨c, cs, rfl, ?_, ?_⟩
  · simpa [isNameStart, isLabelStart, hne.symm] using hc
  · intro d hd
    have hne : d ≠ ':' := fun heq => hcolon (heq ▸ hd)
    simpa [isNameChar, isLabelChar, hne] using hcs d hd

theorem isNameChar_of_mem {name : List Char} (h : validName name = true) {c : Char}
    (hc : c ∈ name) : isNameChar c = true := by
  obtain ⟨d, cs, rfl, hd, hcs⟩ := isWord_of_validName h
  rcases List.mem_cons.mp hc with rfl | hc
  · have hstart : ∀ c, isNameStart c = true → isNameChar c = true := by
      intro c hc
      rw [isNameStart, Bool.or_eq_true, Bool.or_eq_true] at hc
      rw [isNameChar, Bool.or_eq_true, Bool.or_eq_true, Char.isAlphanum, Bool.or_eq_true]
      tauto
    exact hstart c hd
  · exact hcs c hc

/-- A name with a suffix of name characters. -/
theorem isWord_append {name suffix : List Char} (h : validName name = true)
    (hsuffix : suffix.all isNameChar = true) :
    IsWord isNameStart isNameChar (name ++ suffix) := by
  obtain ⟨c, cs, rfl, hc, hcs⟩ := isWord_of_validName h
  refine ⟨c, cs ++ suffix, rfl, hc, ?_⟩
  intro d hd
  rcases List.mem_append.mp hd with hd | hd
  · exact hcs d hd
  · exact List.all_eq_true.mp hsuffix d hd

-- ============================================================================
-- Escapes
-- ============================================================================

theorem replace_cons (c : Char) (replacement : List Char) (d : Char) (s : List Char) :
    RustStr.replace c replacement (d :: s) =
      (if d = c then replacement else [d]) ++ RustStr.replace c replacement s := rfl

theorem replace_append (c : Char) (replacement s t : List Char) :
    RustStr.replace c replacement (s ++ t) =
      RustStr.replace c replacement s ++ RustStr.replace c replacement t :=
  List.flatMap_append

theorem notMem_replace {c : Char} {replacement : List Char} (h : c ∉ replacement)
    (s : List Char) : c ∉ RustStr.replace c replacement s := by
  intro hmem
  obtain ⟨d, -, hd⟩ := List.mem_flatMap.mp hmem
  split at hd
  · exact h hd
  · next hne => exact hne (List.mem_singleton.mp hd).symm

/-- What the three replacements make of one character. -/
def escapedChar (c : Char) : List Char :=
  if c = '\\' then ['\\', '\\'] else if c = '"' then ['\\', '"']
  else if c = '\n' then ['\\', 'n'] else [c]

def escapedHelpChar (c : Char) : List Char :=
  if c = '\\' then ['\\', '\\'] else if c = '\n' then ['\\', 'n'] else [c]

/-- The first replacement does not touch what the later ones look for, so the three of them
    work character by character. -/
theorem escapeLabelValue_eq (v : List Char) : escapeLabelValue v = v.flatMap escapedChar := by
  induction v with
  | nil => rfl
  | cons c v ih =>
      rw [List.flatMap_cons, ← ih, escapeLabelValue, replace_cons, replace_append, replace_append,
        ← escapeLabelValue]
      congr 1
      rw [escapedChar]
      by_cases hslash : c = '\\'
      · subst hslash
        rfl
      · by_cases hquote : c = '"'
        · subst hquote
          rfl
        · by_cases hnewline : c = '\n'
          · subst hnewline
            rfl
          · simp [RustStr.replace, hslash, hquote, hnewline]

theorem escapeHelp_eq (v : List Char) : escapeHelp v = v.flatMap escapedHelpChar := by
  induction v with
  | nil => rfl
  | cons c v ih =>
      rw [List.flatMap_cons, ← ih, escapeHelp, replace_cons, replace_append, ← escapeHelp]
      congr 1
      rw [escapedHelpChar]
      by_cases hslash : c = '\\'
      · subst hslash
        rfl
      · by_cases hnewline : c = '\n'
        · subst hnewline
          rfl
        · simp [RustStr.replace, hslash, hnewline]

/-- A character that needs no escape is read as it stands. -/
theorem readLabelValue_cons {c : Char} (hquote : c ≠ '"') (hslash : c ≠ '\\') (hnewline : c ≠ '\n')
    (s : List Char) : readLabelValue (c :: s) = (readLabelValue s).map fun r => (c :: r.1, r.2) := by
  cases s with
  | nil => simp [readLabelValue, hslash, hnewline]
  | cons d s => simp [readLabelValue, hslash, hnewline]

/-- An escape is read as the character it stands for. -/
theorem readLabelValue_escape {c : Char} (hc : c = '\\' ∨ c = '"' ∨ c = 'n') (s : List Char) :
    readLabelValue ('\\' :: c :: s) =
      (readLabelValue s).map fun r => ((if c = 'n' then '\n' else c) :: r.1, r.2) := by
  rw [readLabelValue, if_pos hc]

theorem unescapeHelp_escape {c : Char} (hc : c = '\\' ∨ c = 'n') (s : List Char) :
    unescapeHelp ('\\' :: c :: s) =
      (unescapeHelp s).map fun r => (if c = 'n' then '\n' else c) :: r := by
  rw [unescapeHelp, if_pos hc]

theorem unescapeHelp_cons {c : Char} (hslash : c ≠ '\\') (s : List Char) :
    unescapeHelp (c :: s) = (unescapeHelp s).map fun r => c :: r := by
  cases s with
  | nil => simp [unescapeHelp, hslash]
  | cons d s => simp [unescapeHelp, hslash]

/-- **An escaped label value is read back**, whatever follows its quote. -/
theorem readLabelValue_escapeLabelValue (v s : List Char) :
    readLabelValue (escapeLabelValue v ++ '"' :: s) = some (v, s) := by
  rw [escapeLabelValue_eq]
  induction v with
  | nil => rfl
  | cons c v ih =>
      rw [List.flatMap_cons, List.append_assoc, escapedChar]
      by_cases hslash : c = '\\'
      · subst hslash
        show readLabelValue ('\\' :: '\\' :: (v.flatMap escapedChar ++ '"' :: s)) = _
        rw [readLabelValue_escape (by decide), ih]
        rfl
      · by_cases hquote : c = '"'
        · subst hquote
          show readLabelValue ('\\' :: '"' :: (v.flatMap escapedChar ++ '"' :: s)) = _
          rw [readLabelValue_escape (by decide), ih]
          rfl
        · by_cases hnewline : c = '\n'
          · subst hnewline
            show readLabelValue ('\\' :: 'n' :: (v.flatMap escapedChar ++ '"' :: s)) = _
            rw [readLabelValue_escape (by decide), ih]
            rfl
          · rw [if_neg hslash, if_neg hquote, if_neg hnewline, List.singleton_append,
              readLabelValue_cons hquote hslash hnewline, ih]
            rfl

/-- A text that needs no escape is read as it stands. -/
theorem readLabelValue_verbatim {v : List Char}
    (hv : ∀ c ∈ v, c ≠ '"' ∧ c ≠ '\\' ∧ c ≠ '\n') (s : List Char) :
    readLabelValue (v ++ '"' :: s) = some (v, s) := by
  induction v with
  | nil => rfl
  | cons c v ih =>
      obtain ⟨hquote, hslash, hnewline⟩ := hv c List.mem_cons_self
      rw [List.cons_append, readLabelValue_cons hquote hslash hnewline,
        ih fun d hd => hv d (List.mem_cons_of_mem _ hd)]
      rfl

theorem unescapeHelp_escapeHelp (v : List Char) : unescapeHelp (escapeHelp v) = some v := by
  rw [escapeHelp_eq]
  induction v with
  | nil => rfl
  | cons c v ih =>
      rw [List.flatMap_cons, escapedHelpChar]
      by_cases hslash : c = '\\'
      · subst hslash
        show unescapeHelp ('\\' :: '\\' :: v.flatMap escapedHelpChar) = _
        rw [unescapeHelp_escape (by decide), ih]
        rfl
      · by_cases hnewline : c = '\n'
        · subst hnewline
          show unescapeHelp ('\\' :: 'n' :: v.flatMap escapedHelpChar) = _
          rw [unescapeHelp_escape (by decide), ih]
          rfl
        · rw [if_neg hslash, if_neg hnewline, List.singleton_append, unescapeHelp_cons hslash, ih]
          rfl

-- ============================================================================
-- Blanks around a help text
-- ============================================================================

/-- Blanks stay blanks and nothing else becomes blank, or disappears. -/
structure KeepsBlanks (f : Char → List Char) : Prop where
  blank : ∀ c, isBlank c = true → f c = [c]
  other : ∀ c, isBlank c = false → f c ≠ [] ∧ ∀ d ∈ f c, isBlank d = false

theorem KeepsBlanks.reverse {f : Char → List Char} (hf : KeepsBlanks f) :
    KeepsBlanks (List.reverse ∘ f) where
  blank c hc := by rw [Function.comp_apply, hf.blank c hc, List.reverse_singleton]
  other c hc := by
    obtain ⟨hne, hall⟩ := hf.other c hc
    exact ⟨by simpa using hne, fun d hd => hall d (List.mem_reverse.mp hd)⟩

theorem dropWhile_flatMap {f : Char → List Char} (hf : KeepsBlanks f) (s : List Char) :
    (s.flatMap f).dropWhile isBlank = (s.dropWhile isBlank).flatMap f := by
  induction s with
  | nil => rfl
  | cons c s ih =>
      cases hblank : isBlank c with
      | true =>
          rw [List.flatMap_cons, hf.blank c hblank, List.singleton_append,
            List.dropWhile_cons_of_pos hblank, List.dropWhile_cons_of_pos hblank, ih]
      | false =>
          obtain ⟨hne, hall⟩ := hf.other c hblank
          obtain ⟨d, t, hd⟩ := List.exists_cons_of_ne_nil hne
          have hstop : isBlank d = false := hall d (hd ▸ List.mem_cons_self)
          rw [List.dropWhile_cons_of_neg (by simp [hblank]), List.flatMap_cons, hd,
            List.cons_append, List.dropWhile_cons_of_neg (by simp [hstop])]

theorem trimBlanks_flatMap {f : Char → List Char} (hf : KeepsBlanks f) (s : List Char) :
    trimBlanks (s.flatMap f) = (trimBlanks s).flatMap f := by
  rw [trimBlanks, trimBlanks, skipBlanks, skipBlanks, dropWhile_flatMap hf, List.rdropWhile,
    List.rdropWhile, List.reverse_flatMap, dropWhile_flatMap hf.reverse, List.flatMap_reverse]

theorem keepsBlanks_escapedHelpChar : KeepsBlanks escapedHelpChar where
  blank c hc := by
    have hslash : c ≠ '\\' := by
      rintro rfl
      cases hc
    have hnewline : c ≠ '\n' := by
      rintro rfl
      cases hc
    rw [escapedHelpChar, if_neg hslash, if_neg hnewline]
  other c hc := by
    rw [escapedHelpChar]
    split
    · simp [isBlank]
    · split
      · simp [isBlank]
      · exact ⟨List.cons_ne_nil _ _, by simpa using hc⟩

theorem trimBlanks_escapeHelp (v : List Char) :
    trimBlanks (escapeHelp v) = escapeHelp (trimBlanks v) := by
  rw [escapeHelp_eq, escapeHelp_eq, trimBlanks_flatMap keepsBlanks_escapedHelpChar]

/-- A help text is read back without the blanks at its ends. -/
theorem unescapeHelp_trimBlanks (v : List Char) :
    unescapeHelp (trimBlanks (escapeHelp v)) = some (trimBlanks v) := by
  rw [trimBlanks_escapeHelp, unescapeHelp_escapeHelp]

-- ============================================================================
-- Numbers
-- ============================================================================

theorem isPlain_of_isDigit {c : Char} (h : c.isDigit = true) : isPlain c = true := by
  rw [isPlain, Char.isAlphanum, h]
  simp

theorem toDigits_isDigit (n : Nat) : ∀ c ∈ Nat.toDigits 10 n, c.isDigit = true :=
  fun _ hc => Nat.isDigit_of_mem_toDigits (by decide) (by decide) hc

theorem number_toDigits (n : Nat) : number (Nat.toDigits 10 n) = n :=
  Nat.ofDigitChars_ten_toDigits

/-- A written `u64` is read back. -/
theorem u64Text_reads (n : UInt64) :
    (∀ c ∈ u64Text n, isPlain c = true) ∧
      Value.parse (u64Text n) = some (.decimal n.toNat 0) := by
  refine ⟨fun c hc => isPlain_of_isDigit (toDigits_isDigit _ c hc), ?_⟩
  have hparse := (parse_decimal false Nat.toDigits_ne_nil (toDigits_isDigit n.toNat)
    (by simp : ∀ c ∈ ([] : List Char), c.isDigit = true)).1
  rw [number_toDigits] at hparse
  exact hparse

/-- A written `i64` is read back. -/
theorem i64Text_reads (n : Int64) :
    (∀ c ∈ i64Text n, isPlain c = true) ∧
      Value.parse (i64Text n) = some (.decimal n.toInt 0) := by
  have hdigits := toDigits_isDigit n.toInt.natAbs
  have hparse (negative : Bool) := (parse_decimal negative Nat.toDigits_ne_nil hdigits
    (by simp : ∀ c ∈ ([] : List Char), c.isDigit = true)).1
  rw [i64Text]
  split
  · next hneg =>
      constructor
      · intro c hc
        rcases List.mem_cons.mp hc with rfl | hc
        · decide
        · exact isPlain_of_isDigit (hdigits c hc)
      · have hvalue : withSign true (number (Nat.toDigits 10 n.toInt.natAbs)) = n.toInt := by
          rw [number_toDigits, withSign, if_pos rfl]
          omega
        have htrue := hparse true
        rw [hvalue] at htrue
        exact htrue
  · next hnonneg =>
      constructor
      · exact fun c hc => isPlain_of_isDigit (hdigits c hc)
      · have hvalue : withSign false (number (Nat.toDigits 10 n.toInt.natAbs)) = n.toInt := by
          rw [number_toDigits, withSign, if_neg (by decide)]
          omega
        have hfalse := hparse false
        rw [hvalue] at hfalse
        exact hfalse

/-- What a decimal text looks like. -/
def IsDecimal (s : List Char) : Prop :=
  ∃ whole fraction : List Char, whole ≠ [] ∧ (∀ c ∈ whole, c.isDigit = true) ∧
    (∀ c ∈ fraction, c.isDigit = true) ∧ (s = whole ∨ s = whole ++ '.' :: fraction)

theorem IsDecimal.reads {s : List Char} (h : IsDecimal s) (negative : Bool) :
    (∀ c ∈ signed negative s, isPlain c = true) ∧
      (Value.parse (signed negative s)).isSome = true := by
  obtain ⟨whole, fraction, hne, hwhole, hfraction, hs⟩ := h
  obtain ⟨hplain, hpoint⟩ := parse_decimal negative hne hwhole hfraction
  have hchars : ∀ c ∈ s, isPlain c = true := by
    rcases hs with rfl | rfl
    · exact fun c hc => isPlain_of_isDigit (hwhole c hc)
    · intro c hc
      rcases List.mem_append.mp hc with hc | hc
      · exact isPlain_of_isDigit (hwhole c hc)
      · rcases List.mem_cons.mp hc with rfl | hc
        · decide
        · exact isPlain_of_isDigit (hfraction c hc)
  constructor
  · cases negative with
    | true =>
        intro c hc
        rcases List.mem_cons.mp hc with rfl | hc
        · decide
        · exact hchars c hc
    | false => exact hchars
  · rcases hs with rfl | rfl
    · rw [hplain]
      rfl
    · rw [hpoint]
      rfl

theorem isDigit_of_mem_digits {w n : Nat} {c : Char} (h : c ∈ FixedWidth.digits w n) :
    c.isDigit = true := by
  induction w with
  | zero => cases h
  | succ w ih =>
      rcases List.mem_cons.mp h with rfl | h
      · have hall : ∀ i < 10, (Char.ofNat (48 + i)).isDigit = true := by decide
        exact hall _ (Nat.mod_lt _ (by decide))
      · exact ih h

theorem isDecimal_decimalText (d : Nat) (places : Int) :
    IsDecimal (Float64.decimalText d places) := by
  rw [Float64.decimalText]
  split
  · refine ⟨_, [], ?_, ?_, by simp, .inl rfl⟩
    · simp [Nat.toDigits_ne_nil]
    · intro c hc
      rcases List.mem_append.mp hc with hc | hc
      · exact toDigits_isDigit d c hc
      · rw [List.eq_of_mem_replicate hc]
        rfl
  · exact ⟨_, _, Nat.toDigits_ne_nil, toDigits_isDigit _, fun c hc => isDigit_of_mem_digits hc,
      .inr rfl⟩

theorem isDecimal_exactText (mag : Nat) : IsDecimal (Float64.exactText mag) := by
  unfold Float64.exactText
  generalize Float64.scaledMagnitude mag * 5 ^ 1074 = d
  exact isDecimal_decimalText d _

/-- A text that is looked for, and another one when none is found. -/
theorem isDecimal_getD {found : Option (List Char)} (hfound : ∀ s, found = some s → IsDecimal s)
    {otherwise : List Char} (hother : IsDecimal otherwise) :
    IsDecimal (found.getD otherwise) := by
  cases found with
  | none => exact hother
  | some s => exact hfound s rfl

theorem isDecimal_shortest (mag : Nat) : IsDecimal (Float64.shortest mag) := by
  unfold Float64.shortest
  apply isDecimal_getD _ (isDecimal_exactText mag)
  intro text hfound
  obtain ⟨i, -, htext⟩ := List.exists_of_findSome?_eq_some hfound
  obtain ⟨d, -, rfl⟩ := Option.map_eq_some_iff.mp htext
  exact isDecimal_decimalText d _

/-- The text of a double is a number. -/
theorem display_reads (x : Float64) :
    (∀ c ∈ x.display, isPlain c = true) ∧ (Value.parse x.display).isSome = true := by
  rw [Float64.display]
  split
  · exact ⟨List.all_eq_true.mp (by decide), by decide⟩
  · by_cases hinf : x.isInfinite = true
    · rw [if_pos hinf]
      split
      · exact ⟨List.all_eq_true.mp (by decide), by decide⟩
      · exact ⟨List.all_eq_true.mp (by decide), by decide⟩
    · rw [if_neg hinf]
      have hdecimal : IsDecimal (if x.magnitude = 0 then "0".toList
          else Float64.shortest x.magnitude) := by
        split
        · exact ⟨['0'], [], by decide, List.all_eq_true.mp (by decide), by simp, .inl rfl⟩
        · exact isDecimal_shortest _
      have hreads := hdecimal.reads x.isNegative
      rw [signed] at hreads
      exact hreads

end PulseGrid.Infra
