/-
  PulseGrid.Worker.AckCursor

  The replay cursor in Redis: `ADVANCE_LUA`, `format_cursor` and `AckCursorStore`
  (crates/infra/src/redis.rs), fed with the timestamps that `ClientMessage::Ack`
  carries and `AckBatcher::offer` accepts.

  The script compares timestamps as texts.  Texts order years 0 to 9999 as time does
  (`formatCursor_lt_iff`); a year outside of that range is printed with a sign, sorts
  below all of them, and cannot be read back.  The stored cursor is the maximum, in
  every order of the writes, exactly when no such year gets in the way
  (`ackCursor_isMax_iff`).
-/

import PulseGrid.Lib.FixedWidth

namespace PulseGrid.Worker

-- ============================================================================
-- Timestamps
-- ============================================================================

def isLeapYear (year : Int) : Bool :=
  year % 4 = 0 && (year % 100 ≠ 0 || year % 400 = 0)

def daysInMonth (year : Int) : Nat → Nat
  | 2 => if isLeapYear year then 29 else 28
  | 4 | 6 | 9 | 11 => 30
  | _ => 31

/-- `chrono::DateTime<Utc>`: a date, a second of the day, and nanoseconds that are a
    second or more within a leap second. -/
structure DateTime where
  year : Int
  month : Nat
  day : Nat
  secs : Nat
  frac : Nat
  year_range : -262143 ≤ year ∧ year ≤ 262142
  month_range : 1 ≤ month ∧ month ≤ 12
  day_range : 1 ≤ day ∧ day ≤ daysInMonth year month
  secs_lt : secs < 86400
  frac_lt : frac < 2000000000
  leap : 1000000000 ≤ frac → secs % 60 = 59
deriving DecidableEq

namespace DateTime

/-- Dates first, then the time of day. -/
def key (t : DateTime) : ℤ ×ₗ ℕ ×ₗ ℕ ×ₗ ℕ ×ₗ ℕ :=
  toLex (t.year, toLex (t.month, toLex (t.day, toLex (t.secs, t.frac))))

theorem key_injective : Function.Injective key := by
  intro t u h
  cases t
  cases u
  simp only [key, EmbeddingLike.apply_eq_iff_eq, Prod.mk.injEq] at h
  obtain ⟨rfl, rfl, rfl, rfl, rfl⟩ := h
  rfl

instance : LinearOrder DateTime := LinearOrder.lift' key key_injective

theorem lt_iff {t u : DateTime} :
    t < u ↔ t.year < u.year ∨ t.year = u.year ∧ (t.month < u.month ∨ t.month = u.month ∧
      (t.day < u.day ∨ t.day = u.day ∧ (t.secs < u.secs ∨ t.secs = u.secs ∧
        t.frac < u.frac))) := by
  have hkey : t < u ↔ key t < key u := Iff.rfl
  rw [hkey]
  simp only [key, Prod.Lex.toLex_lt_toLex]

/-- `trunc_subsecs(6)`. -/
def truncMicros (t : DateTime) : DateTime where
  year := t.year
  month := t.month
  day := t.day
  secs := t.secs
  frac := t.frac - t.frac % 1000
  year_range := t.year_range
  month_range := t.month_range
  day_range := t.day_range
  secs_lt := t.secs_lt
  frac_lt := Nat.lt_of_le_of_lt (Nat.sub_le _ _) t.frac_lt
  leap h := t.leap (Nat.le_trans h (Nat.sub_le _ _))

def hour (t : DateTime) : Nat := t.secs / 3600

def minute (t : DateTime) : Nat := t.secs / 60 % 60

/-- The second as it is printed: 60 within a leap second. -/
def second (t : DateTime) : Nat := t.secs % 60 + if 1000000000 ≤ t.frac then 1 else 0

def micros (t : DateTime) : Nat := t.frac % 1000000000 / 1000

/-- Days since the first day of year 1. -/
def dayNumber (t : DateTime) : Int :=
  let y := t.year - 1
  365 * y + y / 4 - y / 100 + y / 400 +
    ((List.range t.month).tail.map (daysInMonth t.year)).sum + t.day - 1

/-- Seconds since the start of year 1. -/
def timestamp (t : DateTime) : Int := t.dayNumber * 86400 + t.secs

end DateTime

/-- `AckBatcher::offer` takes the timestamp: it is not after `wall_now` plus
    `future_ack_tolerance`. -/
def offerAccepts (ts wallNow : DateTime) : Bool :=
  !(wallNow.timestamp + 60 < ts.timestamp ||
    wallNow.timestamp + 60 = ts.timestamp && wallNow.frac < ts.frac)

-- ============================================================================
-- The store
-- ============================================================================

open FixedWidth

/-- Redis compares texts character by character. -/
abbrev Text := List Char

/-- The year as `to_rfc3339_opts` prints it: four digits, or a sign and at least four. -/
def yearText (year : Int) : Text :=
  if 0 ≤ year ∧ year ≤ 9999 then digits 4 year.toNat
  else (if year < 0 then '-' else '+') :: (Nat.toDigits 10 year.natAbs).leftpad 4 '0'

/-- `format_cursor`: `to_rfc3339_opts(SecondsFormat::Micros, true)`. -/
def formatCursor (t : DateTime) : Text :=
  yearText t.year ++ '-' :: (digits 2 t.month ++ '-' :: (digits 2 t.day ++ 'T' ::
    (digits 2 t.hour ++ ':' :: (digits 2 t.minute ++ ':' :: (digits 2 t.second ++ '.' ::
      (digits 6 t.micros ++ ['Z']))))))

/-- `ADVANCE_LUA` on the text under the device's key. -/
def AckCursorStore.advance (cursor : Option Text) (ts : DateTime) : Option Text × Bool :=
  match cursor with
  | none => (some (formatCursor ts), true)
  | some cur =>
      if cur < formatCursor ts then (some (formatCursor ts), true) else (some cur, false)

/-- The cursor after a sequence of `advance` calls, in the order Redis runs them. -/
def advanceAll (ts : List DateTime) : Option Text :=
  ts.foldl (fun cursor t => (AckCursorStore.advance cursor t).1) none

/-- `DateTime::parse_from_rfc3339`, as far as the cursor's texts are concerned. -/
structure Rfc3339Parser where
  parse : Text → Option DateTime
  parse_formatCursor : ∀ t : DateTime, 0 ≤ t.year → t.year ≤ 9999 →
    parse (formatCursor t) = some t.truncMicros
  parse_signed : ∀ (sign : Char) (text : Text), sign = '+' ∨ sign = '-' →
    parse (sign :: text) = none

/-- `AckCursorStore::get`; the error is `AppError::Cache`. -/
def getCursor (parser : Rfc3339Parser) (cursor : Option Text) : Except Unit (Option DateTime) :=
  match cursor with
  | none => .ok none
  | some text => match parser.parse text with
      | none => .error ()
      | some t => .ok (some t)

/-- After these writes the cursor is the largest timestamp to the microsecond, and each
    write answered true exactly when it raised it. -/
def CursorIsMax (parser : Rfc3339Parser) (ts : List DateTime) : Prop :=
  (∃ m ∈ ts, (∀ t ∈ ts, t.truncMicros ≤ m.truncMicros) ∧
    getCursor parser (advanceAll ts) = .ok (some m.truncMicros)) ∧
  ∀ before t after, ts = before ++ t :: after →
    ((AckCursorStore.advance (advanceAll before) t).2 = true ↔
      ∀ u ∈ before, u.truncMicros < t.truncMicros)

-- ============================================================================
-- Texts of years 0 to 9999
-- ============================================================================

/-- The printed time of day orders times to the microsecond, leap seconds included. -/
theorem timeOfDay_lt_iff (t u : DateTime) :
    (t.hour < u.hour ∨ t.hour = u.hour ∧ (t.minute < u.minute ∨ t.minute = u.minute ∧
      (t.second < u.second ∨ t.second = u.second ∧ t.micros < u.micros))) ↔
      t.secs < u.secs ∨ t.secs = u.secs ∧ t.truncMicros.frac < u.truncMicros.frac := by
  have ht := t.leap
  have hu := u.leap
  have htf := t.frac_lt
  have huf := u.frac_lt
  simp only [DateTime.hour, DateTime.minute, DateTime.second, DateTime.micros,
    DateTime.truncMicros]
  split <;> split <;> omega

theorem day_lt (t : DateTime) : t.day < 100 := by
  have hday := t.day_range.2
  unfold daysInMonth at hday
  split at hday
  · split at hday <;> omega
  all_goals omega

theorem fields_lt (t : DateTime) :
    t.month < 10 ^ 2 ∧ t.day < 10 ^ 2 ∧ t.hour < 10 ^ 2 ∧ t.minute < 10 ^ 2 ∧
      t.second < 10 ^ 2 ∧ t.micros < 10 ^ 6 := by
  have hmonth := t.month_range.2
  have hday := day_lt t
  have hsecs := t.secs_lt
  unfold DateTime.hour DateTime.minute DateTime.second DateTime.micros
  refine ⟨by omega, by omega, by omega, by omega, ?_, by omega⟩
  split <;> omega

theorem yearText_of_range {year : Int} (h0 : 0 ≤ year) (h1 : year ≤ 9999) :
    yearText year = digits 4 year.toNat :=
  if_pos ⟨h0, h1⟩

/-- Byte-wise comparison orders years 0 to 9999 as time does. -/
theorem formatCursor_lt_iff {t u : DateTime} (ht0 : 0 ≤ t.year) (ht1 : t.year ≤ 9999)
    (hu0 : 0 ≤ u.year) (hu1 : u.year ≤ 9999) :
    formatCursor t < formatCursor u ↔ t.truncMicros < u.truncMicros := by
  obtain ⟨htm, htd, hth, htn, hts, htf⟩ := fields_lt t
  obtain ⟨hum, hud, huh, hun, hus, huf⟩ := fields_lt u
  have hty : t.year.toNat < 10 ^ 4 := by omega
  have huy : u.year.toNat < 10 ^ 4 := by omega
  rw [formatCursor, formatCursor, yearText_of_range ht0 ht1, yearText_of_range hu0 hu1,
    digits_append_lt_iff hty huy, List.cons_lt_cons_self,
    digits_append_lt_iff htm hum, List.cons_lt_cons_self,
    digits_append_lt_iff htd hud, List.cons_lt_cons_self,
    digits_append_lt_iff hth huh, List.cons_lt_cons_self,
    digits_append_lt_iff htn hun, List.cons_lt_cons_self,
    digits_append_lt_iff hts hus, List.cons_lt_cons_self,
    digits_append_lt_iff htf huf]
  have htime := timeOfDay_lt_iff t u
  have hyear : t.year.toNat < u.year.toNat ↔ t.year < u.year := by omega
  have hyear' : t.year.toNat = u.year.toNat ↔ t.year = u.year := by omega
  rw [DateTime.lt_iff, hyear, hyear']
  simp only [lt_self_iff_false, and_false, or_false, htime]
  rfl

/-- The text depends on the timestamp to the microsecond only. -/
theorem formatCursor_truncMicros (t : DateTime) :
    formatCursor t.truncMicros = formatCursor t := by
  have hsecond : t.truncMicros.second = t.second := by
    have hiff : 1000000000 ≤ t.frac - t.frac % 1000 ↔ 1000000000 ≤ t.frac := by omega
    simp only [DateTime.second, DateTime.truncMicros, hiff]
  have hmicros : t.truncMicros.micros = t.micros := by
    simp only [DateTime.micros, DateTime.truncMicros]
    omega
  rw [formatCursor, hsecond, hmicros]
  rfl

-- ============================================================================
-- Texts of other years
-- ============================================================================

theorem yearText_of_signed {year : Int} (h : ¬(0 ≤ year ∧ year ≤ 9999)) :
    ∃ sign text, (sign = '+' ∨ sign = '-') ∧ yearText year = sign :: text := by
  rw [yearText, if_neg h]
  split
  · exact ⟨_, _, .inr rfl, rfl⟩
  · exact ⟨_, _, .inl rfl, rfl⟩

theorem parse_formatCursor_of_signed (parser : Rfc3339Parser) {t : DateTime}
    (h : ¬(0 ≤ t.year ∧ t.year ≤ 9999)) : parser.parse (formatCursor t) = none := by
  obtain ⟨sign, text, hsign, hyear⟩ := yearText_of_signed h
  rw [formatCursor, hyear]
  exact parser.parse_signed sign _ hsign

/-- A signed year sorts below every year from 0 to 9999. -/
theorem formatCursor_lt_of_signed {t u : DateTime} (ht : ¬(0 ≤ t.year ∧ t.year ≤ 9999))
    (hu0 : 0 ≤ u.year) (hu1 : u.year ≤ 9999) : formatCursor t < formatCursor u := by
  obtain ⟨sign, text, hsign, hyear⟩ := yearText_of_signed ht
  have hdigit : ∀ d < 10, '+' < Char.ofNat (48 + d) ∧ '-' < Char.ofNat (48 + d) := by decide
  rw [formatCursor, formatCursor, hyear, yearText_of_range hu0 hu1]
  refine List.cons_lt_cons_iff.mpr (.inl ?_)
  have hd := hdigit (u.year.toNat / 10 ^ 3 % 10) (Nat.mod_lt _ (by decide))
  rcases hsign with rfl | rfl
  · exact hd.1
  · exact hd.2

-- ============================================================================
-- The stored text
-- ============================================================================

theorem advanceAll_append_singleton (before : List DateTime) (t : DateTime) :
    advanceAll (before ++ [t]) = (AckCursorStore.advance (advanceAll before) t).1 := by
  rw [advanceAll, List.foldl_append]
  rfl

/-- The stored text is the greatest of the texts written. -/
theorem advanceAll_eq {ts : List DateTime} (hne : ts ≠ []) :
    ∃ m ∈ ts, advanceAll ts = some (formatCursor m) ∧
      ∀ t ∈ ts, formatCursor t ≤ formatCursor m := by
  induction ts using List.reverseRecOn with
  | nil => exact absurd rfl hne
  | append_singleton before t ih =>
      rw [advanceAll_append_singleton]
      by_cases hbefore : before = []
      · subst hbefore
        exact ⟨t, by simp, rfl, by simp⟩
      · obtain ⟨m, hm, hstored, hmax⟩ := ih hbefore
        rw [hstored, AckCursorStore.advance]
        split
        · next hlt =>
          refine ⟨t, by simp, rfl, fun u hu => ?_⟩
          rcases List.mem_append.mp hu with hu | hu
          · exact (hmax u hu).trans hlt.le
          · rw [List.mem_singleton.mp hu]
        · next hlt =>
          refine ⟨m, List.mem_append_left _ hm, rfl, fun u hu => ?_⟩
          rcases List.mem_append.mp hu with hu | hu
          · exact hmax u hu
          · rw [List.mem_singleton.mp hu]
            exact not_lt.mp hlt

/-- A write answers true exactly when its text is greater than all before it. -/
theorem advance_snd (before : List DateTime) (t : DateTime) :
    (AckCursorStore.advance (advanceAll before) t).2 = true ↔
      ∀ u ∈ before, formatCursor u < formatCursor t := by
  by_cases hne : before = []
  · subst hne
    simp [advanceAll, AckCursorStore.advance]
  · obtain ⟨m, hm, hstored, hmax⟩ := advanceAll_eq hne
    rw [hstored, AckCursorStore.advance]
    split
    · next hlt => exact iff_of_true rfl fun u hu => lt_of_le_of_lt (hmax u hu) hlt
    · next hlt =>
      exact iff_of_false Bool.false_ne_true fun hall => hlt (hall m hm)

-- ============================================================================
-- When the cursor is the maximum
-- ============================================================================

/-- No year is after 9999, some year is not negative, and the negative years among them
    have texts that sort as time does. -/
def TextsOrdered (ts : List DateTime) : Prop :=
  (∀ t ∈ ts, t.year ≤ 9999) ∧ (∃ t ∈ ts, 0 ≤ t.year) ∧
  ∀ t ∈ ts, ∀ u ∈ ts, t.year < 0 → u.year < 0 → t.truncMicros < u.truncMicros →
    formatCursor t < formatCursor u

theorem lt_of_year_lt {t u : DateTime} (h : t.year < u.year) : t.truncMicros < u.truncMicros :=
  DateTime.lt_iff.mpr (.inl h)

/-- Among such timestamps texts compare as times do. -/
theorem TextsOrdered.lt_iff {ts : List DateTime} (h : TextsOrdered ts) {t u : DateTime}
    (ht : t ∈ ts) (hu : u ∈ ts) :
    formatCursor t < formatCursor u ↔ t.truncMicros < u.truncMicros := by
  obtain ⟨hyear, -, hneg⟩ := h
  have ht9 := hyear t ht
  have hu9 := hyear u hu
  rcases lt_or_ge t.year 0 with ht0 | ht0 <;> rcases lt_or_ge u.year 0 with hu0 | hu0
  · -- both years are negative
    refine ⟨fun hlt => ?_, hneg t ht u hu ht0 hu0⟩
    rcases lt_trichotomy t.truncMicros u.truncMicros with htu | htu | htu
    · exact htu
    · rw [← formatCursor_truncMicros t, htu, formatCursor_truncMicros] at hlt
      exact absurd hlt (lt_irrefl _)
    · exact absurd (hlt.trans (hneg u hu t ht hu0 ht0 htu)) (lt_irrefl _)
  · exact iff_of_true (formatCursor_lt_of_signed (by omega) hu0 hu9) (lt_of_year_lt (by omega))
  · refine iff_of_false (fun hlt => ?_) (fun hlt => ?_)
    · exact lt_asymm hlt (formatCursor_lt_of_signed (by omega) ht0 ht9)
    · exact lt_asymm hlt (lt_of_year_lt (by omega))
  · exact formatCursor_lt_iff ht0 ht9 hu0 hu9

theorem TextsOrdered.perm {ts order : List DateTime} (h : TextsOrdered ts)
    (hperm : order.Perm ts) : TextsOrdered order := by
  obtain ⟨hyear, ⟨t, ht, ht0⟩, hneg⟩ := h
  refine ⟨fun t ht => hyear t (hperm.mem_iff.mp ht), ⟨t, hperm.mem_iff.mpr ht, ht0⟩, ?_⟩
  intro t ht u hu
  exact hneg t (hperm.mem_iff.mp ht) u (hperm.mem_iff.mp hu)

theorem TextsOrdered.cursorIsMax (parser : Rfc3339Parser) {ts : List DateTime}
    (h : TextsOrdered ts) : CursorIsMax parser ts := by
  have hne : ts ≠ [] := by
    obtain ⟨-, ⟨t, ht, -⟩, -⟩ := h
    exact List.ne_nil_of_mem ht
  refine ⟨?_, ?_⟩
  · obtain ⟨m, hm, hstored, hmax⟩ := advanceAll_eq hne
    have hle : ∀ t ∈ ts, t.truncMicros ≤ m.truncMicros := by
      intro t ht
      rw [← not_lt, ← h.lt_iff hm ht, not_lt]
      exact hmax t ht
    -- the maximum is at least as late as the timestamp whose year is not negative
    have hm0 : 0 ≤ m.year := by
      obtain ⟨-, ⟨t, ht, ht0⟩, -⟩ := h
      by_contra hneg
      exact absurd (lt_of_year_lt (by omega)) (not_lt.mpr (hle t ht))
    refine ⟨m, hm, hle, ?_⟩
    rw [hstored, getCursor, parser.parse_formatCursor m hm0 (h.1 m hm)]
  · intro before t after hts
    have ht : t ∈ ts := by simp [hts]
    rw [advance_snd]
    refine forall_congr' fun u => ?_
    constructor
    · intro himp hu
      exact (h.lt_iff (by simp [hts, hu]) ht).mp (himp hu)
    · intro himp hu
      exact (h.lt_iff (by simp [hts, hu]) ht).mpr (himp hu)

/-- What `get` finds has one of the written years, between 0 and 9999. -/
theorem year_of_getCursor (parser : Rfc3339Parser) {ts : List DateTime} {m : DateTime}
    (hne : ts ≠ []) (hget : getCursor parser (advanceAll ts) = .ok (some m)) :
    ∃ t ∈ ts, m = t.truncMicros ∧ 0 ≤ t.year ∧ t.year ≤ 9999 := by
  obtain ⟨t, ht, hstored, -⟩ := advanceAll_eq hne
  rw [hstored, getCursor] at hget
  by_cases hrange : 0 ≤ t.year ∧ t.year ≤ 9999
  · rw [parser.parse_formatCursor t hrange.1 hrange.2] at hget
    refine ⟨t, ht, ?_, hrange⟩
    simpa using hget.symm
  · rw [parse_formatCursor_of_signed parser hrange] at hget
    cases hget

/-- The writes of a collection of timestamps leave the maximum in every order, and answer
    as they should, exactly when `TextsOrdered`. -/
theorem ackCursor_isMax_iff (parser : Rfc3339Parser) {ts : List DateTime} (hne : ts ≠ []) :
    (∀ order, order.Perm ts → CursorIsMax parser order) ↔ TextsOrdered ts := by
  refine ⟨fun h => ?_, fun h order hperm => (h.perm hperm).cursorIsMax parser⟩
  obtain ⟨⟨m, hm, hmax, hget⟩, -⟩ := h ts (.refl ts)
  obtain ⟨s, hs, hms, hs0, hs9⟩ := year_of_getCursor parser hne hget
  have hmyear : m.truncMicros.year = s.truncMicros.year := congrArg DateTime.year hms
  refine ⟨fun t ht => ?_, ⟨s, hs, hs0⟩, ?_⟩
  · by_contra hlate
    have hlater : m.year < t.year := by
      change m.year = s.year at hmyear
      omega
    exact absurd (lt_of_year_lt hlater) (not_lt.mpr (hmax t ht))
  · -- write the two negative years first
    intro t ht u hu _ _ hlt
    have hu' : u ∈ ts.erase t := by
      refine (List.mem_erase_of_ne ?_).mpr hu
      rintro rfl
      exact lt_irrefl _ hlt
    have hperm : (t :: u :: (ts.erase t).erase u).Perm ts :=
      ((List.perm_cons_erase hu').symm.cons t).trans (List.perm_cons_erase ht).symm
    have hraised := ((h _ hperm).2 [t] u ((ts.erase t).erase u) rfl).mpr (by simpa using hlt)
    have htext := (advance_snd [t] u).mp hraised
    exact htext t List.mem_cons_self

-- ============================================================================
-- A parser of cursor texts
-- ============================================================================

/-- The timestamp with these printed fields, if there is one. -/
def DateTime.ofFields (year month day hour minute second micros : Nat) : Option DateTime :=
  if h : year ≤ 9999 ∧ (1 ≤ month ∧ month ≤ 12) ∧ (1 ≤ day ∧ day ≤ daysInMonth year month) ∧
      hour < 24 ∧ minute < 60 ∧ second ≤ 60 ∧ micros < 1000000 then
    some
      { year := year
        month := month
        day := day
        secs := hour * 3600 + minute * 60 + min second 59
        frac := micros * 1000 + (second - 59) * 1000000000
        year_range := by omega
        month_range := h.2.1
        day_range := h.2.2.1
        secs_lt := by omega
        frac_lt := by omega
        leap := by omega }
  else none

/-- A field of `w` digits and the character after it. -/
def readField (w : Nat) (text : Text) : Nat × Text := (number (text.take w), text.drop (w + 1))

/-- Reads the fields of a cursor text and rejects what does not print back. -/
def parseCursor (text : Text) : Option DateTime :=
  let (year, text₁) := readField 4 text
  let (month, text₂) := readField 2 text₁
  let (day, text₃) := readField 2 text₂
  let (hour, text₄) := readField 2 text₃
  let (minute, text₅) := readField 2 text₄
  let (second, text₆) := readField 2 text₅
  let (micros, _) := readField 6 text₆
  (DateTime.ofFields year month day hour minute second micros).filter fun t =>
    formatCursor t = text

theorem readField_digits {w n : Nat} (hn : n < 10 ^ w) (c : Char) (rest : Text) :
    readField w (digits w n ++ c :: rest) = (n, rest) := by
  rw [readField, List.take_left' (length_digits w n), number_digits, Nat.mod_eq_of_lt hn,
    ← List.drop_drop, List.drop_left' (length_digits w n)]
  rfl

/-- The nanoseconds to the microsecond, from what is printed. -/
theorem frac_of_printed (t : DateTime) :
    t.micros * 1000 + (t.second - 59) * 1000000000 = t.frac - t.frac % 1000 := by
  have hleap := t.leap
  have hfrac := t.frac_lt
  unfold DateTime.micros DateTime.second
  split
  · next h =>
    have hsecond : t.secs % 60 + 1 - 59 = 1 := by omega
    rw [hsecond]
    omega
  · next h =>
    have hsecond : t.secs % 60 + 0 - 59 = 0 := by omega
    rw [hsecond]
    omega

theorem ofFields_eq {t : DateTime} (h0 : 0 ≤ t.year) (h1 : t.year ≤ 9999) :
    DateTime.ofFields t.year.toNat t.month t.day t.hour t.minute t.second t.micros =
      some t.truncMicros := by
  have hyear : (t.year.toNat : Int) = t.year := Int.toNat_of_nonneg h0
  have hsecs := t.secs_lt
  have hleap := t.leap
  have hvalid : t.year.toNat ≤ 9999 ∧ (1 ≤ t.month ∧ t.month ≤ 12) ∧
      (1 ≤ t.day ∧ t.day ≤ daysInMonth (t.year.toNat : Int) t.month) ∧
      t.hour < 24 ∧ t.minute < 60 ∧ t.second ≤ 60 ∧ t.micros < 1000000 := by
    rw [hyear]
    unfold DateTime.hour DateTime.minute DateTime.second DateTime.micros
    refine ⟨by omega, t.month_range, t.day_range, by omega, by omega, ?_, by omega⟩
    split <;> omega
  have hsecsEq : t.hour * 3600 + t.minute * 60 + min t.second 59 = t.secs := by
    unfold DateTime.hour DateTime.minute DateTime.second
    split <;> omega
  rw [DateTime.ofFields, dif_pos hvalid]
  simp only [DateTime.truncMicros, hsecsEq, frac_of_printed, hyear]

theorem parseCursor_formatCursor {t : DateTime} (h0 : 0 ≤ t.year) (h1 : t.year ≤ 9999) :
    parseCursor (formatCursor t) = some t.truncMicros := by
  obtain ⟨htm, htd, hth, htn, hts, htf⟩ := fields_lt t
  have hty : t.year.toNat < 10 ^ 4 := by omega
  have hprint := formatCursor_truncMicros t
  rw [parseCursor]
  nth_rewrite 1 [formatCursor]
  rw [yearText_of_range h0 h1]
  simp only [readField_digits hty, readField_digits htm, readField_digits htd,
    readField_digits hth, readField_digits htn, readField_digits hts, readField_digits htf,
    ofFields_eq h0 h1]
  simp [Option.filter, hprint]

theorem ofFields_year {year month day hour minute second micros : Nat} {t : DateTime}
    (h : DateTime.ofFields year month day hour minute second micros = some t) :
    0 ≤ t.year ∧ t.year ≤ 9999 := by
  rw [DateTime.ofFields] at h
  split at h
  · next hvalid =>
    cases h
    exact ⟨Int.natCast_nonneg year, Int.ofNat_le.mpr hvalid.1⟩
  · cases h

theorem parseCursor_signed (sign : Char) (text : Text) (hsign : sign = '+' ∨ sign = '-') :
    parseCursor (sign :: text) = none := by
  by_contra hsome
  obtain ⟨t, ht⟩ := Option.ne_none_iff_exists'.mp hsome
  rw [parseCursor, Option.filter_eq_some_iff, decide_eq_true_iff] at ht
  obtain ⟨hfields, hprint⟩ := ht
  -- what `ofFields` builds has a year from 0 to 9999, which prints as a digit
  have hyear := ofFields_year hfields
  have hdigit : ∀ d < 10, Char.ofNat (48 + d) ≠ '+' ∧ Char.ofNat (48 + d) ≠ '-' := by decide
  have hd := hdigit (t.year.toNat / 10 ^ 3 % 10) (Nat.mod_lt _ (by decide))
  rw [formatCursor, yearText_of_range hyear.1 hyear.2] at hprint
  have hhead : Char.ofNat (48 + t.year.toNat / 10 ^ 3 % 10) = sign := (List.cons.inj hprint).1
  rcases hsign with rfl | rfl
  · exact hd.1 hhead
  · exact hd.2 hhead

/-- Reads back what `formatCursor` prints for years 0 to 9999 and nothing else. -/
def cursorParser : Rfc3339Parser where
  parse := parseCursor
  parse_formatCursor _ h0 h1 := parseCursor_formatCursor h0 h1
  parse_signed := parseCursor_signed

-- ============================================================================
-- Years before year 0
-- ============================================================================

/-- Noon of the first of January. -/
def newYearNoon (year : Int) (h : -262143 ≤ year ∧ year ≤ 262142) : DateTime where
  year := year
  month := 1
  day := 1
  secs := 43200
  frac := 0
  year_range := h
  month_range := by decide
  day_range := ⟨Nat.le_refl 1, by simp [daysInMonth]⟩
  secs_lt := by decide
  frac_lt := by decide
  leap := by decide

/-- A single negative year beside a later one does no harm. -/
theorem ackCursor_isMax_oneNegative :
    CursorIsMax cursorParser [newYearNoon (-1) (by decide), newYearNoon 2026 (by decide)] := by
  refine (ackCursor_isMax_iff cursorParser (by simp)).mpr ⟨?_, ?_, ?_⟩ _ (.refl _)
  · decide
  · decide
  · decide

/-- A device may acknowledge year -1 first: the cursor cannot be read afterwards. -/
theorem ackCursor_negative_unreadable :
    ¬∀ (parser : Rfc3339Parser) (ts : List DateTime), ts ≠ [] →
      (∀ t ∈ ts, ∃ wallNow : DateTime, 1970 ≤ wallNow.year ∧ wallNow.year ≤ 9999 ∧
        offerAccepts t wallNow = true) →
      ∀ order, order.Perm ts → CursorIsMax parser order := by
  intro h
  have hmax := h cursorParser [newYearNoon (-1) (by decide)] (by simp)
    (by
      intro t ht
      rw [List.mem_singleton.mp ht]
      exact ⟨newYearNoon 2026 (by decide), by decide, by decide, by decide⟩)
    _ (.refl _)
  obtain ⟨⟨m, hm, -, hget⟩, -⟩ := hmax
  obtain ⟨t, ht, -, h0, -⟩ := year_of_getCursor cursorParser (by simp) hget
  rw [List.mem_singleton.mp ht] at h0
  exact absurd h0 (by decide)

end PulseGrid.Worker
