/-
  PulseGrid.Lib.ExpositionReading

  What the parser of exposition pages makes of a word, a number, a sample line, a comment
  line and a page that are written in the plainest way (`parsePage_groups`), and of a label
  name with a colon (`parseSample_colon`).
-/

import PulseGrid.Lib.Exposition

namespace Exposition

-- ============================================================================
-- Reading words and blanks
-- ============================================================================

/-- A text that does not go on with a character of the kind. -/
def StopsAt (p : Char → Bool) (s : List Char) : Prop := ∀ c, s.head? = some c → p c = false

theorem stopsAt_nil (p : Char → Bool) : StopsAt p [] := fun _ h => by cases h

theorem stopsAt_cons {p : Char → Bool} {c : Char} (h : p c = false) (s : List Char) :
    StopsAt p (c :: s) := by
  intro d hd
  obtain rfl := Option.some.inj hd
  exact h

theorem takeWhile_append_stop {p : Char → Bool} {w s : List Char} (hw : ∀ c ∈ w, p c = true)
    (hs : StopsAt p s) : (w ++ s).takeWhile p = w := by
  rw [List.takeWhile_append_of_pos hw]
  cases s with
  | nil => simp
  | cons c s => rw [List.takeWhile_cons_of_neg (by rw [hs c rfl]; decide), List.append_nil]

theorem dropWhile_append_stop {p : Char → Bool} {w s : List Char} (hw : ∀ c ∈ w, p c = true)
    (hs : StopsAt p s) : (w ++ s).dropWhile p = s := by
  rw [List.dropWhile_append_of_pos hw]
  cases s with
  | nil => rfl
  | cons c s => rw [List.dropWhile_cons_of_neg (by rw [hs c rfl]; decide)]

/-- A word of the kind that `readWord` reads. -/
def IsWord (start char : Char → Bool) (w : List Char) : Prop :=
  ∃ c s, w = c :: s ∧ start c = true ∧ ∀ d ∈ s, char d = true

theorem readWord_append {start char : Char → Bool} {w : List Char} (hw : IsWord start char w)
    {s : List Char} (hs : StopsAt char s) : readWord start char (w ++ s) = some (w, s) := by
  obtain ⟨c, w, rfl, hc, hw⟩ := hw
  rw [List.cons_append, readWord, if_pos hc, takeWhile_append_stop hw hs,
    dropWhile_append_stop hw hs]

theorem skipBlanks_of_stops {s : List Char} (h : StopsAt isBlank s) : skipBlanks s = s :=
  dropWhile_append_stop (w := []) (by simp) h

@[simp] theorem skipBlanks_space (s : List Char) : skipBlanks (' ' :: s) = skipBlanks s := rfl

/-- The characters of the numbers that are written here. -/
def isPlain (c : Char) : Bool := c.isAlphanum || c = '.' || c = '-'

/-- A plain character is none of the others. -/
theorem ne_of_isPlain {c d : Char} (hc : isPlain c = true) (hd : isPlain d = false) : c ≠ d := by
  rintro rfl
  rw [hc] at hd
  cases hd

/-- Characters of a kind that neither blank is of are not blank. -/
theorem not_isBlank_of {p : Char → Bool} (hp : p ' ' = false ∧ p '\t' = false) {c : Char}
    (h : p c = true) : isBlank c = false := by
  have hspace : c ≠ ' ' := by
    rintro rfl
    rw [hp.1] at h
    cases h
  have htab : c ≠ '\t' := by
    rintro rfl
    rw [hp.2] at h
    cases h
  simp [isBlank, hspace, htab]

theorem not_isBlank_of_isPlain {c : Char} (h : isPlain c = true) : isBlank c = false :=
  not_isBlank_of (by decide) h

theorem skipBlanks_word {start char : Char → Bool} {w : List Char} (hw : IsWord start char w)
    (hstart : start ' ' = false ∧ start '\t' = false) (s : List Char) :
    skipBlanks (w ++ s) = w ++ s := by
  obtain ⟨c, w, rfl, hc, -⟩ := hw
  exact skipBlanks_of_stops (stopsAt_cons (not_isBlank_of hstart hc) _)

theorem stopsAt_of_forall {p q : Char → Bool} (hpq : ∀ c, q c = true → p c = false)
    {s : List Char} (hs : ∀ c ∈ s, q c = true) : StopsAt p s := by
  intro c hc
  exact hpq c (hs c (List.mem_of_mem_head? hc))

-- ============================================================================
-- Reading numbers
-- ============================================================================

theorem splitSign_of_ne {s : List Char} (h : ∀ c, s.head? = some c → c ≠ '-' ∧ c ≠ '+') :
    splitSign s = (false, s) := by
  cases s with
  | nil => rfl
  | cons c s =>
      obtain ⟨hminus, hplus⟩ := h c rfl
      rw [splitSign]
      · exact fun t ht => hminus (List.cons.inj ht).1
      · exact fun t ht => hplus (List.cons.inj ht).1

theorem isDigit_ne {c d : Char} (hc : c.isDigit = true) (hd : d.isDigit = false) : c ≠ d := by
  rintro rfl
  rw [hc] at hd
  cases hd

/-- Digits are no word. -/
theorem map_toLower_ne {s : List Char} (hne : s ≠ []) (hs : ∀ c ∈ s, c.isDigit = true)
    {word : List Char} (hword : (word.all fun c => !c.isDigit) = true) (rest : List Char) :
    (s ++ rest).map Char.toLower ≠ word := by
  obtain ⟨c, s, rfl⟩ := List.exists_cons_of_ne_nil hne
  have hc := hs c List.mem_cons_self
  have hlower : c.toLower = c := by
    have hle : c.toNat ≤ 57 := (Char.isDigit_iff_toNat.mp hc).2
    rw [Char.toLower, dif_neg]
    intro hupper
    have : 65 ≤ c.toNat := hupper.1
    omega
  rintro rfl
  have hno := List.all_eq_true.mp hword c.toLower (by simp)
  rw [hlower, hc] at hno
  cases hno

/-- A sign and digits. -/
def signed (negative : Bool) (s : List Char) : List Char := if negative then '-' :: s else s

theorem splitSign_signed (negative : Bool) {s : List Char}
    (hs : ∀ c, s.head? = some c → c.isDigit = true) :
    splitSign (signed negative s) = (negative, s) := by
  cases negative with
  | true => rfl
  | false =>
      apply splitSign_of_ne
      intro c hc
      exact ⟨isDigit_ne (hs c hc) (by decide), isDigit_ne (hs c hc) (by decide)⟩

/-- Digits, and after a point some more, are a decimal number. -/
theorem parse_decimal (negative : Bool) {whole fraction : List Char} (hne : whole ≠ [])
    (hwhole : ∀ c ∈ whole, c.isDigit = true) (hfraction : ∀ c ∈ fraction, c.isDigit = true) :
    Value.parse (signed negative whole) = some (.decimal (withSign negative (number whole)) 0) ∧
    Value.parse (signed negative (whole ++ '.' :: fraction)) =
      some (.decimal (withSign negative (number (whole ++ fraction))) (-fraction.length)) := by
  have hhead (rest : List Char) (c : Char) (h : (whole ++ rest).head? = some c) :
      c.isDigit = true := by
    obtain ⟨d, w, rfl⟩ := List.exists_cons_of_ne_nil hne
    obtain rfl := Option.some.inj h
    exact hwhole d List.mem_cons_self
  have hwords (rest : List Char) : ¬ ((whole ++ rest).map Char.toLower = "inf".toList ∨
      (whole ++ rest).map Char.toLower = "infinity".toList) ∧
      (whole ++ rest).map Char.toLower ≠ "nan".toList :=
    ⟨fun h => h.elim (map_toLower_ne hne hwhole (by decide) rest)
      (map_toLower_ne hne hwhole (by decide) rest),
      map_toLower_ne hne hwhole (by decide) rest⟩
  have hpoint : StopsAt Char.isDigit ('.' :: fraction) := stopsAt_cons (by decide) _
  constructor
  · have hwords := hwords []
    have hhead := hhead []
    rw [List.append_nil] at hwords hhead
    have htake := takeWhile_append_stop hwhole (stopsAt_nil _)
    have hdrop := dropWhile_append_stop hwhole (stopsAt_nil _)
    rw [List.append_nil] at htake hdrop
    rw [Value.parse, splitSign_signed negative hhead]
    simp only
    rw [if_neg hwords.1, if_neg hwords.2, readDecimal, htake, hdrop]
    simp [splitFraction, hne, readExponent]
  · rw [Value.parse, splitSign_signed negative (hhead _)]
    simp only
    rw [if_neg (hwords _).1, if_neg (hwords _).2, readDecimal,
      takeWhile_append_stop hwhole hpoint, dropWhile_append_stop hwhole hpoint]
    have htake := takeWhile_append_stop hfraction (stopsAt_nil _)
    have hdrop := dropWhile_append_stop hfraction (stopsAt_nil _)
    rw [List.append_nil] at htake hdrop
    simp [splitFraction, hne, readExponent, htake, hdrop]

-- ============================================================================
-- Reading lines
-- ============================================================================

/-- A plain text, behind any blank, is one token. -/
theorem token_of_plain {t : List Char} (ht : ∀ c ∈ t, isPlain c = true) :
    skipBlanks t = t ∧ (t.takeWhile fun c => !isBlank c) = t ∧
      (t.dropWhile fun c => !isBlank c) = [] := by
  have hblank : ∀ c ∈ t, (!isBlank c) = true := by
    intro c hc
    rw [not_isBlank_of_isPlain (ht c hc)]
    rfl
  refine ⟨?_, List.takeWhile_eq_self_iff.mpr hblank, List.dropWhile_eq_nil_iff.mpr hblank⟩
  exact skipBlanks_of_stops (stopsAt_of_forall (fun c hc => not_isBlank_of_isPlain hc) ht)

@[simp] theorem expect_self (c : Char) (s : List Char) : expect c (c :: s) = some s := if_pos rfl

theorem expect_of_ne {c : Char} {s : List Char} (h : s.head? ≠ some c) : expect c s = none := by
  cases s with
  | nil => rfl
  | cons d s => exact if_neg fun heq => h (congrArg some heq)

/-- A word begins with none of the other characters. -/
theorem IsWord.head?_ne {start char : Char → Bool} {w : List Char} (h : IsWord start char w)
    {c : Char} (hc : start c = false) (s : List Char) : (w ++ s).head? ≠ some c := by
  obtain ⟨d, w, rfl, hd, -⟩ := h
  intro heq
  obtain rfl := Option.some.inj heq
  rw [hd] at hc
  cases hc

theorem readLabel_quoted {label value quoted s : List Char}
    (hlabel : IsWord isLabelStart isLabelChar label)
    (hquoted : readLabelValue (quoted ++ '"' :: s) = some (value, s)) :
    readLabel (label ++ '=' :: '"' :: (quoted ++ '"' :: s)) =
      some ((label, value), skipBlanks s) := by
  have hequals (s : List Char) : skipBlanks ('=' :: s) = '=' :: s := rfl
  have hquote (s : List Char) : skipBlanks ('"' :: s) = '"' :: s := rfl
  rw [readLabel, readWord_append hlabel (stopsAt_cons (by decide) _)]
  simp only [Option.bind_eq_bind, Option.bind_some, hequals, hquote, expect_self, hquoted]
  rfl

/-- A name with a colon is not read as a label name: reading stops there. -/
theorem readLabel_colon {label : List Char} (hlabel : IsWord isNameStart isNameChar label)
    (hcolon : ':' ∈ label) (s : List Char) : readLabel (label ++ s) = none := by
  obtain ⟨c, w, rfl, hc, hw⟩ := hlabel
  by_cases hstart : isLabelStart c = true
  · have hne : ':' ≠ c := by
      rintro rfl
      cases hstart
    obtain ⟨before, after, rfl, hbefore⟩ :=
      List.eq_append_cons_of_mem ((List.mem_cons.mp hcolon).resolve_left hne)
    have hword : IsWord isLabelStart isLabelChar (c :: before) := by
      refine ⟨c, before, rfl, hstart, ?_⟩
      intro d hd
      have hname := hw d (List.mem_append_left _ hd)
      have hd : d ≠ ':' := fun heq => hbefore (heq ▸ hd)
      simpa [isNameChar, isLabelChar, hd] using hname
    have hrest : (c :: (before ++ ':' :: after)) ++ s = (c :: before) ++ ':' :: (after ++ s) := by
      simp
    have hstop (s : List Char) : skipBlanks (':' :: s) = ':' :: s := rfl
    rw [readLabel, hrest, readWord_append hword (stopsAt_cons (by decide) _)]
    simp only [Option.bind_eq_bind, Option.bind_some, hstop]
    rfl
  · rw [readLabel, List.cons_append, readWord, if_neg hstart]
    rfl

section

variable {name t : List Char} {v : Value}

/-- A sample without labels. -/
theorem parseSample_plain (hname : IsWord isNameStart isNameChar name)
    (ht : ∀ c ∈ t, isPlain c = true) (hv : Value.parse t = some v) :
    parseSample (name ++ ' ' :: t) = some { name, labels := [], value := v } := by
  obtain ⟨hskip, htake, hdrop⟩ := token_of_plain ht
  have hlabels : readLabelSet (' ' :: t) = some ([], ' ' :: t) := by
    rw [readLabelSet, skipBlanks_space, hskip, expect_of_ne]
    intro hbrace
    exact absurd rfl (ne_of_isPlain (ht '{' (List.mem_of_mem_head? hbrace)) (by decide))
  rw [parseSample, readWord_append hname (stopsAt_cons (by decide) t)]
  simp only [Option.bind_eq_bind, Option.bind_some, hlabels, skipBlanks_space, hskip, htake, hdrop,
    hv]
  rfl

/-- A sample with one label, whose value is quoted as `quoted`. -/
theorem parseSample_label (hname : IsWord isNameStart isNameChar name)
    (ht : ∀ c ∈ t, isPlain c = true) (hv : Value.parse t = some v)
    {label value quoted : List Char} (hlabel : IsWord isLabelStart isLabelChar label)
    (hquoted : ∀ s, readLabelValue (quoted ++ '"' :: s) = some (value, s)) :
    parseSample (name ++ '{' :: (label ++ '=' :: '"' :: (quoted ++ '"' :: '}' :: ' ' :: t))) =
      some { name, labels := [(label, value)], value := v } := by
  obtain ⟨hskip, htake, hdrop⟩ := token_of_plain ht
  have hread : readLabelSet ('{' :: (label ++ '=' :: '"' :: (quoted ++ '"' :: '}' :: ' ' :: t))) =
      some ([(label, value)], ' ' :: t) := by
    have hbrace (s : List Char) : skipBlanks ('{' :: s) = '{' :: s := rfl
    have hclose (s : List Char) : skipBlanks ('}' :: s) = '}' :: s := rfl
    rw [readLabelSet, hbrace, expect_self]
    simp only
    rw [readLabels, skipBlanks_word hlabel (by decide), expect_of_ne (hlabel.head?_ne (by decide) _),
      readLabel_quoted hlabel (hquoted _)]
    simp [hclose, expect]
  rw [parseSample, readWord_append hname (stopsAt_cons (by decide) _)]
  simp only [Option.bind_eq_bind, Option.bind_some, hread, skipBlanks_space, hskip, htake, hdrop,
    hv]
  rfl

/-- The same where the label name has a colon. -/
theorem parseSample_colon (hname : IsWord isNameStart isNameChar name) {label : List Char}
    (hlabel : IsWord isNameStart isNameChar label) (hcolon : ':' ∈ label) (s : List Char) :
    parseSample (name ++ '{' :: (label ++ s)) = none := by
  have hread : readLabelSet ('{' :: (label ++ s)) = none := by
    have hbrace (s : List Char) : skipBlanks ('{' :: s) = '{' :: s := rfl
    rw [readLabelSet, hbrace, expect_self]
    simp only
    rw [readLabels, skipBlanks_word hlabel (by decide), expect_of_ne (hlabel.head?_ne (by decide) s),
      readLabel_colon hlabel hcolon]
    rfl
  rw [parseSample, readWord_append hname (stopsAt_cons (by decide) _)]
  simp only [Option.bind_eq_bind, Option.bind_some, hread]
  rfl

/-- A line that begins with a metric name is a sample. -/
theorem parseLine_name (hname : IsWord isNameStart isNameChar name) (s : List Char) :
    parseLine (name ++ s) = (parseSample (name ++ s)).map .sample := by
  rw [parseLine, skipBlanks_word hname (by decide)]
  split
  · next heq =>
      obtain ⟨c, w, rfl, -, -⟩ := hname
      cases heq
  · next s' heq => exact absurd (congrArg List.head? heq) (hname.head?_ne (by decide) s)
  · rfl

end

/-- A HELP line with the docstring as it is escaped. -/
theorem parseLine_help {name : List Char} (hname : IsWord isNameStart isNameChar name)
    {escaped doc : List Char} (hdoc : unescapeHelp (trimBlanks escaped) = some doc) :
    parseLine ("# HELP ".toList ++ name ++ ' ' :: escaped) = some (.help name doc) := by
  have hskip := skipBlanks_word hname (by decide) (' ' :: escaped)
  have hread := readWord_append hname (stopsAt_cons (by decide : isNameChar ' ' = false) escaped)
  have htrim : trimBlanks (' ' :: escaped) = trimBlanks escaped := rfl
  have hcomment : parseLine ("# HELP ".toList ++ name ++ ' ' :: escaped) =
      parseComment (" HELP ".toList ++ (name ++ ' ' :: escaped)) := by
    rw [List.append_assoc]
    rfl
  have hkeyword : ((skipBlanks (" HELP ".toList ++ (name ++ ' ' :: escaped))).takeWhile
      fun c => !isBlank c) = "HELP".toList := rfl
  have hrest : skipBlanks ((skipBlanks (" HELP ".toList ++ (name ++ ' ' :: escaped))).dropWhile
      fun c => !isBlank c) = skipBlanks (name ++ ' ' :: escaped) := rfl
  rw [hcomment, parseComment]
  simp only [hkeyword, hrest, hskip, if_true, hread, Option.bind_eq_bind, Option.bind_some, htrim,
    hdoc]
  rfl

theorem parseLine_type {name : List Char} (hname : IsWord isNameStart isNameChar name)
    (kind : Kind) :
    parseLine ("# TYPE ".toList ++ name ++ ' ' :: kind.text) = some (.type name kind) := by
  have hskip := skipBlanks_word hname (by decide) (' ' :: kind.text)
  have hread := readWord_append hname (stopsAt_cons (by decide : isNameChar ' ' = false) kind.text)
  have hcomment : parseLine ("# TYPE ".toList ++ name ++ ' ' :: kind.text) =
      parseComment (" TYPE ".toList ++ (name ++ ' ' :: kind.text)) := by
    rw [List.append_assoc]
    rfl
  have hkeyword : ((skipBlanks (" TYPE ".toList ++ (name ++ ' ' :: kind.text))).takeWhile
      fun c => !isBlank c) = "TYPE".toList := rfl
  have hrest : skipBlanks ((skipBlanks (" TYPE ".toList ++ (name ++ ' ' :: kind.text))).dropWhile
      fun c => !isBlank c) = skipBlanks (name ++ ' ' :: kind.text) := rfl
  have hkind : Kind.parse (trimBlanks (' ' :: kind.text)) = some kind := by
    cases kind <;> decide
  have hother : "TYPE".toList ≠ "HELP".toList := by decide
  rw [hcomment, parseComment]
  simp only [hkeyword, hrest, hskip, hother, if_true, if_false, hread, Option.bind_eq_bind,
    Option.bind_some, hkind, Option.map_some]

-- ============================================================================
-- Reading pages
-- ============================================================================

/-- Lines, each ended by a line feed, are split again. -/
theorem splitOn_lines {lines : List (List Char)} (h : ∀ line ∈ lines, '\n' ∉ line) :
    (lines.flatMap fun line => line ++ ['\n']).splitOn '\n' = lines ++ [[]] := by
  induction lines with
  | nil => rfl
  | cons line lines ih =>
      have hline : '\n' ∉ line := h line List.mem_cons_self
      have hrest := ih fun l hl => h l (List.mem_cons_of_mem _ hl)
      rw [List.flatMap_cons, List.append_assoc, List.singleton_append,
        List.splitOn_append_cons_self_of_not_mem hline, hrest, List.cons_append]

theorem parsePage_lines {lines : List (List Char)} (h : ∀ line ∈ lines, '\n' ∉ line) :
    parsePage (lines.flatMap fun line => line ++ ['\n']) =
      (lines.mapM parseLine).bind fun parsed =>
        if ((parsed.foldl addLine []).reverse.flatMap Group.names).Nodup then
          some (parsed.foldl addLine []).reverse
        else none := by
  rw [parsePage, splitOn_lines h, List.getLast?_concat, List.dropLast_concat, if_pos rfl]
  rfl

/-- One line that cannot be read makes the page invalid. -/
theorem parsePage_of_line {lines : List (List Char)} (h : ∀ line ∈ lines, '\n' ∉ line)
    {line : List Char} (hmem : line ∈ lines) (hnone : parseLine line = none) :
    parsePage (lines.flatMap fun line => line ++ ['\n']) = none := by
  have hmap : lines.mapM parseLine = none := by
    clear h
    induction lines with
    | nil => cases hmem
    | cons l lines ih =>
        rw [List.mapM_cons]
        rcases List.mem_cons.mp hmem with rfl | hmem
        · rw [hnone]
          rfl
        · rw [ih hmem]
          cases parseLine l <;> rfl
  rw [parsePage_lines h, hmap]
  rfl

namespace Group

/-- The lines of a group, as read. -/
def lines (g : Group) : List Line :=
  .help g.name (g.help.getD []) :: .type g.name (g.kind.getD .untyped) :: g.samples.map .sample

/-- A group with both comment lines, and samples of its own names. -/
structure Complete (g : Group) : Prop where
  help : g.help.isSome
  kind : g.kind.isSome
  samples : ∀ s ∈ g.samples, s.name ∈ g.sampleNames

end Group

theorem foldl_addLine_samples {g : Group} {samples : List Sample}
    (h : ∀ s ∈ samples, s.name ∈ g.sampleNames) (gs : List Group) :
    (samples.map Line.sample).foldl addLine (g :: gs) =
      { g with samples := g.samples ++ samples } :: gs := by
  induction samples generalizing g with
  | nil => simp
  | cons s samples ih =>
      have hadd : addLine (g :: gs) (.sample s) = { g with samples := g.samples ++ [s] } :: gs :=
        if_pos (h s List.mem_cons_self)
      rw [List.map_cons, List.foldl_cons, hadd,
        ih (g := { g with samples := g.samples ++ [s] })
          (fun s' hs' => h s' (List.mem_cons_of_mem _ hs')), List.append_assoc]
      rfl

/-- The lines of a group, behind other groups that have their comment lines, are that group. -/
theorem foldl_addLine_group {g : Group} (hg : g.Complete) {gs : List Group}
    (hgs : ∀ g' ∈ gs, g'.help ≠ none) : g.lines.foldl addLine gs = g :: gs := by
  obtain ⟨name, help, kind, samples⟩ := g
  obtain ⟨hhelp, hkind, hsamples⟩ := hg
  obtain ⟨doc, rfl⟩ := Option.isSome_iff_exists.mp hhelp
  obtain ⟨kind, rfl⟩ := Option.isSome_iff_exists.mp hkind
  have hfirst : addLine gs (.help name doc) = { name, help := some doc } :: gs := by
    cases gs with
    | nil => rfl
    | cons g' gs => exact if_neg fun h => hgs g' List.mem_cons_self h.2.1
  have hsecond : addLine ({ name, help := some doc } :: gs) (.type name kind) =
      { name, help := some doc, kind := some kind } :: gs := if_pos ⟨rfl, rfl, rfl⟩
  show (samples.map Line.sample).foldl addLine
    (addLine (addLine gs (.help name doc)) (.type name kind)) = _
  rw [hfirst, hsecond,
    foldl_addLine_samples (g := { name, help := some doc, kind := some kind }) hsamples,
    List.nil_append]

theorem foldl_addLine_groups {groups : List Group} (h : ∀ g ∈ groups, g.Complete)
    {gs : List Group} (hgs : ∀ g' ∈ gs, g'.help ≠ none) :
    (groups.flatMap Group.lines).foldl addLine gs = groups.reverse ++ gs := by
  induction groups generalizing gs with
  | nil => rfl
  | cons g groups ih =>
      have hg := h g List.mem_cons_self
      rw [List.flatMap_cons, List.foldl_append, foldl_addLine_group hg hgs, List.reverse_cons,
        List.append_assoc, List.singleton_append]
      apply ih fun g' hg' => h g' (List.mem_cons_of_mem _ hg')
      intro g' hg'
      rcases List.mem_cons.mp hg' with rfl | hg'
      · exact Option.isSome_iff_ne_none.mp hg.help
      · exact hgs g' hg'

/-- **A page of complete groups**, block after block, is read as these groups, provided that no
    name belongs to two of them. -/
theorem parsePage_groups {α : Type*} {blocks : List α} {text : α → List (List Char)}
    {group : α → Group} (hlines : ∀ b ∈ blocks, ∀ line ∈ text b, '\n' ∉ line)
    (hread : ∀ b ∈ blocks, (text b).mapM parseLine = some (group b).lines)
    (hcomplete : ∀ b ∈ blocks, (group b).Complete) :
    parsePage ((blocks.flatMap text).flatMap fun line => line ++ ['\n']) =
      if ((blocks.map group).flatMap Group.names).Nodup then some (blocks.map group)
      else none := by
  have hmap : (blocks.flatMap text).mapM parseLine = some ((blocks.map group).flatMap Group.lines)
      := by
    clear hlines hcomplete
    induction blocks with
    | nil => rfl
    | cons b blocks ih =>
        rw [List.flatMap_cons, List.mapM_append, hread b List.mem_cons_self,
          ih fun b' hb' => hread b' (List.mem_cons_of_mem _ hb')]
        rfl
  have hall : ∀ g ∈ blocks.map group, g.Complete := by simpa using hcomplete
  have hfold := foldl_addLine_groups hall (by simp : ∀ g ∈ ([] : List Group), g.help ≠ none)
  rw [parsePage_lines (by
    intro line hline
    obtain ⟨b, hb, hline⟩ := List.mem_flatMap.mp hline
    exact hlines b hb line hline), hmap]
  simp only [Option.bind_some, hfold, List.append_nil, List.reverse_reverse]

-- ============================================================================
-- Names and series
-- ============================================================================

namespace Group

theorem mem_names_of_mem_sampleNames {g : Group} {name : List Char} (h : name ∈ g.sampleNames) :
    name ∈ g.names := by
  by_cases heq : name = g.name
  · exact heq ▸ List.mem_cons_self
  · exact List.mem_cons_of_mem _ (List.mem_filter.mpr ⟨h, by simpa using heq⟩)

theorem names_nodup (g : Group) : g.names.Nodup := by
  have hsamples : g.sampleNames.Nodup := by
    obtain ⟨name, help, kind, samples⟩ := g
    cases kind with
    | none => exact List.nodup_singleton _
    | some kind =>
        cases kind <;> simp [sampleNames]
  rw [names, List.nodup_cons]
  exact ⟨fun h => by simpa using (List.mem_filter.mp h).2, hsamples.filter _⟩

end Group

/-- When no name belongs to two groups, a series can only occur twice within a group. -/
theorem series_nodup_iff {groups : List Group} (hnames : (groups.flatMap Group.names).Nodup)
    (hcomplete : ∀ g ∈ groups, g.Complete) :
    (series groups).Nodup ↔ ∀ g ∈ groups, (g.samples.map Sample.series).Nodup := by
  have hpairs := (List.nodup_flatMap.mp hnames).2
  rw [series, List.nodup_flatMap, and_iff_left]
  apply hpairs.imp_of_mem
  intro g g' hg hg' hdisjoint key hkey hkey'
  obtain ⟨s, hs, rfl⟩ := List.mem_map.mp hkey
  obtain ⟨s', hs', heq⟩ := List.mem_map.mp hkey'
  have hname : s'.name = s.name := congrArg Prod.fst heq
  have hmem := Group.mem_names_of_mem_sampleNames ((hcomplete g hg).samples s hs)
  have hmem' := Group.mem_names_of_mem_sampleNames ((hcomplete g' hg').samples s' hs')
  exact hdisjoint hmem (hname ▸ hmem')

end Exposition
