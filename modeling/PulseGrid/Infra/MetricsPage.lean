/-
  PulseGrid.Infra.MetricsPage

  What a scraper makes of the metrics page.

  `Entry.contents` is what the page is to say about a metric.  `parsePage_render` gives what
  the parser makes of the page of any registry, and `page_valid_iff` when that is what the page
  is to say: label names without a colon, help texts without blanks at their ends, bounds with
  different texts, and no metric named like a derived sample of a histogram.
-/

import PulseGrid.Infra.MetricsText

namespace PulseGrid.Infra

open Exposition

-- ============================================================================
-- What the page is to say
-- ============================================================================

namespace Collector

def kindOf : Collector → Kind
  | .counter _ => .counter
  | .gauge _ => .gauge
  | .counterVec _ => .counter
  | .histogram _ => .histogram

/-- A count under a name and one label. -/
def labelledCount (name label value : List Char) (n : UInt64) : Sample :=
  { name, labels := [(label, value)], value := .decimal n.toNat 0 }

/-- The current counts of a collector.  The sum of a histogram is the number that its text
    says. -/
def samples (name : List Char) : Collector → List Sample
  | .counter v => [{ name, labels := [], value := .decimal v.toNat 0 }]
  | .gauge v => [{ name, labels := [], value := .decimal v.toInt 0 }]
  | .counterVec vec => vec.rows.map fun row => labelledCount name vec.label row.1 row.2
  | .histogram h =>
      h.render.buckets.map (fun row =>
        labelledCount (name ++ "_bucket".toList) "le".toList row.1.display row.2) ++
      [labelledCount (name ++ "_bucket".toList) "le".toList "+Inf".toList h.render.inf,
        { name := name ++ "_sum".toList, labels := [],
          value := (Value.parse h.render.sum.display).getD .nan },
        { name := name ++ "_count".toList, labels := [],
          value := .decimal h.render.count.toNat 0 }]

end Collector

namespace Entry

/-- A metric with the given help text. -/
def group (e : Entry) (help : List Char) : Group :=
  { name := e.name, help := some help, kind := some e.collector.kindOf,
    samples := e.collector.samples e.name }

def contents (e : Entry) : Group := e.group e.help

/-- The names of samples that are not the name of the metric. -/
def derivedNames (e : Entry) : List (List Char) :=
  match e.collector with
  | .histogram _ => ["_bucket", "_sum", "_count"].map fun suffix => e.name ++ suffix.toList
  | _ => []

/-- A label name that has to be written has no colon. -/
def LabelOk (e : Entry) : Prop :=
  match e.collector with
  | .counterVec vec => vec.rows = [] ∨ ':' ∉ vec.label
  | _ => True

/-- The bounds of a histogram are told apart by their texts. -/
def BoundsOk (e : Entry) : Prop :=
  match e.collector with
  | .histogram h => (h.bounds.map Float64.display).Nodup
  | _ => True

instance : (e : Entry) → Decidable e.LabelOk
  | ⟨_, _, .counterVec vec, _⟩ => inferInstanceAs (Decidable (vec.rows = [] ∨ ':' ∉ vec.label))
  | ⟨_, _, .counter _, _⟩ => isTrue trivial
  | ⟨_, _, .gauge _, _⟩ => isTrue trivial
  | ⟨_, _, .histogram _, _⟩ => isTrue trivial

instance : (e : Entry) → Decidable e.BoundsOk
  | ⟨_, _, .histogram h, _⟩ => inferInstanceAs (Decidable (h.bounds.map Float64.display).Nodup)
  | ⟨_, _, .counter _, _⟩ => isTrue trivial
  | ⟨_, _, .gauge _, _⟩ => isTrue trivial
  | ⟨_, _, .counterVec _, _⟩ => isTrue trivial

end Entry

namespace Registry

/-- The name, the help text and the kind of the metric that a call registers. -/
def Call.registered : Call → Option (List Char × Option (List Char) × Option Kind)
  | .counter name help => some (name, some help, some .counter)
  | .gauge name help => some (name, some help, some .gauge)
  | .counterVec name help _ => some (name, some help, some .counter)
  | .histogram name help _ => some (name, some help, some .histogram)
  | .update _ _ => none

/-- The page is valid after the calls: it is read as metrics with the registered help texts and
    kinds and the current counts, and no series occurs twice. -/
def ValidPage (calls : List Call) (registry : Registry) : Prop :=
  ∃ groups, parsePage registry.render = some groups ∧
    groups.map (fun g => (g.name, g.help, g.kind)) = calls.filterMap Call.registered ∧
    groups.map Group.samples = registry.entries.map (fun e => e.collector.samples e.name) ∧
    (series groups).Nodup

/-- What the page needs and registration does not check. -/
structure Presentable (registry : Registry) : Prop where
  help : ∀ e ∈ registry.entries, trimBlanks e.help = e.help
  label : ∀ e ∈ registry.entries, e.LabelOk
  bounds : ∀ e ∈ registry.entries, e.BoundsOk
  derived : ∀ e ∈ registry.entries, ∀ name ∈ e.derivedNames,
    name ∉ registry.entries.map Entry.name

instance (registry : Registry) : Decidable registry.Presentable :=
  decidable_of_iff ((∀ e ∈ registry.entries, trimBlanks e.help = e.help) ∧
      (∀ e ∈ registry.entries, e.LabelOk) ∧ (∀ e ∈ registry.entries, e.BoundsOk) ∧
      ∀ e ∈ registry.entries, ∀ name ∈ e.derivedNames, name ∉ registry.entries.map Entry.name)
    ⟨fun ⟨help, label, bounds, derived⟩ => ⟨help, label, bounds, derived⟩,
      fun ⟨help, label, bounds, derived⟩ => ⟨help, label, bounds, derived⟩⟩

end Registry

-- ============================================================================
-- One metric is read
-- ============================================================================

theorem kind_eq (c : Collector) : c.kind = c.kindOf.text := by
  cases c <;> rfl

section

variable {name label value quoted text : List Char} {n : UInt64}

theorem parseLine_plain {v : Value} (hname : IsWord isNameStart isNameChar name)
    (htext : (∀ c ∈ text, isPlain c = true) ∧ Value.parse text = some v) :
    parseLine (name ++ ' ' :: text) = some (.sample { name, labels := [], value := v }) := by
  rw [parseLine_name hname, parseSample_plain hname htext.1 htext.2]
  rfl

theorem parseLine_labelled (hname : IsWord isNameStart isNameChar name)
    (hlabel : IsWord isLabelStart isLabelChar label)
    (hquoted : ∀ s, readLabelValue (quoted ++ '"' :: s) = some (value, s)) :
    parseLine (Collector.labelled name label quoted (u64Text n)) =
      some (.sample (Collector.labelledCount name label value n)) := by
  obtain ⟨hplain, hparse⟩ := u64Text_reads n
  rw [Collector.labelled, parseLine_name hname,
    parseSample_label hname hplain hparse hlabel hquoted]
  rfl

theorem parseLine_labelled_colon (hname : IsWord isNameStart isNameChar name)
    (hlabel : IsWord isNameStart isNameChar label) (hcolon : ':' ∈ label) :
    parseLine (Collector.labelled name label quoted text) = none := by
  rw [Collector.labelled, parseLine_name hname, parseSample_colon hname hlabel hcolon]
  rfl

end

/-- A plain text needs no escape. -/
theorem readLabelValue_plain {t : List Char} (ht : ∀ c ∈ t, isPlain c = true) (s : List Char) :
    readLabelValue (t ++ '"' :: s) = some (t, s) := by
  apply readLabelValue_verbatim
  intro c hc
  exact ⟨ne_of_isPlain (ht c hc) (by decide), ne_of_isPlain (ht c hc) (by decide),
    ne_of_isPlain (ht c hc) (by decide)⟩

theorem readLabelValue_inf (s : List Char) :
    readLabelValue ("+Inf".toList ++ '"' :: s) = some ("+Inf".toList, s) := rfl

/-- A list that is read element by element. -/
theorem mapM_map_some {α β γ : Type*} {read : β → Option γ} {write : α → β} {back : α → γ}
    (as : List α) (h : ∀ a ∈ as, read (write a) = some (back a)) :
    (as.map write).mapM read = some (as.map back) := by
  induction as with
  | nil => rfl
  | cons a as ih =>
      rw [List.map_cons, List.mapM_cons, h a List.mem_cons_self,
        ih fun a' ha' => h a' (List.mem_cons_of_mem _ ha')]
      rfl

/-- The samples of a collector are read, unless its label name has a colon. -/
theorem mapM_collectorLines (e : Entry) (hlabel : e.LabelOk) :
    (e.collector.lines e.name).mapM parseLine =
      some ((e.collector.samples e.name).map Line.sample) := by
  have hname := isWord_of_validName e.name_valid
  obtain ⟨name, help, collector, hvalid⟩ := e
  cases collector with
  | counter v =>
      rw [Collector.lines, List.mapM_cons, parseLine_plain hname (u64Text_reads v)]
      rfl
  | gauge v =>
      rw [Collector.lines, List.mapM_cons, parseLine_plain hname (i64Text_reads v)]
      rfl
  | counterVec vec =>
      rw [Collector.lines, Collector.samples, List.map_map]
      rcases hlabel with hrows | hcolon
      · have hrows : vec.rows = [] := hrows
        rw [hrows]
        rfl
      · apply mapM_map_some
        intro row _
        exact parseLine_labelled hname (isWord_label vec.label_valid hcolon)
          (readLabelValue_escapeLabelValue row.1)
  | histogram h =>
      have hbucket := isWord_append hvalid (by decide : "_bucket".toList.all isNameChar = true)
      have hsum := isWord_append hvalid (by decide : "_sum".toList.all isNameChar = true)
      have hcount := isWord_append hvalid (by decide : "_count".toList.all isNameChar = true)
      have hle : IsWord isLabelStart isLabelChar "le".toList :=
        ⟨'l', ['e'], rfl, by decide, List.all_eq_true.mp (by decide)⟩
      have hbuckets := mapM_map_some h.render.buckets fun row _ =>
        parseLine_labelled (n := row.2) hbucket hle (readLabelValue_plain (display_reads row.1).1)
      have hinf := parseLine_labelled (n := h.render.inf) hbucket hle readLabelValue_inf
      obtain ⟨hplain, hsome⟩ := display_reads h.render.sum
      obtain ⟨v, hv⟩ := Option.isSome_iff_exists.mp hsome
      have hsumLine := parseLine_plain hsum ⟨hplain, hv⟩
      have hcountLine := parseLine_plain hcount (u64Text_reads h.render.count)
      rw [Collector.lines, Collector.samples, List.mapM_append, hbuckets, List.mapM_cons, hinf,
        List.mapM_cons, hsumLine, List.mapM_cons, hcountLine, hv]
      simp

/-- A row under a label name with a colon is not read. -/
theorem exists_unreadable_line {e : Entry} (h : ¬e.LabelOk) :
    ∃ line ∈ e.lines, parseLine line = none := by
  have hname := isWord_of_validName e.name_valid
  obtain ⟨name, help, collector, hvalid⟩ := e
  cases collector with
  | counterVec vec =>
      obtain ⟨hrows, hcolon⟩ := not_or.mp h
      obtain ⟨row, hrow⟩ := List.exists_mem_of_ne_nil _ hrows
      refine ⟨_, List.mem_cons_of_mem _ (List.mem_cons_of_mem _ (List.mem_map_of_mem hrow)), ?_⟩
      exact parseLine_labelled_colon hname (isWord_of_validName vec.label_valid)
        (not_not.mp hcolon)
  | counter v => exact absurd trivial h
  | gauge v => exact absurd trivial h
  | histogram hist => exact absurd trivial h

theorem Entry.mapM_lines (e : Entry) (hlabel : e.LabelOk) :
    e.lines.mapM parseLine = some (e.group (trimBlanks e.help)).lines := by
  have hname := isWord_of_validName e.name_valid
  rw [Entry.lines, List.mapM_cons, parseLine_help hname (unescapeHelp_trimBlanks e.help),
    List.mapM_cons, kind_eq, parseLine_type hname, mapM_collectorLines e hlabel]
  rfl

theorem Entry.group_complete (e : Entry) (help : List Char) : (e.group help).Complete where
  help := rfl
  kind := rfl
  samples := by
    obtain ⟨name, _, collector, _⟩ := e
    intro s hs
    cases collector with
    | counter v => simp_all [Entry.group, Collector.samples, Group.sampleNames, Collector.kindOf]
    | gauge v => simp_all [Entry.group, Collector.samples, Group.sampleNames, Collector.kindOf]
    | counterVec vec =>
        obtain ⟨row, -, rfl⟩ := List.mem_map.mp hs
        exact List.mem_singleton_self _
    | histogram h =>
        rcases List.mem_append.mp hs with hs | hs
        · obtain ⟨row, -, rfl⟩ := List.mem_map.mp hs
          exact List.mem_cons_self
        · simp only [List.mem_cons, List.not_mem_nil, or_false] at hs
          rcases hs with rfl | rfl | rfl
          · exact List.mem_cons_self
          · exact List.mem_cons_of_mem _ List.mem_cons_self
          · exact List.mem_cons_of_mem _ (List.mem_cons_of_mem _ List.mem_cons_self)

-- ============================================================================
-- No line holds a line feed
-- ============================================================================

theorem newline_notMem_name {name : List Char} (h : validName name = true) : '\n' ∉ name := by
  intro hmem
  have hchar := isNameChar_of_mem h hmem
  cases hchar

theorem newline_notMem_plain {t : List Char} (h : ∀ c ∈ t, isPlain c = true) : '\n' ∉ t := by
  intro hmem
  have hchar := h _ hmem
  cases hchar

theorem newline_notMem_labelled {name label quoted text : List Char} (hname : '\n' ∉ name)
    (hlabel : '\n' ∉ label) (hquoted : '\n' ∉ quoted) (htext : '\n' ∉ text) :
    '\n' ∉ Collector.labelled name label quoted text := by
  simp [Collector.labelled, hname, hlabel, hquoted, htext]

theorem newline_notMem_collectorLines (e : Entry) :
    ∀ line ∈ e.collector.lines e.name, '\n' ∉ line := by
  have hname := newline_notMem_name e.name_valid
  obtain ⟨name, _, collector, _⟩ := e
  intro line hline
  have hu64 (n : UInt64) := newline_notMem_plain (u64Text_reads n).1
  have hdisplay (x : Float64) := newline_notMem_plain (display_reads x).1
  cases collector with
  | counter v =>
      rw [List.mem_singleton.mp hline]
      simp [hname, hu64]
  | gauge v =>
      rw [List.mem_singleton.mp hline]
      simp [hname, newline_notMem_plain (i64Text_reads v).1]
  | counterVec vec =>
      obtain ⟨row, -, rfl⟩ := List.mem_map.mp hline
      exact newline_notMem_labelled hname (newline_notMem_name vec.label_valid)
        (notMem_replace (by decide) _) (hu64 _)
  | histogram h =>
      have hbucket : '\n' ∉ name ++ "_bucket".toList := by simp [hname]
      rcases List.mem_append.mp hline with hline | hline
      · obtain ⟨row, -, rfl⟩ := List.mem_map.mp hline
        exact newline_notMem_labelled hbucket (by decide) (hdisplay _) (hu64 _)
      · simp only [List.mem_cons, List.not_mem_nil, or_false] at hline
        rcases hline with rfl | rfl | rfl
        · exact newline_notMem_labelled hbucket (by decide) (by decide) (hu64 _)
        · simp [hname, hdisplay]
        · simp [hname, hu64]

theorem newline_notMem_lines (e : Entry) : ∀ line ∈ e.lines, '\n' ∉ line := by
  have hname := newline_notMem_name e.name_valid
  intro line hline
  rcases List.mem_cons.mp hline with rfl | hline
  · have hhelp : '\n' ∉ escapeHelp e.help := notMem_replace (by decide) _
    simp [hname, hhelp]
  · rcases List.mem_cons.mp hline with rfl | hline
    · rw [kind_eq]
      have hkind : '\n' ∉ e.collector.kindOf.text := by
        cases e.collector.kindOf <;> decide
      simp [hname, hkind]
    · exact newline_notMem_collectorLines e line hline

-- ============================================================================
-- Each name in one group
-- ============================================================================

theorem mem_names {e : Entry} {help name : List Char} :
    name ∈ (e.group help).names ↔ name = e.name ∨ name ∈ e.derivedNames := by
  obtain ⟨_, _, collector, _⟩ := e
  cases collector <;>
    simp [Group.names, Group.sampleNames, Entry.group, Entry.derivedNames, Collector.kindOf]

theorem exists_suffix {e : Entry} {name : List Char} (h : name ∈ e.derivedNames) :
    ∃ suffix ∈ ["_bucket", "_sum", "_count"], e.name ++ suffix.toList = name := by
  obtain ⟨_, _, collector, _⟩ := e
  cases collector with
  | histogram _ => exact List.mem_map.mp h
  | counter _ => cases h
  | gauge _ => cases h
  | counterVec _ => cases h

theorem ne_of_mem_derivedNames {e : Entry} {name : List Char} (h : name ∈ e.derivedNames) :
    name ≠ e.name := by
  obtain ⟨suffix, hsuffix, rfl⟩ := exists_suffix h
  have hne : ∀ suffix ∈ ["_bucket", "_sum", "_count"], suffix.toList ≠ [] := by decide
  exact fun heq => hne suffix hsuffix (List.append_right_eq_self.mp heq)

/-- A derived name says whose it is: the last two characters tell its suffix. -/
theorem eq_of_mem_derivedNames {e e' : Entry} {name : List Char} (h : name ∈ e.derivedNames)
    (h' : name ∈ e'.derivedNames) : e.name = e'.name := by
  obtain ⟨suffix, hsuffix, rfl⟩ := exists_suffix h
  obtain ⟨suffix', hsuffix', heq⟩ := exists_suffix h'
  have hends : ∀ s ∈ ["_bucket", "_sum", "_count"], ∀ s' ∈ ["_bucket", "_sum", "_count"],
      2 ≤ s.toList.reverse.length ∧
        (s.toList.reverse.take 2 = s'.toList.reverse.take 2 → s = s') := by decide
  have hlong := (hends suffix hsuffix suffix' hsuffix').1
  have hlong' := (hends suffix' hsuffix' suffix hsuffix).1
  have htake := congrArg (fun s => s.reverse.take 2) heq
  simp only [List.reverse_append, List.take_append_of_le_length hlong,
    List.take_append_of_le_length hlong'] at htake
  have hsame := (hends suffix hsuffix suffix' hsuffix').2 htake.symm
  rw [← hsame] at heq
  exact (List.append_cancel_right heq).symm

theorem names_nodup_iff (registry : Registry) (help : Entry → List Char) :
    ((registry.entries.map fun e => e.group (help e)).flatMap Group.names).Nodup ↔
      ∀ e ∈ registry.entries, ∀ name ∈ e.derivedNames,
        name ∉ registry.entries.map Entry.name := by
  have hdistinct : registry.entries.Pairwise fun e e' => e.name ≠ e'.name :=
    List.pairwise_map.mp registry.names_nodup
  rw [List.flatMap_map, List.nodup_flatMap]
  constructor
  · rintro ⟨-, hdisjoint⟩ e he name hname hmem
    obtain ⟨e', he', rfl⟩ := List.mem_map.mp hmem
    have hne : e ≠ e' := by
      rintro rfl
      exact ne_of_mem_derivedNames hname rfl
    have hsymm : Std.Symm fun e e' : Entry =>
        List.Disjoint (e.group (help e)).names (e'.group (help e')).names :=
      ⟨fun _ _ h => h.symm⟩
    exact hdisjoint.forall he he' hne (mem_names.mpr (.inr hname)) (mem_names.mpr (.inl rfl))
  · intro hderived
    refine ⟨fun e _ => Group.names_nodup _, ?_⟩
    apply hdistinct.imp_of_mem
    intro e e' he he' hne name hname hname'
    rcases mem_names.mp hname with rfl | hname
    · rcases mem_names.mp hname' with heq | hname'
      · exact hne heq
      · exact hderived e' he' _ hname' (List.mem_map_of_mem he)
    · rcases mem_names.mp hname' with rfl | hname'
      · exact hderived e he _ hname (List.mem_map_of_mem he')
      · exact hne (eq_of_mem_derivedNames hname hname')

-- ============================================================================
-- Each series once
-- ============================================================================

theorem render_bounds (h : Histogram) : h.render.buckets.map Prod.fst = h.bounds := by
  have hback : (h.buckets.map UInt64.toNat).map UInt64.ofNat = h.buckets := by
    simp [Function.comp_def]
  have hlen : (h.buckets.map UInt64.toNat).length = h.bounds.length + 1 := by
    rw [List.length_map, h.buckets_length]
  have hrows := Histogram.cumulative_ofNat hlen 0
  rw [hback] at hrows
  exact hrows.1

theorem samples_nodup_iff (e : Entry) :
    ((e.collector.samples e.name).map Sample.series).Nodup ↔ e.BoundsOk := by
  obtain ⟨name, _, collector, _⟩ := e
  cases collector with
  | counter v => exact iff_of_true (List.nodup_singleton _) trivial
  | gauge v => exact iff_of_true (List.nodup_singleton _) trivial
  | counterVec vec =>
      apply iff_of_true _ trivial
      have hkeys : (vec.rows.map Prod.fst).Nodup :=
        ((List.perm_insertionSort RowLE vec.values.iter).map Prod.fst).nodup_iff.mpr
          vec.values.nodup_keys_iter
      have hmap : ((Collector.counterVec vec).samples name).map Sample.series =
          (vec.rows.map Prod.fst).map fun value => (name, [(vec.label, value)]) := by
        rw [Collector.samples, List.map_map, List.map_map]
        rfl
      rw [hmap]
      apply hkeys.map
      intro value value' heq
      simpa using heq
  | histogram h =>
      have hmap : ((Collector.histogram h).samples name).map Sample.series =
          ((h.bounds.map Float64.display).map fun le =>
            (name ++ "_bucket".toList, [("le".toList, le)])) ++
          [(name ++ "_bucket".toList, [("le".toList, "+Inf".toList)]),
            (name ++ "_sum".toList, []), (name ++ "_count".toList, [])] := by
        rw [← render_bounds, Collector.samples, List.map_append, List.map_map, List.map_map,
          List.map_map]
        rfl
      have hlast : [(name ++ "_bucket".toList, [("le".toList, "+Inf".toList)]),
          (name ++ "_sum".toList, []), (name ++ "_count".toList, [])].Nodup := by
        simp
      have hapart : ∀ x : Float64, x.display ≠ "+Inf".toList := by
        intro x heq
        have hplus := (display_reads x).1 '+' (heq ▸ List.mem_cons_self)
        cases hplus
      show _ ↔ (h.bounds.map Float64.display).Nodup
      rw [hmap, List.nodup_append, List.nodup_map_iff, and_iff_left]
      · refine ⟨hlast, ?_⟩
        intro a ha b hb
        obtain ⟨le, hle, rfl⟩ := List.mem_map.mp ha
        obtain ⟨x, -, rfl⟩ := List.mem_map.mp hle
        simp only [List.mem_cons, List.not_mem_nil, or_false] at hb
        rcases hb with rfl | rfl | rfl
        · intro heq
          exact hapart x (congrArg Prod.snd (List.cons.inj (congrArg Prod.snd heq)).1)
        · simp
        · simp
      · intro le le' heq
        simpa using heq

-- ============================================================================
-- The page
-- ============================================================================

/-- Groups are told by their comment lines and their samples. -/
theorem groups_ext {groups groups' : List Group}
    (hcomments : groups.map (fun g => (g.name, g.help, g.kind)) =
      groups'.map fun g => (g.name, g.help, g.kind))
    (hsamples : groups.map Group.samples = groups'.map Group.samples) : groups = groups' := by
  induction groups generalizing groups' with
  | nil => exact (List.map_eq_nil_iff.mp hsamples.symm).symm
  | cons g groups ih =>
      cases groups' with
      | nil => cases hsamples
      | cons g' groups' =>
          obtain ⟨hcomment, hrest⟩ := List.cons.inj hcomments
          obtain ⟨hsample, hsamplesRest⟩ := List.cons.inj hsamples
          have hg : g = g' := by
            obtain ⟨name, help, kind, samples⟩ := g
            cases hcomment
            cases hsample
            rfl
          rw [hg, ih hrest hsamplesRest]

namespace Registry

/-- What the parser makes of the page, when every label name that is written has no colon. -/
theorem parsePage_render {registry : Registry}
    (hlabel : ∀ e ∈ registry.entries, e.LabelOk) :
    let parsed := registry.entries.map fun e => e.group (trimBlanks e.help)
    parsePage registry.render = if (parsed.flatMap Group.names).Nodup then some parsed else none := by
  apply parsePage_groups
  · exact fun e _ => newline_notMem_lines e
  · exact fun e he => e.mapM_lines (hlabel e he)
  · exact fun e _ => e.group_complete _

/-- One row under a label name with a colon makes the whole page invalid. -/
theorem labelOk_of_parsePage {registry : Registry} (h : parsePage registry.render ≠ none) :
    ∀ e ∈ registry.entries, e.LabelOk := by
  intro e he
  by_contra hlabel
  obtain ⟨line, hline, hnone⟩ := exists_unreadable_line hlabel
  apply h
  refine parsePage_of_line ?_ (List.mem_flatMap.mpr ⟨e, he, hline⟩) hnone
  intro line hline
  obtain ⟨e, -, hline⟩ := List.mem_flatMap.mp hline
  exact newline_notMem_lines e line hline

theorem register_entries {self self' : Registry} {name help : List Char} {collector : Collector}
    (h : self.register name help collector = some self') :
    ∃ hvalid, self'.entries =
      self.entries ++ [{ name, help, collector, name_valid := hvalid }] := by
  rw [register] at h
  split at h
  · next hnew =>
      cases h
      exact ⟨hnew.1, rfl⟩
  · cases h

theorem update_entries {self self' : Registry} {metric : Nat} {u : Update}
    (h : self.update metric u = some self') :
    ∃ entry collector, self.entries[metric]? = some entry ∧
      entry.collector.update u = some collector ∧
      self'.entries = self.entries.set metric { entry with collector } := by
  rw [update] at h
  split at h
  · next entry hentry =>
      obtain ⟨collector, hcollector, rfl⟩ := Option.map_eq_some_iff.mp h
      exact ⟨entry, collector, hentry, hcollector, rfl⟩
  · cases h

theorem kindOf_of_update {c c' : Collector} {u : Update} (h : c.update u = some c') :
    c'.kindOf = c.kindOf := by
  cases c <;> cases u <;> cases h <;> rfl

/-- A registration adds one metric at the end, and an update keeps what is registered. -/
theorem registered_of_apply {self self' : Registry} {call : Call}
    (h : self.apply call = some self') :
    self'.entries.map (fun e => (e.name, some e.help, some e.collector.kindOf)) =
      self.entries.map (fun e => (e.name, some e.help, some e.collector.kindOf)) ++
        call.registered.toList := by
  cases call with
  | counter name help =>
      obtain ⟨_, hentries⟩ := register_entries h
      rw [hentries, List.map_append]
      rfl
  | gauge name help =>
      obtain ⟨_, hentries⟩ := register_entries h
      rw [hentries, List.map_append]
      rfl
  | counterVec name help label =>
      rw [apply] at h
      split at h
      · obtain ⟨_, hentries⟩ := register_entries h
        rw [hentries, List.map_append]
        rfl
      · cases h
  | histogram name help bounds =>
      obtain ⟨hist, -, hregister⟩ := Option.bind_eq_some_iff.mp h
      obtain ⟨_, hentries⟩ := register_entries hregister
      rw [hentries, List.map_append]
      rfl
  | update metric u =>
      obtain ⟨entry, collector, hentry, hcollector, hentries⟩ := update_entries h
      obtain ⟨hlt, rfl⟩ := List.getElem?_eq_some_iff.mp hentry
      rw [hentries, List.map_set, kindOf_of_update hcollector]
      show _ = _ ++ []
      rw [List.append_nil]
      apply List.ext_getElem (by simp)
      intro i _ _
      rw [List.getElem_set]
      split
      · next heq => simp [heq]
      · rfl

theorem registered_of_run {calls : List Call} {self registry : Registry}
    (h : Transition.run apply self calls = some registry) :
    registry.entries.map (fun e => (e.name, some e.help, some e.collector.kindOf)) =
      self.entries.map (fun e => (e.name, some e.help, some e.collector.kindOf)) ++
        calls.filterMap Call.registered := by
  induction calls generalizing self with
  | nil =>
      cases Option.some.inj h
      exact (List.append_nil _).symm
  | cons call calls ih =>
      obtain ⟨self', hstep, hrest⟩ := Transition.run_cons_eq_some.mp h
      rw [ih hrest, registered_of_apply hstep, List.append_assoc]
      cases hcall : call.registered with
      | none => rw [List.filterMap_cons_none hcall]; rfl
      | some metric => rw [List.filterMap_cons_some hcall]; rfl

/-- The valid page says what the registry holds. -/
theorem validPage_iff_contents {calls : List Call} {registry : Registry}
    (h : run calls = some registry) :
    ValidPage calls registry ↔
      parsePage registry.render = some (registry.entries.map Entry.contents) ∧
        (series (registry.entries.map Entry.contents)).Nodup := by
  have hregistered := registered_of_run h
  rw [show (empty.entries.map fun e => (e.name, some e.help, some e.collector.kindOf)) = [] from
    rfl, List.nil_append] at hregistered
  constructor
  · rintro ⟨groups, hparse, hdescribed, hsamples, hnodup⟩
    have hgroups : groups = registry.entries.map Entry.contents := by
      apply groups_ext
      · rw [hdescribed, ← hregistered, List.map_map]
        rfl
      · rw [hsamples, List.map_map]
        rfl
    rw [← hgroups]
    exact ⟨hparse, hnodup⟩
  · rintro ⟨hparse, hnodup⟩
    refine ⟨_, hparse, ?_, ?_, hnodup⟩
    · rw [← hregistered, List.map_map]
      rfl
    · rw [List.map_map]
      rfl

/-- **The metrics page**: after any registrations and updates it is valid exactly when the
    registered metrics are presentable. -/
theorem page_valid_iff (calls : List Call) (registry : Registry)
    (hrun : run calls = some registry) : ValidPage calls registry ↔ registry.Presentable := by
  have hnames := names_nodup_iff registry fun e => trimBlanks e.help
  have hcontents := names_nodup_iff registry Entry.help
  have hcomplete : ∀ g ∈ registry.entries.map Entry.contents, g.Complete := by
    simpa using fun e _ => e.group_complete e.help
  have hseries := fun h => series_nodup_iff h hcomplete
  have hbounds : (∀ g ∈ registry.entries.map Entry.contents,
      (g.samples.map Sample.series).Nodup) ↔ ∀ e ∈ registry.entries, e.BoundsOk := by
    rw [List.forall_mem_map]
    exact forall₂_congr fun e _ => samples_nodup_iff e
  rw [validPage_iff_contents hrun]
  constructor
  · rintro ⟨hparse, hnodup⟩
    have hlabel := labelOk_of_parsePage (by rw [hparse]; simp)
    rw [parsePage_render hlabel] at hparse
    split at hparse
    · next hdistinct =>
        have hderived := hnames.mp hdistinct
        have hhelp := List.map_inj_left.mp (Option.some.inj hparse)
        exact {
          help := fun e he => Option.some.inj (congrArg Group.help (hhelp e he))
          label := hlabel
          bounds := hbounds.mp ((hseries (hcontents.mpr hderived)).mp hnodup)
          derived := hderived }
    · cases hparse
  · intro h
    constructor
    · have hparse := (parsePage_render h.label).trans (if_pos (hnames.mpr h.derived))
      rw [hparse]
      congr 1
      apply List.map_congr_left
      intro e he
      rw [h.help e he]
      rfl
    · exact (hseries (hcontents.mpr h.derived)).mpr (hbounds.mpr h.bounds)

/-- A registry with one metric of each kind. -/
def exampleCalls : List Call :=
  [.counter "jobs_total".toList "Jobs".toList,
    .counterVec "results_total".toList "Results".toList "status".toList,
    .gauge "depth".toList "Depth \\ now".toList,
    .histogram "age_seconds".toList "Age".toList [⟨0x3FE0000000000000⟩, ⟨0x3FF0000000000000⟩],
    .update 0 .counterInc, .update 1 (.vecInc "a\"\n\\".toList), .update 1 (.vecAdd "b".toList 7),
    .update 2 (.gaugeAdd (-3)), .update 3 (.observe ⟨0x3FE8000000000000⟩)]

theorem page_valid_iff_example :
    ValidPage exampleCalls ((run exampleCalls).get (by decide +kernel)) :=
  (page_valid_iff exampleCalls _ (Option.some_get _).symm).mpr (by decide +kernel)

/-- A label name with a colon is registered, and its first row makes the page invalid. -/
theorem accepted_label_breaks_page :
    ¬ ∀ (calls : List Call) (registry : Registry), run calls = some registry →
      ValidPage calls registry := by
  intro hall
  let calls : List Call := [.counterVec "x_total".toList [] "a:b".toList,
    .update 0 (.vecInc "v".toList)]
  have hsome : (run calls).isSome = true := by decide +kernel
  obtain ⟨registry, hrun⟩ := Option.isSome_iff_exists.mp hsome
  obtain ⟨groups, hparse, -⟩ := hall calls registry hrun
  have hnone : (run calls).map (fun registry => parsePage registry.render) = some none := by
    decide +kernel
  rw [hrun, Option.map_some, hparse] at hnone
  cases hnone

end Registry

end PulseGrid.Infra
