/-
  PulseGrid.Coordinator.DashboardEvents

  The live stream of the dashboard as text: what the coordinator sends
  (`stream` in crates/api-coordinator/src/handlers/dashboard.rs) and how the page reads it
  (`readEvents` and `handleBlock` in crates/api-coordinator/dashboard/app.js).

  What axum and serde_json write and what JSON.parse reads are parameters: of the text of a
  frame only what the event-stream format says is used (`SseWriter.Documented`), of JSON.parse
  nothing.  The text decoder of the page is left out: chunks are divided between characters.
-/

import PulseGrid.Coordinator.Telemetry
import PulseGrid.Lib.BlockReader

namespace PulseGrid.Coordinator

open BlockReader (Separator indexOf Clean readChunks)

-- ============================================================================
-- The page's side
-- ============================================================================

/-- The white space of JavaScript. -/
def isJsSpace (c : Char) : Bool :=
  let n := c.toNat
  (0x09 ≤ n && n ≤ 0x0D) || n = 0x20 || n = 0xA0 || n = 0x1680 || (0x2000 ≤ n && n ≤ 0x200A) ||
    n = 0x2028 || n = 0x2029 || n = 0x202F || n = 0x205F || n = 0x3000 || n = 0xFEFF

/-- `trimStart`. -/
def jsTrimStart (s : List Char) : List Char := s.dropWhile isJsSpace

/-- `trim`. -/
def jsTrim (s : List Char) : List Char := (jsTrimStart s).rdropWhile isJsSpace

/-- What the page does about a block. -/
inductive PageEvent (V : Type) where
  /-- `onDelivery`. -/
  | delivery (t : V)
  /-- The status says how many events were missed. -/
  | lagged (missed : List Char)
deriving DecidableEq, Repr

/-- A line changes the name of the event or adds to its data. -/
def handleLine (acc : List Char × List (List Char)) (line : List Char) :
    List Char × List (List Char) :=
  match line.dropPrefix? "event:".toList with
  | some rest => (jsTrim rest, acc.2)
  | none =>
      match line.dropPrefix? "data:".toList with
      | some rest => (acc.1, acc.2 ++ [jsTrimStart rest])
      | none => acc

section

variable {V : Type} (jsonParse : List Char → Option V)

/-- `handleBlock`; `jsonParse` is `none` where `JSON.parse` throws. -/
def handleBlock (block : List Char) : Option (PageEvent V) :=
  let (event, data) := (block.splitOn '\n').foldl handleLine ("message".toList, [])
  if data = [] then none
  else if event = "delivery".toList then (jsonParse (['\n'].intercalate data)).map .delivery
  else if event = "lagged".toList then some (.lagged data.flatten)
  else none

/-- `'\n\n'`. -/
def blankLine : Separator Char := ⟨['\n', '\n'], by decide⟩

/-- `readEvents`, for the chunks that arrive. -/
def readEvents (chunks : List (List Char)) : List (PageEvent V) :=
  (readChunks blankLine [] chunks).1.filterMap (handleBlock jsonParse)

end

-- ============================================================================
-- The server's side
-- ============================================================================

/-- What is sent: events, and comments that keep the connection alive. -/
inductive Frame (T : Type) where
  | event (e : StreamEvent T)
  | keepAlive
deriving DecidableEq, Repr

/-- How frames are written. -/
structure SseWriter (T : Type) where
  /-- What `json_data` writes of the telemetry. -/
  json : T → List Char
  text : Frame T → List Char

/-- `name: value`, with or without the space. -/
def FieldLine (name value line : List Char) : Prop :=
  ∃ gap, (gap = [] ∨ gap = [' ']) ∧ line = name ++ ':' :: (gap ++ value)

/-- The lines of an event with a name and data. -/
def EventLines (name value : List Char) (lines : List (List Char)) : Prop :=
  ∃ event data, lines = [event, data] ∧ FieldLine "event".toList name event ∧
    FieldLine "data".toList value data

def CommentLine (line : List Char) : Prop := ∃ comment, '\n' ∉ comment ∧ line = ':' :: comment

namespace SseWriter

variable {T : Type}

/-- The lines of a frame. -/
def Lines (w : SseWriter T) : Frame T → List (List Char) → Prop
  | .event (.delivery telemetry), lines => EventLines "delivery".toList (w.json telemetry) lines
  | .event (.lagged missed), lines => EventLines "lagged".toList (Nat.toDigits 10 missed) lines
  | .keepAlive, lines => lines ≠ [] ∧ ∀ line ∈ lines, CommentLine line

/-- What is documented of the crates: a frame is its lines and an empty one, and the JSON of an
    event is one line that does not start with a blank. -/
structure Documented (w : SseWriter T) : Prop where
  text : ∀ frame, ∃ lines, w.Lines frame lines ∧
    w.text frame = (lines.flatMap fun line => line ++ ['\n']) ++ ['\n']
  json_line : ∀ telemetry, '\n' ∉ w.json telemetry
  json_start : ∀ telemetry, ∃ c s, w.json telemetry = c :: s ∧ isJsSpace c = false

end SseWriter

/-- What the page is meant to do about a frame. -/
def Frame.shown {T V : Type} (jsonParse : List Char → Option V) (json : T → List Char) :
    Frame T → Option (PageEvent V)
  | .event (.delivery telemetry) => (jsonParse (json telemetry)).map .delivery
  | .event (.lagged missed) => some (.lagged (Nat.toDigits 10 missed))
  | .keepAlive => none

-- ============================================================================
-- Frames are blocks
-- ============================================================================

theorem flatMap_newline {lines : List (List Char)} (h : lines ≠ []) :
    (lines.flatMap fun line => line ++ ['\n']) = ['\n'].intercalate lines ++ ['\n'] := by
  induction lines with
  | nil => exact absurd rfl h
  | cons line lines ih =>
      cases lines with
      | nil => simp
      | cons next lines =>
          rw [List.flatMap_cons, ih (List.cons_ne_nil next lines), List.intercalate_cons_cons]
          simp

theorem indexOf_cons {c : Char} {s : List Char} (h : ¬blankLine.text <+: c :: s) :
    indexOf blankLine.text (c :: s) = (indexOf blankLine.text s).map (· + 1) := if_neg h

theorem indexOf_line {line : List Char} (h : '\n' ∉ line) (s : List Char) :
    indexOf blankLine.text (line ++ s) =
      (indexOf blankLine.text s).map (· + line.length) := by
  induction line with
  | nil => simp
  | cons c line ih =>
      have hc : c ≠ '\n' := fun heq => h (heq ▸ List.mem_cons_self)
      have hnot : ¬blankLine.text <+: c :: (line ++ s) := by
        intro hpre
        exact hc (List.cons_prefix_cons.mp hpre).1.symm
      rw [List.cons_append, indexOf_cons hnot, ih fun hmem => h (List.mem_cons_of_mem _ hmem),
        Option.map_map]
      rfl

/-- Lines that are not empty are a block. -/
theorem clean_intercalate {lines : List (List Char)} (hne : lines ≠ [])
    (h : ∀ line ∈ lines, line ≠ [] ∧ '\n' ∉ line) :
    Clean blankLine (['\n'].intercalate lines) := by
  unfold Clean
  induction lines with
  | nil => exact absurd rfl hne
  | cons line lines ih =>
      obtain ⟨-, hline⟩ := h line List.mem_cons_self
      cases lines with
      | nil =>
          rw [List.intercalate_singleton, indexOf_line hline]
          have hzero : indexOf blankLine.text blankLine.text = some 0 := by decide
          rw [hzero, Option.map_some, Nat.zero_add]
      | cons next lines =>
          obtain ⟨hnext, hnextLine⟩ := h next (List.mem_cons_of_mem _ List.mem_cons_self)
          have hrest := ih (List.cons_ne_nil next lines)
            fun l hl => h l (List.mem_cons_of_mem _ hl)
          rw [List.intercalate_cons_cons, List.append_assoc, List.append_assoc,
            indexOf_line hline, List.singleton_append]
          have hnot : ¬blankLine.text <+:
              '\n' :: (['\n'].intercalate (next :: lines) ++ blankLine.text) := by
            obtain ⟨c, rest, rfl⟩ := List.exists_cons_of_ne_nil hnext
            have hc : c ≠ '\n' := fun heq => hnextLine (heq ▸ List.mem_cons_self)
            obtain ⟨more, hmore⟩ : ∃ more, ['\n'].intercalate ((c :: rest) :: lines) = c :: more := by
              cases lines with
              | nil => exact ⟨rest, List.intercalate_singleton⟩
              | cons l ls => exact ⟨_, List.intercalate_cons_cons⟩
            rw [hmore]
            intro hpre
            have htail := (List.cons_prefix_cons.mp hpre).2
            exact hc (List.cons_prefix_cons.mp htail).1.symm
          rw [indexOf_cons hnot, hrest, Option.map_some, Option.map_some, List.length_append,
            List.length_append, List.length_singleton]
          congr 1
          omega

theorem newline_notMem_digits (n : Nat) : '\n' ∉ Nat.toDigits 10 n := by
  intro hmem
  have hdigit := Nat.isDigit_of_mem_toDigits (by decide) (by decide) hmem
  revert hdigit
  decide

theorem FieldLine.clean {name value line : List Char} (h : FieldLine name value line)
    (hname : name ≠ []) (hline : '\n' ∉ name) (hvalue : '\n' ∉ value) :
    line ≠ [] ∧ '\n' ∉ line := by
  obtain ⟨gap, hgap, rfl⟩ := h
  refine ⟨List.append_ne_nil_of_left_ne_nil hname _, ?_⟩
  rcases hgap with rfl | rfl <;> simp [hline, hvalue]

theorem CommentLine.clean {line : List Char} (h : CommentLine line) :
    line ≠ [] ∧ '\n' ∉ line := by
  obtain ⟨comment, hcomment, rfl⟩ := h
  refine ⟨List.cons_ne_nil _ _, ?_⟩
  rw [List.mem_cons, not_or]
  exact ⟨by decide, hcomment⟩

theorem EventLines.clean {name value : List Char} {lines : List (List Char)}
    (h : EventLines name value lines) (hname : '\n' ∉ name) (hvalue : '\n' ∉ value) :
    lines ≠ [] ∧ ∀ line ∈ lines, line ≠ [] ∧ '\n' ∉ line := by
  obtain ⟨event, data, rfl, hevent, hdata⟩ := h
  refine ⟨List.cons_ne_nil _ _, fun line hline => ?_⟩
  rcases List.mem_pair.mp hline with rfl | rfl
  · exact hevent.clean (by decide) (by decide) hname
  · exact hdata.clean (by decide) (by decide) hvalue

/-- The lines of a frame make a block. -/
theorem SseWriter.Documented.lines_clean {T : Type} {w : SseWriter T} (h : w.Documented)
    {frame : Frame T} {lines : List (List Char)} (hlines : w.Lines frame lines) :
    lines ≠ [] ∧ ∀ line ∈ lines, line ≠ [] ∧ '\n' ∉ line := by
  cases frame with
  | event e =>
      cases e with
      | delivery telemetry => exact EventLines.clean hlines (by decide) (h.json_line telemetry)
      | lagged missed => exact EventLines.clean hlines (by decide) (newline_notMem_digits missed)
  | keepAlive => exact ⟨hlines.1, fun line hline => (hlines.2 line hline).clean⟩

-- ============================================================================
-- The page reads what was sent
-- ============================================================================

theorem jsTrimStart_eq_self {c : Char} (h : isJsSpace c = false) (s : List Char) :
    jsTrimStart (c :: s) = c :: s := List.dropWhile_cons_of_neg (by rw [h]; decide)

theorem isJsSpace_digit {c : Char} (h : c.isDigit = true) : isJsSpace c = false := by
  have hrange : 48 ≤ c.toNat ∧ c.toNat ≤ 57 := Char.isDigit_iff_toNat.mp h
  unfold isJsSpace
  simp only [Bool.or_eq_false_iff, Bool.and_eq_false_iff, decide_eq_false_iff_not]
  omega

theorem jsTrimStart_digits (n : Nat) : jsTrimStart (Nat.toDigits 10 n) = Nat.toDigits 10 n := by
  obtain ⟨c, s, hdigits⟩ := List.exists_cons_of_ne_nil (Nat.toDigits_ne_nil (n := n) (b := 10))
  have hdigit : c.isDigit = true :=
    Nat.isDigit_of_mem_toDigits (by decide) (by decide) (hdigits ▸ List.mem_cons_self)
  rw [hdigits, jsTrimStart_eq_self (isJsSpace_digit hdigit)]

theorem jsTrimStart_gap {gap value : List Char} (hgap : gap = [] ∨ gap = [' '])
    (h : jsTrimStart value = value) : jsTrimStart (gap ++ value) = value := by
  rcases hgap with rfl | rfl
  · exact h
  · exact h

/-- The line that names the event. -/
theorem handleLine_event {value line : List Char} (h : FieldLine "event".toList value line)
    (acc : List Char × List (List Char)) (hstart : jsTrimStart value = value)
    (hend : value.rdropWhile isJsSpace = value) : handleLine acc line = (value, acc.2) := by
  obtain ⟨gap, hgap, rfl⟩ := h
  have hpre : ("event".toList ++ ':' :: (gap ++ value)).dropPrefix? "event:".toList =
      some (gap ++ value) :=
    List.dropPrefix?_eq_some_iff.mpr ⟨_, rfl, beq_self_eq_true _⟩
  rw [handleLine, hpre]
  dsimp only
  rw [jsTrim, jsTrimStart_gap hgap hstart, hend]

theorem handleLine_data {value line : List Char} (h : FieldLine "data".toList value line)
    (acc : List Char × List (List Char)) (hstart : jsTrimStart value = value) :
    handleLine acc line = (acc.1, acc.2 ++ [value]) := by
  obtain ⟨gap, hgap, rfl⟩ := h
  have hevent : ("data".toList ++ ':' :: (gap ++ value)).dropPrefix? "event:".toList = none := rfl
  have hpre : ("data".toList ++ ':' :: (gap ++ value)).dropPrefix? "data:".toList =
      some (gap ++ value) :=
    List.dropPrefix?_eq_some_iff.mpr ⟨_, rfl, beq_self_eq_true _⟩
  rw [handleLine, hevent, hpre]
  dsimp only
  rw [jsTrimStart_gap hgap hstart]

/-- The name and the data of an event are read back. -/
theorem EventLines.foldl_handleLine {name value : List Char} {lines : List (List Char)}
    (h : EventLines name value lines) (hname : jsTrimStart name = name)
    (hend : name.rdropWhile isJsSpace = name) (hvalue : jsTrimStart value = value)
    (start : List Char) : lines.foldl handleLine (start, []) = (name, [value]) := by
  obtain ⟨event, data, rfl, hevent, hdata⟩ := h
  rw [List.foldl_cons, List.foldl_cons, List.foldl_nil, handleLine_event hevent _ hname hend,
    handleLine_data hdata _ hvalue, List.nil_append]

theorem handleLine_comment {line : List Char} (h : CommentLine line)
    (acc : List Char × List (List Char)) : handleLine acc line = acc := by
  obtain ⟨comment, -, rfl⟩ := h
  have hevent : (':' :: comment).dropPrefix? "event:".toList = none := rfl
  have hdata : (':' :: comment).dropPrefix? "data:".toList = none := rfl
  rw [handleLine, hevent, hdata]

theorem foldl_handleLine_comments {lines : List (List Char)}
    (h : ∀ line ∈ lines, CommentLine line) (acc : List Char × List (List Char)) :
    lines.foldl handleLine acc = acc := by
  induction lines with
  | nil => rfl
  | cons line lines ih =>
      rw [List.foldl_cons, handleLine_comment (h line List.mem_cons_self)]
      exact ih fun l hl => h l (List.mem_cons_of_mem _ hl)

section

variable {T V : Type} {w : SseWriter T} (jsonParse : List Char → Option V)

theorem SseWriter.Documented.handleBlock_lines (h : w.Documented) {frame : Frame T}
    {lines : List (List Char)} (hlines : w.Lines frame lines) :
    handleBlock jsonParse (['\n'].intercalate lines) = frame.shown jsonParse w.json := by
  obtain ⟨hne, hclean⟩ := h.lines_clean hlines
  have hsplit : (['\n'].intercalate lines).splitOn '\n' = lines :=
    List.splitOn_intercalate '\n' (fun line hline => (hclean line hline).2) hne
  rw [handleBlock, hsplit]
  cases frame with
  | event e =>
      cases e with
      | delivery telemetry =>
          obtain ⟨c, s, hjson, hvisible⟩ := h.json_start telemetry
          have hstart : jsTrimStart (w.json telemetry) = w.json telemetry := by
            rw [hjson, jsTrimStart_eq_self hvisible]
          rw [EventLines.foldl_handleLine hlines (by decide) (by decide) hstart]
          show (jsonParse (['\n'].intercalate [w.json telemetry])).map _ = _
          rw [List.intercalate_singleton]
          rfl
      | lagged missed =>
          rw [EventLines.foldl_handleLine hlines (by decide) (by decide)
            (jsTrimStart_digits missed)]
          show some (PageEvent.lagged [Nat.toDigits 10 missed].flatten) = _
          rw [List.flatten_singleton]
          rfl
  | keepAlive =>
      rw [foldl_handleLine_comments hlines.2]
      rfl

/-- The block that the page cuts off for a frame. -/
structure BlockOf (w : SseWriter T) (frame : Frame T) (block : List Char) : Prop where
  text : w.text frame = block ++ blankLine.text
  clean : Clean blankLine block
  handled : handleBlock jsonParse block = frame.shown jsonParse w.json

theorem SseWriter.Documented.exists_block (h : w.Documented) (frame : Frame T) :
    ∃ block, BlockOf jsonParse w frame block := by
  obtain ⟨lines, hlines, htext⟩ := h.text frame
  obtain ⟨hne, hclean⟩ := h.lines_clean hlines
  refine ⟨['\n'].intercalate lines, ?_, clean_intercalate hne hclean,
    h.handleBlock_lines jsonParse hlines⟩
  rw [htext, flatMap_newline hne, List.append_assoc]
  rfl

/-- The blocks cut off are those of the frames that arrived completely. -/
theorem SseWriter.Documented.readEvents_eq (h : w.Documented)
    {frames : List (Frame T)} {chunks : List (List Char)}
    (harrived : chunks.flatten <+: (frames.map w.text).flatten) :
    readEvents jsonParse chunks =
      (frames.take (BlockReader.complete (frames.map w.text) chunks.flatten.length)).filterMap
        (Frame.shown jsonParse w.json) := by
  choose block hblock using h.exists_block jsonParse
  have htexts : frames.map w.text =
      (frames.map block).map fun b => b ++ blankLine.text := by
    rw [List.map_map]
    exact List.map_congr_left fun frame _ => (hblock frame).text
  have hclean : ∀ b ∈ frames.map block, Clean blankLine b := by
    intro b hb
    obtain ⟨frame, -, rfl⟩ := List.mem_map.mp hb
    exact (hblock frame).clean
  rw [htexts] at harrived ⊢
  rw [readEvents, BlockReader.readChunks_arrived blankLine hclean harrived, ← List.map_take,
    List.filterMap_map]
  exact List.filterMap_congr fun frame _ => (hblock frame).handled

end

/-- **The page reads what was sent.**  However the stream is divided into chunks, at any time
    the page has done for each frame that arrived completely what it is meant to, in order. -/
theorem readEvents_arrived {T V : Type} (w : SseWriter T) (hw : w.Documented)
    (jsonParse : List Char → Option V) (frames : List (Frame T)) (chunks : List (List Char))
    (h : chunks.flatten <+: (frames.map w.text).flatten) :
    readEvents jsonParse chunks =
      (frames.take (BlockReader.complete (frames.map w.text) chunks.flatten.length)).filterMap
        (Frame.shown jsonParse w.json) :=
  hw.readEvents_eq jsonParse h

-- ============================================================================
-- One writer
-- ============================================================================

def spacedField (name value : List Char) : List Char := name ++ ':' :: ' ' :: value

/-- A space after the colon of a field, and an empty comment. -/
def spacedLines {T : Type} (json : T → List Char) : Frame T → List (List Char)
  | .event (.delivery telemetry) =>
      [spacedField "event".toList "delivery".toList, spacedField "data".toList (json telemetry)]
  | .event (.lagged missed) =>
      [spacedField "event".toList "lagged".toList,
        spacedField "data".toList (Nat.toDigits 10 missed)]
  | .keepAlive => [[':']]

def SseWriter.spaced {T : Type} (json : T → List Char) : SseWriter T where
  json
  text frame := ((spacedLines json frame).flatMap fun line => line ++ ['\n']) ++ ['\n']

theorem SseWriter.documented_spaced {T : Type} {json : T → List Char}
    (hline : ∀ telemetry, '\n' ∉ json telemetry)
    (hstart : ∀ telemetry, ∃ c s, json telemetry = c :: s ∧ isJsSpace c = false) :
    (SseWriter.spaced json).Documented where
  text frame := by
    have hfield (name value : List Char) : FieldLine name value (spacedField name value) :=
      ⟨[' '], .inr rfl, rfl⟩
    refine ⟨spacedLines json frame, ?_, rfl⟩
    cases frame with
    | event e => cases e <;> exact ⟨_, _, rfl, hfield _ _, hfield _ _⟩
    | keepAlive =>
        refine ⟨List.cons_ne_nil _ _, ?_⟩
        rintro line hline
        exact ⟨[], by decide, List.mem_singleton.mp hline⟩
  json_line := hline
  json_start := hstart

/-- Numbers as telemetry. -/
theorem documented_digits : (SseWriter.spaced (Nat.toDigits 10)).Documented :=
  SseWriter.documented_spaced newline_notMem_digits fun n =>
    match h : Nat.toDigits 10 n with
    | [] => absurd h Nat.toDigits_ne_nil
    | c :: s => ⟨c, s, rfl, isJsSpace_digit
        (Nat.isDigit_of_mem_toDigits (by decide) (by decide) (h ▸ List.mem_cons_self))⟩

/-- A comment, an event, a notice and the beginning of another. -/
def fourFrames : List (Frame Nat) :=
  [.keepAlive, .event (.delivery 7), .event (.lagged 3), .event (.lagged 12)]

/-- Chunks that end inside a frame. -/
def fourChunks : List (List Char) :=
  [":\n".toList, "\nevent: deliv".toList, "ery\ndata: 7\n\nevent: lag".toList,
    "ged\ndata: 3\n\nevent: lagg".toList]

theorem readEvents_arrived_fourFrames :
    readEvents (fun s => some (Nat.ofDigitChars 10 s 0)) fourChunks =
      (fourFrames.take (BlockReader.complete
        (fourFrames.map (SseWriter.spaced (Nat.toDigits 10)).text)
        fourChunks.flatten.length)).filterMap (Frame.shown
          (fun s => some (Nat.ofDigitChars 10 s 0)) (Nat.toDigits 10)) :=
  readEvents_arrived _ documented_digits _ fourFrames fourChunks (by decide +kernel)

end PulseGrid.Coordinator
