/-
  PulseGrid.Lib.BlockReader

  Cutting a stream that arrives in chunks into blocks at a separator.

  The reader keeps what has not been cut off yet, appends each chunk to it and cuts as long
  as it finds the separator.  Where the stream was divided into chunks makes no difference
  (`readChunks_eq`), and blocks that were sent with a separator after each come out again as
  soon as they have arrived completely (`readChunks_arrived`).
-/

import Mathlib

namespace BlockReader

variable {α : Type*} [DecidableEq α]

/-- A separator is not empty. -/
structure Separator (α : Type*) where
  text : List α
  nonempty : text ≠ []

/-- Where the text first occurs. -/
def indexOf (text : List α) : List α → Option Nat
  | [] => if text = [] then some 0 else none
  | c :: s => if text <+: c :: s then some 0 else (indexOf text s).map (· + 1)

/-- Cut off blocks, at most `steps` of them. -/
def drainSteps (sep : Separator α) : (steps : Nat) → List α → List (List α) × List α
  | 0, s => ([], s)
  | steps + 1, s =>
      match indexOf sep.text s with
      | none => ([], s)
      | some i =>
          let (blocks, rest) := drainSteps sep steps (s.drop (i + sep.text.length))
          (s.take i :: blocks, rest)

/-- Cut off blocks as long as there is a separator. -/
def drain (sep : Separator α) (s : List α) : List (List α) × List α := drainSteps sep s.length s

/-- The blocks cut off while chunks arrive, and what is kept in the end. -/
def readChunks (sep : Separator α) : (buffer : List α) → List (List α) → List (List α) × List α
  | buffer, [] => ([], buffer)
  | buffer, chunk :: chunks =>
      let (blocks, rest) := drain sep (buffer ++ chunk)
      let (later, last) := readChunks sep rest chunks
      (blocks ++ later, last)

-- ============================================================================
-- Where the separator is
-- ============================================================================

theorem indexOf_add_length_le {text s : List α} {i : Nat} (h : indexOf text s = some i) :
    i + text.length ≤ s.length := by
  induction s generalizing i with
  | nil =>
      dsimp only [indexOf] at h
      split at h
      · next htext =>
          cases h
          rw [htext]
          exact Nat.le_refl 0
      · cases h
  | cons c s ih =>
      dsimp only [indexOf] at h
      split at h
      · next hpre =>
          cases h
          have hlen := hpre.length_le
          omega
      · obtain ⟨j, hj, rfl⟩ := Option.map_eq_some_iff.mp h
        have hlen := ih hj
        rw [List.length_cons]
        omega

/-- More text behind does not change where the separator first occurs. -/
theorem indexOf_append {text s : List α} {i : Nat} (h : indexOf text s = some i) (t : List α) :
    indexOf text (s ++ t) = some i := by
  induction s generalizing i with
  | nil =>
      dsimp only [indexOf] at h
      split at h
      · next htext =>
          cases h
          subst htext
          cases t with
          | nil => rfl
          | cons c t => exact if_pos List.nil_prefix
      · cases h
  | cons c s ih =>
      dsimp only [indexOf] at h
      rw [List.cons_append, indexOf]
      split at h
      · next hpre =>
          cases h
          rw [if_pos]
          exact hpre.trans (List.prefix_append (c :: s) t)
      · next hpre =>
          obtain ⟨j, hj, rfl⟩ := Option.map_eq_some_iff.mp h
          have hnot : ¬text <+: c :: (s ++ t) := by
            intro hlater
            have hlen := indexOf_add_length_le hj
            refine hpre (List.prefix_of_prefix_length_le hlater
              (List.prefix_append (c :: s) t) ?_)
            rw [List.length_cons]
            omega
          rw [if_neg hnot, ih hj]
          rfl

-- ============================================================================
-- Cutting
-- ============================================================================

variable (sep : Separator α)

theorem drop_length_lt {s : List α} {i : Nat} (h : indexOf sep.text s = some i) :
    (s.drop (i + sep.text.length)).length < s.length := by
  have hlen := indexOf_add_length_le h
  have hpos : 0 < sep.text.length := List.length_pos_iff.mpr sep.nonempty
  rw [List.length_drop]
  omega

/-- More steps than characters make no difference. -/
theorem drainSteps_eq (steps : Nat) (s : List α) (h : s.length ≤ steps) :
    drainSteps sep steps s = drain sep s := by
  induction steps using Nat.strong_induction_on generalizing s with
  | _ steps ih =>
      rw [drain]
      cases hlen : s.length with
      | zero =>
          rw [List.length_eq_zero_iff.mp hlen]
          cases steps with
          | zero => rfl
          | succ steps =>
              have hnone : indexOf sep.text [] = none := if_neg sep.nonempty
              simp only [drainSteps, hnone]
      | succ n =>
          obtain ⟨steps, rfl⟩ : ∃ k, steps = k + 1 := ⟨steps - 1, by omega⟩
          rw [drainSteps, drainSteps]
          cases hi : indexOf sep.text s with
          | none => rfl
          | some i =>
              have hlt := drop_length_lt sep hi
              dsimp only
              rw [ih steps (by omega) _ (by omega)]
              by_cases hn : n = steps
              · rw [hn, ih steps (by omega) _ (by omega)]
              · rw [ih n (by omega) _ (by omega)]

theorem drain_of_none {s : List α} (h : indexOf sep.text s = none) : drain sep s = ([], s) := by
  rw [drain]
  cases s.length with
  | zero => rfl
  | succ n => rw [drainSteps, h]

theorem drain_of_some {s : List α} {i : Nat} (h : indexOf sep.text s = some i) :
    drain sep s = (s.take i :: (drain sep (s.drop (i + sep.text.length))).1,
      (drain sep (s.drop (i + sep.text.length))).2) := by
  have hlt := drop_length_lt sep h
  obtain ⟨n, hn⟩ : ∃ n, s.length = n + 1 := ⟨s.length - 1, by omega⟩
  rw [drain, hn, drainSteps, h]
  dsimp only
  rw [drainSteps_eq sep n _ (by omega)]

/-- **Cutting what arrived in two parts.**  First cut the first part; what is left goes before
    the second part. -/
theorem drain_append (s t : List α) :
    drain sep (s ++ t) = ((drain sep s).1 ++ (drain sep ((drain sep s).2 ++ t)).1,
      (drain sep ((drain sep s).2 ++ t)).2) := by
  induction hn : s.length using Nat.strong_induction_on generalizing s with
  | _ n ih =>
      cases hi : indexOf sep.text s with
      | none => rw [drain_of_none sep hi, List.nil_append]
      | some i =>
          have hlt := drop_length_lt sep hi
          have hlen := indexOf_add_length_le hi
          have hrest := ih _ (hn ▸ hlt) (s.drop (i + sep.text.length)) rfl
          rw [drain_of_some sep (indexOf_append hi t), drain_of_some sep hi,
            List.take_append_of_le_length (by omega), List.drop_append_of_le_length (by omega),
            hrest, List.cons_append]

/-- What is kept cannot be cut any further. -/
theorem drain_drain (s : List α) : drain sep (drain sep s).2 = ([], (drain sep s).2) := by
  induction hn : s.length using Nat.strong_induction_on generalizing s with
  | _ n ih =>
      cases hi : indexOf sep.text s with
      | none => rw [drain_of_none sep hi, drain_of_none sep hi]
      | some i =>
          rw [drain_of_some sep hi]
          exact ih _ (hn ▸ drop_length_lt sep hi) _ rfl

-- ============================================================================
-- Chunks
-- ============================================================================

/-- **Chunks do not matter.**  The blocks are those of the whole stream. -/
theorem readChunks_eq (chunks : List (List α)) (buffer : List α)
    (h : drain sep buffer = ([], buffer)) :
    readChunks sep buffer chunks = drain sep (buffer ++ chunks.flatten) := by
  induction chunks generalizing buffer with
  | nil => rw [List.flatten_nil, List.append_nil, h, readChunks]
  | cons chunk chunks ih =>
      rw [readChunks]
      dsimp only
      rw [ih _ (drain_drain sep _), List.flatten_cons, ← List.append_assoc,
        drain_append sep (buffer ++ chunk) chunks.flatten]

/-- A block that ends where the first separator begins. -/
def Clean (block : List α) : Prop := indexOf sep.text (block ++ sep.text) = some block.length

/-- How many of the texts are complete after `len` characters. -/
def complete : List (List α) → (len : Nat) → Nat
  | [], _ => 0
  | text :: texts, len =>
      if text.length ≤ len then complete texts (len - text.length) + 1 else 0

/-- A block whose separator has not arrived completely is not cut off. -/
theorem drain_of_incomplete {block s : List α} (h : Clean sep block)
    (hpre : s <+: block ++ sep.text) (hlt : s.length < (block ++ sep.text).length) :
    drain sep s = ([], s) := by
  refine drain_of_none sep ?_
  cases hi : indexOf sep.text s with
  | none => rfl
  | some i =>
      obtain ⟨rest, hrest⟩ := hpre
      have hwhole := indexOf_append hi rest
      rw [hrest, h] at hwhole
      have hlen := indexOf_add_length_le hi
      rw [← Option.some.inj hwhole, ← List.length_append] at hlen
      omega

/-- What has arrived of blocks with a separator after each is cut into the complete ones. -/
theorem drain_arrived {blocks : List (List α)} (h : ∀ block ∈ blocks, Clean sep block)
    {s : List α} (hs : s <+: (blocks.map fun block => block ++ sep.text).flatten) :
    (drain sep s).1 =
      blocks.take (complete (blocks.map fun block => block ++ sep.text) s.length) := by
  induction blocks generalizing s with
  | nil =>
      rw [List.prefix_nil.mp hs]
      rfl
  | cons block blocks ih =>
      have hclean := h block List.mem_cons_self
      rw [List.map_cons, List.flatten_cons] at hs
      rw [List.map_cons, complete]
      by_cases hle : (block ++ sep.text).length ≤ s.length
      · obtain ⟨rest, rfl⟩ := List.prefix_of_prefix_length_le (List.prefix_append _ _) hs hle
        have hrest := (List.prefix_append_right_inj _).mp hs
        have htail := ih (fun b hb => h b (List.mem_cons_of_mem _ hb)) hrest
        have htake : (block ++ sep.text ++ rest).take block.length = block := by
          rw [List.append_assoc, List.take_left]
        have hdrop : (block ++ sep.text ++ rest).drop (block.length + sep.text.length) = rest := by
          rw [← List.length_append, List.drop_left]
        have hlen : (block ++ sep.text ++ rest).length - (block ++ sep.text).length =
            rest.length := by
          rw [List.length_append, Nat.add_sub_cancel_left]
        rw [drain_of_some sep (indexOf_append hclean rest), htake, hdrop, if_pos hle,
          List.take_succ_cons, htail, hlen]
      · have hpre := List.prefix_of_prefix_length_le hs (List.prefix_append _ _) (by omega)
        rw [drain_of_incomplete sep hclean hpre (by omega), if_neg hle, List.take_zero]

/-- **Blocks come out as they were sent**, however the stream was divided, and as soon as they
    are complete. -/
theorem readChunks_arrived {blocks : List (List α)} (h : ∀ block ∈ blocks, Clean sep block)
    {chunks : List (List α)}
    (hchunks : chunks.flatten <+: (blocks.map fun block => block ++ sep.text).flatten) :
    (readChunks sep [] chunks).1 =
      blocks.take (complete (blocks.map fun block => block ++ sep.text) chunks.flatten.length) := by
  rw [readChunks_eq sep chunks [] (drain_of_none sep (if_neg sep.nonempty)), List.nil_append]
  exact drain_arrived sep h hchunks

omit [DecidableEq α] in
/-- In the end all are complete. -/
theorem complete_flatten (texts : List (List α)) :
    complete texts texts.flatten.length = texts.length := by
  induction texts with
  | nil => rfl
  | cons text texts ih =>
      rw [complete, List.flatten_cons, List.length_append, if_pos (by omega),
        Nat.add_sub_cancel_left, ih, List.length_cons]

end BlockReader
