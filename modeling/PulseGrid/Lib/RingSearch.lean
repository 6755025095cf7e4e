/-
  PulseGrid.Lib.RingSearch

  Breadth-first search by rings, over a fallible neighbour function.

  Every iteration expands the whole frontier: a neighbour not seen before is added
  to `visited` and to the next frontier.  The search ends after a given number of
  rings, or when a ring adds nothing.

  `search_visited` says what it computes: the cells that one step of `grow` after
  another adds to the start.  `search_ok` says when it returns.
-/

import Mathlib

namespace RingSearch

variable {α ε : Type}

section Grow

variable (neighbors : α → Except ε (List α))

/-- One cell is a neighbour of another. -/
def Adj (a b : α) : Prop :=
  ∃ around, neighbors a = .ok around ∧ b ∈ around

/-- A set of cells and their neighbours. -/
def grow (cells : Set α) : Set α :=
  cells ∪ {b | ∃ a ∈ cells, Adj neighbors a b}

/-- What holds before every ring: the frontier has been visited, and the cells outside
    of it have been expanded. -/
structure Open (visited frontier : List α) : Prop where
  seen : ∀ a ∈ frontier, a ∈ visited
  expanded : ∀ a ∈ visited, a ∉ frontier →
    ∃ around, neighbors a = .ok around ∧ ∀ b ∈ around, b ∈ visited

variable {neighbors}

theorem mem_singleton_eq (start : α) : {b | b ∈ [start]} = ({start} : Set α) := by
  ext b
  exact List.mem_singleton

theorem open_singleton (start : α) : Open neighbors [start] [start] where
  seen := fun _ ha => ha
  expanded := fun _ ha hnot => absurd ha hnot

theorem iterate_grow_mono {cells : Set α} {m n : Nat} (hmn : m ≤ n) :
    (grow neighbors)^[m] cells ⊆ (grow neighbors)^[n] cells := by
  induction n, hmn using Nat.le_induction with
  | base => exact subset_rfl
  | succ n _ ih =>
    rw [Function.iterate_succ_apply']
    exact ih.trans Set.subset_union_left

/-- A neighbour of a cell found in `n` steps is found in `n + 1`. -/
theorem mem_iterate_grow_succ {cells : Set α} {n : Nat} {a b : α}
    (ha : a ∈ (grow neighbors)^[n] cells) (hab : Adj neighbors a b) :
    b ∈ (grow neighbors)^[n + 1] cells := by
  rw [Function.iterate_succ_apply']
  exact Or.inr ⟨a, ha, hab⟩

end Grow

variable [DecidableEq α]

/-- The cells seen so far, in the order they were inserted, and those of them that
    the current ring added. -/
structure Ring (α : Type) where
  visited : List α
  nextFrontier : List α

/-- Insert a candidate; a new one is also pushed to the next frontier. -/
def Ring.insert (ring : Ring α) (candidate : α) : Ring α :=
  if candidate ∈ ring.visited then ring
  else
    { visited := ring.visited ++ [candidate]
      nextFrontier := ring.nextFrontier ++ [candidate] }

section Search

variable (neighbors : α → Except ε (List α))

/-- Insert the neighbours of one cell of the frontier. -/
def Ring.expand (ring : Ring α) (cell : α) : Except ε (Ring α) := do
  let around ← neighbors cell
  return around.foldl Ring.insert ring

/-- Expand a whole frontier. -/
def expandAll (visited frontier : List α) : Except ε (Ring α) :=
  frontier.foldlM (Ring.expand neighbors) { visited, nextFrontier := [] }

/-- At most `rings` rings, from `frontier` on. -/
def search : (rings : Nat) → (visited frontier : List α) → Except ε (List α)
  | 0, visited, _ => .ok visited
  | rings + 1, visited, frontier => do
    let ring ← expandAll neighbors visited frontier
    if ring.nextFrontier.isEmpty then return ring.visited
    search rings ring.visited ring.nextFrontier

/-- The frontiers of the same search, the first of them included. -/
def frontiers : (rings : Nat) → (visited frontier : List α) → Except ε (List (List α))
  | 0, _, frontier => .ok [frontier]
  | rings + 1, visited, frontier => do
    let ring ← expandAll neighbors visited frontier
    if ring.nextFrontier.isEmpty then return [frontier]
    let rest ← frontiers rings ring.visited ring.nextFrontier
    return frontier :: rest

end Search

-- ============================================================================
-- One ring
-- ============================================================================

theorem Ring.mem_insert (ring : Ring α) (candidate b : α) :
    b ∈ (ring.insert candidate).visited ↔ b ∈ ring.visited ∨ b = candidate := by
  unfold Ring.insert
  split
  case isTrue hmem =>
    constructor
    · exact Or.inl
    · rintro (h | rfl)
      · exact h
      · exact hmem
  case isFalse => simp

/-- A ring's cells are appended to both lists. -/
theorem Ring.insert_visited_eq {ring : Ring α} {visited : List α}
    (h : ring.visited = visited ++ ring.nextFrontier) (candidate : α) :
    (ring.insert candidate).visited = visited ++ (ring.insert candidate).nextFrontier := by
  unfold Ring.insert
  split
  case isTrue => exact h
  case isFalse => simp [h]

theorem Ring.mem_foldl_insert (around : List α) (ring : Ring α) (b : α) :
    b ∈ (around.foldl Ring.insert ring).visited ↔ b ∈ ring.visited ∨ b ∈ around := by
  induction around generalizing ring with
  | nil => simp
  | cons candidate around ih =>
    rw [List.foldl_cons, ih, Ring.mem_insert, List.mem_cons, or_assoc]

theorem Ring.foldl_insert_visited_eq (around : List α) {ring : Ring α} {visited : List α}
    (h : ring.visited = visited ++ ring.nextFrontier) :
    (around.foldl Ring.insert ring).visited =
      visited ++ (around.foldl Ring.insert ring).nextFrontier := by
  induction around generalizing ring with
  | nil => exact h
  | cons candidate around ih => exact ih (Ring.insert_visited_eq h candidate)

section Search

variable {neighbors : α → Except ε (List α)}

theorem Ring.expand_eq_ok {ring ring' : Ring α} {cell : α}
    (h : ring.expand neighbors cell = .ok ring') :
    ∃ around, neighbors cell = .ok around ∧ ring' = around.foldl Ring.insert ring := by
  unfold Ring.expand at h
  cases hn : neighbors cell with
  | error e =>
    rw [hn] at h
    cases h
  | ok around =>
    rw [hn] at h
    cases h
    exact ⟨around, rfl, rfl⟩

/-- Expanding a frontier, from the middle of a ring. -/
theorem foldlM_expand_spec {frontier visited : List α} {ring ring' : Ring α}
    (hring : ring.visited = visited ++ ring.nextFrontier)
    (h : frontier.foldlM (Ring.expand neighbors) ring = .ok ring') :
    ring'.visited = visited ++ ring'.nextFrontier ∧
      (∀ a ∈ frontier, ∃ around, neighbors a = .ok around) ∧
      ∀ b, b ∈ ring'.visited ↔ b ∈ ring.visited ∨ ∃ a ∈ frontier, Adj neighbors a b := by
  induction frontier generalizing ring with
  | nil =>
    cases h
    exact ⟨hring, by simp, by simp⟩
  | cons cell frontier ih =>
    rw [List.foldlM_cons] at h
    cases hexp : ring.expand neighbors cell with
    | error e =>
      rw [hexp] at h
      cases h
    | ok mid =>
      rw [hexp] at h
      obtain ⟨around, hn, rfl⟩ := Ring.expand_eq_ok hexp
      obtain ⟨heq, hok, hmem⟩ := ih (Ring.foldl_insert_visited_eq around hring) h
      refine ⟨heq, ?_, fun b => ?_⟩
      · intro a ha
        rcases List.mem_cons.mp ha with rfl | ha
        · exact ⟨around, hn⟩
        · exact hok a ha
      · have hadj : Adj neighbors cell b ↔ b ∈ around := by simp [Adj, hn]
        rw [hmem, Ring.mem_foldl_insert, ← hadj, or_assoc]
        simp

/-- What one ring does: it adds the neighbours of the frontier, and the next frontier
    is what it added. -/
theorem expandAll_spec {visited frontier : List α} {ring : Ring α}
    (h : expandAll neighbors visited frontier = .ok ring) :
    ring.visited = visited ++ ring.nextFrontier ∧
      (∀ a ∈ frontier, ∃ around, neighbors a = .ok around) ∧
      ∀ b, b ∈ ring.visited ↔ b ∈ visited ∨ ∃ a ∈ frontier, Adj neighbors a b :=
  foldlM_expand_spec (List.append_nil visited).symm h

/-- After one ring from an open state, everything visited before it has been
    expanded. -/
theorem expandAll_expanded {visited frontier : List α} {ring : Ring α}
    (hopen : Open neighbors visited frontier)
    (h : expandAll neighbors visited frontier = .ok ring) {a : α} (ha : a ∈ visited) :
    ∃ around, neighbors a = .ok around ∧ ∀ b ∈ around, b ∈ ring.visited := by
  obtain ⟨-, hok, hmem⟩ := expandAll_spec h
  by_cases hfront : a ∈ frontier
  · obtain ⟨around, hn⟩ := hok a hfront
    exact ⟨around, hn, fun b hb => (hmem b).mpr (Or.inr ⟨a, hfront, around, hn, hb⟩)⟩
  · obtain ⟨around, hn, hsub⟩ := hopen.expanded a ha hfront
    exact ⟨around, hn, fun b hb => (hmem b).mpr (Or.inl (hsub b hb))⟩

/-- From an open state one ring adds the neighbours of everything visited, and leaves
    an open state. -/
theorem expandAll_grow {visited frontier : List α} {ring : Ring α}
    (hopen : Open neighbors visited frontier)
    (h : expandAll neighbors visited frontier = .ok ring) :
    {b | b ∈ ring.visited} = grow neighbors {b | b ∈ visited} ∧
      Open neighbors ring.visited ring.nextFrontier := by
  obtain ⟨heq, -, hmem⟩ := expandAll_spec h
  constructor
  · ext b
    show b ∈ ring.visited ↔ b ∈ visited ∨ ∃ a ∈ visited, Adj neighbors a b
    constructor
    · intro hb
      rcases (hmem b).mp hb with hb | ⟨a, ha, hab⟩
      · exact Or.inl hb
      · exact Or.inr ⟨a, hopen.seen a ha, hab⟩
    · rintro (hb | ⟨a, ha, around, hn, hb⟩)
      · exact (hmem b).mpr (Or.inl hb)
      · obtain ⟨around', hn', hsub⟩ := expandAll_expanded hopen h ha
        cases hn.symm.trans hn'
        exact hsub b hb
  · constructor
    · intro a ha
      rw [heq]
      exact List.mem_append_right _ ha
    · intro a ha hnext
      have hold : a ∈ visited := by
        rw [heq, List.mem_append] at ha
        exact ha.resolve_right hnext
      exact expandAll_expanded hopen h hold

-- ============================================================================
-- The whole search
-- ============================================================================

/-- A search that returns is one ring, and then either nothing, if the ring added
    nothing, or the search of the remaining rings. -/
theorem search_succ_eq_ok {rings : Nat} {visited frontier result : List α}
    (h : search neighbors (rings + 1) visited frontier = .ok result) :
    ∃ ring, expandAll neighbors visited frontier = .ok ring ∧
      (ring.nextFrontier = [] ∧ result = ring.visited ∨
        search neighbors rings ring.visited ring.nextFrontier = .ok result) := by
  unfold search at h
  cases hring : expandAll neighbors visited frontier with
  | error e =>
    rw [hring] at h
    cases h
  | ok ring =>
    rw [hring] at h
    refine ⟨ring, rfl, ?_⟩
    change (if ring.nextFrontier.isEmpty then Except.ok ring.visited
      else search neighbors rings ring.visited ring.nextFrontier) = .ok result at h
    split at h
    case isTrue hempty =>
      cases h
      exact Or.inl ⟨List.isEmpty_iff.mp hempty, rfl⟩
    case isFalse => exact Or.inr h

/-- A ring that added nothing leaves nothing for `grow` to add. -/
theorem grow_fixed_of_nextFrontier_nil {visited frontier : List α} {ring : Ring α}
    (hopen : Open neighbors visited frontier)
    (h : expandAll neighbors visited frontier = .ok ring) (hnil : ring.nextFrontier = []) :
    ring.visited = visited ∧ grow neighbors {b | b ∈ visited} = {b | b ∈ visited} := by
  have hsame : ring.visited = visited := by
    rw [(expandAll_spec h).1, hnil, List.append_nil]
  have hgrow := (expandAll_grow hopen h).1
  rw [hsame] at hgrow
  exact ⟨hsame, hgrow.symm⟩

/-- The search computes what `grow` adds in the given number of steps, also when it
    stops early. -/
theorem search_grow {rings : Nat} {visited frontier result : List α}
    (hopen : Open neighbors visited frontier)
    (h : search neighbors rings visited frontier = .ok result) :
    {b | b ∈ result} = (grow neighbors)^[rings] {b | b ∈ visited} := by
  induction rings generalizing visited frontier with
  | zero =>
    cases h
    rfl
  | succ rings ih =>
    obtain ⟨ring, hring, ⟨hnil, rfl⟩ | hrest⟩ := search_succ_eq_ok h
    · obtain ⟨hsame, hfixed⟩ := grow_fixed_of_nextFrontier_nil hopen hring hnil
      rw [hsame, Function.iterate_fixed hfixed]
    · obtain ⟨hgrow, hopen'⟩ := expandAll_grow hopen hring
      rw [Function.iterate_succ_apply, ← hgrow]
      exact ih hopen' hrest

/-- A search that returns has found the neighbours of every cell but those of the last
    ring. -/
theorem search_expanded {rings : Nat} {visited frontier result : List α}
    (hopen : Open neighbors visited frontier)
    (h : search neighbors rings visited frontier = .ok result) {n : Nat} (hn : n < rings)
    {a : α} (ha : a ∈ (grow neighbors)^[n] {b | b ∈ visited}) :
    ∃ around, neighbors a = .ok around := by
  induction rings generalizing visited frontier n with
  | zero => exact absurd hn (Nat.not_lt_zero n)
  | succ rings ih =>
    obtain ⟨ring, hring, hcase⟩ := search_succ_eq_ok h
    have hvisited : ∀ c ∈ visited, ∃ around, neighbors c = .ok around := by
      intro c hc
      obtain ⟨around, hok, -⟩ := expandAll_expanded hopen hring hc
      exact ⟨around, hok⟩
    rcases hcase with ⟨hnil, -⟩ | hrest
    · obtain ⟨-, hfixed⟩ := grow_fixed_of_nextFrontier_nil hopen hring hnil
      rw [Function.iterate_fixed hfixed] at ha
      exact hvisited a ha
    · cases n with
      | zero => exact hvisited a ha
      | succ n =>
        obtain ⟨hgrow, hopen'⟩ := expandAll_grow hopen hring
        rw [Function.iterate_succ_apply, ← hgrow] at ha
        exact ih hopen' hrest (Nat.lt_of_succ_lt_succ hn) ha

/-- The cells found from a start cell. -/
theorem search_visited {rings : Nat} {start : α} {result : List α}
    (h : search neighbors rings [start] [start] = .ok result) (b : α) :
    b ∈ result ↔ b ∈ (grow neighbors)^[rings] {start} := by
  have hgrow := search_grow (open_singleton start) h
  rw [mem_singleton_eq] at hgrow
  rw [← hgrow]
  rfl

/-- The cells expanded from a start cell. -/
theorem search_start_expanded {rings : Nat} {start : α} {result : List α}
    (h : search neighbors rings [start] [start] = .ok result) {n : Nat} (hn : n < rings) {a : α}
    (ha : a ∈ (grow neighbors)^[n] {start}) : ∃ around, neighbors a = .ok around := by
  rw [← mem_singleton_eq] at ha
  exact search_expanded (open_singleton start) h hn ha

-- ============================================================================
-- Frontiers
-- ============================================================================

theorem Ring.nodup_insert {ring : Ring α} (h : ring.visited.Nodup) (candidate : α) :
    (ring.insert candidate).visited.Nodup := by
  unfold Ring.insert
  split
  case isTrue => exact h
  case isFalse hmem =>
    show (ring.visited ++ [candidate]).Nodup
    rw [← List.concat_eq_append]
    exact h.concat hmem

/-- A ring inserts a cell once. -/
theorem expandAll_nodup {visited frontier : List α} {ring : Ring α} (hnodup : visited.Nodup)
    (h : expandAll neighbors visited frontier = .ok ring) : ring.visited.Nodup := by
  have hfoldl (around : List α) {r : Ring α} (hr : r.visited.Nodup) :
      (around.foldl Ring.insert r).visited.Nodup := by
    induction around generalizing r with
    | nil => exact hr
    | cons candidate around ih => exact ih (Ring.nodup_insert hr candidate)
  unfold expandAll at h
  generalize hstart : ({ visited, nextFrontier := [] } : Ring α) = start at h
  have hstartNodup : start.visited.Nodup := by
    rw [← hstart]
    exact hnodup
  clear hstart hnodup
  induction frontier generalizing start with
  | nil =>
    cases h
    exact hstartNodup
  | cons cell frontier ih =>
    rw [List.foldlM_cons] at h
    cases hexp : start.expand neighbors cell with
    | error e =>
      rw [hexp] at h
      cases h
    | ok mid =>
      rw [hexp] at h
      obtain ⟨around, -, rfl⟩ := Ring.expand_eq_ok hexp
      exact ih _ h (hfoldl around hstartNodup)

/-- The search of `rings + 1` rings and its frontiers, after the first ring. -/
theorem frontiers_succ_eq (rings : Nat) {visited frontier : List α} {ring : Ring α}
    (hring : expandAll neighbors visited frontier = .ok ring) :
    (ring.nextFrontier = [] ∧ search neighbors (rings + 1) visited frontier = .ok ring.visited ∧
      frontiers neighbors (rings + 1) visited frontier = .ok [frontier]) ∨
    (search neighbors (rings + 1) visited frontier =
        search neighbors rings ring.visited ring.nextFrontier ∧
      frontiers neighbors (rings + 1) visited frontier =
        (frontiers neighbors rings ring.visited ring.nextFrontier).map (frontier :: ·)) := by
  have hsearch : search neighbors (rings + 1) visited frontier =
      if ring.nextFrontier.isEmpty then .ok ring.visited
      else search neighbors rings ring.visited ring.nextFrontier := by
    rw [search, hring]
    rfl
  have hfront : frontiers neighbors (rings + 1) visited frontier =
      if ring.nextFrontier.isEmpty then .ok [frontier]
      else (frontiers neighbors rings ring.visited ring.nextFrontier).map (frontier :: ·) := by
    rw [frontiers, hring]
    rfl
  rw [hsearch, hfront]
  by_cases hnil : ring.nextFrontier = []
  · have hempty : ring.nextFrontier.isEmpty = true := List.isEmpty_iff.mpr hnil
    exact Or.inl ⟨hnil, if_pos hempty, if_pos hempty⟩
  · have hempty : ¬ ring.nextFrontier.isEmpty = true := fun h => hnil (List.isEmpty_iff.mp h)
    exact Or.inr ⟨if_neg hempty, if_neg hempty⟩

/-- The frontiers after the first are what the search adds, each in its turn: frontier
    `i + 1` holds the cells that step `i + 1` of `grow` adds. -/
theorem search_frontiers {rings : Nat} {visited frontier result : List α}
    (hopen : Open neighbors visited frontier) (hnodup : visited.Nodup)
    (h : search neighbors rings visited frontier = .ok result) :
    result.Nodup ∧ ∃ later, frontiers neighbors rings visited frontier = .ok (frontier :: later) ∧
      result = visited ++ later.flatten ∧
      ∀ i layer, later[i]? = some layer → ∀ b, b ∈ layer ↔
        b ∈ (grow neighbors)^[i + 1] {b | b ∈ visited} ∧
        b ∉ (grow neighbors)^[i] {b | b ∈ visited} := by
  induction rings generalizing visited frontier with
  | zero =>
    cases h
    exact ⟨hnodup, [], rfl, by simp, by simp⟩
  | succ rings ih =>
    obtain ⟨ring, hring, -⟩ := search_succ_eq_ok h
    obtain ⟨heq, -, -⟩ := expandAll_spec hring
    obtain ⟨hgrow, hopen'⟩ := expandAll_grow hopen hring
    have hnodup' := expandAll_nodup hnodup hring
    rcases frontiers_succ_eq rings hring with ⟨hnil, hsearch, hfront⟩ | ⟨hsearch, hfront⟩
    · rw [hsearch] at h
      obtain rfl := Except.ok.inj h
      exact ⟨hnodup', [], hfront, by rw [heq, hnil]; simp, by simp⟩
    · rw [hsearch] at h
      obtain ⟨hresult, later, hlater, hflat, hlayers⟩ := ih hopen' hnodup' h
      refine ⟨hresult, ring.nextFrontier :: later, ?_, ?_, ?_⟩
      · rw [hfront, hlater]
        rfl
      · rw [hflat, heq, List.flatten_cons, List.append_assoc]
      · rintro (_ | i) layer hlayer b
        · -- the first of them is what the ring added to the cells visited before
          rw [List.getElem?_cons_zero, Option.some.injEq] at hlayer
          subst hlayer
          have hvisited : b ∈ (grow neighbors)^[0 + 1] {b | b ∈ visited} ↔ b ∈ ring.visited := by
            show b ∈ grow neighbors {b | b ∈ visited} ↔ _
            rw [← hgrow]
            rfl
          rw [hvisited, heq, List.mem_append]
          show b ∈ ring.nextFrontier ↔ _ ∧ b ∉ visited
          have hdisjoint : b ∈ ring.nextFrontier → b ∉ visited := by
            intro hnext hold
            rw [heq] at hnodup'
            exact (List.nodup_append.mp hnodup').2.2 b hold b hnext rfl
          tauto
        · rw [List.getElem?_cons_succ] at hlayer
          rw [hlayers i layer hlayer b, hgrow, ← Function.iterate_succ_apply,
            ← Function.iterate_succ_apply]

-- ============================================================================
-- Failure
-- ============================================================================

theorem foldlM_expand_error {frontier : List α} {ring : Ring α} {e : ε}
    (h : frontier.foldlM (Ring.expand neighbors) ring = .error e) :
    ∃ cell, neighbors cell = .error e := by
  induction frontier generalizing ring with
  | nil => cases h
  | cons cell frontier ih =>
    rw [List.foldlM_cons] at h
    cases hn : neighbors cell with
    | error e' =>
      rw [Ring.expand, hn] at h
      cases h
      exact ⟨cell, hn⟩
    | ok around =>
      rw [Ring.expand, hn] at h
      exact ih h

/-- The search fails with an error of the neighbour function. -/
theorem search_error {rings : Nat} {visited frontier : List α} {e : ε}
    (h : search neighbors rings visited frontier = .error e) :
    ∃ cell, neighbors cell = .error e := by
  induction rings generalizing visited frontier with
  | zero => cases h
  | succ rings ih =>
    unfold search at h
    cases hring : expandAll neighbors visited frontier with
    | error e' =>
      rw [hring] at h
      cases h
      exact foldlM_expand_error hring
    | ok ring =>
      rw [hring] at h
      change (if ring.nextFrontier.isEmpty then Except.ok ring.visited
        else search neighbors rings ring.visited ring.nextFrontier) = .error e at h
      split at h
      case isTrue => cases h
      case isFalse => exact ih h

-- ============================================================================
-- Success
-- ============================================================================

variable {cells : Set α}

theorem expandAll_ok (hok : ∀ a ∈ cells, ∃ around, neighbors a = .ok around)
    {frontier : List α} (hfront : ∀ a ∈ frontier, a ∈ cells) (visited : List α) :
    ∃ ring, expandAll neighbors visited frontier = .ok ring := by
  unfold expandAll
  generalize ({ visited, nextFrontier := [] } : Ring α) = ring
  induction frontier generalizing ring with
  | nil => exact ⟨ring, rfl⟩
  | cons cell frontier ih =>
    obtain ⟨around, hn⟩ := hok cell (hfront cell List.mem_cons_self)
    obtain ⟨ring', h'⟩ := ih (fun a ha => hfront a (List.mem_cons_of_mem _ ha))
      (around.foldl Ring.insert ring)
    refine ⟨ring', ?_⟩
    rw [List.foldlM_cons, Ring.expand, hn]
    exact h'

/-- The search returns, and stays inside the set, when the neighbours of a set's cells
    can be found and are in the set. -/
theorem search_ok (hok : ∀ a ∈ cells, ∃ around, neighbors a = .ok around)
    (hclosed : ∀ a ∈ cells, ∀ b, Adj neighbors a b → b ∈ cells) (rings : Nat)
    {visited frontier : List α} (hvisited : ∀ a ∈ visited, a ∈ cells)
    (hfront : ∀ a ∈ frontier, a ∈ cells) :
    ∃ result, search neighbors rings visited frontier = .ok result ∧
      ∀ b ∈ result, b ∈ cells := by
  induction rings generalizing visited frontier with
  | zero => exact ⟨visited, rfl, hvisited⟩
  | succ rings ih =>
    obtain ⟨ring, hring⟩ := expandAll_ok hok hfront visited
    obtain ⟨heq, -, hmem⟩ := expandAll_spec hring
    have hvisited' : ∀ a ∈ ring.visited, a ∈ cells := by
      intro a ha
      rcases (hmem a).mp ha with h | ⟨c, hc, hca⟩
      · exact hvisited a h
      · exact hclosed c (hfront c hc) a hca
    have hfront' : ∀ a ∈ ring.nextFrontier, a ∈ cells := by
      intro a ha
      exact hvisited' a (heq ▸ List.mem_append_right _ ha)
    unfold search
    rw [hring]
    change ∃ result, (if ring.nextFrontier.isEmpty then Except.ok ring.visited
        else search neighbors rings ring.visited ring.nextFrontier) = .ok result ∧ _
    split
    case isTrue => exact ⟨ring.visited, rfl, hvisited'⟩
    case isFalse => exact ih hvisited' hfront'

end Search

end RingSearch
