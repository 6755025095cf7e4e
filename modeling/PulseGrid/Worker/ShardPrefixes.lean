/-
  PulseGrid.Worker.ShardPrefixes

  The list of shards a worker owns: `parse_prefixes`
  (crates/fanout-worker/src/config.rs).

  The loop mixes normalising, checking and removing duplicates; `collectPrefixes_eq_ok_iff`
  takes it apart into a check of every item and a fold that keeps first occurrences
  (`foldl_pushNew`).  A text in the loop's own output format goes through unchanged
  (`normalise_eq_self`), so parsing again changes nothing.
-/

import PulseGrid.Domain.Geohash
import PulseGrid.Lib.RustStr
import PulseGrid.Worker.ShardLease

namespace PulseGrid.Worker

open RustStr

/-- `item.trim().to_ascii_lowercase()`. -/
def normalise (item : List Char) : List Char := toAsciiLowercase (trim item)

def invalidPrefixMessage (item : List Char) : String :=
  "'" ++ String.ofList item ++ "' is not a valid shard prefix: expected " ++
    toString shardPrefixLength ++ " geohash characters (0-9 and b-z without a, i, l, o)"

/-- `if !out.contains(&prefix) { out.push(prefix) }`. -/
def pushNew (out : List (List Char)) (p : List Char) : List (List Char) :=
  if out.contains p then out else out ++ [p]

/-- The loop of `parse_prefixes`. -/
def collectPrefixes (out : List (List Char)) :
    List (List Char) → Except String (List (List Char))
  | [] => .ok out
  | item :: items =>
      let p := normalise item
      if p.isEmpty then collectPrefixes out items
      else if byteLen p != shardPrefixLength || !p.all geohashAlphabet.toList.contains then
        .error (invalidPrefixMessage item)
      else collectPrefixes (pushNew out p) items

def parsePrefixes (raw : List Char) : Except String (List (List Char)) := do
  let out ← collectPrefixes [] (raw.splitOn ',')
  if out.isEmpty then .error "FANOUT_WORKER_SHARD_PREFIXES must list at least one prefix"
  else .ok out

-- ============================================================================
-- Shard prefixes
-- ============================================================================

/-- Four characters of the geohash alphabet. -/
def IsShardPrefix (p : List Char) : Prop :=
  p.length = shardPrefixLength ∧ ∀ c ∈ p, c ∈ geohashAlphabet.toList

instance (p : List Char) : Decidable (IsShardPrefix p) := inferInstanceAs (Decidable (_ ∧ _))

/-- The characters of the alphabet are no separators, survive trimming and lower case, and
    take one byte each. -/
theorem geohashAlphabet_plain {c : Char} (h : c ∈ geohashAlphabet.toList) :
    c ≠ ',' ∧ isWhitespace c = false ∧ c.toLower = c ∧ c.utf8Size = 1 := by
  have hall : (geohashAlphabet.toList.all fun c => decide (c ≠ ',' ∧ isWhitespace c = false ∧
      c.toLower = c ∧ c.utf8Size = 1)) = true := by decide
  exact of_decide_eq_true (List.all_eq_true.mp hall c h)

theorem byteLen_eq_length {p : List Char} (h : ∀ c ∈ p, c ∈ geohashAlphabet.toList) :
    byteLen p = p.length := by
  induction p with
  | nil => rfl
  | cons c p ih =>
      have hsize := (geohashAlphabet_plain (h c List.mem_cons_self)).2.2.2
      have hrest := ih fun c' hc' => h c' (List.mem_cons_of_mem _ hc')
      rw [byteLen, asBytes] at hrest ⊢
      rw [List.flatMap_cons, List.length_append, String.length_utf8EncodeChar, hsize, hrest,
        List.length_cons, Nat.add_comm]

/-- The check of the loop counts bytes; with the alphabet's characters that is their number. -/
theorem check_iff {p : List Char} :
    (byteLen p != shardPrefixLength || !p.all geohashAlphabet.toList.contains) = false ↔
      IsShardPrefix p := by
  simp only [Bool.or_eq_false_iff, bne_eq_false_iff_eq, Bool.not_eq_false', List.all_eq_true,
    List.contains_iff_mem, IsShardPrefix]
  constructor
  · rintro ⟨hlen, hall⟩
    exact ⟨(byteLen_eq_length hall).symm.trans hlen, hall⟩
  · rintro ⟨hlen, hall⟩
    exact ⟨(byteLen_eq_length hall).trans hlen, hall⟩

theorem IsShardPrefix.ne_nil {p : List Char} (h : IsShardPrefix p) : p ≠ [] := by
  rintro rfl
  exact absurd h.1 (by decide)

/-- A shard prefix is in the form the loop brings its items to. -/
theorem normalise_eq_self {p : List Char} (h : IsShardPrefix p) : normalise p = p := by
  have htrim : trim p = p := by
    apply trim_eq_self
    · intro c hc
      exact (geohashAlphabet_plain (h.2 c (List.mem_of_head? hc))).2.1
    · intro c hc
      exact (geohashAlphabet_plain (h.2 c (List.mem_of_getLast? hc))).2.1
  rw [normalise, htrim, toAsciiLowercase]
  conv => rhs; rw [← List.map_id p]
  apply List.map_congr_left
  intro c hc
  exact (geohashAlphabet_plain (h.2 c hc)).2.2.1

theorem normalise_eq_nil_iff {item : List Char} : normalise item = [] ↔ trim item = [] := by
  rw [normalise, toAsciiLowercase, List.map_eq_nil_iff]

-- ============================================================================
-- The loop
-- ============================================================================

/-- Pushing what is new keeps the first occurrence of everything. -/
theorem foldl_pushNew (out ps : List (List Char)) :
    ps.foldl pushNew out = out ++ (ps.filter fun p => !out.contains p).eraseDups := by
  induction ps generalizing out with
  | nil => simp
  | cons p ps ih =>
      rw [List.foldl_cons, ih, pushNew]
      by_cases hp : p ∈ out
      · have hc : out.contains p = true := List.contains_iff_mem.mpr hp
        rw [if_pos hc, List.filter_cons_of_neg (by simpa using hp)]
      · have hc : out.contains p = false := by simpa using hp
        rw [if_neg (by simpa using hp), List.filter_cons_of_pos (by simpa using hp),
          List.eraseDups_cons, List.append_assoc, List.singleton_append, List.filter_filter]
        congr 3
        apply List.filter_congr
        intro q _
        by_cases hq : q = p <;> simp [hq]

theorem nodup_foldl_pushNew {out : List (List Char)} (h : out.Nodup) (ps : List (List Char)) :
    (ps.foldl pushNew out).Nodup := by
  induction ps generalizing out with
  | nil => exact h
  | cons p ps ih =>
      rw [List.foldl_cons]
      apply ih
      rw [pushNew]
      split
      · exact h
      · next hp =>
          rw [← List.concat_eq_append]
          exact h.concat (by simpa using hp)

theorem foldl_pushNew_of_nodup {out ps : List (List Char)} (h : (out ++ ps).Nodup) :
    ps.foldl pushNew out = out ++ ps := by
  induction ps generalizing out with
  | nil => simp
  | cons p ps ih =>
      have hp : p ∉ out := by
        intro hmem
        exact (List.nodup_append.mp h).2.2 p hmem p List.mem_cons_self rfl
      rw [List.foldl_cons, pushNew, if_neg (by simpa using hp), ih (by simpa using h),
        List.append_assoc, List.singleton_append]

/-- The normalised items that are not blank. -/
def itemsOf (items : List (List Char)) : List (List Char) :=
  (items.map normalise).filter fun p => p ≠ []

/-- The loop accepts when every item that is not blank normalises to a shard prefix, and
    collects these. -/
theorem collectPrefixes_eq_ok_iff (out result items : List (List Char)) :
    collectPrefixes out items = .ok result ↔
      (∀ p ∈ itemsOf items, IsShardPrefix p) ∧ result = (itemsOf items).foldl pushNew out := by
  induction items generalizing out with
  | nil =>
      simp only [collectPrefixes, itemsOf, List.map_nil, List.filter_nil, List.not_mem_nil,
        false_implies, implies_true, true_and, List.foldl_nil, Except.ok.injEq]
      exact eq_comm
  | cons item items ih =>
      rw [collectPrefixes]
      by_cases hblank : normalise item = []
      · have hitems : itemsOf (item :: items) = itemsOf items := by
          simp [itemsOf, hblank]
        rw [if_pos (by simp [hblank]), ih, hitems]
      · have hitems : itemsOf (item :: items) = normalise item :: itemsOf items := by
          simp [itemsOf, hblank]
        rw [if_neg (by simpa using hblank), hitems, List.forall_mem_cons, List.foldl_cons]
        by_cases hvalid : IsShardPrefix (normalise item)
        · rw [if_neg (by rw [check_iff.mpr hvalid]; simp), ih, and_assoc]
          exact ⟨fun h => ⟨hvalid, h⟩, fun h => h.2⟩
        · have hcheck : (byteLen (normalise item) != shardPrefixLength ||
              !(normalise item).all geohashAlphabet.toList.contains) = true := by
            rw [← Bool.not_eq_false, check_iff]
            exact hvalid
          rw [if_pos hcheck]
          simp [hvalid]

-- ============================================================================
-- `parse_prefixes`
-- ============================================================================

theorem parsePrefixes_eq_ok_iff {raw : List Char} {out : List (List Char)} :
    parsePrefixes raw = .ok out ↔
      itemsOf (raw.splitOn ',') ≠ [] ∧ (∀ p ∈ itemsOf (raw.splitOn ','), IsShardPrefix p) ∧
      out = (itemsOf (raw.splitOn ',')).foldl pushNew [] := by
  have hnil : (itemsOf (raw.splitOn ',')).foldl pushNew [] = [] ↔
      itemsOf (raw.splitOn ',') = [] := by
    rw [foldl_pushNew]
    cases itemsOf (raw.splitOn ',') with
    | nil => simp
    | cons p ps => simp [List.eraseDups_cons]
  have hloop (result : List (List Char)) :=
    collectPrefixes_eq_ok_iff [] result (raw.splitOn ',')
  rw [parsePrefixes]
  cases hcollect : collectPrefixes [] (raw.splitOn ',') with
  | error e =>
      rw [hcollect] at hloop
      simp only [bind, Except.bind, reduceCtorEq, false_iff]
      rintro ⟨-, hall, -⟩
      exact absurd ((hloop _).mpr ⟨hall, rfl⟩) (by simp)
  | ok result =>
      rw [hcollect] at hloop
      obtain ⟨hall, rfl⟩ := (hloop result).mp rfl
      simp only [bind, Except.bind, List.isEmpty_iff, hnil]
      by_cases hempty : itemsOf (raw.splitOn ',') = []
      · simp [hempty]
      · rw [if_neg hempty, Except.ok.injEq]
        exact ⟨fun h => ⟨hempty, hall, h.symm⟩, fun h => h.2.2.symm⟩

/-- Joined with commas, distinct shard prefixes are parsed back. -/
theorem parsePrefixes_intercalate {ps : List (List Char)} (hne : ps ≠ []) (hnodup : ps.Nodup)
    (hvalid : ∀ p ∈ ps, IsShardPrefix p) : parsePrefixes ([','].intercalate ps) = .ok ps := by
  have hcomma : ∀ p ∈ ps, ',' ∉ p := by
    intro p hp hmem
    exact (geohashAlphabet_plain ((hvalid p hp).2 ',' hmem)).1 rfl
  have hitems : itemsOf ps = ps := by
    have hmap : ps.map normalise = ps := by
      conv => rhs; rw [← List.map_id ps]
      exact List.map_congr_left fun p hp => normalise_eq_self (hvalid p hp)
    rw [itemsOf, hmap, List.filter_eq_self]
    intro p hp
    simpa using (hvalid p hp).ne_nil
  rw [parsePrefixes_eq_ok_iff, List.splitOn_intercalate ',' hcomma hne, hitems]
  exact ⟨hne, hvalid, by rw [foldl_pushNew_of_nodup (by simpa using hnodup), List.nil_append]⟩

/-- What is accepted: at least one prefix, each once and of the right shape. -/
theorem owned_of_parsePrefixes {raw : List Char} {out : List (List Char)}
    (h : parsePrefixes raw = .ok out) : out ≠ [] ∧ out.Nodup ∧ ∀ p ∈ out, IsShardPrefix p := by
  obtain ⟨hne, hall, rfl⟩ := parsePrefixes_eq_ok_iff.mp h
  have hmem (p : List Char) : p ∈ (itemsOf (raw.splitOn ',')).foldl pushNew [] ↔
      p ∈ itemsOf (raw.splitOn ',') := by
    rw [foldl_pushNew]
    simp
  obtain ⟨p, hp⟩ := List.exists_mem_of_ne_nil _ hne
  exact ⟨List.ne_nil_of_mem ((hmem p).mpr hp), nodup_foldl_pushNew List.nodup_nil _,
    fun p hp => hall p ((hmem p).mp hp)⟩

/-- That is what `LeaseConfig` asks of `owned_prefixes`. -/
theorem parsePrefixes_owned {raw : List Char} {out : List (List Char)}
    (h : parsePrefixes raw = .ok out) :
    out.map String.ofList ≠ [] ∧ (∀ p ∈ out.map String.ofList, isShardPrefix p = true) ∧
      (out.map String.ofList).Nodup := by
  obtain ⟨hne, hnodup, hshape⟩ := owned_of_parsePrefixes h
  refine ⟨?_, ?_, ?_⟩
  · rwa [ne_eq, List.map_eq_nil_iff]
  · intro p hp
    obtain ⟨chars, hchars, rfl⟩ := List.mem_map.mp hp
    obtain ⟨hlen, hletters⟩ := hshape chars hchars
    simp only [isShardPrefix, Bool.and_eq_true, decide_eq_true_eq, List.all_eq_true,
      String.toList_ofList, List.contains_iff_mem]
    rw [String.length_ofList]
    exact ⟨hlen, hletters⟩
  · have hinj : Function.Injective String.ofList := fun _ _ h => String.ofList_injective h
    exact hnodup.map hinj

theorem parsePrefixes_singleton {p : List Char} (h : IsShardPrefix p) :
    parsePrefixes p = .ok [p] := by
  have hjoin : parsePrefixes ([','].intercalate [p]) = .ok [p] :=
    parsePrefixes_intercalate (by simp) (by simp) (by simpa using h)
  simpa using hjoin

/-- What is documented of `geohash::encode`: a hash of `len` characters of the alphabet. -/
def WritesGeohashes {F : Type} (geo : GeohashCrate F) : Prop :=
  ∀ x y len hash, geo.encode x y len = .ok hash →
    hash.toList.length = len ∧ ∀ c ∈ hash.toList, c ∈ geohashAlphabet.toList

theorem hashOf_alphabet (len c r : Nat) : ∀ ch ∈ (hashOf len c r).toList, ch ∈ geohashAlphabet.toList := by
  have hdigit : ∀ v < 32, base32.getD v '0' ∈ geohashAlphabet.toList := by decide +kernel
  intro ch hch
  rw [hashOf, String.toList_ofList] at hch
  obtain ⟨j, -, rfl⟩ := List.mem_map.mp hch
  exact hdigit _ (hashDigit_lt len c r j)

theorem writesGeohashes_encode {F : Type} [Field F] [LinearOrder F] [FloorSemiring F] :
    WritesGeohashes (F := F) { encode := Geohash.encode } := by
  intro x y len hash h
  simp only [Geohash.encode] at h
  split at h
  · cases h
  · split at h
    · cases h
    · obtain rfl := Except.ok.inj h
      exact ⟨length_hashOf len _ _, hashOf_alphabet len _ _⟩

/-- The shard prefix of a device. -/
theorem isShardPrefix_shardPrefixOf {D F : Type} [CommRing F] [LinearOrder F]
    {geo : GeohashCrate F} (hgeo : WritesGeohashes geo) {location : Location F} {hash : String}
    (h : encodeLocation (D := D) geo location = .ok hash) :
    IsShardPrefix (shardPrefixOf hash).toList := by
  have hencode : geo.encode location.lon location.lat geohashPrecision = .ok hash := by
    rw [encodeLocation] at h
    cases hresult : geo.encode location.lon location.lat geohashPrecision with
    | error e =>
        rw [hresult] at h
        cases h
    | ok hash' =>
        rw [hresult] at h
        exact congrArg Except.ok (Except.ok.inj h)
  obtain ⟨hlen, hchars⟩ := hgeo _ _ _ _ hencode
  rw [shardPrefixOf, String.toList_ofList]
  constructor
  · rw [List.length_take, hlen]
    rfl
  · intro c hc
    exact hchars c (List.mem_of_mem_take hc)

/-- **`parse_prefixes` accepts exactly its grammar.**  A list is accepted when some item is
    not blank and every such item, trimmed and in ASCII lower case, is four characters of the
    geohash alphabet.  The result is these, the first occurrence of each; joined with commas it
    is parsed to itself.  The shard prefix of a device is accepted unchanged. -/
theorem parsePrefixes_grammar (raw : List Char) :
    ((∃ out, parsePrefixes raw = .ok out) ↔
      (∃ item ∈ raw.splitOn ',', trim item ≠ []) ∧
      ∀ item ∈ raw.splitOn ',', trim item ≠ [] →
        IsShardPrefix (toAsciiLowercase (trim item))) ∧
    (∀ out, parsePrefixes raw = .ok out →
      out = (((raw.splitOn ',').filter fun item => trim item ≠ []).map fun item =>
        toAsciiLowercase (trim item)).eraseDups ∧
      out.Nodup ∧
      parsePrefixes ([','].intercalate out) = .ok out) ∧
    (∀ p, IsShardPrefix p → parsePrefixes p = .ok [p]) ∧
    (∀ (D F : Type) [CommRing F] [LinearOrder F] (geo : GeohashCrate F) (location : Location F)
      (hash : String), WritesGeohashes geo → encodeLocation (D := D) geo location = .ok hash →
        parsePrefixes (shardPrefixOf hash).toList = .ok [(shardPrefixOf hash).toList]) := by
  have hitems : itemsOf (raw.splitOn ',') =
      ((raw.splitOn ',').filter fun item => trim item ≠ []).map normalise := by
    rw [itemsOf, List.filter_map]
    congr 1
    apply List.filter_congr
    intro item _
    simp [normalise_eq_nil_iff]
  have hmem (p : List Char) : p ∈ itemsOf (raw.splitOn ',') ↔
      ∃ item ∈ raw.splitOn ',', trim item ≠ [] ∧ normalise item = p := by
    rw [hitems, List.mem_map]
    simp only [List.mem_filter, decide_eq_true_eq, and_assoc]
  refine ⟨?_, ?_, fun p => parsePrefixes_singleton, fun D F _ _ geo location hash hgeo h =>
    parsePrefixes_singleton (isShardPrefix_shardPrefixOf hgeo h)⟩
  · simp only [parsePrefixes_eq_ok_iff]
    constructor
    · rintro ⟨out, hne, hall, -⟩
      obtain ⟨p, hp⟩ := List.exists_mem_of_ne_nil _ hne
      obtain ⟨item, hitem, hblank, -⟩ := (hmem p).mp hp
      exact ⟨⟨item, hitem, hblank⟩, fun item hitem hblank =>
        hall _ ((hmem _).mpr ⟨item, hitem, hblank, rfl⟩)⟩
    · rintro ⟨⟨item, hitem, hblank⟩, hall⟩
      refine ⟨_, List.ne_nil_of_mem ((hmem _).mpr ⟨item, hitem, hblank, rfl⟩), ?_, rfl⟩
      intro p hp
      obtain ⟨item, hitem, hblank, rfl⟩ := (hmem p).mp hp
      exact hall item hitem hblank
  · intro out hout
    obtain ⟨hne, hall, rfl⟩ := parsePrefixes_eq_ok_iff.mp hout
    have hfold := foldl_pushNew [] (itemsOf (raw.splitOn ','))
    simp only [List.contains_nil, Bool.not_false, List.filter_true, List.nil_append] at hfold
    have hnodup := nodup_foldl_pushNew List.nodup_nil (itemsOf (raw.splitOn ','))
    refine ⟨?_, hnodup, ?_⟩
    · rw [hfold, hitems]
      rfl
    · apply parsePrefixes_intercalate
      · intro hnil
        rw [hnil] at hfold
        obtain ⟨p, hp⟩ := List.exists_mem_of_ne_nil _ hne
        have := List.mem_eraseDups.mpr hp
        rw [← hfold] at this
        cases this
      · exact hnodup
      · intro p hp
        rw [hfold, List.mem_eraseDups] at hp
        exact hall p hp

/-- The shard of a place, as the crate's `encode` writes it. -/
theorem parsePrefixes_grammar_geohash :
    encodeLocation (D := Unit) { encode := Geohash.encode }
        (⟨-25.382708, -49.265506, by norm_num, by norm_num⟩ : Location ℚ) = .ok "6gkzwgj" ∧
      parsePrefixes "6gkz".toList = .ok ["6gkz".toList] := by
  have hencode : encodeLocation (D := Unit) { encode := Geohash.encode }
      (⟨-25.382708, -49.265506, by norm_num, by norm_num⟩ : Location ℚ) = .ok "6gkzwgj" := by
    decide +kernel
  have hshard : "6gkz".toList = (shardPrefixOf "6gkzwgj").toList := by decide +kernel
  refine ⟨hencode, ?_⟩
  rw [hshard]
  exact (parsePrefixes_grammar []).2.2.2 Unit ℚ _ _ _ writesGeohashes_encode hencode

example : parsePrefixes " TKRT ,,tkrw,tkrt".toList = .ok ["tkrt".toList, "tkrw".toList] := by
  decide +kernel

end PulseGrid.Worker
