/-
  PulseGrid.Domain.Protocol

  What travels between the coordinator, the workers and the dashboard: subject names,
  control messages and delivery telemetry (crates/domain/src/protocol.rs), and the text of
  a UUID.

  Texts are lists of Unicode scalar values.  What the `uuid` and `serde_json` crates write
  and read is a parameter (`ControlWire`), with what is documented of them as hypotheses.
-/

import PulseGrid.Domain.Auth
import PulseGrid.Domain.Device
import PulseGrid.Lib.HexText
import PulseGrid.Lib.RustStr

namespace PulseGrid

open HexText
open RustStr (asBytes asBytes_inj)

-- ============================================================================
-- UUIDs
-- ============================================================================

abbrev Uuid := BitVec 128

/-- `Display`: groups of 8, 4, 4, 4 and 12 lowercase digits. -/
def Uuid.display (id : Uuid) : List Char :=
  let digits := hexDigits 32 id.toNat
  digits.take 8 ++ '-' :: ((digits.drop 8).take 4 ++ '-' :: ((digits.drop 12).take 4 ++
    '-' :: ((digits.drop 16).take 4 ++ '-' :: digits.drop 20)))

/-- The hyphenated form read back. -/
def Uuid.parseHyphenated (s : List Char) : Option Uuid :=
  if s.length = 36 ∧ ∀ i ∈ [8, 13, 18, 23], s[i]? = some '-' then
    (hexNumber (s.take 8 ++ (s.drop 9).take 4 ++ (s.drop 14).take 4 ++ (s.drop 19).take 4 ++
      s.drop 24)).map (BitVec.ofNat 128)
  else none

/-- The hyphens are taken out again. -/
theorem Uuid.parseHyphenated_groups {a b c d e : List Char} (ha : a.length = 8)
    (hb : b.length = 4) (hc : c.length = 4) (hd : d.length = 4) (he : e.length = 12) :
    Uuid.parseHyphenated (a ++ '-' :: (b ++ '-' :: (c ++ '-' :: (d ++ '-' :: e)))) =
      (hexNumber (a ++ b ++ c ++ d ++ e)).map (BitVec.ofNat 128) := by
  have hlen : (a ++ '-' :: (b ++ '-' :: (c ++ '-' :: (d ++ '-' :: e)))).length = 36 := by
    simp only [List.length_append, List.length_cons]
    omega
  have hhyphens : ∀ i ∈ [8, 13, 18, 23],
      (a ++ '-' :: (b ++ '-' :: (c ++ '-' :: (d ++ '-' :: e))))[i]? = some '-' := by
    simp [List.getElem?_append, List.getElem?_cons, ha, hb, hc, hd]
  rw [Uuid.parseHyphenated, if_pos ⟨hlen, hhyphens⟩]
  congr 2
  simp (disch := omega) [List.drop_append, List.drop_eq_nil_of_le, ha, hb, hc, hd]

theorem Uuid.parseHyphenated_display (id : Uuid) : Uuid.parseHyphenated id.display = some id := by
  have hgroups := Uuid.parseHyphenated_groups
    (a := (hexDigits 32 id.toNat).take 8) (b := ((hexDigits 32 id.toNat).drop 8).take 4)
    (c := ((hexDigits 32 id.toNat).drop 12).take 4)
    (d := ((hexDigits 32 id.toNat).drop 16).take 4) (e := (hexDigits 32 id.toNat).drop 20)
    (by simp) (by simp) (by simp) (by simp) (by simp)
  have hjoin : (hexDigits 32 id.toNat).take 8 ++ ((hexDigits 32 id.toNat).drop 8).take 4 ++
      ((hexDigits 32 id.toNat).drop 12).take 4 ++ ((hexDigits 32 id.toNat).drop 16).take 4 ++
      (hexDigits 32 id.toNat).drop 20 = hexDigits 32 id.toNat := by
    rw [← List.take_add, ← List.take_add, ← List.take_add, List.take_append_drop]
  have hvalue : hexNumber (hexDigits 32 id.toNat) = some id.toNat := by
    have hlt : id.toNat < 16 ^ 32 := id.isLt
    rw [hexNumber_hexDigits, Nat.mod_eq_of_lt hlt]
  rw [Uuid.display, hgroups, hjoin, hvalue, Option.map_some, BitVec.ofNat_toNat,
    BitVec.setWidth_eq]

-- ============================================================================
-- Control messages
-- ============================================================================

/-- The texts of ids and of control messages. -/
structure ControlWire (F : Type) where
  /-- `Uuid::to_string`. -/
  display : Uuid → List Char
  /-- `Uuid::parse_str`. -/
  parseStr : List Char → Option Uuid
  /-- `serde_json::to_string`. -/
  toJson : ServerMessage F → String
  /-- `serde_json::from_slice`. -/
  fromSlice : List UInt8 → Option (ServerMessage F)

/-- The same message but for coordinates, which a reader may round, and counts. -/
def ServerMessage.SameTexts {F : Type} : ServerMessage F → ServerMessage F → Prop
  | .shardChanged shardPrefix wsUrl, .shardChanged shardPrefix' wsUrl' =>
      shardPrefix' = shardPrefix ∧ wsUrl' = wsUrl
  | .revoked, .revoked => True
  | .locationUpdated _ _, .locationUpdated _ _ => True
  | .replayComplete _, .replayComplete _ => True
  | _, _ => False

namespace ControlWire

variable {F : Type} (wire : ControlWire F)

/-- What is documented of the crates: the text of an id is parsed to the id, and from the
    text of a message no other message is read, but for its numbers. -/
structure Documented : Prop where
  parseStr_display : ∀ id, wire.parseStr (wire.display id) = some id
  fromSlice_toJson : ∀ message read,
    wire.fromSlice (asBytes (wire.toJson message).toList) = some read → message.SameTexts read

/-- The payload that `publish_control` publishes. -/
def payload (message : ServerMessage F) : List UInt8 := asBytes (wire.toJson message).toList

def controlSubjectPrefix : List Char := "control.device.".toList

def controlSubject (deviceId : Uuid) : List Char := controlSubjectPrefix ++ wire.display deviceId

/-- Extracts the device id from a `control.device.<uuid>` subject. -/
def deviceIdFromControlSubject (subject : List Char) : Option Uuid :=
  (subject.dropPrefix? controlSubjectPrefix).bind fun rest => wire.parseStr rest

variable {wire}

theorem Documented.deviceIdFromControlSubject_controlSubject (h : wire.Documented)
    (deviceId : Uuid) :
    wire.deviceIdFromControlSubject (wire.controlSubject deviceId) = some deviceId := by
  have hrest : (wire.controlSubject deviceId).dropPrefix? controlSubjectPrefix =
      some (wire.display deviceId) := by
    rw [List.dropPrefix?_eq_some_iff]
    exact ⟨_, rfl, beq_self_eq_true _⟩
  rw [deviceIdFromControlSubject, hrest, Option.bind_some, h.parseStr_display]

-- ============================================================================
-- One wire
-- ============================================================================

/-- What a message is written as up to its first field: the tag. -/
def tagText : ServerMessage ℤ → List Char
  | .shardChanged _ _ => "\x7b\"type\":\"shard_changed\"".toList
  | .revoked => "\x7b\"type\":\"revoked\"".toList
  | .locationUpdated _ _ => "\x7b\"type\":\"location_updated\"".toList
  | .replayComplete _ => "\x7b\"type\":\"replay_complete\"".toList

/-- The fields, for texts without characters to escape. -/
def fieldsText : ServerMessage ℤ → List Char
  | .shardChanged shardPrefix wsUrl =>
      ",\"shard_prefix\":\"".toList ++ shardPrefix.toList ++ "\",\"ws_url\":".toList ++
        match wsUrl with
        | some url => '"' :: (url.toList ++ ['"'])
        | none => "null".toList
  | .revoked => []
  | .locationUpdated lat lon =>
      ",\"lat\":".toList ++ (toString lat).toList ++ ",\"lon\":".toList ++ (toString lon).toList
  | .replayComplete replayed => ",\"replayed\":".toList ++ (toString replayed).toList

def wholeNumbersText (message : ServerMessage ℤ) : List Char :=
  tagText message ++ (fieldsText message ++ "\x7d".toList)

/-- Hyphenated ids, whole degrees, and a reader that knows one message. -/
def wholeNumbers : ControlWire ℤ where
  display := Uuid.display
  parseStr := Uuid.parseHyphenated
  toJson message := String.ofList (wholeNumbersText message)
  fromSlice payload :=
    if payload = asBytes (wholeNumbersText .revoked) then some .revoked else none

/-- The tags differ within the first twelve characters. -/
theorem wholeNumbersText_eq_revoked {message : ServerMessage ℤ}
    (h : wholeNumbersText message = wholeNumbersText .revoked) : message = .revoked := by
  have hlen : 11 < (tagText message).length := by
    cases message <;> (dsimp only [tagText]; decide +kernel)
  have hchar : (tagText message)[11]? = some 'v' := by
    have hboth := congrArg (fun text => text[11]?) h
    dsimp only [wholeNumbersText] at hboth
    rw [List.getElem?_append_left hlen, List.getElem?_append_left (by decide +kernel)] at hboth
    exact hboth.trans (by decide +kernel)
  cases message with
  | revoked => rfl
  | _ =>
      dsimp only [tagText] at hchar
      exact absurd hchar (by decide +kernel)

theorem documented_wholeNumbers : wholeNumbers.Documented where
  parseStr_display := Uuid.parseHyphenated_display
  fromSlice_toJson := by
    intro message read h
    dsimp only [wholeNumbers] at h
    split at h
    · next htext =>
        rw [String.toList_ofList, asBytes_inj] at htext
        cases h
        rw [wholeNumbersText_eq_revoked htext]
        trivial
    · cases h

theorem fromSlice_wholeNumbers :
    wholeNumbers.fromSlice (wholeNumbers.payload .revoked) = some .revoked := by
  simp [wholeNumbers, payload]

end ControlWire

-- ============================================================================
-- `DeliveryTelemetry`
-- ============================================================================

/-- What a worker reports after fanning one alert out to one shard.  The time is kept as it is
    written. -/
structure DeliveryTelemetry where
  alertId : Uuid
  shardPrefix : String
  delivered : Nat
  dropped : Nat
  filteredOut : Nat
  broadcastDurationUs : Nat
  workerId : String
  time : List Char
deriving DecidableEq

end PulseGrid
