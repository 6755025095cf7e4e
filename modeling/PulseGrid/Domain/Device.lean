/-
  PulseGrid.Domain.Device

  Locations, devices and the messages about them
  (crates/domain/src/device.rs, errors.rs, protocol.rs and the two encoding
  functions of geo.rs).

  Coordinates are elements of an ordered ring `F`; the store and protocol models
  only compare them.  The `geohash` crate is a parameter.
-/

import Mathlib

namespace PulseGrid

/-- The errors the modelled functions return. -/
inductive AppError (D F : Type) where
  | deviceNotFound (id : D)
  | invalidLocation (lat lon : F)
  | invalidRadius (meters : F)
  | geohashError (message : String)
  | validation (message : String)
deriving DecidableEq

variable {D F : Type} [CommRing F] [LinearOrder F]

/-- A point on the globe, in degrees. -/
structure Location (F : Type) [CommRing F] [LinearOrder F] where
  lat : F
  lon : F
  lat_range : -(90 : ℕ) ≤ lat ∧ lat ≤ (90 : ℕ)
  lon_range : -(180 : ℕ) ≤ lon ∧ lon ≤ (180 : ℕ)
deriving DecidableEq

def Location.new (lat lon : F) : Except (AppError D F) (Location F) :=
  if h : (-(90 : ℕ) ≤ lat ∧ lat ≤ (90 : ℕ)) ∧ (-(180 : ℕ) ≤ lon ∧ lon ≤ (180 : ℕ)) then
    .ok ⟨lat, lon, h.1, h.2⟩
  else .error (.invalidLocation lat lon)

theorem Location.lat_mem (l : Location F) : -90 ≤ l.lat ∧ l.lat ≤ 90 := by
  have h := l.lat_range
  push_cast at h
  exact h

theorem Location.lon_mem (l : Location F) : -180 ≤ l.lon ∧ l.lon ≤ 180 := by
  have h := l.lon_range
  push_cast at h
  exact h

/-- The coordinates of a location are accepted again. -/
@[simp] theorem Location.new_lat_lon (l : Location F) :
    Location.new (D := D) l.lat l.lon = .ok l := by
  rw [Location.new, dif_pos ⟨l.lat_range, l.lon_range⟩]

/-- What the program uses of the `geohash` crate: `encode(coord, len)` with `coord.x`
    the longitude. -/
structure GeohashCrate (F : Type) where
  encode : (x y : F) → Nat → Except String String

/-- `GEOHASH_PRECISION`. -/
def geohashPrecision : Nat := 7

/-- `SHARD_PREFIX_LENGTH`. -/
def shardPrefixLength : Nat := 4

def encodeLocation (geo : GeohashCrate F) (location : Location F) :
    Except (AppError D F) String :=
  (geo.encode location.lon location.lat geohashPrecision).mapError .geohashError

def shardPrefixOf (geohash : String) : String :=
  String.ofList (geohash.toList.take shardPrefixLength)

structure Device (D F : Type) [CommRing F] [LinearOrder F] where
  id : D
  location : Location F
  geohash : String
  shardPrefix : String
deriving DecidableEq

/-- Moves the device, recomputing geohash and shard prefix, and says whether the
    shard changed. -/
def Device.updateLocation (geo : GeohashCrate F) (device : Device D F) (location : Location F) :
    Except (AppError D F) (Device D F × Bool) := do
  let newGeohash ← encodeLocation geo location
  let newShardPrefix := shardPrefixOf newGeohash
  return ({ device with location, geohash := newGeohash, shardPrefix := newShardPrefix },
    newShardPrefix != device.shardPrefix)

/-- Frames sent to devices; the first three also travel as control messages from
    the coordinator to the workers. -/
inductive ServerMessage (F : Type) where
  | shardChanged (shardPrefix : String) (wsUrl : Option String)
  | revoked
  | locationUpdated (lat lon : F)
  | replayComplete (replayed : Nat)
deriving DecidableEq

/-- A device's location record in Redis. -/
structure DeviceLocationRecord (F : Type) where
  lat : F
  lon : F
  shardPrefix : String
deriving DecidableEq

def DeviceLocationRecord.location (r : DeviceLocationRecord F) :
    Except (AppError D F) (Location F) :=
  Location.new r.lat r.lon

/-- The record `publish_location` writes for a device. -/
def Device.record (device : Device D F) : DeviceLocationRecord F :=
  { lat := device.location.lat, lon := device.location.lon, shardPrefix := device.shardPrefix }

end PulseGrid
