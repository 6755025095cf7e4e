/-
  PulseGrid.Lib.Chrono

  The range of chrono's durations and UTC times, in microseconds: a duration holds at
  most `i64::MAX` milliseconds, a `DateTime<Utc>` the years -262143 to 262142.  The
  operations are `none` where chrono panics.
-/

import Mathlib

namespace Chrono

def microsPerHour : Int := 3_600_000_000

def microsPerDay : Int := 86_400_000_000

/-- `TimeDelta::MAX`, cut to whole microseconds. -/
def maxDuration : Int := (2 ^ 63 - 1) * 1_000

/-- The start of year -262143 and the last microsecond of year 262142. -/
def minUtc : Int := -8_334_601_228_800_000_000

def maxUtc : Int := 8_210_266_876_799_999_999

def ofMicros (micros : Int) : Option Int :=
  if -maxDuration ≤ micros ∧ micros ≤ maxDuration then some micros else none

/-- `TimeDelta::days`. -/
def days (d : Int) : Option Int := ofMicros (d * microsPerDay)

/-- `TimeDelta::hours`. -/
def hours (h : Int) : Option Int := ofMicros (h * microsPerHour)

/-- A time, unless it is out of range. -/
def utc (micros : Int) : Option Int :=
  if minUtc ≤ micros ∧ micros ≤ maxUtc then some micros else none

theorem ofMicros_eq_some {micros d : Int} :
    ofMicros micros = some d ↔ d = micros ∧ -maxDuration ≤ micros ∧ micros ≤ maxDuration := by
  rw [ofMicros]
  split
  · next h => simp [h, eq_comm]
  · next h => simp [h]

theorem utc_eq_some {micros t : Int} :
    utc micros = some t ↔ t = micros ∧ minUtc ≤ micros ∧ micros ≤ maxUtc := by
  rw [utc]
  split
  · next h => simp [h, eq_comm]
  · next h => simp [h]

end Chrono
