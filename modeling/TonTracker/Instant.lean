/-
# `Instant` — timezone-aware UTC datetimes

Every datetime the services compute with is normalised to UTC, so an
instant is its number of microseconds since 0001-01-01T00:00:00, inside
the range `datetime` itself admits (years 1 to 9999).  The range is a
field: arithmetic that leaves it returns `none`, where Python raises
`OverflowError`.
-/
import Mathlib.Algebra.Order.Ring.Nat
import Mathlib.Order.Nat

namespace TonTracker

/-- Microseconds in one second. -/
def microsPerSecond : Nat := 1000000

/-- The first microsecond after `datetime.max`. -/
def maxMicros : Nat := 315537897600 * microsPerSecond

theorem zero_lt_maxMicros : 0 < maxMicros := by decide

theorem one_lt_maxMicros : 1 < maxMicros := by decide

/-- Seconds from 0001-01-01 to the Unix epoch. -/
def epochSeconds : Nat := 62135596800

/-- A UTC datetime. -/
structure Instant where
  micros : Nat
  inRange : micros < maxMicros
deriving DecidableEq, Repr

namespace Instant

theorem micros_injective : Function.Injective Instant.micros := by
  rintro ⟨m, hm⟩ ⟨n, hn⟩ h
  cases h
  rfl

instance : LinearOrder Instant :=
  LinearOrder.lift' Instant.micros micros_injective

theorem lt_iff {a b : Instant} : a < b ↔ a.micros < b.micros := Iff.rfl

theorem le_iff {a b : Instant} : a ≤ b ↔ a.micros ≤ b.micros := Iff.rfl

/-- The datetime at an offset, when it exists. -/
def ofMicros (n : Nat) : Option Instant :=
  if h : n < maxMicros then some ⟨n, h⟩ else none

/-- `datetime + timedelta(microseconds=n)`. -/
def plus (t : Instant) (n : Nat) : Option Instant := ofMicros (t.micros + n)

/-- `datetime - timedelta(microseconds=n)`. -/
def minus (t : Instant) (n : Nat) : Option Instant :=
  if h : n ≤ t.micros then some ⟨t.micros - n, by have := t.inRange; omega⟩ else none

/-- `datetime.fromtimestamp(seconds, tz=timezone.utc)`. -/
def fromTimestamp (seconds : Nat) : Option Instant :=
  ofMicros ((epochSeconds + seconds) * microsPerSecond)

/-- `math.floor(datetime.timestamp())`.  The float keeps every microsecond
apart as long as the provider accepts the date (below 2^31 seconds). -/
def floorTimestamp (t : Instant) : Int :=
  (t.micros / microsPerSecond : Nat) - (epochSeconds : Int)

/-- `math.ceil(datetime.timestamp())`. -/
def ceilTimestamp (t : Instant) : Int :=
  ((t.micros + (microsPerSecond - 1)) / microsPerSecond : Nat) - (epochSeconds : Int)

theorem micros_of_ofMicros {n : Nat} {t : Instant} (h : ofMicros n = some t) :
    t.micros = n := by
  unfold ofMicros at h
  split at h
  · cases h; rfl
  · cases h

theorem micros_of_minus {t u : Instant} {n : Nat} (h : t.minus n = some u) :
    u.micros = t.micros - n ∧ n ≤ t.micros := by
  unfold minus at h
  split at h
  case isTrue hle => cases h; exact ⟨rfl, hle⟩
  case isFalse => cases h

end Instant

end TonTracker
