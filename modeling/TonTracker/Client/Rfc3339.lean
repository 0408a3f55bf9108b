/-
# `Client.Rfc3339` — instants of the client

`parseRfc3339Instant` (`frontend/src/rfc3339.ts`).  A `Date` set to whole
seconds is its seconds from 0001-01-01T00:00:00Z; `setUTCFullYear` and
`setUTCHours` carry what is out of range, and the getters read the calendar.
-/
import TonTracker.Adapters.Tonapi
import TonTracker.Lib.Calendar

namespace TonTracker

open Calendar FixedDigits

/-! ## The pattern -/

/-- The zone of a match. -/
inductive ZoneMatch where
  | zulu
  | offset (sign : Char) (hour minute : Nat)
deriving DecidableEq

/-- The groups of a match of `RFC3339_INSTANT`, the digits as numbers but
those of the fraction. -/
structure InstantMatch where
  year : Nat
  month : Nat
  day : Nat
  hour : Nat
  minute : Nat
  second : Nat
  fraction : Text
  zone : ZoneMatch

/-- One character of the pattern. -/
def readChar (expected : Char) : Text → Option Text
  | [] => none
  | c :: rest => if c = expected then some rest else none

/-- `(?:\.(\d{1,9}))?`, before a character that is no digit. -/
def readFractionGroup : Text → Option (Text × Text)
  | '.' :: rest =>
      let digits := rest.takeWhile isDigit
      if 1 ≤ digits.length ∧ digits.length ≤ 9 then some (digits, rest.dropWhile isDigit) else none
  | text => some ([], text)

/-- `(Z|([+-])(\d{2}):(\d{2}))$`. -/
def readZoneGroup : Text → Option ZoneMatch
  | ['Z'] => some .zulu
  | sign :: rest =>
      if sign = '+' ∨ sign = '-' then do
        let (hour, rest) ← readDigits 2 rest
        let rest ← readChar ':' rest
        let (minute, rest) ← readDigits 2 rest
        if rest = [] then some (.offset sign hour minute) else none
      else none
  | [] => none

/-- `RFC3339_INSTANT.exec`. -/
def matchInstant (value : Text) : Option InstantMatch := do
  let (year, rest) ← readDigits 4 value
  let rest ← readChar '-' rest
  let (month, rest) ← readDigits 2 rest
  let rest ← readChar '-' rest
  let (day, rest) ← readDigits 2 rest
  let rest ← readChar 'T' rest
  let (hour, rest) ← readDigits 2 rest
  let rest ← readChar ':' rest
  let (minute, rest) ← readDigits 2 rest
  let rest ← readChar ':' rest
  let (second, rest) ← readDigits 2 rest
  let (fraction, rest) ← readFractionGroup rest
  let zone ← readZoneGroup rest
  return ⟨year, month, day, hour, minute, second, fraction, zone⟩

/-! ## Dates -/

/-- The day of the first of a month, of a year from 0 on. -/
def firstOfMonth (year month : Nat) : ℤ :=
  (if year = 0 then -366 else (daysBeforeYear year : ℤ)) + daysBeforeMonth (isLeap year) month

/-- `setUTCFullYear(year, month - 1, day)`, for a year from 1 on. -/
def utcDay (year month day : Nat) : ℤ :=
  let months := 12 * year + month - 1
  firstOfMonth (months / 12) (months % 12 + 1) + (day : ℤ) - 1

/-- `setUTCHours(hour, minute, second, 0)`. -/
def utcSeconds (day : ℤ) (hour minute second : Nat) : ℤ :=
  86400 * day + 3600 * hour + 60 * minute + second

/-- What the getters of a `Date` give; no date is of a year before 1. -/
def utcGetters (seconds : ℤ) : Option (Date × Nat × Nat × Nat) :=
  if 0 ≤ seconds then
    let clock := seconds.toNat % 86400
    some (ofDayNumber (seconds.toNat / 86400), clock / 3600, clock % 3600 / 60, clock % 60)
  else none

/-- The getters give the groups back. -/
def InstantMatch.roundTrips (found : InstantMatch) (seconds : ℤ) : Bool :=
  match utcGetters seconds with
  | some (date, hour, minute, second) =>
      date.year = found.year ∧ date.month = found.month ∧ date.day = found.day ∧
        hour = found.hour ∧ minute = found.minute ∧ second = found.second
  | none => false

/-- Seconds from 0001-01-01 to the epoch of `Date`. -/
def dateEpoch : ℤ := 86400 * 719162

/-- `Number.isSafeInteger`. -/
def isSafeInteger (n : ℤ) : Bool := n.natAbs ≤ 2 ^ 53 - 1

/-! ## The instant -/

/-- `offsetHour` and `offsetMinute`. -/
def ZoneMatch.offsets : ZoneMatch → Nat × Nat
  | .zulu => (0, 0)
  | .offset _ hour minute => (hour, minute)

/-- `offsetDirection`. -/
def ZoneMatch.direction : ZoneMatch → ℤ
  | .offset '-' _ _ => -1
  | _ => 1

/-- The zone is `Z` or `+00:00`. -/
def ZoneMatch.isUtc (zone : ZoneMatch) : Bool := zone = .zulu ∨ zone = .offset '+' 0 0

/-- The number of some digits. -/
def digitsNumber (digits : Text) : Nat := digits.foldl (fun n c => 10 * n + digitValue c) 0

/-- `parseRfc3339Instant`, of a string: nanoseconds of the epoch. -/
def parseRfc3339Instant (value : Text) (requireUtc : Bool) (maximumFractionDigits : Nat) :
    Option ℤ := do
  let found ← matchInstant value
  if maximumFractionDigits < found.fraction.length then none
  else
    let (offsetHour, offsetMinute) := found.zone.offsets
    if found.year = 0 ∨ 23 < offsetHour ∨ 59 < offsetMinute ∨
        (requireUtc = true ∧ found.zone.isUtc = false) then none
    else
      let seconds := utcSeconds (utcDay found.year found.month found.day)
        found.hour found.minute found.second
      if found.roundTrips seconds = false then none
      else
        let offsetMilliseconds :=
          found.zone.direction * (offsetHour * 60 + offsetMinute : Nat) * 60000
        let epochMilliseconds := (seconds - dateEpoch) * 1000 - offsetMilliseconds
        if isSafeInteger epochMilliseconds = false then none
        else
          let fractionNanoseconds :=
            digitsNumber (found.fraction ++ List.replicate (9 - found.fraction.length) '0')
          some (epochMilliseconds * 1000000 + fractionNanoseconds)

end TonTracker
