/-
# `IsoText` — how instants are written and read

`_isoformat` writes an instant as an RFC 3339 text ending in `Z`, with six
fractional digits or none.  `datetime.fromisoformat` reads
`YYYY-MM-DD[*HH[:MM[:SS[.fff[fff]]]][+HH:MM[:SS[.ffffff]]]]`, where `*` is
any one character; the services hand it their texts with a final `Z`
replaced by `+00:00`, and normalise what it returns to UTC.

Two facts are proved.  Reading what was written returns the instant
(`readUtc_isoformat`), so `_canonical_request_timestamp` leaves written
texts alone.  And the texts compare by the whole second first, but within
one second a text with no fraction comes *last*, since `Z` sorts after
`.` (`isoformat_lt_isoformat`).
-/
import TonTracker.Adapters.Tonapi
import TonTracker.Lib.Calendar

namespace TonTracker

open Calendar FixedDigits

/-- Why a timestamp text was refused, by the exception it raises. -/
inductive TimestampError where
  | valueError
  | overflowError
deriving DecidableEq, Repr

/-! ## Writing -/

namespace Instant

/-- Whole seconds. -/
def second (t : Instant) : Nat := t.micros / microsPerSecond

/-- Microseconds of the current second. -/
def fraction (t : Instant) : Nat := t.micros % microsPerSecond

def date (t : Instant) : Date := ofDayNumber (t.second / 86400)

def hourOfDay (t : Instant) : Nat := t.second % 86400 / 3600

def minuteOfHour (t : Instant) : Nat := t.second % 3600 / 60

def secondOfMinute (t : Instant) : Nat := t.second % 60

/-- `%Y-%m-%d`. -/
def dateText (date : Date) : Text :=
  padded 4 date.year ++ '-' :: (padded 2 date.month ++ '-' :: padded 2 date.day)

/-- `.ffffff`, left out when it is zero. -/
def fractionText (t : Instant) : Text :=
  if t.fraction = 0 then [] else '.' :: padded 6 t.fraction

/-- `%H:%M:%S` and the fraction. -/
def clockText (t : Instant) : Text :=
  padded 2 t.hourOfDay ++ ':' :: (padded 2 t.minuteOfHour ++ ':' ::
    (padded 2 t.secondOfMinute ++ t.fractionText))

/-- `_isoformat`: `isoformat()` of a UTC datetime, with `+00:00` written `Z`. -/
def isoformat (t : Instant) : Text := dateText t.date ++ 'T' :: (t.clockText ++ ['Z'])

end Instant

/-! ## Reading -/

/-- What `fromisoformat` returns: the wall clock, and its UTC offset in
microseconds when the text has one. -/
structure ParsedDatetime where
  wall : Instant
  offset : Option Int

/-- `YYYY-MM-DD`. -/
def readDate (text : Text) : Option (Date × Text) := do
  let (year, text) ← readDigits 4 text
  let '-' :: text := text | none
  let (month, text) ← readDigits 2 text
  let '-' :: text := text | none
  let (day, text) ← readDigits 2 text
  let date ← Date.of? year month day
  return (date, text)

/-- `fff` or `ffffff`, in microseconds. -/
def readFraction (text : Text) : Option Nat :=
  if text.length = 3 then (readDigits 3 text).map fun r => r.1 * 1000
  else if text.length = 6 then (readDigits 6 text).map fun r => r.1
  else none

/-- `HH[:MM[:SS[.fff[fff]]]]`: hours, minutes, seconds, microseconds. -/
def readClock (text : Text) : Option (Nat × Nat × Nat × Nat) := do
  let (hour, text) ← readDigits 2 text
  match text with
  | [] => return (hour, 0, 0, 0)
  | ':' :: text =>
      let (minute, text) ← readDigits 2 text
      match text with
      | [] => return (hour, minute, 0, 0)
      | ':' :: text =>
          let (second, text) ← readDigits 2 text
          match text with
          | [] => return (hour, minute, second, 0)
          | '.' :: text => return (hour, minute, second, ← readFraction text)
          | _ => none
      | _ => none
  | _ => none

/-- Microseconds of a clock reading. -/
def clockMicros (clock : Nat × Nat × Nat × Nat) : Nat :=
  (clock.1 * 3600 + clock.2.1 * 60 + clock.2.2.1) * microsPerSecond + clock.2.2.2

def isSign (c : Char) : Bool := c == '+' || c == '-'

/-- `+HH:MM[:SS[.ffffff]]`, strictly within one day of UTC; empty when the
text has none. -/
def readOffset (text : Text) : Option (Option Int) :=
  match text with
  | [] => some none
  | sign :: text =>
      if text.length = 5 ∨ text.length = 8 ∨ text.length = 15 then
        (readClock text).bind fun clock =>
          if clockMicros clock < 86400 * microsPerSecond then
            some (some (if sign = '-' then -(clockMicros clock : Int) else clockMicros clock))
          else none
      else none

/-- `datetime(year, month, day, hour, minute, second, microsecond)`. -/
def wallClock (date : Date) (clock : Nat × Nat × Nat × Nat) : Option Instant :=
  if clock.1 < 24 ∧ clock.2.1 < 60 ∧ clock.2.2.1 < 60 then
    Instant.ofMicros (date.dayNumber * 86400 * microsPerSecond + clockMicros clock)
  else none

/-- `datetime.fromisoformat`. -/
def fromIsoformat (text : Text) : Option ParsedDatetime := do
  let (date, text) ← readDate text
  match text with
  | [] => return ⟨← wallClock date (0, 0, 0, 0), none⟩
  | _ :: text =>
      let clock ← readClock (text.takeWhile fun c => !isSign c)
      let offset ← readOffset (text.dropWhile fun c => !isSign c)
      return ⟨← wallClock date clock, offset⟩

/-- `value.replace(tzinfo=utc)`, or `value.astimezone(utc)`. -/
def asUtc (parsed : ParsedDatetime) : Except TimestampError Instant :=
  match parsed.offset with
  | none => .ok parsed.wall
  | some offset =>
      let micros : Int := parsed.wall.micros - offset
      match (if 0 ≤ micros then Instant.ofMicros micros.toNat else none) with
      | some t => .ok t
      | none => .error .overflowError

/-- `f"{value[:-1]}+00:00" if value.endswith("Z") else value`. -/
def cleaned (text : Text) : Text :=
  if text.getLast? = some 'Z' then text.dropLast ++ ['+', '0', '0', ':', '0', '0'] else text

/-- `_parse_canonical_timestamp`: the instant a text stands for. -/
def parseCanonicalTimestamp (text : Text) : Except TimestampError Instant :=
  match fromIsoformat (cleaned text) with
  | some parsed => asUtc parsed
  | none => .error .valueError

/-- `_canonical_request_timestamp`. -/
def canonicalRequestTimestamp (text : Text) : Except TimestampError Text :=
  if isStripped text then (parseCanonicalTimestamp text).map Instant.isoformat
  else .error .valueError

/-! ## The fields of an instant -/

namespace Instant

theorem micros_eq (t : Instant) : t.second * microsPerSecond + t.fraction = t.micros :=
  Nat.div_add_mod' t.micros microsPerSecond

theorem fraction_lt (t : Instant) : t.fraction < microsPerSecond :=
  Nat.mod_lt _ (by decide)

theorem second_eq (t : Instant) :
    t.date.dayNumber * 86400 + t.hourOfDay * 3600 + t.minuteOfHour * 60 + t.secondOfMinute =
      t.second := by
  unfold date hourOfDay minuteOfHour secondOfMinute
  rw [dayNumber_ofDayNumber]
  omega

theorem year_lt (t : Instant) : t.date.year < 10 ^ 4 := by
  have lastDay : daysBeforeYear (9999 + 1) = 3652059 := by decide
  have inRange : t.second / 86400 < daysBeforeYear (9999 + 1) := by
    have := t.inRange
    unfold maxMicros microsPerSecond at this
    unfold second microsPerSecond
    omega
  have := year_le_of_dayNumber_lt inRange
  unfold date
  omega

theorem month_lt (t : Instant) : t.date.month < 10 ^ 2 := by
  have := t.date.month_valid
  omega

theorem day_lt (t : Instant) : t.date.day < 10 ^ 2 := by
  have day := t.date.day_valid
  unfold daysInMonth at day
  split at day
  · split at day <;> omega
  · split at day <;> omega

theorem hour_lt (t : Instant) : t.hourOfDay < 24 := by unfold hourOfDay; omega

theorem minute_lt (t : Instant) : t.minuteOfHour < 60 := by unfold minuteOfHour; omega

theorem secondOfMinute_lt (t : Instant) : t.secondOfMinute < 60 := by
  unfold secondOfMinute; omega

end Instant

/-! ## Reading what was written -/

namespace Instant

theorem readDate_dateText (t : Instant) (rest : Text) :
    readDate (dateText t.date ++ rest) = some (t.date, rest) := by
  unfold readDate dateText
  simp only [List.append_assoc, List.cons_append, readDigits_padded t.year_lt,
    readDigits_padded t.month_lt, readDigits_padded t.day_lt, Option.bind_eq_bind,
    Option.bind_some, Date.of?_fields]
  rfl

theorem readFraction_padded (t : Instant) : readFraction (padded 6 t.fraction) = some t.fraction := by
  have fits : t.fraction < 10 ^ 6 := t.fraction_lt
  have read := readDigits_padded fits []
  rw [List.append_nil] at read
  unfold readFraction
  simp [read]

theorem readClock_clockText (t : Instant) :
    readClock t.clockText =
      some (t.hourOfDay, t.minuteOfHour, t.secondOfMinute, t.fraction) := by
  have hour : t.hourOfDay < 10 ^ 2 := Nat.lt_trans t.hour_lt (by decide)
  have minute : t.minuteOfHour < 10 ^ 2 := Nat.lt_trans t.minute_lt (by decide)
  have second : t.secondOfMinute < 10 ^ 2 := Nat.lt_trans t.secondOfMinute_lt (by decide)
  unfold readClock clockText fractionText
  split
  case isTrue whole =>
    simp only [readDigits_padded hour, readDigits_padded minute, readDigits_padded second,
      Option.bind_eq_bind, Option.bind_some, whole]
    rfl
  case isFalse =>
    simp only [readDigits_padded hour, readDigits_padded minute, readDigits_padded second,
      Option.bind_eq_bind, Option.bind_some, readFraction_padded]
    rfl

theorem wallClock_fields (t : Instant) :
    wallClock t.date (t.hourOfDay, t.minuteOfHour, t.secondOfMinute, t.fraction) = some t := by
  have whole := t.second_eq
  have parts := t.micros_eq
  have total : t.date.dayNumber * 86400 * microsPerSecond +
      clockMicros (t.hourOfDay, t.minuteOfHour, t.secondOfMinute, t.fraction) = t.micros := by
    show t.date.dayNumber * 86400 * microsPerSecond + ((t.hourOfDay * 3600 +
      t.minuteOfHour * 60 + t.secondOfMinute) * microsPerSecond + t.fraction) = t.micros
    rw [← Nat.add_assoc, ← Nat.add_mul, ← Nat.add_assoc, ← Nat.add_assoc, whole, parts]
  unfold wallClock
  rw [if_pos ⟨t.hour_lt, t.minute_lt, t.secondOfMinute_lt⟩, total, ofMicros,
    dif_pos t.inRange]

theorem isSign_of_mem_clockText (t : Instant) : ∀ c ∈ t.clockText, isSign c = false := by
  have ofDigit : ∀ c : Char, isDigit c = true → isSign c = false := by
    intro c digit
    simp only [isDigit, Bool.and_eq_true, decide_eq_true_eq] at digit
    unfold isSign
    rw [Bool.or_eq_false_iff, beq_eq_false_iff_ne, beq_eq_false_iff_ne]
    constructor
    · rintro rfl
      exact absurd digit.1 (by decide)
    · rintro rfl
      exact absurd digit.1 (by decide)
  have ofBlock : ∀ {width n : Nat}, n < 10 ^ width → ∀ c ∈ padded width n, isSign c = false :=
    fun fits c hc => ofDigit c (isDigit_of_mem_padded fits hc)
  have hour := ofBlock (Nat.lt_trans t.hour_lt (by decide) : t.hourOfDay < 10 ^ 2)
  have minute := ofBlock (Nat.lt_trans t.minute_lt (by decide) : t.minuteOfHour < 10 ^ 2)
  have second := ofBlock (Nat.lt_trans t.secondOfMinute_lt (by decide) : t.secondOfMinute < 10 ^ 2)
  have fraction : ∀ c ∈ t.fractionText, isSign c = false := by
    unfold fractionText
    split
    · intro c hc
      cases hc
    · intro c hc
      rcases List.mem_cons.mp hc with rfl | hc
      · rfl
      · exact ofBlock (t.fraction_lt : t.fraction < 10 ^ 6) c hc
  intro c hc
  simp only [clockText, List.mem_append, List.mem_cons] at hc
  rcases hc with hc | rfl | hc | rfl | hc | hc
  · exact hour c hc
  · rfl
  · exact minute c hc
  · rfl
  · exact second c hc
  · exact fraction c hc

/-- The texts `_isoformat` writes read back as the instants they stand for. -/
theorem parse_isoformat (t : Instant) : parseCanonicalTimestamp t.isoformat = .ok t := by
  have body : t.isoformat = (dateText t.date ++ 'T' :: t.clockText) ++ ['Z'] := by
    simp [isoformat]
  have swap : cleaned t.isoformat =
      dateText t.date ++ 'T' :: (t.clockText ++ ['+', '0', '0', ':', '0', '0']) := by
    rw [body, cleaned, List.getLast?_concat, if_pos rfl, List.dropLast_concat]
    simp
  have noSign : ∀ c ∈ t.clockText, (!isSign c) = true := by
    intro c hc
    rw [t.isSign_of_mem_clockText c hc]
    rfl
  have front : (t.clockText ++ ['+', '0', '0', ':', '0', '0']).takeWhile (fun c => !isSign c) =
      t.clockText := by
    rw [List.takeWhile_append_of_pos noSign]
    simp [isSign]
  have back : (t.clockText ++ ['+', '0', '0', ':', '0', '0']).dropWhile (fun c => !isSign c) =
      ['+', '0', '0', ':', '0', '0'] := by
    rw [List.dropWhile_append_of_pos noSign]
    rfl
  have utc : readOffset ['+', '0', '0', ':', '0', '0'] =
      some (some 0) := by decide +kernel
  have parsed : fromIsoformat (cleaned t.isoformat) = some ⟨t, some 0⟩ := by
    rw [swap]
    unfold fromIsoformat
    rw [readDate_dateText]
    simp only [Option.bind_eq_bind, Option.bind_some, front, back, readClock_clockText, utc,
      wallClock_fields]
    rfl
  unfold parseCanonicalTimestamp
  rw [parsed]
  have unchanged : ((t.micros : Int) - 0).toNat = t.micros := by omega
  simp only [asUtc, unchanged, ofMicros, dif_pos t.inRange]
  rw [if_pos (by omega)]

theorem isSpace_digit : ∀ {d : Nat}, d < 10 → isSpace (digit d) = false := by
  decide

theorem isStripped_isoformat (t : Instant) : isStripped t.isoformat = true := by
  have first : t.isoformat.head? = some (digit (t.date.year / 10 ^ 3)) := rfl
  have last : t.isoformat.getLast? = some 'Z' := by
    have body : t.isoformat = (dateText t.date ++ 'T' :: t.clockText) ++ ['Z'] := by
      simp [isoformat]
    rw [body, List.getLast?_concat]
  unfold isStripped
  rw [first, last]
  simp only [Option.any_some, isSpace_digit (leading_lt t.year_lt)]
  decide

theorem canonical_isoformat (t : Instant) :
    canonicalRequestTimestamp t.isoformat = .ok t.isoformat := by
  unfold canonicalRequestTimestamp
  rw [if_pos t.isStripped_isoformat, parse_isoformat]
  rfl

/-! ## The order of written texts -/

theorem date_eq_iff {a b : Instant} :
    a.date = b.date ↔ a.second / 86400 = b.second / 86400 := by
  unfold date
  constructor
  · intro h
    have number := congrArg Date.dayNumber h
    rwa [dayNumber_ofDayNumber, dayNumber_ofDayNumber] at number
  · intro h
    rw [h]

theorem dateText_lt (a b : Instant) (s t : Text) :
    dateText a.date ++ s < dateText b.date ++ t ↔
      a.second / 86400 < b.second / 86400 ∨ a.second / 86400 = b.second / 86400 ∧ s < t := by
  have earlier : a.date.Before b.date ↔ a.second / 86400 < b.second / 86400 := ofDayNumber_before
  rw [← earlier, ← date_eq_iff, Date.eq_iff]
  unfold dateText Date.Before
  simp only [List.append_assoc, List.cons_append, padded_lt_padded a.year_lt b.year_lt,
    padded_lt_padded a.month_lt b.month_lt, padded_lt_padded a.day_lt b.day_lt,
    List.cons_lt_cons_iff, Char.lt_irrefl, false_or, true_and, and_or_left, or_assoc, and_assoc]

theorem clock_lt (a b : Instant) (s t : Text) (day : a.second / 86400 = b.second / 86400) :
    padded 2 a.hourOfDay ++ ':' :: (padded 2 a.minuteOfHour ++ ':' ::
        (padded 2 a.secondOfMinute ++ s)) <
      padded 2 b.hourOfDay ++ ':' :: (padded 2 b.minuteOfHour ++ ':' ::
        (padded 2 b.secondOfMinute ++ t)) ↔
      a.second < b.second ∨ a.second = b.second ∧ s < t := by
  have hour : ∀ u : Instant, u.hourOfDay < 10 ^ 2 := fun u => Nat.lt_trans u.hour_lt (by decide)
  have minute : ∀ u : Instant, u.minuteOfHour < 10 ^ 2 :=
    fun u => Nat.lt_trans u.minute_lt (by decide)
  have second : ∀ u : Instant, u.secondOfMinute < 10 ^ 2 :=
    fun u => Nat.lt_trans u.secondOfMinute_lt (by decide)
  simp only [padded_lt_padded (hour a) (hour b), padded_lt_padded (minute a) (minute b),
    padded_lt_padded (second a) (second b), List.cons_lt_cons_iff, Char.lt_irrefl, false_or,
    true_and]
  have earlier : a.second < b.second ↔ a.hourOfDay < b.hourOfDay ∨ a.hourOfDay = b.hourOfDay ∧
      (a.minuteOfHour < b.minuteOfHour ∨ a.minuteOfHour = b.minuteOfHour ∧
        a.secondOfMinute < b.secondOfMinute) := by
    unfold hourOfDay minuteOfHour secondOfMinute
    omega
  have same : a.second = b.second ↔ a.hourOfDay = b.hourOfDay ∧
      a.minuteOfHour = b.minuteOfHour ∧ a.secondOfMinute = b.secondOfMinute := by
    unfold hourOfDay minuteOfHour secondOfMinute
    omega
  rw [earlier, same]
  simp only [and_or_left, or_assoc, and_assoc]

theorem fractionText_lt (a b : Instant) :
    a.fractionText ++ ['Z'] < b.fractionText ++ ['Z'] ↔
      a.fraction ≠ 0 ∧ (b.fraction = 0 ∨ a.fraction < b.fraction) := by
  have dot : '.' < 'Z' := by decide
  have zed : ¬ 'Z' < '.' := by decide
  have ne : 'Z' ≠ '.' := by decide
  have fa : a.fraction < 10 ^ 6 := a.fraction_lt
  have fb : b.fraction < 10 ^ 6 := b.fraction_lt
  unfold fractionText
  by_cases ha : a.fraction = 0
  · by_cases hb : b.fraction = 0
    · simp [ha, hb]
    · simp [ha, hb, List.cons_lt_cons_iff, zed, ne]
  · by_cases hb : b.fraction = 0
    · simp [ha, hb, List.cons_lt_cons_iff, dot]
    · simp [ha, hb, padded_lt_padded fa fb]

/-- Written texts compare by the whole second, then with no fraction last. -/
theorem isoformat_lt_isoformat (a b : Instant) :
    a.isoformat < b.isoformat ↔
      a.second < b.second ∨ a.second = b.second ∧
        a.fraction ≠ 0 ∧ (b.fraction = 0 ∨ a.fraction < b.fraction) := by
  unfold isoformat clockText
  simp only [dateText_lt, List.cons_lt_cons_iff, Char.lt_irrefl, false_or, true_and,
    List.append_assoc, List.cons_append]
  by_cases day : a.second / 86400 = b.second / 86400
  · rw [clock_lt a b _ _ day, fractionText_lt]
    omega
  · omega

/-- The later instant's text sorts first: a whole second, and a fraction of
the same second. -/
def TextInverted (a b : Instant) : Prop := a < b ∧ a.second = b.second ∧ a.fraction = 0

instance (a b : Instant) : Decidable (a.TextInverted b) := by
  unfold TextInverted
  infer_instance

theorem lt_iff_fields {a b : Instant} :
    a < b ↔ a.second < b.second ∨ a.second = b.second ∧ a.fraction < b.fraction := by
  rw [lt_iff]
  unfold second fraction microsPerSecond
  omega

theorem isoformat_lt_iff_of_lt {a b : Instant} (h : a < b) :
    a.isoformat < b.isoformat ↔ ¬ a.TextInverted b := by
  have fields := lt_iff_fields.mp h
  rw [isoformat_lt_isoformat, TextInverted]
  simp only [h, true_and]
  omega

theorem not_isoformat_lt_iff_of_le {a b : Instant} (h : a ≤ b) :
    ¬ b.isoformat < a.isoformat ↔ ¬ a.TextInverted b := by
  rcases Nat.lt_or_eq_of_le (le_iff.mp h) with hlt | heq
  · have fields := lt_iff_fields.mp (lt_iff.mpr hlt)
    rw [isoformat_lt_isoformat, TextInverted]
    simp only [lt_iff.mpr hlt, true_and]
    omega
  · have same : a = b := micros_injective heq
    subst same
    have irrefl : ¬ a < a := lt_irrefl a
    simp only [TextInverted, irrefl, false_and, not_false_iff, iff_true]
    exact List.lt_irrefl _

theorem isoformat_inj {a b : Instant} : a.isoformat = b.isoformat ↔ a = b := by
  constructor
  · intro h
    have parsed := parse_isoformat a
    rw [h, parse_isoformat b] at parsed
    exact (Except.ok.inj parsed).symm
  · rintro rfl
    rfl

end Instant

end TonTracker
