/-
# `Client.InstantSpellings` — the instants the client accepts

A UTC instant is spelled by a date of the years 1 to 9999, a time of day, at
most six digits of a second and `Z` or `+00:00`.  `parseRfc3339Instant`
accepts these texts and no other, and returns the exact time
(`exists_spelling`, `parseInstant_text`); so instants compare by their times,
whatever their spelling (`instant_lt_iff`).
-/
import TonTracker.Client.Rfc3339
import Mathlib.Tactic.Linarith
import Mathlib.Tactic.FieldSimp
import Mathlib.Tactic.Ring

namespace TonTracker

open Calendar FixedDigits
open Option (bind_eq_some_iff)

/-! ## Spellings -/

/-- A spelling of a UTC instant. -/
structure InstantSpelling where
  date : Date
  hour : Nat
  minute : Nat
  second : Nat
  fraction : Text
  zulu : Bool
  year_le : date.year ≤ 9999
  hour_le : hour ≤ 23
  minute_le : minute ≤ 59
  second_le : second ≤ 59
  digits : ∀ c ∈ fraction, isDigit c = true
  length_le : fraction.length ≤ 6

/-- `.` and the digits of the fraction, where there are any. -/
def fractionGroup (fraction : Text) : Text := if fraction = [] then [] else '.' :: fraction

def zoneGroup (zulu : Bool) : Text := if zulu then "Z".toList else "+00:00".toList

def InstantSpelling.text (s : InstantSpelling) : Text :=
  padded 4 s.date.year ++ '-' :: (padded 2 s.date.month ++ '-' :: (padded 2 s.date.day ++
    'T' :: (padded 2 s.hour ++ ':' :: (padded 2 s.minute ++ ':' :: (padded 2 s.second ++
      (fractionGroup s.fraction ++ zoneGroup s.zulu))))))

/-- The whole seconds from 0001-01-01T00:00:00Z. -/
def InstantSpelling.seconds (s : InstantSpelling) : Nat :=
  86400 * s.date.dayNumber + 3600 * s.hour + 60 * s.minute + s.second

/-- The exact time, in seconds from 0001-01-01T00:00:00Z. -/
def InstantSpelling.time (s : InstantSpelling) : ℚ :=
  s.seconds + (digitsNumber s.fraction : ℚ) / 10 ^ s.fraction.length

/-! ## Groups -/

theorem digit_digitValue {c : Char} (h : isDigit c = true) : digit (digitValue c) = c := by
  unfold isDigit at h
  rw [Bool.and_eq_true, decide_eq_true_eq, decide_eq_true_eq] at h
  have hlow : '0'.toNat ≤ c.toNat := h.1
  unfold digit digitValue
  rw [Nat.add_sub_cancel' hlow, Char.ofNat_toNat]

theorem digitValue_lt {c : Char} (h : isDigit c = true) : digitValue c < 10 := by
  unfold isDigit at h
  rw [Bool.and_eq_true, decide_eq_true_eq, decide_eq_true_eq] at h
  have hhigh : c.toNat ≤ '9'.toNat := h.2
  have hnine : '9'.toNat = '0'.toNat + 9 := rfl
  unfold digitValue
  omega

/-- A block that is read is the number it was printed of. -/
theorem readDigits_eq_some {width n : Nat} {text rest : Text}
    (h : readDigits width text = some (n, rest)) :
    text = padded width n ++ rest ∧ n < 10 ^ width := by
  induction width generalizing text n with
  | zero =>
      cases h
      exact ⟨rfl, Nat.one_pos⟩
  | succ width ih =>
      cases text with
      | nil => cases h
      | cons c text =>
          unfold readDigits at h
          split at h
          · next hdigit =>
              obtain ⟨⟨m, rest'⟩, hrest, heq⟩ := Option.map_eq_some_iff.mp h
              cases heq
              obtain ⟨rfl, hm⟩ := ih hrest
              have hc := digitValue_lt hdigit
              have hpos : 0 < 10 ^ width := Nat.pow_pos (by decide)
              have hdiv : (digitValue c * 10 ^ width + m) / 10 ^ width = digitValue c := by
                rw [Nat.mul_comm, Nat.mul_add_div hpos, Nat.div_eq_of_lt hm, Nat.add_zero]
              have hmod : (digitValue c * 10 ^ width + m) % 10 ^ width = m := by
                rw [Nat.mul_comm, Nat.mul_add_mod, Nat.mod_eq_of_lt hm]
              refine ⟨?_, ?_⟩
              · rw [padded, hdiv, hmod, digit_digitValue hdigit, List.cons_append]
              · rw [Nat.pow_succ]
                have hle : digitValue c * 10 ^ width ≤ 9 * 10 ^ width :=
                  Nat.mul_le_mul_right _ (Nat.le_of_lt_succ hc)
                omega
          · cases h

theorem readChar_eq_some {expected : Char} {text rest : Text}
    (h : readChar expected text = some rest) : text = expected :: rest := by
  cases text with
  | nil => cases h
  | cons c text =>
      replace h : (if c = expected then some text else none) = some rest := h
      by_cases heq : c = expected
      · rw [if_pos heq] at h
        cases h
        rw [heq]
      · rw [if_neg heq] at h
        cases h

theorem readChar_self (c : Char) (rest : Text) : readChar c (c :: rest) = some rest := if_pos rfl

theorem readFractionGroup_eq_some {text fraction rest : Text}
    (h : readFractionGroup text = some (fraction, rest)) :
    text = fractionGroup fraction ++ rest ∧ ∀ c ∈ fraction, isDigit c = true := by
  unfold readFractionGroup at h
  split at h
  · next tail =>
      dsimp only at h
      split at h
      · next hlength =>
          cases h
          have hne : tail.takeWhile isDigit ≠ [] := List.ne_nil_of_length_pos hlength.1
          refine ⟨?_, List.all_eq_true.mp List.all_takeWhile⟩
          rw [fractionGroup, if_neg hne, List.cons_append, List.takeWhile_append_dropWhile]
      · cases h
  · cases h
    exact ⟨rfl, fun _ h => absurd h List.not_mem_nil⟩

theorem readFractionGroup_zone {fraction : Text} (zulu : Bool)
    (hdigits : ∀ c ∈ fraction, isDigit c = true) (hlength : fraction.length ≤ 6) :
    readFractionGroup (fractionGroup fraction ++ zoneGroup zulu) =
      some (fraction, zoneGroup zulu) := by
  unfold fractionGroup
  by_cases hnil : fraction = []
  · rw [if_pos hnil, hnil, List.nil_append]
    cases zulu <;> rfl
  · rw [if_neg hnil, List.cons_append]
    have hzone : (zoneGroup zulu).takeWhile isDigit = [] ∧
        (zoneGroup zulu).dropWhile isDigit = zoneGroup zulu := by
      cases zulu <;> exact ⟨rfl, rfl⟩
    show (if 1 ≤ ((fraction ++ zoneGroup zulu).takeWhile isDigit).length ∧
        ((fraction ++ zoneGroup zulu).takeWhile isDigit).length ≤ 9 then
      some ((fraction ++ zoneGroup zulu).takeWhile isDigit,
        (fraction ++ zoneGroup zulu).dropWhile isDigit) else none) = _
    rw [List.takeWhile_append_of_pos hdigits, List.dropWhile_append_of_pos hdigits, hzone.1,
      hzone.2, List.append_nil,
      if_pos ⟨List.length_pos_iff.mpr hnil, Nat.le_trans hlength (by decide)⟩]

theorem readZoneGroup_zone (zulu : Bool) : readZoneGroup (zoneGroup zulu) =
    some (if zulu then .zulu else .offset '+' 0 0) := by
  cases zulu <;> rfl

theorem readZoneGroup_utc {text : Text} {zone : ZoneMatch} (h : readZoneGroup text = some zone)
    (hutc : zone.isUtc = true) : ∃ zulu, text = zoneGroup zulu := by
  unfold readZoneGroup at h
  split at h
  · exact ⟨true, rfl⟩
  · next sign rest _ =>
      split at h
      · obtain ⟨⟨hour, rest₁⟩, hhour, h⟩ := bind_eq_some_iff.mp h
        obtain ⟨rest₂, hcolon, h⟩ := bind_eq_some_iff.mp h
        obtain ⟨⟨minute, rest₃⟩, hminute, h⟩ := bind_eq_some_iff.mp h
        dsimp only at hcolon hminute h
        split at h
        · next hend =>
            cases h
            cases hend
            have hzone : ZoneMatch.offset sign hour minute = .offset '+' 0 0 := by
              have h := of_decide_eq_true hutc
              exact h.resolve_left nofun
            cases hzone
            rw [(readDigits_eq_some hhour).1, readChar_eq_some hcolon,
              (readDigits_eq_some hminute).1]
            exact ⟨false, rfl⟩
        · cases h
      · cases h
  · cases h

/-! ## The match -/

/-- The groups of a spelling. -/
def InstantSpelling.groups (s : InstantSpelling) : InstantMatch :=
  ⟨s.date.year, s.date.month, s.date.day, s.hour, s.minute, s.second, s.fraction,
    if s.zulu then .zulu else .offset '+' 0 0⟩

theorem InstantSpelling.day_lt (s : InstantSpelling) : s.date.day < 10 ^ 2 := by
  have hday := s.date.day_valid.2
  unfold daysInMonth at hday
  split at hday <;> (try split at hday) <;> omega

theorem matchInstant_text (s : InstantSpelling) : matchInstant s.text = some s.groups := by
  have hyear : s.date.year < 10 ^ 4 := Nat.lt_of_le_of_lt s.year_le (by decide)
  have hmonth : s.date.month < 10 ^ 2 := Nat.lt_of_le_of_lt s.date.month_valid.2 (by decide)
  have hhour : s.hour < 10 ^ 2 := Nat.lt_of_le_of_lt s.hour_le (by decide)
  have hminute : s.minute < 10 ^ 2 := Nat.lt_of_le_of_lt s.minute_le (by decide)
  have hsecond : s.second < 10 ^ 2 := Nat.lt_of_le_of_lt s.second_le (by decide)
  exact bind_eq_some_iff.mpr ⟨_, readDigits_padded hyear _,
      bind_eq_some_iff.mpr ⟨_, readChar_self _ _,
      bind_eq_some_iff.mpr ⟨_, readDigits_padded hmonth _,
      bind_eq_some_iff.mpr ⟨_, readChar_self _ _,
      bind_eq_some_iff.mpr ⟨_, readDigits_padded s.day_lt _,
      bind_eq_some_iff.mpr ⟨_, readChar_self _ _,
      bind_eq_some_iff.mpr ⟨_, readDigits_padded hhour _,
      bind_eq_some_iff.mpr ⟨_, readChar_self _ _,
      bind_eq_some_iff.mpr ⟨_, readDigits_padded hminute _,
      bind_eq_some_iff.mpr ⟨_, readChar_self _ _,
      bind_eq_some_iff.mpr ⟨_, readDigits_padded hsecond _,
      bind_eq_some_iff.mpr ⟨_, readFractionGroup_zone s.zulu s.digits s.length_le,
      bind_eq_some_iff.mpr ⟨_, readZoneGroup_zone s.zulu, rfl⟩⟩⟩⟩⟩⟩⟩⟩⟩⟩⟩⟩⟩

/-- A text that matches is what its groups print. -/
theorem matchInstant_eq_some {text : Text} {found : InstantMatch}
    (h : matchInstant text = some found) :
    ∃ zone, readZoneGroup zone = some found.zone ∧ (∀ c ∈ found.fraction, isDigit c = true) ∧
      found.year < 10 ^ 4 ∧
      text = padded 4 found.year ++ '-' :: (padded 2 found.month ++ '-' :: (padded 2 found.day ++
        'T' :: (padded 2 found.hour ++ ':' :: (padded 2 found.minute ++ ':' ::
          (padded 2 found.second ++ (fractionGroup found.fraction ++ zone)))))) := by
  unfold matchInstant at h
  obtain ⟨⟨year, r₁⟩, hyear, h⟩ := bind_eq_some_iff.mp h
  obtain ⟨r₂, h₂, h⟩ := bind_eq_some_iff.mp h
  obtain ⟨⟨month, r₃⟩, hmonth, h⟩ := bind_eq_some_iff.mp h
  obtain ⟨r₄, h₄, h⟩ := bind_eq_some_iff.mp h
  obtain ⟨⟨day, r₅⟩, hday, h⟩ := bind_eq_some_iff.mp h
  obtain ⟨r₆, h₆, h⟩ := bind_eq_some_iff.mp h
  obtain ⟨⟨hour, r₇⟩, hhour, h⟩ := bind_eq_some_iff.mp h
  obtain ⟨r₈, h₈, h⟩ := bind_eq_some_iff.mp h
  obtain ⟨⟨minute, r₉⟩, hminute, h⟩ := bind_eq_some_iff.mp h
  obtain ⟨r₁₀, h₁₀, h⟩ := bind_eq_some_iff.mp h
  obtain ⟨⟨second, r₁₁⟩, hsecond, h⟩ := bind_eq_some_iff.mp h
  obtain ⟨⟨fraction, r₁₂⟩, hfraction, h⟩ := bind_eq_some_iff.mp h
  obtain ⟨zone, hzone, h⟩ := bind_eq_some_iff.mp h
  cases h
  dsimp only at *
  obtain ⟨rfl, hyearLt⟩ := readDigits_eq_some hyear
  cases readChar_eq_some h₂
  cases (readDigits_eq_some hmonth).1
  cases readChar_eq_some h₄
  cases (readDigits_eq_some hday).1
  cases readChar_eq_some h₆
  cases (readDigits_eq_some hhour).1
  cases readChar_eq_some h₈
  cases (readDigits_eq_some hminute).1
  cases readChar_eq_some h₁₀
  cases (readDigits_eq_some hsecond).1
  obtain ⟨rfl, hdigits⟩ := readFractionGroup_eq_some hfraction
  exact ⟨r₁₂, hzone, hdigits, hyearLt, rfl⟩

/-! ## The calendar -/

theorem utcDay_date (date : Date) : utcDay date.year date.month date.day = date.dayNumber := by
  have hyear := date.year_pos
  have hmonth := date.month_valid
  have hday := date.day_valid.1
  have hdiv : (12 * date.year + date.month - 1) / 12 = date.year := by omega
  have hmod : (12 * date.year + date.month - 1) % 12 + 1 = date.month := by omega
  unfold utcDay firstOfMonth Date.dayNumber Date.dayOfYear
  dsimp only
  rw [hdiv, hmod, if_neg (by omega)]
  omega

theorem utcSeconds_spelling (s : InstantSpelling) : utcSeconds
    (utcDay s.date.year s.date.month s.date.day) s.hour s.minute s.second = s.seconds := by
  rw [utcDay_date]
  unfold utcSeconds InstantSpelling.seconds
  push_cast
  rfl

theorem utcGetters_spelling (s : InstantSpelling) :
    utcGetters s.seconds = some (s.date, s.hour, s.minute, s.second) := by
  have hhour := s.hour_le
  have hminute := s.minute_le
  have hsecond := s.second_le
  have hday : s.seconds / 86400 = s.date.dayNumber := by
    unfold InstantSpelling.seconds
    omega
  have hclock : s.seconds % 86400 = 3600 * s.hour + 60 * s.minute + s.second := by
    unfold InstantSpelling.seconds
    omega
  unfold utcGetters
  rw [if_pos (Int.natCast_nonneg _), Int.toNat_natCast]
  dsimp only
  rw [hday, hclock, ofDayNumber_dayNumber]
  have h₁ : (3600 * s.hour + 60 * s.minute + s.second) / 3600 = s.hour := by omega
  have h₂ : (3600 * s.hour + 60 * s.minute + s.second) % 3600 / 60 = s.minute := by omega
  have h₃ : (3600 * s.hour + 60 * s.minute + s.second) % 60 = s.second := by omega
  rw [h₁, h₂, h₃]

theorem dayNumber_lt (s : InstantSpelling) : s.date.dayNumber < 3652059 := by
  have hyear := s.year_le
  have hday := s.date.dayOfYear_lt
  have hnext := daysBeforeYear_succ s.date.year_pos
  have hmono : daysBeforeYear (s.date.year + 1) ≤ daysBeforeYear 10000 :=
    daysBeforeYear_mono (Nat.le_add_left 1 s.date.year) (by omega)
  have hend : daysBeforeYear 10000 = 3652059 := by decide
  unfold Date.dayNumber
  omega

/-! ## The time -/

theorem digitsNumber_zeros (digits : Text) (n : Nat) :
    digitsNumber (digits ++ List.replicate n '0') = digitsNumber digits * 10 ^ n := by
  induction n with
  | zero => rw [List.replicate_zero, List.append_nil, Nat.pow_zero, Nat.mul_one]
  | succ n ih =>
      have hzero : digitValue '0' = 0 := rfl
      rw [List.replicate_succ', ← List.append_assoc]
      unfold digitsNumber at ih ⊢
      rw [List.foldl_concat, ih, hzero, Nat.pow_succ]
      ring

/-- The nanoseconds of a spelling. -/
def InstantSpelling.nanoseconds (s : InstantSpelling) : ℤ :=
  ((s.seconds : ℤ) - dateEpoch) * 1000000000 +
    (digitsNumber s.fraction * 10 ^ (9 - s.fraction.length) : Nat)

theorem nanoseconds_eq (s : InstantSpelling) :
    (s.nanoseconds : ℚ) = (s.time - dateEpoch) * 10 ^ 9 := by
  have hlength : s.fraction.length ≤ 9 := Nat.le_trans s.length_le (by decide)
  have hpow : (10 : ℚ) ^ 9 = 10 ^ (9 - s.fraction.length) * 10 ^ s.fraction.length := by
    rw [← pow_add, Nat.sub_add_cancel hlength]
  have hfraction : (digitsNumber s.fraction : ℚ) / 10 ^ s.fraction.length * 10 ^ 9 =
      digitsNumber s.fraction * 10 ^ (9 - s.fraction.length) := by
    rw [hpow]
    field_simp
  unfold InstantSpelling.nanoseconds InstantSpelling.time
  push_cast
  rw [← hfraction]
  ring

theorem parseInstant_text (s : InstantSpelling) :
    parseRfc3339Instant s.text true 6 = some s.nanoseconds := by
  have hutc : s.groups.zone.isUtc = true := by
    unfold InstantSpelling.groups
    cases s.zulu <;> rfl
  have hoffsets : s.groups.zone.offsets = (0, 0) := by
    unfold InstantSpelling.groups
    cases s.zulu <;> rfl
  have hsafe : isSafeInteger (((s.seconds : ℤ) - dateEpoch) * 1000 -
      s.groups.zone.direction * ((0 * 60 + 0 : Nat) : ℤ) * 60000) = true := by
    have hday := dayNumber_lt s
    have hhour := s.hour_le
    have hminute := s.minute_le
    have hsecond := s.second_le
    unfold isSafeInteger InstantSpelling.seconds dateEpoch
    refine decide_eq_true ?_
    omega
  have htrips : s.groups.roundTrips s.seconds = true := by
    unfold InstantMatch.roundTrips
    rw [utcGetters_spelling]
    exact decide_eq_true ⟨rfl, rfl, rfl, rfl, rfl, rfl⟩
  have hguard : ¬ (s.groups.year = 0 ∨ 23 < 0 ∨ 59 < 0 ∨ True ∧ s.groups.zone.isUtc = false) := by
    have hyear : s.groups.year ≠ 0 := Nat.ne_of_gt s.date.year_pos
    rw [hutc]
    simp [hyear]
  have hseconds : utcSeconds (utcDay s.groups.year s.groups.month s.groups.day) s.groups.hour
      s.groups.minute s.groups.second = s.seconds := utcSeconds_spelling s
  unfold parseRfc3339Instant
  simp only [matchInstant_text, Option.bind_eq_bind, Option.bind_some, hoffsets]
  have hlength : ¬ 6 < s.groups.fraction.length := Nat.not_lt.mpr s.length_le
  rw [if_neg hlength, if_neg hguard, hseconds, htrips, if_neg (by decide),
    hsafe, if_neg (by decide)]
  show some _ = some (_ + ((digitsNumber s.fraction * 10 ^ (9 - s.fraction.length) : Nat) : ℤ))
  rw [← digitsNumber_zeros]
  congr 2
  push_cast
  ring

/-- A time of day out of range is carried, and does not come back. -/
theorem clock_le {seconds : ℤ} {date : Date} {hour minute second : Nat}
    (h : utcGetters seconds = some (date, hour, minute, second)) :
    hour ≤ 23 ∧ minute ≤ 59 ∧ second ≤ 59 := by
  unfold utcGetters at h
  split at h
  · cases h
    omega
  · cases h

/-- An accepted text is a spelling. -/
theorem exists_spelling {text : Text} {nanoseconds : ℤ}
    (h : parseRfc3339Instant text true 6 = some nanoseconds) :
    ∃ s : InstantSpelling, s.text = text := by
  unfold parseRfc3339Instant at h
  obtain ⟨found, hfound, h⟩ := bind_eq_some_iff.mp h
  obtain ⟨zone, hzone, hdigits, hyear, htext⟩ := matchInstant_eq_some hfound
  split at h
  · cases h
  next hlength =>
  dsimp only at h
  split at h
  · cases h
  next hguard =>
  split at h
  · cases h
  next htrips =>
  push Not at hguard
  obtain ⟨zulu, hzulu⟩ := readZoneGroup_utc hzone (Bool.eq_true_of_not_eq_false
    (hguard.2.2.2 rfl))
  unfold InstantMatch.roundTrips at htrips
  cases hgetters : utcGetters (utcSeconds (utcDay found.year found.month found.day)
      found.hour found.minute found.second) with
  | none =>
      rw [hgetters] at htrips
      exact absurd rfl htrips
  | some fields =>
      obtain ⟨date, hour, minute, second⟩ := fields
      obtain ⟨hhour, hminute, hsecond⟩ := clock_le hgetters
      rw [hgetters] at htrips
      obtain ⟨hy, hm, hd, hh, hmi, hs⟩ := of_decide_eq_true (Bool.eq_true_of_not_eq_false htrips)
      refine ⟨⟨date, hour, minute, second, found.fraction, zulu, ?_, hhour, hminute, hsecond,
        hdigits, Nat.not_lt.mp hlength⟩, ?_⟩
      · rw [hy]
        omega
      · rw [htext, hzulu]
        unfold InstantSpelling.text
        dsimp only
        rw [hy, hm, hd, hh, hmi, hs]

/-- Nanoseconds compare as the exact times do. -/
theorem nanoseconds_lt_iff (s t : InstantSpelling) : s.nanoseconds < t.nanoseconds ↔
    s.time < t.time := by
  have hpos : (0 : ℚ) < 10 ^ 9 := by norm_num
  rw [← Int.cast_lt (R := ℚ), nanoseconds_eq, nanoseconds_eq, mul_lt_mul_iff_left₀ hpos,
    sub_lt_sub_iff_right]

end TonTracker
