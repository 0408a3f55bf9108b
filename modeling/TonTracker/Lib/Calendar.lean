/-
# `Lib.Calendar` — the proleptic Gregorian calendar

A date carries its validity.  `dayNumber` counts days from 0001-01-01,
`ofDayNumber` finds the date of a count; they are inverse to each other,
and dates compare by year, month and day as their counts do.
-/
import Mathlib.Order.Nat
import Mathlib.Data.List.Basic

namespace Calendar

def isLeap (year : Nat) : Bool := year % 4 == 0 && (year % 100 != 0 || year % 400 == 0)

def daysInYear (year : Nat) : Nat := if isLeap year then 366 else 365

/-- Days before January 1st of a year. -/
def daysBeforeYear (year : Nat) : Nat :=
  (year - 1) * 365 + (year - 1) / 4 - (year - 1) / 100 + (year - 1) / 400

/-- Days in a month; `leap` says whether the year is a leap year. -/
def daysInMonth (leap : Bool) (month : Nat) : Nat :=
  if month = 2 then (if leap then 29 else 28)
  else if month = 4 ∨ month = 6 ∨ month = 9 ∨ month = 11 then 30
  else 31

/-- Days of the year before the first of a month. -/
def daysBeforeMonth (leap : Bool) : Nat → Nat
  | 0 => 0
  | 1 => 0
  | month + 2 => daysBeforeMonth leap (month + 1) + daysInMonth leap (month + 1)

/-- A calendar date. -/
structure Date where
  year : Nat
  month : Nat
  day : Nat
  year_pos : 1 ≤ year
  month_valid : 1 ≤ month ∧ month ≤ 12
  day_valid : 1 ≤ day ∧ day ≤ daysInMonth (isLeap year) month
deriving DecidableEq, Repr

namespace Date

/-- The date of a year, a month and a day, when there is one. -/
def of? (year month day : Nat) : Option Date :=
  if h : 1 ≤ year ∧ (1 ≤ month ∧ month ≤ 12) ∧
      (1 ≤ day ∧ day ≤ daysInMonth (isLeap year) month) then
    some ⟨year, month, day, h.1, h.2.1, h.2.2⟩
  else none

@[simp] theorem of?_fields (date : Date) :
    of? date.year date.month date.day = some date := by
  unfold of?
  rw [dif_pos ⟨date.year_pos, date.month_valid, date.day_valid⟩]

theorem eq_iff {a b : Date} :
    a = b ↔ a.year = b.year ∧ a.month = b.month ∧ a.day = b.day := by
  constructor
  · rintro rfl
    exact ⟨rfl, rfl, rfl⟩
  · rintro ⟨year, month, day⟩
    obtain ⟨_, _, _, _, _, _⟩ := a
    obtain ⟨_, _, _, _, _, _⟩ := b
    cases year; cases month; cases day
    rfl

/-- Days of the year before this one. -/
def dayOfYear (date : Date) : Nat :=
  daysBeforeMonth (isLeap date.year) date.month + (date.day - 1)

/-- Days since 0001-01-01. -/
def dayNumber (date : Date) : Nat := daysBeforeYear date.year + date.dayOfYear

/-- Comparison by year, then month, then day. -/
def Before (a b : Date) : Prop :=
  a.year < b.year ∨ a.year = b.year ∧
    (a.month < b.month ∨ a.month = b.month ∧ a.day < b.day)

instance (a b : Date) : Decidable (a.Before b) := by
  unfold Before
  infer_instance

end Date

/-! ## Days of a year -/

theorem isLeap_iff {year : Nat} :
    isLeap year = true ↔ 4 ∣ year ∧ (¬ 100 ∣ year ∨ 400 ∣ year) := by
  simp only [isLeap, Bool.and_eq_true, Bool.or_eq_true, beq_iff_eq, bne_iff_ne,
    Nat.dvd_iff_mod_eq_zero, Ne]

theorem daysBeforeYear_succ {year : Nat} (h : 1 ≤ year) :
    daysBeforeYear (year + 1) = daysBeforeYear year + daysInYear year := by
  obtain ⟨y, rfl⟩ : ∃ y, year = y + 1 := ⟨year - 1, by omega⟩
  have fits : y / 100 ≤ y := Nat.div_le_self y 100
  have ofHundred : 100 ∣ y + 1 → 4 ∣ y + 1 := Nat.dvd_trans (by decide)
  have ofFourHundred : 400 ∣ y + 1 → 100 ∣ y + 1 := Nat.dvd_trans (by decide)
  unfold daysBeforeYear daysInYear
  simp only [Nat.add_sub_cancel, Nat.succ_div, isLeap_iff]
  by_cases h4 : 4 ∣ y + 1
  · by_cases h100 : 100 ∣ y + 1
    · by_cases h400 : 400 ∣ y + 1
      · simp only [h4, h100, h400, if_true, or_true, and_true]
        omega
      · simp only [h4, h100, h400, if_true, if_false, not_true, or_false, and_false]
        omega
    · have h400 : ¬ 400 ∣ y + 1 := fun h => h100 (ofFourHundred h)
      simp only [h4, h100, h400, if_true, if_false, not_false_iff, true_or, and_true]
      omega
  · have h100 : ¬ 100 ∣ y + 1 := fun h => h4 (ofHundred h)
    have h400 : ¬ 400 ∣ y + 1 := fun h => h100 (ofFourHundred h)
    simp only [h4, h100, h400, if_false, false_and]
    omega

theorem daysBeforeYear_mono {a b : Nat} (ha : 1 ≤ a) (h : a ≤ b) :
    daysBeforeYear a ≤ daysBeforeYear b := by
  induction b, h using Nat.le_induction with
  | base => exact Nat.le_refl _
  | succ b hab ih =>
      rw [daysBeforeYear_succ (Nat.le_trans ha hab)]
      exact Nat.le_trans ih (Nat.le_add_right _ _)

theorem daysBeforeMonth_lt : ∀ (leap : Bool) {a b : Nat}, 1 ≤ a → a < b → b ≤ 12 →
    daysBeforeMonth leap a + daysInMonth leap a ≤ daysBeforeMonth leap b := by
  intro leap a b ha hab hb
  induction b, hab using Nat.le_induction with
  | base =>
      obtain ⟨a, rfl⟩ : ∃ k, a = k + 1 := ⟨a - 1, by omega⟩
      exact Nat.le_refl _
  | succ b hab ih =>
      obtain ⟨b, rfl⟩ : ∃ k, b = k + 1 := ⟨b - 1, by omega⟩
      exact Nat.le_trans (ih (by omega)) (Nat.le_add_right _ _)

theorem daysBeforeMonth_thirteen (year : Nat) :
    daysBeforeMonth (isLeap year) 12 + daysInMonth (isLeap year) 12 = daysInYear year := by
  unfold daysInYear
  cases isLeap year <;> rfl

namespace Date

theorem dayOfYear_lt (date : Date) : date.dayOfYear < daysInYear date.year := by
  have last := daysBeforeMonth_thirteen date.year
  have day := date.day_valid
  unfold dayOfYear
  rcases Nat.lt_or_eq_of_le date.month_valid.2 with h | h
  · have := daysBeforeMonth_lt (isLeap date.year) date.month_valid.1 h (Nat.le_refl 12)
    omega
  · rw [h] at day ⊢
    omega

theorem dayNumber_lt_of_before {a b : Date} (h : a.Before b) : a.dayNumber < b.dayNumber := by
  rcases h with year | ⟨year, month⟩
  · have next := daysBeforeYear_mono (Nat.le_add_left 1 a.year) year
    rw [daysBeforeYear_succ a.year_pos] at next
    have := a.dayOfYear_lt
    unfold dayNumber
    omega
  · have ha := a.day_valid
    have hb := b.day_valid
    unfold dayNumber dayOfYear
    rw [year] at ha ⊢
    rcases month with month | ⟨month, day⟩
    · have := daysBeforeMonth_lt (isLeap b.year) a.month_valid.1 month b.month_valid.2
      omega
    · rw [month]
      omega

theorem before_trichotomy (a b : Date) : a.Before b ∨ a = b ∨ b.Before a := by
  rcases Nat.lt_trichotomy a.year b.year with year | year | year
  · exact .inl (.inl year)
  · rcases Nat.lt_trichotomy a.month b.month with month | month | month
    · exact .inl (.inr ⟨year, .inl month⟩)
    · rcases Nat.lt_trichotomy a.day b.day with day | day | day
      · exact .inl (.inr ⟨year, .inr ⟨month, day⟩⟩)
      · exact .inr (.inl (eq_iff.mpr ⟨year, month, day⟩))
      · exact .inr (.inr (.inr ⟨year.symm, .inr ⟨month.symm, day⟩⟩))
    · exact .inr (.inr (.inr ⟨year.symm, .inl month⟩))
  · exact .inr (.inr (.inl year))

theorem dayNumber_lt_iff {a b : Date} : a.dayNumber < b.dayNumber ↔ a.Before b := by
  constructor
  · intro h
    rcases before_trichotomy a b with hab | rfl | hba
    · exact hab
    · exact absurd h (Nat.lt_irrefl _)
    · exact absurd h (Nat.lt_asymm (dayNumber_lt_of_before hba))
  · exact dayNumber_lt_of_before

theorem dayNumber_injective {a b : Date} (h : a.dayNumber = b.dayNumber) : a = b := by
  rcases before_trichotomy a b with hab | heq | hba
  · exact absurd h (Nat.ne_of_lt (dayNumber_lt_of_before hab))
  · exact heq
  · exact absurd h (Nat.ne_of_gt (dayNumber_lt_of_before hba))

end Date

/-! ## The date of a day count -/

/-- Years in 400-year, 100-year, 4-year and 1-year steps. -/
def yearOfParts (n400 n100 n4 n1 : Nat) : Nat := 400 * n400 + 100 * n100 + 4 * n4 + n1 + 1

theorem daysBeforeYear_ofParts {n400 n100 n4 n1 : Nat} (h100 : n100 ≤ 3) (h4 : n4 ≤ 24)
    (h1 : n1 ≤ 3) :
    daysBeforeYear (yearOfParts n400 n100 n4 n1) =
      146097 * n400 + 36524 * n100 + 1461 * n4 + 365 * n1 := by
  have by4 : (400 * n400 + 100 * n100 + 4 * n4 + n1) / 4 = 100 * n400 + 25 * n100 + n4 := by
    omega
  have by100 : (400 * n400 + 100 * n100 + 4 * n4 + n1) / 100 = 4 * n400 + n100 := by omega
  have by400 : (400 * n400 + 100 * n100 + 4 * n4 + n1) / 400 = n400 := by omega
  unfold daysBeforeYear yearOfParts
  rw [Nat.add_sub_cancel, by4, by100, by400]
  omega

theorem isLeap_ofParts {n400 n100 n4 n1 : Nat} (h100 : n100 ≤ 3) (h4 : n4 ≤ 24) (h1 : n1 ≤ 3) :
    isLeap (yearOfParts n400 n100 n4 n1) = true ↔ n1 = 3 ∧ (n4 ≠ 24 ∨ n100 = 3) := by
  have by4 : 4 ∣ yearOfParts n400 n100 n4 n1 ↔ n1 = 3 := by unfold yearOfParts; omega
  have by100 : 100 ∣ yearOfParts n400 n100 n4 n1 ↔ n1 = 3 ∧ n4 = 24 := by
    unfold yearOfParts; omega
  have by400 : 400 ∣ yearOfParts n400 n100 n4 n1 ↔ n1 = 3 ∧ n4 = 24 ∧ n100 = 3 := by
    unfold yearOfParts; omega
  rw [isLeap_iff, by4, by100, by400]
  omega

/-- The year that holds a day, and the days of it before that day. -/
def splitYear (n : Nat) : Nat × Nat :=
  let n400 := n / 146097
  let r400 := n % 146097
  let n100 := min 3 (r400 / 36524)
  let r100 := r400 - n100 * 36524
  let n4 := r100 / 1461
  let r4 := r100 % 1461
  let n1 := min 3 (r4 / 365)
  (yearOfParts n400 n100 n4 n1, r4 - n1 * 365)

theorem splitYear_spec (n : Nat) :
    1 ≤ (splitYear n).1 ∧ daysBeforeYear (splitYear n).1 + (splitYear n).2 = n ∧
      (splitYear n).2 < daysInYear (splitYear n).1 := by
  -- each step's quotient and remainder, named and bounded, before the next step is taken
  obtain ⟨n400, e400⟩ : ∃ q, q = n / 146097 := ⟨_, rfl⟩
  obtain ⟨r400, f400⟩ : ∃ r, r = n % 146097 := ⟨_, rfl⟩
  obtain ⟨n100, e100⟩ : ∃ q, q = min 3 (r400 / 36524) := ⟨_, rfl⟩
  obtain ⟨r100, f100⟩ : ∃ r, r = r400 - n100 * 36524 := ⟨_, rfl⟩
  obtain ⟨n4, e4⟩ : ∃ q, q = r100 / 1461 := ⟨_, rfl⟩
  obtain ⟨r4, f4⟩ : ∃ r, r = r100 % 1461 := ⟨_, rfl⟩
  obtain ⟨n1, e1⟩ : ∃ q, q = min 3 (r4 / 365) := ⟨_, rfl⟩
  have split : splitYear n = (yearOfParts n400 n100 n4 n1, r4 - n1 * 365) := by
    simp only [splitYear, e1, f4, e4, f100, e100, f400, e400]
  have b100 : n100 ≤ 3 ∧ r400 = n100 * 36524 + r100 ∧
      (r100 < 36524 ∨ n100 = 3 ∧ r100 = 36524) := by omega
  have b4 : n4 ≤ 24 ∧ r100 = n4 * 1461 + r4 ∧ r4 < 1461 ∧
      (n4 = 24 → r100 < 36524 → r4 < 1460) := by omega
  have b1 : n1 ≤ 3 ∧ n1 * 365 ≤ r4 ∧ (r4 - n1 * 365 < 365 ∨ n1 = 3 ∧ r4 = 1460) := by omega
  have whole : n = 146097 * n400 + r400 := by omega
  have leap := @isLeap_ofParts n400 n100 n4 n1 b100.1 b4.1 b1.1
  rw [split]
  refine ⟨Nat.le_add_left 1 _, ?_, ?_⟩
  · rw [daysBeforeYear_ofParts b100.1 b4.1 b1.1]
    omega
  · unfold daysInYear
    simp only [leap]
    split <;> omega

/-- The month of a day of the year, and the day of that month. -/
def splitMonth (leap : Bool) (dayOfYear : Nat) : Nat × Nat :=
  let month := ((List.range' 1 12).filter fun m => daysBeforeMonth leap m ≤ dayOfYear).length
  (month, dayOfYear - daysBeforeMonth leap month + 1)

theorem splitMonth_table : ∀ leap : Bool, ∀ d < 366, (leap = true ∨ d < 365) →
    (1 ≤ (splitMonth leap d).1 ∧ (splitMonth leap d).1 ≤ 12) ∧
      (splitMonth leap d).2 ≤ daysInMonth leap (splitMonth leap d).1 ∧
      daysBeforeMonth leap (splitMonth leap d).1 + ((splitMonth leap d).2 - 1) = d := by
  decide +kernel

theorem splitMonth_spec {year d : Nat} (h : d < daysInYear year) :
    (1 ≤ (splitMonth (isLeap year) d).1 ∧ (splitMonth (isLeap year) d).1 ≤ 12) ∧
      (splitMonth (isLeap year) d).2 ≤
        daysInMonth (isLeap year) (splitMonth (isLeap year) d).1 ∧
      daysBeforeMonth (isLeap year) (splitMonth (isLeap year) d).1 +
        ((splitMonth (isLeap year) d).2 - 1) = d := by
  unfold daysInYear at h
  apply splitMonth_table
  · split at h <;> omega
  · split at h
    case isTrue leap => exact .inl leap
    case isFalse => exact .inr h

/-- The date `n` days after 0001-01-01. -/
def ofDayNumber (n : Nat) : Date where
  year := (splitYear n).1
  month := (splitMonth (isLeap (splitYear n).1) (splitYear n).2).1
  day := (splitMonth (isLeap (splitYear n).1) (splitYear n).2).2
  year_pos := (splitYear_spec n).1
  month_valid := (splitMonth_spec (splitYear_spec n).2.2).1
  day_valid := ⟨Nat.le_add_left 1 _, (splitMonth_spec (splitYear_spec n).2.2).2.1⟩

@[simp] theorem dayNumber_ofDayNumber (n : Nat) : (ofDayNumber n).dayNumber = n := by
  obtain ⟨-, year, within⟩ := splitYear_spec n
  obtain ⟨-, -, month⟩ := splitMonth_spec within
  show daysBeforeYear (splitYear n).1 + _ = n
  rw [Date.dayOfYear]
  show daysBeforeYear (splitYear n).1 +
    (daysBeforeMonth (isLeap (splitYear n).1) _ + (_ - 1)) = n
  rw [ofDayNumber, month, year]

@[simp] theorem ofDayNumber_dayNumber (date : Date) : ofDayNumber date.dayNumber = date :=
  Date.dayNumber_injective (dayNumber_ofDayNumber date.dayNumber)

theorem ofDayNumber_before {m n : Nat} : (ofDayNumber m).Before (ofDayNumber n) ↔ m < n := by
  rw [← Date.dayNumber_lt_iff, dayNumber_ofDayNumber, dayNumber_ofDayNumber]

/-- A year that starts after a day holds none of the days up to it. -/
theorem year_le_of_dayNumber_lt {n year : Nat} (h : n < daysBeforeYear (year + 1)) :
    (ofDayNumber n).year ≤ year := by
  refine Nat.le_of_not_lt fun after => ?_
  have starts := daysBeforeYear_mono (Nat.le_add_left 1 year) after
  have count := dayNumber_ofDayNumber n
  unfold Date.dayNumber at count
  omega

end Calendar
