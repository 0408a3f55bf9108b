/-
# `Activity.BalancesExact` — when a balance is the exact quotient

The text of a balance is the raw amount over the power of ten, half up to
eighteen places, exactly where the rounding to the thread's precision makes
no difference to it and the result fits in the second context
(`scaled_balance_iff`): always for an amount of no more digits than the
precision.
-/
import TonTracker.Adapters.BalanceScaling
import TonTracker.Lib.ContextRounding
import Mathlib.Data.Rat.Floor
import Mathlib.Algebra.Order.Floor.Semifield

namespace TonTracker

open ContextDecimal (Signal digitCount digitCount_le_iff digitCount_mono digitCount_pos
  lt_pow_digitCount pow_le_of_lt_digitCount)
open DoubleRounding (halfEven halfUp RoundsAlike halfUp_halfEven_iff)
open ExceptFold (bind_eq_ok check_eq_ok)

variable {precision places raw scale : Nat} {x : DecimalDigits}

/-! ## Quantizing -/

/-- A zero more and an exponent less. -/
theorem quantized_shift (c : Nat) (e : Int) :
    DecimalDigits.quantized ⟨c * 10, e⟩ places = DecimalDigits.quantized ⟨c, e + 1⟩ places := by
  unfold DecimalDigits.quantized
  dsimp only
  by_cases h : 0 ≤ e + places
  · have hshift : (e + 1 + places).toNat = (e + places).toNat + 1 := by omega
    rw [if_pos h, if_pos (by omega), hshift, Nat.pow_succ, Nat.mul_assoc, Nat.mul_comm 10]
  · rw [if_neg h]
    by_cases h' : e + places = -1
    · rw [if_pos (by omega), h']
      have hzero : e + 1 + places = 0 := by omega
      rw [hzero]
      show halfUp (10 ^ 1) (c * 10) = c * 10 ^ 0
      rw [Nat.mul_comm c, Nat.pow_one, DoubleRounding.halfUp_mul (by decide), Nat.pow_zero,
        Nat.mul_one]
    · rw [if_neg (by omega)]
      have hshift : (-(e + places)).toNat = (-(e + 1 + places)).toNat + 1 := by omega
      rw [hshift]
      unfold halfUp
      have hnum : 2 * (c * 10) + 10 ^ ((-(e + 1 + places)).toNat + 1) =
          (2 * c + 10 ^ (-(e + 1 + places)).toNat) * 10 := by
        rw [Nat.pow_succ]
        omega
      have hden : 2 * 10 ^ ((-(e + 1 + places)).toNat + 1) =
          2 * 10 ^ (-(e + 1 + places)).toNat * 10 := by
        rw [Nat.pow_succ]
        omega
      rw [hnum, hden, Nat.mul_div_mul_right _ _ (by decide)]

theorem quantized_strip (zeros : Nat) (x : DecimalDigits) :
    (x.strip zeros).quantized places = x.quantized places := by
  induction zeros generalizing x with
  | zero => rfl
  | succ zeros ih =>
      unfold DecimalDigits.strip
      split
      · next h =>
          rw [ih, ← quantized_shift]
          have hc : x.coefficient / 10 * 10 = x.coefficient :=
            Nat.div_mul_cancel (Nat.dvd_of_mod_eq_zero h)
          rw [hc]
      · rfl

theorem quantized_pow (c k : Nat) (e : Int) :
    DecimalDigits.quantized ⟨10 ^ k * c, e⟩ places = DecimalDigits.quantized ⟨c, e + k⟩ places := by
  induction k generalizing e with
  | zero => simp
  | succ k ih =>
      have hc : 10 ^ (k + 1) * c = 10 ^ k * c * 10 := by
        rw [Nat.pow_succ]
        exact Nat.mul_right_comm ..
      rw [hc, quantized_shift, ih]
      congr 2
      omega

/-- The raw amount over a power of ten. -/
theorem quantized_raw (n scale : Nat) : DecimalDigits.quantized ⟨n, -scale⟩ places =
    halfUp (10 ^ (scale - places)) n * 10 ^ (places - scale) := by
  unfold DecimalDigits.quantized
  dsimp only
  split
  · have h1 : (-(scale : Int) + places).toNat = places - scale := by omega
    have h2 : scale - places = 0 := by omega
    rw [h1, h2, Nat.pow_zero]
    have hone := DoubleRounding.halfUp_mul Nat.one_pos n
    rw [Nat.one_mul] at hone
    rw [hone]
  · have h1 : (-(-(scale : Int) + places)).toNat = scale - places := by omega
    have h2 : places - scale = 0 := by omega
    rw [h1, h2, Nat.pow_zero, Nat.mul_one]

/-- Without a positive exponent the quantum adds its places. -/
theorem digitCount_quantized (h : x.exponent ≤ 0) :
    digitCount (x.quantized places) ≤ digitCount x.coefficient + places := by
  rw [digitCount_le_iff (Nat.add_pos_left (digitCount_pos _) _), Nat.pow_add]
  have hc := lt_pow_digitCount x.coefficient
  unfold DecimalDigits.quantized
  split
  · refine lt_of_lt_of_le (Nat.mul_lt_mul_of_pos_right hc (Nat.pow_pos (by decide))) ?_
    exact Nat.mul_le_mul_left _ (Nat.pow_le_pow_right (by decide) (by omega))
  · next hneg =>
      have hle : halfUp (10 ^ (-(x.exponent + places)).toNat) x.coefficient ≤ x.coefficient := by
        have htwo : 2 ≤ 10 ^ (-(x.exponent + places)).toNat := by
          obtain ⟨j, hj⟩ : ∃ j, (-(x.exponent + places)).toNat = j + 1 :=
            ⟨(-(x.exponent + places)).toNat - 1, by omega⟩
          rw [hj, Nat.pow_succ]
          have : 0 < 10 ^ j := Nat.pow_pos (by decide)
          omega
        unfold halfUp
        generalize 10 ^ (-(x.exponent + places)).toNat = u at htwo
        refine Nat.lt_succ_iff.mp (Nat.div_lt_of_lt_mul ?_)
        have hmul : 2 * 2 * x.coefficient ≤ 2 * u * x.coefficient :=
          Nat.mul_le_mul_right _ (Nat.mul_le_mul_left 2 htwo)
        have hsucc : 2 * u * (x.coefficient + 1) = 2 * u * x.coefficient + 2 * u := by
          rw [Nat.mul_add, Nat.mul_one]
        rw [hsucc]
        omega
      calc halfUp (10 ^ (-(x.exponent + places)).toNat) x.coefficient ≤ x.coefficient := hle
        _ < 10 ^ digitCount x.coefficient := hc
        _ ≤ 10 ^ digitCount x.coefficient * 10 ^ places :=
          Nat.le_mul_of_pos_right _ (Nat.pow_pos (by decide))

/-! ## The quotient -/

/-- The raw amount as the first context has it. -/
def roundedRaw (precision raw : Nat) : Nat :=
  10 ^ (digitCount raw - precision) * halfEven (10 ^ (digitCount raw - precision)) raw

theorem halfEven_one (n : Nat) : halfEven 1 n = n := by
  unfold halfEven
  rw [Nat.mod_one, Nat.div_one]
  exact if_neg (by omega)

theorem halfEven_le_succ (w n : Nat) : n / w ≤ halfEven w n ∧ halfEven w n ≤ n / w + 1 := by
  unfold halfEven
  split <;> omega

/-- What more digits than the precision are rounded to. -/
structure RoundedDigits (precision raw scale : Nat) (x : DecimalDigits) : Prop where
  quantized : ∀ places, x.quantized places =
    DecimalDigits.quantized ⟨roundedRaw precision raw, -scale⟩ places
  digits : digitCount x.coefficient = precision
  pos : 0 < x.coefficient

theorem roundTo_rounded (hp : 0 < precision) (h : precision < digitCount raw) :
    RoundedDigits precision raw scale (DecimalDigits.roundTo ⟨raw, -scale⟩ precision) := by
  have hraw : 0 < raw := Nat.pos_of_ne_zero fun hzero => by
    subst hzero
    exact absurd h (Nat.not_lt.mpr hp)
  obtain ⟨k, hk⟩ := Nat.exists_eq_add_of_lt h
  have hexcess : digitCount raw - precision = k + 1 := by omega
  have hw : 0 < 10 ^ (k + 1) := Nat.pow_pos (by decide)
  obtain ⟨hlo, hhi⟩ := halfEven_le_succ (10 ^ (k + 1)) raw
  -- the kept digits are as many as the precision, or a power of ten more
  have hbelow : raw / 10 ^ (k + 1) < 10 ^ precision := by
    refine Nat.div_lt_of_lt_mul ?_
    rw [← Nat.pow_add, Nat.add_comm (k + 1), ← Nat.add_assoc, ← hk]
    exact lt_pow_digitCount raw
  have habove : 10 ^ (precision - 1) ≤ raw / 10 ^ (k + 1) := by
    rw [Nat.le_div_iff_mul_le hw, ← Nat.pow_add]
    exact pow_le_of_lt_digitCount (by omega) hraw
  have hdigits : precision ≤ digitCount (halfEven (10 ^ (k + 1)) raw) := by
    refine Nat.not_lt.mp fun hlt => ?_
    have hle : digitCount (halfEven (10 ^ (k + 1)) raw) ≤ precision - 1 := by omega
    obtain hzero | hpos := Nat.eq_zero_or_pos (precision - 1)
    · have := digitCount_pos (halfEven (10 ^ (k + 1)) raw)
      omega
    · have := (digitCount_le_iff hpos).mp hle
      omega
  have hrounded : roundedRaw precision raw = 10 ^ (k + 1) * halfEven (10 ^ (k + 1)) raw := by
    unfold roundedRaw
    rw [hexcess]
  unfold DecimalDigits.roundTo
  dsimp only
  rw [hexcess, if_neg (Nat.succ_ne_zero k)]
  split
  · next hfits =>
      refine ⟨fun places => ?_, Nat.le_antisymm hfits hdigits, ?_⟩
      · rw [hrounded, quantized_pow]
      · have : 0 < 10 ^ (precision - 1) := Nat.pow_pos (by decide)
        show 0 < halfEven (10 ^ (k + 1)) raw
        omega
  · next hcarry =>
      have hpower : halfEven (10 ^ (k + 1)) raw = 10 ^ (precision - 1) * 10 := by
        have hge := pow_le_of_lt_digitCount (Nat.not_le.mp hcarry) (by
          have : 0 < 10 ^ (precision - 1) := Nat.pow_pos (by decide)
          omega)
        have heq : halfEven (10 ^ (k + 1)) raw = 10 ^ precision := by omega
        rw [heq, ← Nat.pow_succ]
        congr 1
        omega
      refine ⟨fun places => ?_, ?_, ?_⟩
      · rw [hrounded, quantized_pow, hpower, Nat.mul_div_cancel _ (by decide), quantized_shift]
      · show digitCount (halfEven (10 ^ (k + 1)) raw / 10) = precision
        rw [hpower, Nat.mul_div_cancel _ (by decide)]
        refine Nat.le_antisymm ?_ (Nat.not_lt.mp fun hlt => ?_)
        · rw [digitCount_le_iff hp]
          exact Nat.pow_lt_pow_right (by decide) (by omega)
        · obtain hzero | hpos := Nat.eq_zero_or_pos (precision - 1)
          · have := digitCount_pos (10 ^ (precision - 1))
            omega
          · have := (digitCount_le_iff hpos).mp (Nat.le_sub_one_of_lt hlt)
            exact absurd this (Nat.lt_irrefl _)
      · show 0 < halfEven (10 ^ (k + 1)) raw / 10
        rw [hpower, Nat.mul_div_cancel _ (by decide)]
        exact Nat.pow_pos (by decide)

theorem roundTo_short (h : digitCount raw ≤ precision) (e : Int) :
    DecimalDigits.roundTo ⟨raw, e⟩ precision = ⟨raw, e⟩ :=
  if_pos (Nat.sub_eq_zero_of_le h)

theorem roundedRaw_short (h : digitCount raw ≤ precision) : roundedRaw precision raw = raw := by
  unfold roundedRaw
  rw [Nat.sub_eq_zero_of_le h, Nat.pow_zero, halfEven_one, Nat.one_mul]

theorem strip_le (zeros : Nat) (x : DecimalDigits) :
    digitCount (x.strip zeros).coefficient ≤ digitCount x.coefficient ∧
      (x.strip zeros).exponent ≤ x.exponent + zeros := by
  induction zeros generalizing x with
  | zero => exact ⟨Nat.le_refl _, by simp [DecimalDigits.strip]⟩
  | succ zeros ih =>
      unfold DecimalDigits.strip
      split
      · obtain ⟨hdigits, hexponent⟩ := ih ⟨x.coefficient / 10, x.exponent + 1⟩
        refine ⟨Nat.le_trans hdigits (digitCount_mono (Nat.div_le_self _ _)), ?_⟩
        dsimp only at hexponent
        push_cast
        omega
      · exact ⟨Nat.le_refl _, by push_cast; omega⟩

/-- The quotient has the value of the rounded amount, and the second context
holds what it would hold if it counted the digits of the precision. -/
structure QuotientOf (precision raw scale : Nat) (q : DecimalDigits) : Prop where
  value : ∀ places, q.quantized places =
    DecimalDigits.quantized ⟨roundedRaw precision raw, -scale⟩ places
  fits : ∀ places,
    digitCount (q.quantized places) ≤ max 60 (digitCount q.coefficient + places + 4) ↔
      digitCount (q.quantized places) ≤ max 60 (precision + places + 4)
  sign : 0 < q.coefficient ∨ q.exponent ≤ 0

/-- A quotient without a positive exponent fits in either. -/
theorem QuotientOf.of_exponent {q : DecimalDigits} (hexponent : q.exponent ≤ 0)
    (hdigits : digitCount q.coefficient ≤ precision)
    (hvalue : ∀ places, q.quantized places =
      DecimalDigits.quantized ⟨roundedRaw precision raw, -scale⟩ places) :
    QuotientOf precision raw scale q := by
  refine ⟨hvalue, fun places => ?_, .inr hexponent⟩
  have : digitCount (q.quantized places) ≤ digitCount q.coefficient + places :=
    digitCount_quantized hexponent
  constructor <;> intro <;> omega

theorem quotientOf_quotientDigits (hp : 0 < precision) (raw scale : Nat) :
    QuotientOf precision raw scale (quotientDigits precision raw scale) := by
  unfold quotientDigits
  dsimp only
  by_cases hshort : digitCount raw ≤ precision
  · rw [roundTo_short hshort, Nat.sub_eq_zero_of_le hshort, Nat.pow_zero, if_pos (Nat.mod_one raw)]
    obtain ⟨hdigits, hexponent⟩ := strip_le
      (-((scale - (precision - 1) : Nat) : Int) - -(scale : Int)).toNat ⟨raw, -scale⟩
    dsimp only at hdigits hexponent ⊢
    refine .of_exponent (by omega) (Nat.le_trans hdigits hshort) fun places => ?_
    rw [quantized_strip, roundedRaw_short hshort]
  · have hrounded : RoundedDigits precision raw scale
        (DecimalDigits.roundTo ⟨raw, -scale⟩ precision) :=
      roundTo_rounded hp (Nat.not_le.mp hshort)
    generalize DecimalDigits.roundTo ⟨raw, -scale⟩ precision = x at hrounded
    have hx : QuotientOf precision raw scale x :=
      ⟨hrounded.quantized, fun places => by rw [hrounded.digits], .inl hrounded.pos⟩
    split
    · by_cases hpos : 0 < x.exponent
      · have hzero : (-((scale - (precision - 1) : Nat) : Int) - x.exponent).toNat = 0 := by omega
        rw [hzero]
        exact hx
      · obtain ⟨hdigits, hexponent⟩ := strip_le
          (-((scale - (precision - 1) : Nat) : Int) - x.exponent).toNat x
        refine .of_exponent (by omega) (hrounded.digits ▸ hdigits) fun places => ?_
        rw [quantized_strip, hrounded.quantized]
    · exact hx

/-- What quantizes below a power of ten is below it. -/
theorem adjusted_le {limit : Nat} (hsign : 0 < x.coefficient ∨ x.exponent ≤ 0)
    (h : digitCount (x.quantized places) ≤ limit + 1 + places) :
    digitCount x.coefficient + x.exponent ≤ limit + 1 := by
  obtain hzero | hpos := Nat.eq_zero_or_pos x.coefficient
  · have hone : digitCount x.coefficient = 1 := by
      rw [hzero]
      rfl
    have : x.exponent ≤ 0 := hsign.resolve_left (by omega)
    omega
  · have hlt := (digitCount_le_iff (by omega)).mp h
    have hge : 10 ^ (digitCount x.coefficient - 1) ≤ x.coefficient :=
      pow_le_of_lt_digitCount (by have := digitCount_pos x.coefficient; omega) hpos
    refine Int.not_lt.mp fun hover => absurd hlt (Nat.not_lt.mpr ?_)
    unfold DecimalDigits.quantized
    split
    · calc 10 ^ (limit + 1 + places)
          ≤ 10 ^ (digitCount x.coefficient - 1 + (x.exponent + places).toNat) :=
            Nat.pow_le_pow_right (by decide) (by omega)
        _ = 10 ^ (digitCount x.coefficient - 1) * 10 ^ (x.exponent + places).toNat := Nat.pow_add ..
        _ ≤ x.coefficient * 10 ^ (x.exponent + places).toNat := Nat.mul_le_mul_right _ hge
    · generalize hk : (-(x.exponent + places)).toNat = k
      have hmul : 10 ^ k * 10 ^ (limit + 1 + places) ≤ x.coefficient := by
        rw [← Nat.pow_add]
        exact Nat.le_trans (Nat.pow_le_pow_right (by decide) (by omega)) hge
      have hhalf := DoubleRounding.halfUp_mul (u := 10 ^ k) (Nat.pow_pos (by decide))
        (10 ^ (limit + 1 + places))
      rw [← hhalf]
      exact Nat.div_le_div_right (by omega)

/-! ## The text -/

theorem fixedText_inj {m n : Nat} (h : fixedText places m = fixedText places n) : m = n := by
  unfold fixedText at h
  have hlen : ∀ a b : Nat, ('.' :: FixedDigits.padded places a).length =
      ('.' :: FixedDigits.padded places b).length := by simp
  obtain ⟨hwhole, hrest⟩ := List.append_inj' h (hlen _ _)
  have hwhole : m / 10 ^ places = n / 10 ^ places := by
    rw [← @Nat.ofDigitChars_ten_toDigits (m / 10 ^ places), hwhole, Nat.ofDigitChars_ten_toDigits]
  have hrest : m % 10 ^ places = n % 10 ^ places := by
    have hm := FixedDigits.readDigits_padded (FixedDigits.trailing_lt places m) []
    have hn := FixedDigits.readDigits_padded (FixedDigits.trailing_lt places n) []
    rw [(List.cons.inj hrest).2, hn] at hm
    exact (congrArg (·.1) (Option.some.inj hm)).symm
  rw [← Nat.div_add_mod m (10 ^ places), ← Nat.div_add_mod n (10 ^ places), hwhole, hrest]

/-- The number of units nearest to a number, half up. -/
def roundedHalfUp (places : Nat) (x : ℚ) : Nat := ⌊x * 10 ^ places + 1 / 2⌋₊

/-- The exact quotient, in units. -/
theorem roundedHalfUp_quotient (raw scale places : Nat) :
    roundedHalfUp places (raw / 10 ^ scale) =
      DecimalDigits.quantized ⟨raw, -scale⟩ places := by
  rw [quantized_raw]
  unfold roundedHalfUp
  obtain hle | hlt := Nat.le_total scale places
  · obtain ⟨j, rfl⟩ := Nat.exists_eq_add_of_le hle
    have hone := DoubleRounding.halfUp_mul Nat.one_pos raw
    rw [Nat.one_mul] at hone
    rw [Nat.sub_eq_zero_of_le hle, Nat.pow_zero, hone, Nat.add_sub_cancel_left]
    have hvalue : (raw : ℚ) / 10 ^ scale * 10 ^ (scale + j) + 1 / 2 =
        ((raw * 10 ^ j : Nat) : ℚ) + 1 / 2 := by
      push_cast
      rw [pow_add]
      field_simp
    rw [hvalue, Nat.floor_eq_iff (by positivity)]
    constructor <;> linarith
  · obtain ⟨j, rfl⟩ := Nat.exists_eq_add_of_le hlt
    rw [Nat.sub_eq_zero_of_le hlt, Nat.pow_zero, Nat.mul_one, Nat.add_sub_cancel_left]
    have hvalue : (raw : ℚ) / 10 ^ (places + j) * 10 ^ places + 1 / 2 =
        ((2 * raw + 10 ^ j : Nat) : ℚ) / ((2 * 10 ^ j : Nat) : ℚ) := by
      push_cast
      rw [pow_add]
      field_simp
    rw [hvalue, Nat.floor_div_eq_div]
    rfl

/-- The digits that the contexts of a thread hold of a balance. -/
def balanceDigits (precision : Nat) : Nat :=
  min (max 60 (precision + balancePlaces + 4)) (maxExponent + 1 + balancePlaces)

/-- When the balance of a raw amount and decimals is exact in a thread of the
precision. -/
def BalanceExact (precision raw scale : Nat) : Prop :=
  scale ≤ maxExponent ∧
    (digitCount raw ≤ precision ∨
      RoundsAlike (digitCount raw - precision) (scale - balancePlaces) raw) ∧
    roundedHalfUp balancePlaces (raw / 10 ^ scale) < 10 ^ balanceDigits precision

theorem fixedDecimalString_eq_ok {found : Text} : fixedDecimalString x places = .ok found ↔
    digitCount (x.quantized places) ≤
        min (max 60 (digitCount x.coefficient + places + 4)) (maxExponent + 1 + places) ∧
      found = fixedText places (x.quantized places) := by
  unfold fixedDecimalString
  constructor
  · intro h
    obtain ⟨_, hcheck, h⟩ := bind_eq_ok.mp h
    exact ⟨check_eq_ok.mp hcheck, (Except.ok.inj h).symm⟩
  · rintro ⟨hfit, rfl⟩
    exact bind_eq_ok.mpr ⟨(), check_eq_ok.mpr hfit, rfl⟩

/-- What the thread returns: the rounded amount, where it fits. -/
theorem scaledBalanceString_eq_ok (hp : 0 < precision) {text : Text} :
    scaledBalanceString precision (some raw) (some scale) = .ok (some text) ↔
      scale ≤ maxExponent ∧
      digitCount (DecimalDigits.quantized ⟨roundedRaw precision raw, -scale⟩ balancePlaces) ≤
        balanceDigits precision ∧
      text = fixedText balancePlaces
        (DecimalDigits.quantized ⟨roundedRaw precision raw, -scale⟩ balancePlaces) := by
  show (do
    let quotient ← scaledQuotient precision raw scale
    some <$> fixedDecimalString quotient balancePlaces : Except Signal (Option Text)) = _ ↔ _
  have hq := quotientOf_quotientDigits hp raw scale
  have hfits := hq.fits balancePlaces
  rw [← hq.value]
  unfold balanceDigits
  constructor
  · intro h
    obtain ⟨q, hquotient, h⟩ := bind_eq_ok.mp h
    obtain ⟨_, hscale, hquotient⟩ := bind_eq_ok.mp hquotient
    obtain ⟨_, -, hquotient⟩ := bind_eq_ok.mp hquotient
    cases hquotient
    cases hfound : fixedDecimalString (quotientDigits precision raw scale) balancePlaces with
    | error signal =>
        rw [hfound] at h
        cases h
    | ok found =>
        obtain ⟨hfit, rfl⟩ := fixedDecimalString_eq_ok.mp hfound
        rw [hfound] at h
        cases h
        obtain ⟨hfirst, hsecond⟩ := Nat.le_min.mp hfit
        exact ⟨check_eq_ok.mp hscale, Nat.le_min.mpr ⟨hfits.mp hfirst, hsecond⟩, rfl⟩
  · rintro ⟨hscale, hfit, rfl⟩
    obtain ⟨hfirst, hsecond⟩ := Nat.le_min.mp hfit
    have hadjusted := adjusted_le hq.sign hsecond
    refine bind_eq_ok.mpr ⟨quotientDigits precision raw scale,
      bind_eq_ok.mpr ⟨(), check_eq_ok.mpr hscale,
        bind_eq_ok.mpr ⟨(), check_eq_ok.mpr hadjusted, rfl⟩⟩, ?_⟩
    rw [fixedDecimalString_eq_ok.mpr ⟨Nat.le_min.mpr ⟨hfits.mpr hfirst, hsecond⟩, rfl⟩]
    rfl

theorem scaled_balance_iff (precision raw scale : Nat) (hp : 0 < precision) :
    scaledBalanceString precision (some raw) (some scale) =
        .ok (some (fixedText balancePlaces (roundedHalfUp balancePlaces (raw / 10 ^ scale)))) ↔
      BalanceExact precision raw scale := by
  have hpos : 0 < balanceDigits precision := by
    unfold balanceDigits
    omega
  rw [scaledBalanceString_eq_ok hp]
  unfold BalanceExact
  rw [roundedHalfUp_quotient, ← digitCount_le_iff hpos]
  refine and_congr_right fun _ => ?_
  by_cases hshort : digitCount raw ≤ precision
  · rw [roundedRaw_short hshort]
    simp only [hshort, true_or, true_and, and_true]
  · have halike : DecimalDigits.quantized ⟨roundedRaw precision raw, -scale⟩ balancePlaces =
        DecimalDigits.quantized ⟨raw, -scale⟩ balancePlaces ↔
        RoundsAlike (digitCount raw - precision) (scale - balancePlaces) raw := by
      rw [quantized_raw, quantized_raw, Nat.mul_left_inj (Nat.pow_pos (by decide)).ne',
        ← halfUp_halfEven_iff]
      rfl
    rw [← halike]
    constructor
    · rintro ⟨hfit, htext⟩
      have heq := fixedText_inj htext
      exact ⟨.inr heq.symm, heq ▸ hfit⟩
    · rintro ⟨h | heq, hfit⟩
      · exact absurd h hshort
      · rw [heq]
        exact ⟨hfit, rfl⟩

/-- Nine places of an amount of twenty-nine digits. -/
theorem scaled_balance_iff_long :
    scaledBalanceString 28 (some (10 ^ 28)) (some 9) =
        .ok (some (fixedText balancePlaces
          (roundedHalfUp balancePlaces ((10 ^ 28 : Nat) / 10 ^ 9)))) ↔
      BalanceExact 28 (10 ^ 28) 9 :=
  scaled_balance_iff 28 (10 ^ 28) 9 (by decide)

/-- One digit more than the default precision: the last one is lost, and a
thread of a greater precision keeps it. -/
theorem long_balance_loses_digit :
    scaledBalanceString 28 (some (10 ^ 28 + 1)) (some 0) ≠
        .ok (some (fixedText balancePlaces
          (roundedHalfUp balancePlaces ((10 ^ 28 + 1 : Nat) / 10 ^ 0)))) ∧
      scaledBalanceString 29 (some (10 ^ 28 + 1)) (some 0) =
        .ok (some (fixedText balancePlaces
          (roundedHalfUp balancePlaces ((10 ^ 28 + 1 : Nat) / 10 ^ 0)))) := by
  rw [roundedHalfUp_quotient]
  decide +kernel

end TonTracker
