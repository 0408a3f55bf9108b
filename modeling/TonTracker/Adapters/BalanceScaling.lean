/-
# `Adapters.BalanceScaling` — provider balances in units

`_scaled_balance_string` (`adapters/wallet_activity.py`) divides a raw amount
by a power of ten in the decimal context of the calling thread, and
`_fixed_decimal_string` quantizes the quotient in a wider one.  A number is
its digits and its exponent, since the width of the second context counts
the digits.
-/
import TonTracker.Lib.DoubleRounding
import TonTracker.Adapters.Tonapi
import TonTracker.Lib.ContextDecimal
import TonTracker.Lib.ExceptFold

namespace TonTracker

open ContextDecimal (Signal digitCount)
open DoubleRounding (halfEven halfUp)
open ExceptFold (check)

/-- A decimal that is not negative. -/
structure DecimalDigits where
  coefficient : Nat
  exponent : Int
deriving DecidableEq

/-- Rounds to a number of digits, half even. -/
def DecimalDigits.roundTo (x : DecimalDigits) (precision : Nat) : DecimalDigits :=
  let excess := digitCount x.coefficient - precision
  if excess = 0 then x
  else
    let coefficient := halfEven (10 ^ excess) x.coefficient
    if digitCount coefficient ≤ precision then ⟨coefficient, x.exponent + excess⟩
    else ⟨coefficient / 10, x.exponent + excess + 1⟩

/-- Drops up to a number of trailing zeros. -/
def DecimalDigits.strip : Nat → DecimalDigits → DecimalDigits
  | 0, x => x
  | zeros + 1, x =>
      if x.coefficient % 10 = 0 then strip zeros ⟨x.coefficient / 10, x.exponent + 1⟩ else x

/-- `Emax` of the default context. -/
def maxExponent : Nat := 999999

/-- The digits of the quotient by a power of ten.  The power has the exponent
zero while it fits in the precision, and a quotient that loses no digit is
brought to the difference of the exponents. -/
def quotientDigits (precision raw scale : Nat) : DecimalDigits :=
  let quotient := DecimalDigits.roundTo ⟨raw, -scale⟩ precision
  let ideal : Int := -(scale - (precision - 1) : Nat)
  if raw % 10 ^ (digitCount raw - precision) = 0 then
    quotient.strip (ideal - quotient.exponent).toNat
  else quotient

/-- `raw / (Decimal(10) ** scale)`; either of the two can overflow. -/
def scaledQuotient (precision raw scale : Nat) : Except Signal DecimalDigits := do
  check (scale ≤ maxExponent) .overflow
  let quotient := quotientDigits precision raw scale
  check (digitCount quotient.coefficient + quotient.exponent ≤ maxExponent + 1) .overflow
  return quotient

/-- `value.quantize(quant, rounding=ROUND_HALF_UP)`, in units of the quantum. -/
def DecimalDigits.quantized (x : DecimalDigits) (places : Nat) : Nat :=
  if 0 ≤ x.exponent + places then x.coefficient * 10 ^ (x.exponent + places).toNat
  else halfUp (10 ^ (-(x.exponent + places)).toNat) x.coefficient

/-- `format(value, "f")` of a number of units. -/
def fixedText (places units : Nat) : Text :=
  Nat.toDigits 10 (units / 10 ^ places) ++ '.' :: FixedDigits.padded places (units % 10 ^ places)

/-- `_fixed_decimal_string`; a quotient that the context cannot hold is
trapped. -/
def fixedDecimalString (value : DecimalDigits) (places : Nat) : Except Signal Text := do
  let precision := max 60 (digitCount value.coefficient + places + 4)
  check (digitCount (value.quantized places) ≤ min precision (maxExponent + 1 + places))
    .invalidOperation
  return fixedText places (value.quantized places)

/-- The places of `BALANCE_QUANT`. -/
def balancePlaces : Nat := 18

/-- `_scaled_balance_string` of a canonical raw amount, or none, and of the
decimals the provider gave, or none, in a thread of the precision. -/
def scaledBalanceString (precision : Nat) (value : Option Nat) (decimals : Option Int) :
    Except Signal (Option Text) :=
  match value with
  | none => .ok none
  | some raw =>
      match decimals with
      | none => some <$> fixedDecimalString ⟨raw, 0⟩ balancePlaces
      | some (.negSucc _) => some <$> fixedDecimalString ⟨raw, 0⟩ balancePlaces
      | some (.ofNat scale) => do
          let quotient ← scaledQuotient precision raw scale
          some <$> fixedDecimalString quotient balancePlaces

end TonTracker
