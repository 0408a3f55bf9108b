/-
# `Lib.ContextDecimal` — decimal arithmetic in a context

Decimal floating-point numbers by their values: a finite number is a
rational, and every operation rounds its exact result to the precision of a
context, half to even.  Trapped conditions are errors.  The exponent a
finite number is written with, and the sign of a zero, are not kept: no
comparison or rounding depends on them.
-/
import Mathlib.Data.Rat.Floor

namespace ContextDecimal

inductive Decimal where
  | finite (value : ℚ)
  | infinite (negative : Bool)
  | quietNaN
  | signalingNaN
deriving DecidableEq

/-- A trapped condition. -/
inductive Signal where
  | invalidOperation
  | divisionByZero
  | overflow
deriving DecidableEq

structure Context where
  precision : Nat
  emin : Int
  emax : Int

/-! ## Rounding -/

/-- The nearest integer, and the even one of two. -/
def roundHalfEven (x : ℚ) : ℤ :=
  if x - ⌊x⌋ < 1 / 2 then ⌊x⌋
  else if 1 / 2 < x - ⌊x⌋ then ⌊x⌋ + 1
  else if ⌊x⌋ % 2 = 0 then ⌊x⌋
  else ⌊x⌋ + 1

def digitCount (n : Nat) : Nat := (Nat.toDigits 10 n).length

/-- The exponent of the leading digit of a number that is not zero. -/
def adjusted (x : ℚ) : ℤ :=
  let e : ℤ := digitCount x.num.natAbs - digitCount x.den
  if (10 : ℚ) ^ e ≤ |x| then e else e - 1

/-- A result in the context. -/
def Context.round (c : Context) (x : ℚ) : Except Signal ℚ :=
  if x = 0 then .ok 0
  else
    let q := max (adjusted x) c.emin - (c.precision - 1 : ℤ)
    let rounded : ℚ := roundHalfEven (x / 10 ^ q) * 10 ^ q
    if rounded ≠ 0 ∧ c.emax < adjusted rounded then .error .overflow else .ok rounded

/-! ## Operations -/

namespace Decimal

def zero : Decimal := .finite 0

/-- `bool(x)`. -/
def isTruthy : Decimal → Bool
  | finite value => value ≠ 0
  | _ => true

def neg : Decimal → Decimal
  | finite value => finite (-value)
  | infinite negative => infinite (!negative)
  | x => x

def add (c : Context) : Decimal → Decimal → Except Signal Decimal
  | signalingNaN, _ => .error .invalidOperation
  | _, signalingNaN => .error .invalidOperation
  | quietNaN, _ => .ok quietNaN
  | _, quietNaN => .ok quietNaN
  | infinite a, infinite b => if a = b then .ok (infinite a) else .error .invalidOperation
  | infinite a, finite _ => .ok (infinite a)
  | finite _, infinite b => .ok (infinite b)
  | finite a, finite b => finite <$> c.round (a + b)

def sub (c : Context) (x y : Decimal) : Except Signal Decimal := x.add c y.neg

def isNegative : Decimal → Bool
  | finite value => value < 0
  | infinite negative => negative
  | _ => false

def mul (c : Context) : Decimal → Decimal → Except Signal Decimal
  | signalingNaN, _ => .error .invalidOperation
  | _, signalingNaN => .error .invalidOperation
  | quietNaN, _ => .ok quietNaN
  | _, quietNaN => .ok quietNaN
  | finite a, finite b => finite <$> c.round (a * b)
  | x, y =>
      if x.isTruthy && y.isTruthy then .ok (infinite (x.isNegative != y.isNegative))
      else .error .invalidOperation

def div (c : Context) : Decimal → Decimal → Except Signal Decimal
  | signalingNaN, _ => .error .invalidOperation
  | _, signalingNaN => .error .invalidOperation
  | quietNaN, _ => .ok quietNaN
  | _, quietNaN => .ok quietNaN
  | infinite _, infinite _ => .error .invalidOperation
  | infinite a, finite b => .ok (infinite (a != decide (b < 0)))
  | finite _, infinite _ => .ok zero
  | finite a, finite b =>
      if b = 0 then .error (if a = 0 then .invalidOperation else .divisionByZero)
      else finite <$> c.round (a / b)

/-- `x < y`; a comparison with a NaN is trapped. -/
def lt : Decimal → Decimal → Except Signal Bool
  | finite a, finite b => .ok (a < b)
  | infinite a, infinite b => .ok (a && !b)
  | infinite a, finite _ => .ok a
  | finite _, infinite b => .ok !b
  | _, _ => .error .invalidOperation

end Decimal

end ContextDecimal
