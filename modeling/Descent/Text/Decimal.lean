import Descent.Text.Digit

/-! Decimal numbers and the range of doubles.

A decimal number is kept as a significand of 64 bits and a power of ten. Digits
that do not fit are lost: those before the point count towards the power, those
after it for nothing. As a double it is the product of the significand and the
power, each rounded to the precision of doubles first; `exceedsDouble` says when
that product is no finite double. -/
namespace Descent.Text

/-- The number `significand * 10 ^ exponent`. -/
structure Decimal where
  significand : Nat := 0
  exponent : Int := 0
deriving BEq, DecidableEq, Repr

namespace Decimal

/-- The significand with one more digit, if it fits. -/
def append? (d : Decimal) (digit : Char) : Option Nat :=
  let n := 10 * d.significand + decimalValue [digit]
  if n < Nat.pow 2 64 then some n else none

/-- One more digit before the point. After one that did not fit none is kept. -/
def addWhole (d : Decimal) (digit : Char) : Decimal :=
  match d.append? digit with
  | some n => if d.exponent = 0 then ⟨n, 0⟩ else ⟨d.significand, d.exponent + 1⟩
  | none => ⟨d.significand, d.exponent + 1⟩

/-- More digits, after the point. -/
def addFraction (d : Decimal) : Text → Decimal
  | [] => d
  | digit :: more =>
    match d.append? digit with
    | some n => addFraction ⟨n, d.exponent - 1⟩ more
    | none => d

/-- The number times a power of ten. -/
def scale (d : Decimal) (power : Int) : Decimal := ⟨d.significand, d.exponent + power⟩

/-- The nearest number of 53 binary digits, and of two the even one. -/
def roundToDouble (n : Nat) : Nat :=
  let unit := Nat.pow 2 (n.log2 - 52)
  let (quotient, rest) := (n / unit, n % unit)
  if unit < 2 * rest || (2 * rest = unit && quotient % 2 = 1) then (quotient + 1) * unit
  else quotient * unit

/-- The least integer that is rounded to no finite double: half a step above the greatest. -/
def doubleBound : Nat := Nat.pow 2 1024 - Nat.pow 2 970

/-- The greatest power of ten that is a double. -/
def maxPower : Nat := 308

/-- The number is too large for a double. -/
def exceedsDouble (d : Decimal) : Bool :=
  d.significand ≠ 0 && 0 ≤ d.exponent &&
    (maxPower < d.exponent ||
      doubleBound ≤ roundToDouble d.significand * roundToDouble (Nat.pow 10 d.exponent.toNat))

end Decimal

end Descent.Text
