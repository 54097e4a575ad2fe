import Dunning.Number.Binary

/-!
# Numbers with a power of ten

A number `digits · 10 ^ power` is read in steps, each with one rounding to binary precision: the
digits are rounded, the power of ten is rounded, and the first is multiplied or divided by the
second. Powers below `10 ^ -308` are divided out in parts. The steps are the meaning of the number:
with more than fifteen digits or a power beyond `10 ^ 22` it can be a neighbour of the binary value
that is nearest to the digits.

## Main definitions

* `Binary.mul?`, `Binary.div?` — rounded products and quotients.
* `Binary.ofScientific?` — the value of digits with a power of ten.
-/

namespace Dunning.Number.Binary

/-- The largest power of ten in the range of binary values. -/
def largestPower : Nat := 308

/-- The value nearest to `num · 2 ^ exponent / den`. -/
def ofScaled? (num : Nat) (exponent : Int) (den : Nat) : Option Binary :=
  if 0 ≤ exponent then ofRatio (num * Nat.pow 2 exponent.toNat) den
  else ofRatio num (den * Nat.pow 2 (-exponent).toNat)

/-- A product, rounded. -/
def mul? (a b : Binary) : Option Binary :=
  ofScaled? (a.mantissa * b.mantissa) (a.exponent + b.exponent) 1

/-- A quotient, rounded. -/
def div? (a b : Binary) : Option Binary :=
  ofScaled? a.mantissa (a.exponent - b.exponent) b.mantissa

/-- A power of ten, rounded. -/
def powerOfTen? (power : Nat) : Option Binary :=
  ofRatio (Nat.pow 10 power) 1

/-- A value divided by a power of ten in the range. -/
def divTen? (b : Binary) (power : Nat) : Option Binary :=
  (powerOfTen? power).bind b.div?

/-- A value divided a number of times by the largest power of ten. Once it is zero it stays so. -/
def divLargest? : Nat → Binary → Option Binary
  | 0, b => some b
  | times + 1, b =>
    if b.mantissa = 0 then some b else (b.divTen? largestPower).bind (divLargest? times)

/-- A value divided by a positive power of ten, the largest power at a time and the rest last. -/
def shrink? (b : Binary) (power : Nat) : Option Binary :=
  (divLargest? ((power - 1) / largestPower) b).bind fun part =>
    part.divTen? ((power - 1) % largestPower + 1)

/-- A value times a power of ten, or `none` when it is out of range. -/
def scale? (b : Binary) (power : Int) : Option Binary :=
  if b.mantissa = 0 then some b
  else if power < 0 then b.shrink? (-power).toNat
  else if power ≤ largestPower then (powerOfTen? power.toNat).bind b.mul?
  else none

/-- The value of `digits · 10 ^ power`, or `none` when it is out of range. -/
def ofScientific? (digits : Nat) (power : Int) : Option Binary :=
  (ofRatio digits 1).bind fun b => b.scale? power

end Dunning.Number.Binary
