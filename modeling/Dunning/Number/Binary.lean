/-!
# Rounding to binary precision

Delays of the work queue are computed with 53 significant bits, and fractional numbers of a document
are kept with the same precision. Every operation is exact arithmetic on natural numbers followed by
one rounding to the nearest value with so many bits, a half going to the even neighbour.

## Main definitions

* `roundDiv` — a quotient rounded to the nearest whole number.
* `toPrecision` — a whole number rounded to 53 significant bits.
* `Binary.ofRatio` — the nearest value `m · 2 ^ q` with `m < 2 ^ 53` of a positive fraction.

## Main results

* `toPrecision_of_lt` — numbers below `2 ^ 53` are kept.
-/

namespace Dunning.Number

/-- The number of significant bits. -/
def precision : Nat := 53

/-- `num / den` rounded to the nearest whole number, a half to the even neighbour. -/
def roundDiv (num den : Nat) : Nat :=
  let quotient := num / den
  let rest := num % den
  if 2 * rest < den then quotient
  else if den < 2 * rest then quotient + 1
  else if quotient % 2 = 0 then quotient else quotient + 1

/-- The exponent that a whole number above the precision is shifted by. -/
def excessBits (n : Nat) : Nat :=
  n.log2 + 1 - precision

/-- A whole number rounded to 53 significant bits. -/
def toPrecision (n : Nat) : Nat :=
  roundDiv n (Nat.pow 2 (excessBits n)) * Nat.pow 2 (excessBits n)

theorem roundDiv_one (n : Nat) : roundDiv n 1 = n := by
  simp [roundDiv, Nat.mod_one]

/-- Numbers below `2 ^ 53` are exact. -/
theorem toPrecision_of_lt {n : Nat} (h : n < Nat.pow 2 precision) : toPrecision n = n := by
  have hzero : excessBits n = 0 := by
    unfold excessBits precision
    by_cases hn : n = 0
    · subst hn
      decide
    · have : n.log2 < 53 := (Nat.log2_lt hn).mpr h
      omega
  unfold toPrecision
  rw [hzero]
  exact (Nat.mul_one _).trans (roundDiv_one n)

/-- A value `mantissa · 2 ^ exponent`. -/
structure Binary where
  mantissa : Nat
  exponent : Int
  deriving Repr, DecidableEq

/-- The smallest exponent, that of the values nearest to zero. -/
def minExponent : Int := -1074

/-- The largest exponent of a value with 53 bits. -/
def maxExponent : Int := 971

/-- `num / (den · 2 ^ exponent)` rounded to a whole number. -/
def scaledDiv (num den : Nat) (exponent : Int) : Nat :=
  if 0 ≤ exponent then roundDiv num (den * Nat.pow 2 exponent.toNat)
  else roundDiv (num * Nat.pow 2 (-exponent).toNat) den

/-- The nearest value with 53 bits of the fraction `num / den`, or `none` when it is out of range.
-/
def Binary.ofRatio (num den : Nat) : Option Binary :=
  if num = 0 then some ⟨0, minExponent⟩
  else
    let guess : Int := (num.log2 : Int) - (den.log2 : Int) - 53
    let low := max guess minExponent
    let mantissa := scaledDiv num den low
    let (mantissa, exponent) :=
      if mantissa < Nat.pow 2 precision then (mantissa, low)
      else
        let next := scaledDiv num den (low + 1)
        if next < Nat.pow 2 precision then (next, low + 1) else (next / 2, low + 2)
    if exponent ≤ maxExponent then some ⟨mantissa, exponent⟩ else none

end Dunning.Number
