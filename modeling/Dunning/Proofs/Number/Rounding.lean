import Dunning.Number.Binary
import Mathlib.Algebra.Group.Nat.Defs
import Mathlib.Tactic.SplitIfs

/-!
# Rounding keeps the order

Rounding to 53 significant bits moves a number by less than the distance to the next power of two,
so it never leads past a number that is kept. A number that is rounded and then cut off at an exact
one is therefore the number cut off: above the cut the rounding cannot fall below it, and up to the
cut there is nothing to round.

## Main results

* `toPrecision_mono` — rounding keeps the order.
* `min_toPrecision` — rounding does not show below an exact cut.
-/

namespace Dunning.Number

/-! ## Quotients -/

theorem div_le_roundDiv (num den : Nat) : num / den ≤ roundDiv num den := by
  simp only [roundDiv]
  split_ifs <;> omega

theorem roundDiv_le (num den : Nat) : roundDiv num den ≤ num / den + 1 := by
  simp only [roundDiv]
  split_ifs <;> omega

/-- Where the quotients are equal, the rest decides which way each number is rounded. -/
theorem roundDiv_mono {a b : Nat} (h : a ≤ b) (den : Nat) : roundDiv a den ≤ roundDiv b den := by
  have hquotient : a / den ≤ b / den := Nat.div_le_div_right h
  rcases Nat.lt_or_eq_of_le hquotient with hlt | heq
  · calc roundDiv a den ≤ a / den + 1 := roundDiv_le a den
      _ ≤ b / den := hlt
      _ ≤ roundDiv b den := div_le_roundDiv b den
  · have hrest : a % den ≤ b % den := by
      have ha := Nat.div_add_mod a den
      have hb := Nat.div_add_mod b den
      rw [heq] at ha
      omega
    simp only [roundDiv, heq]
    split_ifs <;> omega

/-! ## Whole numbers -/

/-- Bits in excess of the precision are the lowest ones. -/
theorem log2_of_excessBits_pos {n : Nat} (h : 0 < excessBits n) :
    n.log2 = precision - 1 + excessBits n := by
  unfold excessBits precision at *
  omega

theorem excessBits_mono {a b : Nat} (h : a ≤ b) : excessBits a ≤ excessBits b := by
  have hlog : a.log2 ≤ b.log2 := by
    by_cases ha : a = 0
    · subst ha
      exact Nat.zero_le _
    · exact (Nat.le_log2 (by omega)).mpr (Nat.le_trans (Nat.log2_self_le ha) h)
  unfold excessBits
  omega

/-- Without its excess bits a number is below `2 ^ 53`. -/
theorem div_excessBits_lt (n : Nat) : n / Nat.pow 2 (excessBits n) < Nat.pow 2 precision := by
  have hbits : n.log2 + 1 ≤ excessBits n + precision := by
    unfold excessBits
    omega
  refine Nat.div_lt_of_lt_mul ?_
  calc n < 2 ^ (n.log2 + 1) := Nat.lt_log2_self
    _ ≤ 2 ^ (excessBits n + precision) := Nat.pow_le_pow_right (by omega) hbits
    _ = Nat.pow 2 (excessBits n) * Nat.pow 2 precision := Nat.pow_add 2 _ _

theorem toPrecision_le (n : Nat) : toPrecision n ≤ 2 ^ (precision + excessBits n) := by
  have hround : roundDiv n (Nat.pow 2 (excessBits n)) ≤ Nat.pow 2 precision :=
    Nat.le_trans (roundDiv_le _ _) (div_excessBits_lt n)
  calc toPrecision n ≤ Nat.pow 2 precision * Nat.pow 2 (excessBits n) :=
        Nat.mul_le_mul_right _ hround
    _ = 2 ^ (precision + excessBits n) := (Nat.pow_add 2 _ _).symm

/-- A number with bits in excess is not rounded below the power of two of its leading bit. -/
theorem le_toPrecision {n : Nat} (h : 0 < excessBits n) :
    2 ^ (precision - 1 + excessBits n) ≤ toPrecision n := by
  have hne : n ≠ 0 := by
    rintro rfl
    exact absurd h (by decide)
  have hlead : 2 ^ (precision - 1) * 2 ^ excessBits n ≤ n := by
    rw [← Nat.pow_add, ← log2_of_excessBits_pos h]
    exact Nat.log2_self_le hne
  have hquotient : 2 ^ (precision - 1) ≤ n / Nat.pow 2 (excessBits n) :=
    (Nat.le_div_iff_mul_le (Nat.two_pow_pos _)).mpr hlead
  calc 2 ^ (precision - 1 + excessBits n) = 2 ^ (precision - 1) * 2 ^ excessBits n :=
        Nat.pow_add 2 _ _
    _ ≤ toPrecision n := Nat.mul_le_mul_right _ (Nat.le_trans hquotient (div_le_roundDiv _ _))

/-- **Rounding keeps the order.** -/
theorem toPrecision_mono {a b : Nat} (h : a ≤ b) : toPrecision a ≤ toPrecision b := by
  rcases Nat.lt_or_eq_of_le (excessBits_mono h) with hlt | heq
  · -- A power of two lies between them: the smaller number cannot be rounded past it.
    have hpower : precision + excessBits a ≤ precision - 1 + excessBits b := by
      unfold precision
      omega
    calc toPrecision a ≤ 2 ^ (precision + excessBits a) := toPrecision_le a
      _ ≤ 2 ^ (precision - 1 + excessBits b) := Nat.pow_le_pow_right (by omega) hpower
      _ ≤ toPrecision b := le_toPrecision (by omega)
  · unfold toPrecision
    rw [heq]
    exact Nat.mul_le_mul_right _ (roundDiv_mono h _)

/-- **A cut below `2 ^ 53` hides the rounding.** -/
theorem min_toPrecision (n : Nat) {cut : Nat} (h : cut < Nat.pow 2 precision) :
    min (toPrecision n) (toPrecision cut) = min n cut := by
  have hcut := toPrecision_of_lt h
  rcases Nat.le_total n cut with hle | hge
  · rw [hcut, toPrecision_of_lt (Nat.lt_of_le_of_lt hle h)]
  · have habove : cut ≤ toPrecision n := hcut ▸ toPrecision_mono hge
    rw [hcut, Nat.min_eq_right habove, Nat.min_eq_right hge]

end Dunning.Number
