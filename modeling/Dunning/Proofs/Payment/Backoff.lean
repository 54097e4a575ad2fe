import Dunning.Payment.Policy
import Mathlib.Algebra.Group.Nat.Defs

/-!
# Delays before payment retries are exact

The delay before a retry is a power, a product and a cut, each of the first two brought back into 64
bits where it leaves them. What is brought back is at least as long as the longest delay, so the cut
hides it: a power that is too large leads to a product of zero or to one beyond the cut.

## Main definitions

* `RetryBackoff.exactMillis` — the delay in unbounded arithmetic.

## Main results

* `RetryBackoff.delayMillis_eq` — what is computed is that delay.
* `RetryBackoff.backoff_follows_formula` — it can be expressed, grows and stays below the cut.
-/

namespace Dunning

namespace Offset

/-- The whole milliseconds of a duration that is not negative are counted down. -/
theorem millis_eq {d : Offset} (h : 0 ≤ d.nanos) : d.millis = d.nanos / 1000000 :=
  Int.tdiv_eq_ediv_of_nonneg h

theorem millis_nonneg {d : Offset} (h : 0 ≤ d.nanos) : 0 ≤ d.millis := by
  rw [millis_eq h]
  omega

theorem millis_le {d : Offset} (h : 0 ≤ d.nanos) : d.millis ≤ RetryBackoff.ceiling := by
  have hhigh := d.le_high
  rw [millis_eq h, RetryBackoff.ceiling]
  omega

/-- Milliseconds that are not negative and fit into 63 bits can be expressed. -/
theorem ofMillis?_eq {millis : Int} (hlow : 0 ≤ millis) (hhigh : millis ≤ RetryBackoff.ceiling) :
    ∃ d, ofMillis? millis = some d ∧ d.nanos = millis * 1000000 := by
  rw [RetryBackoff.ceiling] at hhigh
  refine ⟨⟨millis * 1000000, by omega, by omega⟩, ?_, rfl⟩
  exact dif_pos ⟨by omega, by omega⟩

end Offset

namespace RetryBackoff

/-- The milliseconds before a retry, in unbounded arithmetic. -/
def exactMillis (p : RetryBackoff) (retry : Nat) : Int :=
  min (p.start.millis * (max 1 p.multiplier.toNat ^ (max retry 1 - 1) : Nat)) p.maxDelay.millis

/-- The power of a positive base is cut at the ceiling and nowhere else. -/
theorem power_eq {base : Nat} (hbase : 0 < base) (exponent : Nat) :
    power base exponent = min (base ^ exponent) ceiling.toNat := by
  unfold power
  split
  · rename_i hone
    rw [hone, Nat.one_pow]
    decide
  · split
    · rename_i hlarge
      have hpower : 2 ^ 64 ≤ base ^ exponent :=
        calc 2 ^ 64 ≤ 2 ^ exponent := Nat.pow_le_pow_right (by omega) hlarge
          _ ≤ base ^ exponent := Nat.pow_le_pow_left (by omega) exponent
      have hceiling : ceiling.toNat ≤ 2 ^ 64 := by decide
      omega
    · rfl

/-- What is not negative saturates at the ceiling, and no cut lies above that. -/
theorem min_saturate {millis longest : Int} (hmillis : 0 ≤ millis) (hlongest : longest ≤ ceiling) :
    min (saturate millis) longest = min millis longest := by
  unfold saturate
  rw [if_neg (by omega)]
  split <;> omega

/-- **The cut hides what saturates.** A delay that starts at nothing stays there; any other is at
the ceiling as soon as its factor is. -/
theorem min_saturate_mul {start longest : Int} (hstart : 0 ≤ start) (hlongest : longest ≤ ceiling)
    (factor : Nat) :
    min (saturate (start * (min factor ceiling.toNat : Nat))) longest =
      min (start * factor) longest := by
  have hceiling : (ceiling.toNat : Int) = ceiling := by decide
  rw [min_saturate (Int.mul_nonneg hstart (Int.natCast_nonneg _)) hlongest]
  rcases Nat.le_total factor ceiling.toNat with hle | hge
  · rw [Nat.min_eq_left hle]
  · rw [Nat.min_eq_right hge, hceiling]
    rcases Int.lt_or_eq_of_le hstart with hpos | hzero
    · have hcut : 1 * ceiling ≤ start * ceiling := Int.mul_le_mul_of_nonneg_right hpos (by decide)
      have hfactor : start * ceiling ≤ start * factor :=
        Int.mul_le_mul_of_nonneg_left (by omega) hstart
      rw [Int.min_eq_right (by omega), Int.min_eq_right (by omega)]
    · rw [← hzero, Int.zero_mul, Int.zero_mul]

variable {p : RetryBackoff}

/-- **What is computed is the exact delay.** -/
theorem delayMillis_eq (hstart : 0 ≤ p.start.nanos) (hmax : 0 ≤ p.maxDelay.nanos)
    (retry : UInt32) : p.delayMillis retry = p.exactMillis retry.toNat := by
  have hbase : 0 < max p.multiplier.toNat 1 := by omega
  have hexponent : retry.toNat - 1 = max retry.toNat 1 - 1 := by omega
  unfold delayMillis exactMillis
  rw [power_eq hbase, min_saturate_mul (Offset.millis_nonneg hstart) (Offset.millis_le hmax),
    Nat.max_comm 1, hexponent]

theorem exactMillis_nonneg (hstart : 0 ≤ p.start.nanos) (hmax : 0 ≤ p.maxDelay.nanos)
    (retry : Nat) : 0 ≤ p.exactMillis retry :=
  Int.le_min.mpr ⟨Int.mul_nonneg (Offset.millis_nonneg hstart) (Int.natCast_nonneg _),
    Offset.millis_nonneg hmax⟩

theorem exactMillis_le (p : RetryBackoff) (retry : Nat) : p.exactMillis retry ≤ p.maxDelay.millis :=
  Int.min_le_right _ _

/-- A factor of one or more does not shrink when its exponent grows. -/
theorem exactMillis_mono (hstart : 0 ≤ p.start.nanos) {m n : Nat} (h : m ≤ n) :
    p.exactMillis m ≤ p.exactMillis n := by
  have hpower : max 1 p.multiplier.toNat ^ (max m 1 - 1) ≤
      max 1 p.multiplier.toNat ^ (max n 1 - 1) := Nat.pow_le_pow_right (by omega) (by omega)
  have hproduct := Int.mul_le_mul_of_nonneg_left (Int.ofNat_le.mpr hpower)
    (Offset.millis_nonneg hstart)
  unfold exactMillis
  omega

/-- **Delays before retries follow the formula.** The delay can be expressed, it is the start times
as many factors as there were retries before, up to the longest delay, and it never shrinks from one
retry to the next. -/
theorem backoff_follows_formula (hstart : 0 ≤ p.start.nanos) (hmax : 0 ≤ p.maxDelay.nanos) :
    (∀ retry, ∃ delay, p.delay? retry = some delay ∧
      delay.nanos = p.exactMillis retry.toNat * 1000000 ∧ delay.nanos ≤ p.maxDelay.nanos) ∧
    ∀ retry later, retry ≤ later → ∀ delay ∈ p.delay? retry, ∀ next ∈ p.delay? later,
      delay.nanos ≤ next.nanos := by
  have hexact : ∀ retry, ∃ delay, p.delay? retry = some delay ∧
      delay.nanos = p.exactMillis retry.toNat * 1000000 := by
    intro retry
    unfold delay?
    rw [delayMillis_eq hstart hmax]
    exact Offset.ofMillis?_eq (exactMillis_nonneg hstart hmax _)
      (Int.le_trans (p.exactMillis_le _) (Offset.millis_le hmax))
  refine ⟨fun retry => ?_, fun retry later hle delay hdelay next hnext => ?_⟩
  · obtain ⟨delay, hdelay, hnanos⟩ := hexact retry
    have hcut := p.exactMillis_le retry.toNat
    rw [Offset.millis_eq hmax] at hcut
    exact ⟨delay, hdelay, hnanos, by omega⟩
  · obtain ⟨_, hretry, hnanos⟩ := hexact retry
    obtain ⟨_, hlater, hmore⟩ := hexact later
    obtain rfl := Option.some.inj (hretry.symm.trans hdelay)
    obtain rfl := Option.some.inj (hlater.symm.trans hnext)
    have hmono := exactMillis_mono hstart (UInt32.le_iff_toNat_le.mp hle)
    omega

/-- Two seconds, tripled up to an hour. -/
def hourBackoff : RetryBackoff where
  start := ⟨2000000000, by decide, by decide⟩
  multiplier := 3
  maxDelay := Offset.minutes 60

/-- The eighth delay is cut off, and so are all after it, far beyond the range of the power. -/
theorem backoff_follows_formula_tripled :
    0 ≤ hourBackoff.start.nanos ∧ 0 ≤ hourBackoff.maxDelay.nanos ∧
      (∃ delay, hourBackoff.delay? 3 = some delay ∧ delay.nanos = 18000000000) ∧
      ∃ delay, hourBackoff.delay? 4294967295 = some delay ∧ delay.nanos = 3600000000000 := by
  have hstart : 0 ≤ hourBackoff.start.nanos := by decide
  have hmax : 0 ≤ hourBackoff.maxDelay.nanos := by decide
  obtain ⟨hexact, hmono⟩ := backoff_follows_formula hstart hmax
  obtain ⟨third, hthird, hnanos, -⟩ := hexact 3
  obtain ⟨eighth, heighth, hcut, -⟩ := hexact 8
  obtain ⟨last, hlast, -, hle⟩ := hexact 4294967295
  have hge := hmono 8 4294967295 (by decide) eighth heighth last hlast
  have hthree : hourBackoff.exactMillis (3 : UInt32).toNat = 18000 := by decide
  have height : hourBackoff.exactMillis (8 : UInt32).toNat = 3600000 := by decide
  have hhour : hourBackoff.maxDelay.nanos = 3600000000000 := by decide
  exact ⟨hstart, hmax, ⟨third, hthird, by omega⟩, last, hlast, by omega⟩

end RetryBackoff

end Dunning
