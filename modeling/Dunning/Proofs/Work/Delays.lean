import Dunning.Proofs.Number.Rounding
import Dunning.Work.Backoff

/-!
# Rests after failures are exact

The rest after a failure is computed with 53 significant bits, and the product of the base with the
growth can have twice as many. It is cut off at the longest delay though, and as long as both
delays are exact the cut hides every rounding: the rest is the one of unbounded arithmetic.

## Main definitions

* `BackoffPolicy.exactMillis` — the rest in unbounded arithmetic.

## Main results

* `BackoffPolicy.delays_follow_formula` — the rest that is computed is that one.
-/

namespace Dunning.BackoffPolicy

/-- The milliseconds of rest after a number of failures, in unbounded arithmetic. -/
def exactMillis (p : BackoffPolicy) (failures : Nat) : Nat :=
  match p.strategy with
  | .fixed => p.baseDelay.millis
  | .exponential => min (p.baseDelay.millis * 2 ^ min (failures - 1) 62) p.maxDelay.millis
  | .linear => min (p.baseDelay.millis * failures) p.maxDelay.millis

/-- A strategy that grows is cut off at the longest delay. -/
theorem exactMillis_le {p : BackoffPolicy} (hgrows : p.strategy ≠ .fixed) (failures : Nat) :
    p.exactMillis failures ≤ p.maxDelay.millis := by
  unfold exactMillis
  cases hstrategy : p.strategy with
  | fixed => exact absurd hstrategy hgrows
  | exponential => exact Nat.min_le_right _ _
  | linear => exact Nat.min_le_right _ _

theorem exactMillis_mono (p : BackoffPolicy) {m n : Nat} (h : m ≤ n) :
    p.exactMillis m ≤ p.exactMillis n := by
  unfold exactMillis
  cases p.strategy with
  | fixed => exact Nat.le_refl _
  | exponential =>
      have hpower : 2 ^ min (m - 1) 62 ≤ 2 ^ min (n - 1) 62 :=
        Nat.pow_le_pow_right (by omega) (by omega)
      have hproduct := Nat.mul_le_mul_left p.baseDelay.millis hpower
      simp only
      omega
  | linear =>
      have hproduct := Nat.mul_le_mul_left p.baseDelay.millis h
      simp only
      omega

/-- Where both delays are exact, so is every rest. -/
theorem exactMillis_lt {p : BackoffPolicy}
    (hbase : p.baseDelay.millis < Nat.pow 2 Number.precision)
    (hmax : p.maxDelay.millis < Nat.pow 2 Number.precision) (failures : Nat) :
    p.exactMillis failures < Nat.pow 2 Number.precision := by
  by_cases hfixed : p.strategy = .fixed
  · rwa [exactMillis, hfixed]
  · exact Nat.lt_of_le_of_lt (exactMillis_le hfixed failures) hmax

/-- **After a failure the computed milliseconds are the exact ones.** The product may be rounded,
but not where the longest delay leaves it as it is. -/
theorem delayMillis_eq {p : BackoffPolicy}
    (hbase : p.baseDelay.millis < Nat.pow 2 Number.precision)
    (hmax : p.maxDelay.millis < Nat.pow 2 Number.precision) {failures : UInt32}
    (hfailed : failures ≠ 0) : p.delayMillis failures = p.exactMillis failures.toNat := by
  have hlongest : p.exactMillis failures.toNat ≤ longestMillis :=
    Nat.le_of_lt (Nat.lt_trans (exactMillis_lt hbase hmax _) (by decide))
  have hdelay : p.delayMillis failures = min (p.exactMillis failures.toNat) longestMillis := by
    unfold delayMillis exactMillis
    rw [if_neg hfailed, Number.toPrecision_of_lt hbase]
    cases p.strategy with
    | fixed => rfl
    | exponential => simp only [Number.min_toPrecision _ hmax, Nat.pow_eq]
    | linear => simp only [Number.min_toPrecision _ hmax]
  rw [hdelay, Nat.min_eq_left hlongest]

/-- A rest below `2 ^ 53` milliseconds is as long as its milliseconds say. -/
theorem nanos_ofMillis {millis : Nat} (h : millis < Nat.pow 2 Number.precision) :
    (Span.ofMillis millis).nanos = nanosPerMilli * millis := by
  have hprecision : Nat.pow 2 Number.precision = 9007199254740992 := by decide
  have hproduct : nanosPerMilli * millis = millis * 1000000 := Nat.mul_comm _ _
  rw [hproduct]
  exact Nat.min_eq_left (by omega)

/-- **Rests follow the formula of their strategy.** There is none before the first failure; after it
the rest is the one of unbounded arithmetic. A rest that grows never shrinks from one failure to the
next and is never longer than the longest delay. -/
theorem delays_follow_formula {p : BackoffPolicy}
    (hbase : p.baseDelay.millis < Nat.pow 2 Number.precision)
    (hmax : p.maxDelay.millis < Nat.pow 2 Number.precision) :
    (p.delay 0).nanos = 0 ∧
    (∀ failures ≠ 0,
      (p.delay failures).nanos = nanosPerMilli * p.exactMillis failures.toNat) ∧
    (p.strategy ≠ .fixed →
      (∀ failures, (p.delay failures).nanos ≤ nanosPerMilli * p.maxDelay.millis) ∧
      ∀ failures more, failures ≤ more → (p.delay failures).nanos ≤ (p.delay more).nanos) := by
  have hnone : (p.delay 0).nanos = 0 := by
    rw [delay, delayMillis, if_pos rfl]
    rfl
  have hexact : ∀ failures ≠ 0,
      (p.delay failures).nanos = nanosPerMilli * p.exactMillis failures.toNat := by
    intro failures hfailed
    rw [delay, delayMillis_eq hbase hmax hfailed,
      nanos_ofMillis (exactMillis_lt hbase hmax failures.toNat)]
  refine ⟨hnone, hexact, fun hgrows => ⟨fun failures => ?_, fun failures more hle => ?_⟩⟩
  · by_cases hfailed : failures = 0
    · rw [hfailed, hnone]
      exact Nat.zero_le _
    · rw [hexact failures hfailed]
      exact Nat.mul_le_mul_left _ (exactMillis_le hgrows _)
  · by_cases hfailed : failures = 0
    · rw [hfailed, hnone]
      exact Nat.zero_le _
    · have hmore : more ≠ 0 := by
        rintro rfl
        exact hfailed (UInt32.le_zero_iff.mp hle)
      rw [hexact failures hfailed, hexact more hmore]
      exact Nat.mul_le_mul_left _ (p.exactMillis_mono (UInt32.le_iff_toNat_le.mp hle))

/-- A policy whose third rest is computed from a product that does not fit into 53 bits. -/
def edgePolicy : BackoffPolicy where
  baseDelay := Span.ofMillis 4503599627370497
  maxDelay := Span.ofMillis 9007199254740991
  strategy := .linear

/-- The product is rounded, the rest is not. -/
theorem delays_follow_formula_rounded :
    edgePolicy.baseDelay.millis < Nat.pow 2 Number.precision ∧
    edgePolicy.maxDelay.millis < Nat.pow 2 Number.precision ∧
    Number.toPrecision (edgePolicy.baseDelay.millis * 3) ≠ edgePolicy.baseDelay.millis * 3 ∧
    (edgePolicy.delay 1).nanos = nanosPerMilli * 4503599627370497 ∧
    (edgePolicy.delay 3).nanos = nanosPerMilli * 9007199254740991 ∧
    (edgePolicy.delay 3).nanos ≤ (edgePolicy.delay 4294967295).nanos := by
  have hbase : edgePolicy.baseDelay.millis < Nat.pow 2 Number.precision := by decide
  have hmax : edgePolicy.maxDelay.millis < Nat.pow 2 Number.precision := by decide
  obtain ⟨-, hexact, hgrowing⟩ := delays_follow_formula hbase hmax
  have hmono := (hgrowing (by decide)).2
  exact ⟨hbase, hmax, by decide, hexact 1 (by decide), hexact 3 (by decide),
    hmono 3 4294967295 (by decide)⟩

end Dunning.BackoffPolicy
