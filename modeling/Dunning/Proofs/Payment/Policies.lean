import Dunning.Proofs.Payment.Backoff
import Mathlib.Data.List.Chain

/-!
# The built-in policies are safe and come to an end

A policy is asked about every failed attempt, whatever its number, its failure and its time. The
built-in ones answer all of them: each has a rest for some attempts, always one that can be
expressed, and either the calendar has the end of that rest or the payment is given up. The two that
count attempts count them differently, but beyond the longer of the two there is no rest whatever the
failures were, and so a payment runs out of attempts.

## Main definitions

* `DaySchedule.rest?`, `RetryBackoff.rest?`, `InvoicePolicy.rest?` — the rest after a failed attempt.
* `RetryDecision.Keeps`, `RetryPolicy.KeepsTo` — a rest says what is tried again, and when.
* `RetryPolicy.LeadsTo` — an attempt is tried again, and the next one fails too.

## Main results

* `DaySchedule.keepsTo`, `RetryBackoff.keepsTo`, `InvoicePolicy.keepsTo` — the built-in policies keep
  to their rests.
* `RetryPolicy.length_le_of_isChain` — what a bound on the numbers says about repeated attempts.
* `InvoicePolicy.builtin_policies_end` — safety and the end of all retries.
-/

namespace Dunning

/-- A number of days. The longest schedule entry is far below the longest duration. -/
def Offset.ofDays (days : UInt32) : Offset :=
  ⟨(days.toNat * nanosPerDay : Nat), by omega, by
    have hdays := days.toNat_lt
    simp only [nanosPerDay, nanosPerSecond]
    omega⟩

/-! ## Rests -/

/-- The rest after a failed attempt: its own entry of the schedule. -/
def DaySchedule.rest? (p : DaySchedule) (f : FailedAttempt) : Option Offset :=
  p.days[f.number.toNat - 1]?.map Offset.ofDays

/-- The rest after a failed attempt, as long as there are retries left. -/
def RetryBackoff.rest? (p : RetryBackoff) (f : FailedAttempt) : Option Offset :=
  if p.maxRetries < f.number then none else p.delay? f.number

/-- The rest after a failed attempt by the kind of its failure. -/
def InvoicePolicy.rest? (p : InvoicePolicy) (f : FailedAttempt) : Option Offset :=
  match f.failure with
  | .declined => p.declines.rest? f
  | .gatewayError => p.gatewayErrors.rest? f
  | .nonRetryable => none

/-- Whether a decision is to try again when a rest after the failure is over, for the same amount, or
to give up because there is no rest or the calendar ends before it. -/
inductive RetryDecision.Keeps (failedAt : Instant) (rest? : Option Offset) : RetryDecision → Prop where
  | retryAt {rest : Offset} {due : Instant} : rest? = some rest →
      failedAt.plus? rest.nanos = some due → Keeps failedAt rest? (.retryAt due none)
  | abort {reason : String} : (∀ rest ∈ rest?, failedAt.plus? rest.nanos = none) →
      Keeps failedAt rest? (.abort reason)

theorem RetryDecision.keeps_retryAfter (failedAt : Instant) (rest : Offset) :
    (retryAfter failedAt rest.nanos).Keeps failedAt (some rest) := by
  unfold retryAfter
  cases hplus : failedAt.plus? rest.nanos with
  | none =>
      refine .abort ?_
      rintro _ ⟨⟩
      exact hplus
  | some due => exact .retryAt rfl hplus

namespace RetryPolicy

/-- Whether a policy answers every failed attempt and keeps to its rest. -/
def KeepsTo (p : RetryPolicy) (rest? : FailedAttempt → Option Offset) : Prop :=
  ∀ f, ∃ d, p.decide f = some d ∧ d.Keeps f.failedAt (rest? f)

/-- Whether a policy answers every failed attempt, and either gives the payment up or tries again for
the same amount and not before the failure. -/
def Safe (p : RetryPolicy) : Prop :=
  ∀ f, (∃ reason, p.decide f = some (.abort reason)) ∨
    ∃ due, p.decide f = some (.retryAt due none) ∧ f.failedAt ≤ due

/-- Whether a policy gives a payment up after every attempt with a number above a bound. -/
def EndsAfter (p : RetryPolicy) (bound : Nat) : Prop :=
  ∀ f : FailedAttempt, bound < f.number.toNat → ∃ reason, p.decide f = some (.abort reason)

/-- Whether a failed attempt is tried again and followed by another that failed. -/
def LeadsTo (p : RetryPolicy) (f g : FailedAttempt) : Prop :=
  (∃ due adjusted, p.decide f = some (.retryAt due adjusted)) ∧
    g.number.toNat = f.number.toNat + 1

variable {p : RetryPolicy} {rest? : FailedAttempt → Option Offset}

/-- What keeps to rests that are not negative is safe. -/
theorem KeepsTo.safe (keeps : p.KeepsTo rest?)
    (hnonneg : ∀ f, ∀ rest ∈ rest? f, 0 ≤ rest.nanos) : p.Safe := by
  intro f
  obtain ⟨d, hdecide, hkeeps⟩ := keeps f
  cases hkeeps with
  | @retryAt rest due hrest hplus =>
      exact .inr ⟨due, hdecide, Instant.le_of_plus? (hnonneg f rest hrest) hplus⟩
  | abort => exact .inl ⟨_, hdecide⟩

/-- What has no rest above a bound ends there. -/
theorem KeepsTo.endsAfter (keeps : p.KeepsTo rest?) {bound : Nat}
    (hnone : ∀ f, bound < f.number.toNat → rest? f = none) : p.EndsAfter bound := by
  intro f hlt
  obtain ⟨d, hdecide, hkeeps⟩ := keeps f
  cases hkeeps with
  | retryAt hrest =>
      rw [hnone f hlt] at hrest
      cases hrest
  | abort => exact ⟨_, hdecide⟩

/-- **Attempts run out.** When a policy ends after a bound, an attempt is followed by as many others as
there are numbers from its own to the one after the bound, whatever the failures. -/
theorem length_le_of_isChain {bound : Nat} (ends : p.EndsAfter bound) {f : FailedAttempt}
    {later : List FailedAttempt} (chain : (f :: later).IsChain p.LeadsTo) :
    later.length ≤ bound + 1 - f.number.toNat := by
  induction later generalizing f with
  | nil => exact Nat.zero_le _
  | cons g rest ih =>
      obtain ⟨⟨⟨due, adjusted, hretry⟩, hnext⟩, hrest⟩ := List.isChain_cons_cons.mp chain
      have hbound : f.number.toNat ≤ bound := by
        by_contra hover
        obtain ⟨reason, habort⟩ := ends f (by omega)
        rw [hretry] at habort
        cases habort
      have hlength := ih hrest
      rw [List.length_cons]
      omega

end RetryPolicy

/-! ## The built-in policies -/

namespace DaySchedule

theorem keepsTo (p : DaySchedule) : p.policy.KeepsTo p.rest? := by
  intro f
  refine ⟨p.decide f, rfl, ?_⟩
  unfold decide rest?
  cases p.days[f.number.toNat - 1]? with
  | none => exact .abort fun _ hrest => nomatch hrest
  | some days => exact RetryDecision.keeps_retryAfter _ (Offset.ofDays days)

theorem rest?_nonneg {p : DaySchedule} {f : FailedAttempt} : ∀ rest ∈ p.rest? f, 0 ≤ rest.nanos := by
  intro rest hrest
  obtain ⟨days, -, rfl⟩ := Option.map_eq_some_iff.mp hrest
  exact Int.natCast_nonneg _

/-- Entries of a schedule are numbered from one. -/
theorem rest?_eq_none {p : DaySchedule} {f : FailedAttempt} (h : p.days.length < f.number.toNat) :
    p.rest? f = none := by
  rw [rest?, List.getElem?_eq_none (by omega)]
  rfl

end DaySchedule

namespace RetryBackoff

variable {p : RetryBackoff}

/-- The delay before a retry can be expressed, and it is not negative. -/
theorem exists_delay? (hstart : 0 ≤ p.start.nanos) (hmax : 0 ≤ p.maxDelay.nanos)
    (retry : UInt32) : ∃ delay, p.delay? retry = some delay ∧ 0 ≤ delay.nanos := by
  have hnonneg := exactMillis_nonneg hstart hmax retry.toNat
  have hlongest := Int.le_trans (p.exactMillis_le retry.toNat) (Offset.millis_le hmax)
  obtain ⟨delay, hdelay, hnanos⟩ := Offset.ofMillis?_eq hnonneg hlongest
  refine ⟨delay, ?_, by omega⟩
  rw [delay?, delayMillis_eq hstart hmax, hdelay]

theorem keepsTo (hstart : 0 ≤ p.start.nanos) (hmax : 0 ≤ p.maxDelay.nanos) :
    p.policy.KeepsTo p.rest? := by
  intro f
  show ∃ d, p.decide? f = some d ∧ d.Keeps f.failedAt (p.rest? f)
  unfold decide? rest?
  split
  · exact ⟨_, rfl, .abort fun _ hrest => nomatch hrest⟩
  · obtain ⟨delay, hdelay, -⟩ := exists_delay? hstart hmax f.number
    rw [hdelay]
    exact ⟨_, rfl, RetryDecision.keeps_retryAfter _ delay⟩

theorem rest?_nonneg (hstart : 0 ≤ p.start.nanos) (hmax : 0 ≤ p.maxDelay.nanos)
    {f : FailedAttempt} : ∀ rest ∈ p.rest? f, 0 ≤ rest.nanos := by
  intro rest hrest
  obtain ⟨-, hrest⟩ := Option.ite_none_left_eq_some.mp hrest
  obtain ⟨delay, hdelay, hnonneg⟩ := exists_delay? hstart hmax f.number
  obtain rfl := Option.some.inj (hdelay.symm.trans hrest)
  exact hnonneg

theorem rest?_eq_none {f : FailedAttempt} (h : p.maxRetries.toNat < f.number.toNat) :
    p.rest? f = none :=
  if_pos (UInt32.lt_iff_toNat_lt.mpr h)

end RetryBackoff

namespace InvoicePolicy

variable {p : InvoicePolicy}

/-- Each kind of failure follows its own policy, and an unusable method has no rest. -/
theorem keepsTo (hstart : 0 ≤ p.gatewayErrors.start.nanos)
    (hmax : 0 ≤ p.gatewayErrors.maxDelay.nanos) : p.policy.KeepsTo p.rest? := by
  intro f
  show ∃ d, p.decide? f = some d ∧ d.Keeps f.failedAt (p.rest? f)
  unfold decide? rest?
  cases f.failure with
  | declined => exact p.declines.keepsTo f
  | gatewayError => exact RetryBackoff.keepsTo hstart hmax f
  | nonRetryable => exact ⟨_, rfl, .abort fun _ hrest => nomatch hrest⟩

theorem rest?_nonneg (hstart : 0 ≤ p.gatewayErrors.start.nanos)
    (hmax : 0 ≤ p.gatewayErrors.maxDelay.nanos) {f : FailedAttempt} :
    ∀ rest ∈ p.rest? f, 0 ≤ rest.nanos := by
  unfold rest?
  cases f.failure with
  | declined => exact DaySchedule.rest?_nonneg
  | gatewayError => exact RetryBackoff.rest?_nonneg hstart hmax
  | nonRetryable =>
      intro rest hrest
      cases hrest

/-- The number of the last attempt after which any of the policies can still try again. -/
def bound (p : InvoicePolicy) : Nat := max p.declines.days.length p.gatewayErrors.maxRetries.toNat

theorem rest?_eq_none {f : FailedAttempt} (h : p.bound < f.number.toNat) : p.rest? f = none := by
  rw [bound] at h
  unfold rest?
  cases f.failure with
  | declined => exact DaySchedule.rest?_eq_none (by omega)
  | gatewayError => exact RetryBackoff.rest?_eq_none (by omega)
  | nonRetryable => rfl

/-- **The built-in policies are safe and come to an end.** A day schedule, a backoff whose delays are
not negative and their combination answer every failed attempt. Each tries it again when its rest is
over, for the same amount and not before the failure, and gives the payment up when there is no rest
or the calendar ends before. Beyond the entries of the schedule and the retries of the backoff all of
them give up, whatever the failure; so however the kinds of failure alternate, no attempt is followed
by more than the attempts up to the one after that bound. -/
theorem builtin_policies_end (hstart : 0 ≤ p.gatewayErrors.start.nanos)
    (hmax : 0 ≤ p.gatewayErrors.maxDelay.nanos) :
    (p.declines.policy.KeepsTo p.declines.rest? ∧
      p.gatewayErrors.policy.KeepsTo p.gatewayErrors.rest? ∧ p.policy.KeepsTo p.rest?) ∧
    ∀ policy ∈ [p.declines.policy, p.gatewayErrors.policy, p.policy],
      (∀ f, (∃ reason, policy.decide f = some (.abort reason)) ∨
        ∃ due, policy.decide f = some (.retryAt due none) ∧ f.failedAt ≤ due) ∧
      (∀ f, p.bound < f.number.toNat → ∃ reason, policy.decide f = some (.abort reason)) ∧
      ∀ f later, (f :: later).IsChain policy.LeadsTo →
        later.length ≤ p.bound + 1 - f.number.toNat := by
  have hdeclines := p.declines.keepsTo
  have hgateway := RetryBackoff.keepsTo hstart hmax
  have hinvoice := keepsTo hstart hmax
  refine ⟨⟨hdeclines, hgateway, hinvoice⟩, ?_⟩
  intro policy hpolicy
  have hsound : policy.Safe ∧ policy.EndsAfter p.bound := by
    simp only [List.mem_cons, List.not_mem_nil, or_false] at hpolicy
    rcases hpolicy with rfl | rfl | rfl
    · exact ⟨hdeclines.safe fun _ => DaySchedule.rest?_nonneg,
        hdeclines.endsAfter fun f h => DaySchedule.rest?_eq_none
          (Nat.lt_of_le_of_lt (Nat.le_max_left _ _) h)⟩
    · exact ⟨hgateway.safe fun _ => RetryBackoff.rest?_nonneg hstart hmax,
        hgateway.endsAfter fun f h => RetryBackoff.rest?_eq_none
          (Nat.lt_of_le_of_lt (Nat.le_max_right _ _) h)⟩
    · exact ⟨hinvoice.safe fun _ => rest?_nonneg hstart hmax, hinvoice.endsAfter fun f => rest?_eq_none⟩
  obtain ⟨safe, ends⟩ := hsound
  exact ⟨safe, ends, fun f later chain => RetryPolicy.length_le_of_isChain ends chain⟩

/-- An attempt that failed at the beginning of 1970. -/
def failedAttempt (number : UInt32) (failure : PaymentFailure) : FailedAttempt where
  payment := ⟨.ofNat 0⟩
  account := ⟨.ofNat 0⟩
  number
  amount := 10000
  attempted := 10000
  failure
  failedAt := default

/-- With the usual policies, declines and gateway failures take turns until nothing is left. -/
theorem builtin_policies_end_alternating :
    0 ≤ ({} : InvoicePolicy).gatewayErrors.start.nanos ∧
      0 ≤ ({} : InvoicePolicy).gatewayErrors.maxDelay.nanos ∧
      [failedAttempt 7 .gatewayError, failedAttempt 8 .gatewayError,
        failedAttempt 9 .declined].IsChain ({} : InvoicePolicy).policy.LeadsTo ∧
      (∃ reason, ({} : InvoicePolicy).policy.decide (failedAttempt 9 .gatewayError) =
        some (.abort reason)) ∧
      ∀ later, (failedAttempt 7 .gatewayError :: later).IsChain
        ({} : InvoicePolicy).policy.LeadsTo → later.length ≤ 2 := by
  have hstart : 0 ≤ ({} : InvoicePolicy).gatewayErrors.start.nanos := by decide
  have hmax : 0 ≤ ({} : InvoicePolicy).gatewayErrors.maxDelay.nanos := by decide
  obtain ⟨-, hends⟩ := builtin_policies_end hstart hmax
  obtain ⟨-, haborts, hlength⟩ := hends ({} : InvoicePolicy).policy (by simp)
  have hchain : [failedAttempt 7 .gatewayError, failedAttempt 8 .gatewayError,
      failedAttempt 9 .declined].IsChain ({} : InvoicePolicy).policy.LeadsTo := by
    simp only [List.isChain_cons_cons, List.isChain_singleton, and_true]
    exact ⟨⟨⟨_, _, rfl⟩, rfl⟩, ⟨_, _, rfl⟩, rfl⟩
  exact ⟨hstart, hmax, hchain, haborts _ (by decide), hlength _⟩

end InvoicePolicy

end Dunning
