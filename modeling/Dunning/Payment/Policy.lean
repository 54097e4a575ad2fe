import Dunning.Ident
import Dunning.Payment.Failure
import Dunning.Text.Quoted
import Dunning.Time.Instant

/-!
# Retry policies

A policy looks at a failed attempt and decides whether and when to try again. Four policies are
built in: a schedule of days, exponential backoff, the combination of both by the kind of failure,
and never. Others can be added to the table under their own names.

## Main definitions

* `FailedAttempt`, `RetryDecision`, `RetryPolicy` — what a policy sees, says and is.
* `DaySchedule`, `RetryBackoff`, `InvoicePolicy` — the built-in policies.
* `PolicyTable` — policies by name.

A decision is missing only when the delay itself cannot be expressed; a date beyond the calendar
aborts instead.
-/

namespace Dunning

/-- What a policy sees of the attempt that failed. -/
structure FailedAttempt where
  payment : PaymentId
  account : AccountId
  /-- The number of the attempt, 1 for the first charge. -/
  number : UInt32
  /-- The amount of the payment, without adjustments. -/
  amount : UInt64
  /-- The amount that was charged. -/
  attempted : UInt64
  failure : PaymentFailure
  failedAt : Instant
  deriving DecidableEq

/-- The answer of a policy. -/
inductive RetryDecision where
  | abort (reason : String)
  | retryAt (due : Instant) (adjusted : Option UInt64)
  deriving DecidableEq

/-- Try again some time after the failure, or give up when the calendar ends before. -/
def RetryDecision.retryAfter (failedAt : Instant) (delay : Int) : RetryDecision :=
  match failedAt.plus? delay with
  | some due => .retryAt due none
  | none => .abort "retry date out of range"

/-- A named rule for failed attempts. -/
structure RetryPolicy where
  name : String
  decide : FailedAttempt → Option RetryDecision

/-! ## Day schedule -/

/-- Retries a fixed number of days after each failure. -/
structure DaySchedule where
  days : List UInt32 := [8, 8, 8]
  deriving Repr, DecidableEq

namespace DaySchedule

/-- The retry of a failed attempt: its own entry of the schedule counts from the failure. -/
def decide (p : DaySchedule) (f : FailedAttempt) : RetryDecision :=
  match p.days[f.number.toNat - 1]? with
  | some days => .retryAfter f.failedAt (days.toNat * nanosPerDay : Nat)
  | none => .abort "retry schedule exhausted"

/-- The schedule as a policy. -/
def policy (p : DaySchedule) : RetryPolicy :=
  ⟨"fixed-schedule", fun f => some (p.decide f)⟩

end DaySchedule

/-! ## Exponential backoff -/

/-- Delays that grow by a factor from one retry to the next, up to a longest one. -/
structure RetryBackoff where
  start : Offset := Offset.minutes 5
  multiplier : UInt32 := 2
  maxDelay : Offset := Offset.minutes 1440
  maxRetries : UInt32 := 8
  deriving DecidableEq

namespace RetryBackoff

/-- The largest whole number of 64 bits with a sign. -/
def ceiling : Int := 9223372036854775807

/-- A number brought into the range of 64 bits with a sign. -/
def saturate (n : Int) : Int :=
  if n < -9223372036854775808 then -9223372036854775808 else if ceiling < n then ceiling else n

/-- A power of a positive base, cut at the ceiling. From the exponent 64 on every base but 1 is
above it. -/
def power (base exponent : Nat) : Nat :=
  if base = 1 then 1
  else if 64 ≤ exponent then ceiling.toNat
  else Nat.min (Nat.pow base exponent) ceiling.toNat

/-- The milliseconds before a retry, the first retry being number 1. -/
def delayMillis (p : RetryBackoff) (retry : UInt32) : Int :=
  let factor : Int := power (max p.multiplier.toNat 1) (retry.toNat - 1)
  min (saturate (p.start.millis * factor)) p.maxDelay.millis

/-- The delay before a retry, if it can be expressed. -/
def delay? (p : RetryBackoff) (retry : UInt32) : Option Offset :=
  Offset.ofMillis? (p.delayMillis retry)

/-- The retry of a failed attempt. -/
def decide? (p : RetryBackoff) (f : FailedAttempt) : Option RetryDecision :=
  if p.maxRetries < f.number then some (.abort "exponential retries exhausted")
  else (p.delay? f.number).map fun delay => .retryAfter f.failedAt delay.nanos

/-- The backoff as a policy. -/
def policy (p : RetryBackoff) : RetryPolicy := ⟨"exponential", p.decide?⟩

end RetryBackoff

/-! ## Combinations -/

/-- Declines follow the day schedule, gateway failures back off, unusable methods abort. -/
structure InvoicePolicy where
  declines : DaySchedule := {}
  gatewayErrors : RetryBackoff := {}
  deriving DecidableEq

namespace InvoicePolicy

/-- The retry of a failed attempt by the kind of its failure. -/
def decide? (p : InvoicePolicy) (f : FailedAttempt) : Option RetryDecision :=
  match f.failure with
  | .declined => some (p.declines.decide f)
  | .gatewayError => p.gatewayErrors.decide? f
  | .nonRetryable => some (.abort "payment method unusable")

/-- The combination as a policy. -/
def policy (p : InvoicePolicy) : RetryPolicy := ⟨"invoice", p.decide?⟩

end InvoicePolicy

/-- Never tries again. -/
def RetryPolicy.never : RetryPolicy := ⟨"none", fun _ => some (.abort "retries disabled")⟩

/-! ## Policies by name -/

/-- Policies under their own names, in increasing order of the names. -/
structure PolicyTable where
  policies : List RetryPolicy := []

namespace PolicyTable

/-- Put a policy into a list in increasing order; one of the same name is replaced. -/
def insert (p : RetryPolicy) : List RetryPolicy → List RetryPolicy
  | [] => [p]
  | q :: rest =>
    if p.name < q.name then p :: q :: rest
    else if p.name = q.name then p :: rest
    else q :: insert p rest

/-- The table with one more policy. -/
def register (t : PolicyTable) (p : RetryPolicy) : PolicyTable := ⟨insert p t.policies⟩

/-- The table of the built-in policies. -/
def builtin : PolicyTable :=
  [({} : InvoicePolicy).policy, ({} : DaySchedule).policy, ({} : RetryBackoff).policy,
    RetryPolicy.never].foldl register {}

/-- The policy of a name. -/
def get? (t : PolicyTable) (name : String) : Option RetryPolicy :=
  t.policies.find? fun p => p.name == name

/-- The names in increasing order. -/
def names (t : PolicyTable) : List String := t.policies.map RetryPolicy.name

/-- How the table describes itself. -/
def shown (t : PolicyTable) : String :=
  Text.described "RetryPolicyRegistry" "policies" (Text.listed (t.names.map Text.quoted))

end PolicyTable

end Dunning
