import Dunning.Payment.Policy
import Dunning.Json.Decode
import Dunning.Overdue.Flags
import Dunning.Time.Wire
import Dunning.Version
import Dunning.Work.DispatcherConfig
import Dunning.Work.Item

/-!
# Reading scenarios

A scenario is a document that tells, step by step, what happens to a system; its report tells what
each step gave. Scenarios are written by hand and read leniently: a missing field is null, and null
means the default.

## Main definitions

* `get`, `items`, `str`, `nat`, `time` and others — the parts of a document.
* `policyOf?`, `backoffPolicyOf`, `dispatcherConfigOf` — settings given in a scenario.
-/

namespace Dunning.Scenario

/-! ## Parts of a document -/

/-- A field of an object; a missing one is null. -/
def get (n : Node) (name : String) : Node :=
  match n with
  | .object fields => (fields.lookup (some name)).getD .null
  | _ => .null

/-- Whether a document is null. -/
def isNull : Node → Bool
  | .null => true
  | _ => false

/-- Whether an object gives a field. -/
def given (n : Node) (name : String) : Bool := !isNull (get n name)

/-- The items of an array. -/
def items : Node → List Node
  | .array xs => xs
  | _ => []

/-- The fields of an object. -/
def fieldsOf : Node → List (String × Node)
  | .object fields => fields.map fun (k, v) => (k.getD "", v)
  | _ => []

/-- A text, if there is one. -/
def str? (n : Node) : Option String := n.string?

/-- A text. -/
def str (n : Node) : String := n.string?.getD ""

/-- The text of a field. -/
def textOf (n : Node) (name : String) : String := str (get n name)

/-- The texts of a list field. -/
def textsOf (n : Node) (name : String) : List String := (items (get n name)).map str

/-- A truth value. -/
def bool (n : Node) : Bool := n.bool?.getD false

/-- A whole number of 64 bits, signed or unsigned, if there is one. -/
def int? : Node → Option Int
  | .number l => l.within? (-9223372036854775808) 18446744073709551616
  | _ => none

/-- A whole number. -/
def int (n : Node) : Int := (int? n).getD 0

/-- A natural number. -/
def nat (n : Node) : Nat := (int n).toNat

/-- A natural number or a default. -/
def natOr (d : Nat) (n : Node) : Nat := ((int? n).map Int.toNat).getD d

/-- A number of 32 bits. -/
def u32 (n : Node) : UInt32 := UInt32.ofNat (nat n)

/-- A number of 64 bits. -/
def u64 (n : Node) : UInt64 := UInt64.ofNat (nat n)

/-- A number of 32 bits, if a field gives one. -/
def u32? (n : Node) : Option UInt32 := if isNull n then none else some (u32 n)

/-- A number of 64 bits, if a field gives one. -/
def u64? (n : Node) : Option UInt64 := if isNull n then none else some (u64 n)

/-- An instant. -/
def time (n : Node) : Instant := (n.string?.bind Instant.parse?).getD default

/-- An identifier. -/
def uuid (n : Node) : Uuid := (Uuid.decode? n).getD default

/-- An account. -/
def account (n : Node) : AccountId := ⟨uuid n⟩

/-- A payment. -/
def payment (n : Node) : PaymentId := ⟨uuid n⟩

/-- A duration: whole milliseconds, or seconds and nanoseconds. -/
def span? : Node → Option Span
  | .null => none
  | .number l => (int? (.number l)).map fun n => Span.ofMillis n.toNat
  | n => some (Span.ofNanos (nat (get n "secs") * 1000000000 + nat (get n "nanos")))

/-- A duration or a default. -/
def spanOr (d : Span) (n : Node) : Span := (span? n).getD d

/-- The reason of a failed charge. -/
def failure? (n : Node) : Option PaymentFailure := n.string?.bind PaymentFailure.parse?

/-- Block flags. -/
def flagsOf (n : Node) : BlockFlags := (BlockFlags.decode? n).getD {}

/-- A payload. -/
def payloadOf (n : Node) : Json := n.toJson?.getD .null

/-- A new work item. -/
def newItemOf (n : Node) : NewItem :=
  ⟨textOf n "queue", textOf n "owner", time (get n "at"), payloadOf (get n "payload")⟩

/-- The version that a writer expects. -/
def expectedOf (n : Node) : Expected :=
  match n with
  | .string (some "absent") => .absent
  | .string _ => .any
  | _ => if given n "read" then .ofRead (u64 (get n "read")) else .exact (u64 (get n "exact"))

/-! ## Settings -/

/-- A schedule of days. -/
def scheduleOf (n : Node) : DaySchedule :=
  if given n "retry_days" then ⟨(items (get n "retry_days")).map u32⟩ else {}

/-- A number of milliseconds as an offset, if it can be expressed. -/
def offsetOr? (d : Offset) (n : Node) : Option Offset :=
  if isNull n then some d else Offset.ofMillis? (int n)

/-- The backoff of retries, if its durations can be expressed. -/
def retryBackoffOf? (n : Node) : Option RetryBackoff := do
  let base : RetryBackoff := {}
  let start ← offsetOr? base.start (get n "start_ms")
  let maxDelay ← offsetOr? base.maxDelay (get n "max_delay_ms")
  pure
    { start, maxDelay
      multiplier := (u32? (get n "multiplier")).getD base.multiplier
      maxRetries := (u32? (get n "max_retries")).getD base.maxRetries }

/-- A policy that always retries after the same delay, for a part of the amount. -/
def discountOf (n : Node) : RetryPolicy :=
  let delay := int (get n "delay_ms")
  let num := nat (get n "num")
  let den := nat (get n "den")
  ⟨"discount", fun f =>
    (f.failedAt.plus? (delay * 1000000)).map fun due =>
      .retryAt due (some (UInt64.ofNat (f.attempted.toNat * num / den)))⟩

/-- A retry policy. -/
def policyOf? (n : Node) : Option RetryPolicy :=
  match textOf n "kind" with
  | "fixed" => some (scheduleOf n).policy
  | "exponential" => (retryBackoffOf? n).map RetryBackoff.policy
  | "invoice" => (retryBackoffOf? (get n "gateway_errors")).map fun gatewayErrors =>
    ({ declines := scheduleOf (get n "declines"), gatewayErrors } : InvoicePolicy).policy
  | "none" => some RetryPolicy.never
  | "registry" => PolicyTable.builtin.get? (textOf n "name")
  | "discount" => some (discountOf n)
  | _ => none

/-- The retry budget of handlers. -/
def backoffPolicyOf (n : Node) : BackoffPolicy :=
  let base : BackoffPolicy := {}
  let maxAttempts := (u32? (get n "max_attempts")).getD base.maxAttempts
  match textOf n "build" with
  | "fixed" => .fixed maxAttempts (spanOr base.baseDelay (get n "base"))
  | "default" => base
  | _ =>
    { maxAttempts, baseDelay := spanOr base.baseDelay (get n "base")
      maxDelay := spanOr base.maxDelay (get n "max")
      strategy := ((str? (get n "strategy")).bind BackoffStrategy.parse?).getD .exponential }

/-- The settings of a dispatcher. -/
def dispatcherConfigOf (defaultName : String) (n : Node) : DispatcherConfig :=
  let c : DispatcherConfig := { name := (str? (get n "name")).getD defaultName }
  let c := { c with
    pollInterval := spanOr c.pollInterval (get n "poll_interval")
    lease := spanOr c.lease (get n "lease")
    handlerTimeout := spanOr c.handlerTimeout (get n "handler_timeout")
    backoff := if given n "backoff" then backoffPolicyOf (get n "backoff") else c.backoff
    queues := textsOf n "queues"
    storageBackoffBase := spanOr c.storageBackoffBase (get n "storage_backoff_base")
    storageBackoffMax := spanOr c.storageBackoffMax (get n "storage_backoff_max") }
  let c := if given n "batch_size" then c.withBatchSize (nat (get n "batch_size")) else c
  if given n "max_concurrent" then c.withMaxConcurrent (nat (get n "max_concurrent")) else c

end Dunning.Scenario
