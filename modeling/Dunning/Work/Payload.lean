import Dunning.Ident
import Dunning.Payment.Failure
import Dunning.Time.Wire

/-!
# Payloads of the three queues

Deferred work is of three kinds, one queue each: looking at an account's overdue state again, trying
a payment again, and generating the invoices of a billing date.

## Main definitions

* `refreshQueue`, `retryQueue`, `billingDateQueue` — the queues.
* `RefreshPayload`, `RetryPayload`, `BillingDatePayload` — what their items carry.
-/

namespace Dunning

/-- The queue of scheduled looks at an account. -/
def refreshQueue : String := "overdue.refresh"

/-- The queue of payment attempts. -/
def retryQueue : String := "payment.retry"

/-- The queue of billing dates. -/
def billingDateQueue : String := "invoice.billing-date"

/-- The payload of a scheduled look; the reason is for information only. -/
structure RefreshPayload where
  reason : String := ""
  deriving Repr, DecidableEq

namespace RefreshPayload

/-- A payload as a document. -/
def toJson (p : RefreshPayload) : Json := .object [("reason", .string p.reason)]

/-- The fields of the payload. -/
def shape : Shape := ⟨[defaulted "reason"], false⟩

/-- The payload of a document. -/
def decode? (n : Node) : Option RefreshPayload := do
  let entries ← shape.entries? n
  let reason ← entries.withDefault "reason" "" Node.string?
  pure { reason }

end RefreshPayload

/-- The payload of a billing date. -/
structure BillingDatePayload where
  targetDate : Instant
  deriving DecidableEq

namespace BillingDatePayload

/-- A payload as a document. -/
def toJson (p : BillingDatePayload) : Json := .object [("target_date", p.targetDate.toJson)]

/-- The fields of the payload. -/
def shape : Shape := ⟨[field "target_date"], false⟩

/-- The payload of a document. -/
def decode? (n : Node) : Option BillingDatePayload := do
  let entries ← shape.entries? n
  let targetDate ← entries.required "target_date" Instant.decode?
  pure { targetDate }

end BillingDatePayload

/-- The payload of a payment attempt. The field `kind` tells the two apart. -/
inductive RetryPayload where
  /-- The first charge failed. -/
  | initialFailure (payment : PaymentId) (account : AccountId) (amount : UInt64)
      (failure : PaymentFailure) (failedAt : Instant)
  /-- A pending attempt is to be executed for an amount. -/
  | scheduledRetry (payment : PaymentId) (account : AccountId) (number : UInt32) (amount : UInt64)
  deriving DecidableEq

namespace RetryPayload

/-- The account that is charged. -/
def account : RetryPayload → AccountId
  | .initialFailure _ a _ _ _ => a
  | .scheduledRetry _ a _ _ => a

/-- Whether two payloads ask for the same attempt of the same payment. -/
def sameAttempt : RetryPayload → RetryPayload → Bool
  | .scheduledRetry p _ n _, .scheduledRetry q _ m _ => p == q && n == m
  | _, _ => false

/-- A payload as a document. -/
def toJson : RetryPayload → Json
  | .initialFailure payment account amount failure failedAt =>
    .object
      [("kind", .string "initial_failure"), ("payment_id", payment.toJson),
       ("account_id", account.toJson), ("amount", .nat amount.toNat), ("failure", failure.toJson),
       ("failed_at", failedAt.toJson)]
  | .scheduledRetry payment account number amount =>
    .object
      [("kind", .string "scheduled_retry"), ("payment_id", payment.toJson),
       ("account_id", account.toJson), ("attempt_number", .nat number.toNat),
       ("amount", .nat amount.toNat)]

/-- The fields of a first failure beside its tag. -/
def initialShape : Shape :=
  ⟨[field "payment_id", field "account_id", field "amount", field "failure", field "failed_at"],
    false⟩

/-- The fields of a scheduled attempt beside its tag. -/
def scheduledShape : Shape :=
  ⟨[field "payment_id", field "account_id", field "attempt_number", field "amount"], false⟩

/-- The payload of a kind with its fields. -/
def decodeKind? (kind : String) (n : Node) : Option RetryPayload :=
  match kind with
  | "initial_failure" => do
    let entries ← initialShape.entries? n
    let payment ← entries.required "payment_id" PaymentId.decode?
    let account ← entries.required "account_id" AccountId.decode?
    let amount ← entries.required "amount" Node.uint64?
    let failure ← entries.required "failure" fun n => n.variant? PaymentFailure.parse? true
    let failedAt ← entries.required "failed_at" Instant.decode?
    pure (.initialFailure payment account amount failure failedAt)
  | "scheduled_retry" => do
    let entries ← scheduledShape.entries? n
    let payment ← entries.required "payment_id" PaymentId.decode?
    let account ← entries.required "account_id" AccountId.decode?
    let number ← entries.required "attempt_number" Node.uint32?
    let amount ← entries.required "amount" Node.uint64?
    pure (.scheduledRetry payment account number amount)
  | _ => none

/-- The payload of a document. -/
def decode? (n : Node) : Option RetryPayload :=
  match n.tagged? "kind" with
  | some (kind, rest) => decodeKind? kind rest
  | none => none

end RetryPayload

end Dunning
