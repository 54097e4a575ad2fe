import Dunning.Ident
import Dunning.Payment.Failure
import Dunning.Time.Wire

/-!
# Billing events

What the billing system reports: invoices, billing dates, payments and closed accounts. In a
document the field `type` tells the kind.
-/

namespace Dunning

/-- An event of the billing system. Amounts are in the smallest unit of the currency. -/
inductive BillingEvent where
  | invoiceCreated (account : AccountId) (invoice : InvoiceId) (amount : UInt64)
      (dueAt occurredAt : Instant)
  | invoiceDue (account : AccountId) (invoice : InvoiceId) (occurredAt : Instant)
  | billingDateScheduled (account : AccountId) (targetDate occurredAt : Instant)
  | paymentFailed (account : AccountId) (payment : PaymentId) (amount : UInt64)
      (failure : PaymentFailure) (occurredAt : Instant)
  | paymentSucceeded (account : AccountId) (payment : PaymentId) (amount : UInt64)
      (occurredAt : Instant)
  | accountClosed (account : AccountId) (occurredAt : Instant)
  deriving DecidableEq

namespace BillingEvent

/-- The account that an event is about. -/
def account : BillingEvent → AccountId
  | .invoiceCreated a _ _ _ _ => a
  | .invoiceDue a _ _ => a
  | .billingDateScheduled a _ _ => a
  | .paymentFailed a _ _ _ _ => a
  | .paymentSucceeded a _ _ _ => a
  | .accountClosed a _ => a

/-- When the event occurred. -/
def occurredAt : BillingEvent → Instant
  | .invoiceCreated _ _ _ _ t => t
  | .invoiceDue _ _ t => t
  | .billingDateScheduled _ _ t => t
  | .paymentFailed _ _ _ _ t => t
  | .paymentSucceeded _ _ _ t => t
  | .accountClosed _ t => t

/-- The stable name of the kind. -/
def kind : BillingEvent → String
  | .invoiceCreated .. => "invoice.created"
  | .invoiceDue .. => "invoice.due"
  | .billingDateScheduled .. => "billing.date_scheduled"
  | .paymentFailed .. => "payment.failed"
  | .paymentSucceeded .. => "payment.succeeded"
  | .accountClosed .. => "account.closed"

/-- The version of the layout. -/
def layoutVersion : Nat := 1

/-- An event as a document. -/
def toJson : BillingEvent → Json
  | .invoiceCreated account invoice amount dueAt occurredAt =>
    .object
      [("type", .string "invoice_created"), ("account_id", account.toJson),
       ("invoice_id", invoice.toJson), ("amount", .nat amount.toNat), ("due_at", dueAt.toJson),
       ("occurred_at", occurredAt.toJson)]
  | .invoiceDue account invoice occurredAt =>
    .object
      [("type", .string "invoice_due"), ("account_id", account.toJson),
       ("invoice_id", invoice.toJson), ("occurred_at", occurredAt.toJson)]
  | .billingDateScheduled account targetDate occurredAt =>
    .object
      [("type", .string "billing_date_scheduled"), ("account_id", account.toJson),
       ("target_date", targetDate.toJson), ("occurred_at", occurredAt.toJson)]
  | .paymentFailed account payment amount failure occurredAt =>
    .object
      [("type", .string "payment_failed"), ("account_id", account.toJson),
       ("payment_id", payment.toJson), ("amount", .nat amount.toNat), ("failure", failure.toJson),
       ("occurred_at", occurredAt.toJson)]
  | .paymentSucceeded account payment amount occurredAt =>
    .object
      [("type", .string "payment_succeeded"), ("account_id", account.toJson),
       ("payment_id", payment.toJson), ("amount", .nat amount.toNat),
       ("occurred_at", occurredAt.toJson)]
  | .accountClosed account occurredAt =>
    .object
      [("type", .string "account_closed"), ("account_id", account.toJson),
       ("occurred_at", occurredAt.toJson)]

/-- The fields of each kind beside its tag. -/
def shape (names : List String) : Shape := ⟨names.map field, false⟩

/-- The event of a kind with its fields. -/
def decodeKind? (kind : String) (n : Node) : Option BillingEvent :=
  match kind with
  | "invoice_created" => do
    let entries ← (shape ["account_id", "invoice_id", "amount", "due_at", "occurred_at"]).entries? n
    let account ← entries.required "account_id" AccountId.decode?
    let invoice ← entries.required "invoice_id" InvoiceId.decode?
    let amount ← entries.required "amount" Node.uint64?
    let dueAt ← entries.required "due_at" Instant.decode?
    let occurredAt ← entries.required "occurred_at" Instant.decode?
    pure (.invoiceCreated account invoice amount dueAt occurredAt)
  | "invoice_due" => do
    let entries ← (shape ["account_id", "invoice_id", "occurred_at"]).entries? n
    let account ← entries.required "account_id" AccountId.decode?
    let invoice ← entries.required "invoice_id" InvoiceId.decode?
    let occurredAt ← entries.required "occurred_at" Instant.decode?
    pure (.invoiceDue account invoice occurredAt)
  | "billing_date_scheduled" => do
    let entries ← (shape ["account_id", "target_date", "occurred_at"]).entries? n
    let account ← entries.required "account_id" AccountId.decode?
    let targetDate ← entries.required "target_date" Instant.decode?
    let occurredAt ← entries.required "occurred_at" Instant.decode?
    pure (.billingDateScheduled account targetDate occurredAt)
  | "payment_failed" => do
    let entries ←
      (shape ["account_id", "payment_id", "amount", "failure", "occurred_at"]).entries? n
    let account ← entries.required "account_id" AccountId.decode?
    let payment ← entries.required "payment_id" PaymentId.decode?
    let amount ← entries.required "amount" Node.uint64?
    let failure ← entries.required "failure" fun n => n.variant? PaymentFailure.parse? true
    let occurredAt ← entries.required "occurred_at" Instant.decode?
    pure (.paymentFailed account payment amount failure occurredAt)
  | "payment_succeeded" => do
    let entries ← (shape ["account_id", "payment_id", "amount", "occurred_at"]).entries? n
    let account ← entries.required "account_id" AccountId.decode?
    let payment ← entries.required "payment_id" PaymentId.decode?
    let amount ← entries.required "amount" Node.uint64?
    let occurredAt ← entries.required "occurred_at" Instant.decode?
    pure (.paymentSucceeded account payment amount occurredAt)
  | "account_closed" => do
    let entries ← (shape ["account_id", "occurred_at"]).entries? n
    let account ← entries.required "account_id" AccountId.decode?
    let occurredAt ← entries.required "occurred_at" Instant.decode?
    pure (.accountClosed account occurredAt)
  | _ => none

/-- The event of a document. -/
def decode? (n : Node) : Option BillingEvent :=
  match n.tagged? "type" with
  | some (kind, rest) => decodeKind? kind rest
  | none => none

end BillingEvent

end Dunning
