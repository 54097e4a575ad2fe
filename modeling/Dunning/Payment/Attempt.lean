import Dunning.Ident
import Dunning.Payment.Failure
import Dunning.Time.Wire

/-!
# Payment attempts

One try at collecting a payment. Attempt 1 is the first charge, recorded once it failed; each
further attempt is scheduled as pending and then succeeds, fails or is aborted.

## Main definitions

* `AttemptOutcome`, `Attempt` — the record.
* `Attempt.firstFailure`, `Attempt.next` — how a chain of attempts starts and grows.
-/

namespace Dunning

/-- The lifecycle of an attempt. -/
inductive AttemptOutcome where
  /-- Scheduled and not yet executed. -/
  | pending
  /-- Given up by the policy or by a restriction of the account. -/
  | aborted
  | success
  | failed
  deriving Repr, DecidableEq, Inhabited

namespace AttemptOutcome

/-- The stored name. -/
def name : AttemptOutcome → String
  | .pending => "pending"
  | .aborted => "aborted"
  | .success => "success"
  | .failed => "failed"

/-- The outcome of a stored name. -/
def parse? : String → Option AttemptOutcome
  | "pending" => some .pending
  | "aborted" => some .aborted
  | "success" => some .success
  | "failed" => some .failed
  | _ => none

/-- An outcome as a document. -/
def toJson (o : AttemptOutcome) : Json := .string o.name

/-- The outcome of a document. -/
def decode? (n : Node) : Option AttemptOutcome := n.variant? parse? false

theorem parse?_name (o : AttemptOutcome) : parse? o.name = some o := by
  cases o <;> rfl

end AttemptOutcome

/-- One try at collecting a payment. Amounts are in the smallest unit of the currency. -/
structure Attempt where
  id : Uuid
  payment : PaymentId
  account : AccountId
  number : UInt32
  scheduledFor : Instant
  outcome : AttemptOutcome
  amount : UInt64
  /-- Charged in place of the amount when set. -/
  adjusted : Option UInt64
  failure : Option PaymentFailure
  updatedAt : Instant
  deriving DecidableEq

namespace Attempt

/-- The first charge of a payment, which has failed. -/
def firstFailure (id : Uuid) (payment : PaymentId) (account : AccountId) (amount : UInt64)
    (failure : PaymentFailure) (due : Instant) : Attempt where
  id
  payment
  account
  number := 1
  scheduledFor := due
  outcome := .failed
  amount
  adjusted := none
  failure := some failure
  updatedAt := due

/-- The attempt after this one, pending at `due`. -/
def next (a : Attempt) (id : Uuid) (due : Instant) (adjusted : Option UInt64) (now : Instant) :
    Attempt where
  id
  payment := a.payment
  account := a.account
  number := a.number + 1
  scheduledFor := due
  outcome := .pending
  amount := a.amount
  adjusted
  failure := none
  updatedAt := now

/-- The amount to charge. -/
def effectiveAmount (a : Attempt) : UInt64 := a.adjusted.getD a.amount

/-- Whether the attempt was given up or collected. -/
def isTerminal (a : Attempt) : Bool :=
  a.outcome == .aborted || a.outcome == .success

/-- An attempt as a document. -/
def toJson (a : Attempt) : Json :=
  .object
    [("id", a.id.toJson), ("payment_id", a.payment.toJson), ("account_id", a.account.toJson),
     ("attempt_number", .nat a.number.toNat), ("scheduled_for", a.scheduledFor.toJson),
     ("outcome", a.outcome.toJson), ("amount", .nat a.amount.toNat),
     ("adjusted_amount", Json.ofOption (fun n : UInt64 => .nat n.toNat) a.adjusted),
     ("failure", Json.ofOption PaymentFailure.toJson a.failure),
     ("updated_at", a.updatedAt.toJson)]

/-- The fields of an attempt. -/
def shape : Shape :=
  ⟨[field "id", field "payment_id", field "account_id", field "attempt_number",
    field "scheduled_for", field "outcome", field "amount", field "adjusted_amount",
    field "failure", field "updated_at"], false⟩

/-- The attempt of a document. -/
def decode? (n : Node) : Option Attempt := do
  let entries ← shape.entries? n
  let id ← entries.required "id" Uuid.decode?
  let payment ← entries.required "payment_id" PaymentId.decode?
  let account ← entries.required "account_id" AccountId.decode?
  let number ← entries.required "attempt_number" Node.uint32?
  let scheduledFor ← entries.required "scheduled_for" Instant.decode?
  let outcome ← entries.required "outcome" AttemptOutcome.decode?
  let amount ← entries.required "amount" Node.uint64?
  let adjusted ← entries.optional "adjusted_amount" Node.uint64?
  let failure ← entries.optional "failure" PaymentFailure.decode?
  let updatedAt ← entries.required "updated_at" Instant.decode?
  pure { id, payment, account, number, scheduledFor, outcome, amount, adjusted, failure, updatedAt }

end Attempt

end Dunning
