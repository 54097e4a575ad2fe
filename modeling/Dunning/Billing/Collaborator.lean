import Dunning.Ident
import Dunning.Payment.Failure

/-!
# The systems around the core

Accounts, payments and invoices live elsewhere. A call to one of those systems may name an account
it does not know, or find the system out of reach.

## Main definitions

* `CollaboratorError` — why a call failed.
* `PaymentRequest`, `ChargeResult` — a charge and the answer of the gateway.
-/

namespace Dunning

/-- Why a call to a surrounding system failed. -/
inductive CollaboratorError where
  | unknownAccount (account : AccountId)
  | unavailable (reason : String)
  deriving DecidableEq

/-- The wording of a failure. -/
def CollaboratorError.message : CollaboratorError → String
  | .unknownAccount account => "unknown account: " ++ account.render
  | .unavailable reason => "collaborator unavailable: " ++ reason

/-- A charge to be submitted to the gateway. -/
structure PaymentRequest where
  payment : PaymentId
  account : AccountId
  number : UInt32
  amount : UInt64
  deriving DecidableEq

/-- A charge as a document. -/
def PaymentRequest.toJson (r : PaymentRequest) : Json :=
  .object
    [("payment_id", r.payment.toJson), ("account_id", r.account.toJson),
     ("attempt_number", .nat r.number.toNat), ("amount", .nat r.amount.toNat)]

/-- The answer of the gateway. -/
inductive ChargeResult where
  | succeeded
  | failed (failure : PaymentFailure)
  deriving Repr, DecidableEq

end Dunning
