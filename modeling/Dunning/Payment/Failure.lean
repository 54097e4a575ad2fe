import Dunning.Json.Decode

/-!
# Payment failures

Why a charge did not succeed, as the gateway reports it.
-/

namespace Dunning

/-- The reason of a failed charge. -/
inductive PaymentFailure where
  /-- The processor declined the charge. -/
  | declined
  /-- The gateway failed. -/
  | gatewayError
  /-- The payment method is unusable. -/
  | nonRetryable
  deriving Repr, DecidableEq, Inhabited

namespace PaymentFailure

/-- The stored name. -/
def name : PaymentFailure → String
  | .declined => "declined"
  | .gatewayError => "gateway_error"
  | .nonRetryable => "non_retryable"

/-- The failure of a stored name. -/
def parse? : String → Option PaymentFailure
  | "declined" => some .declined
  | "gateway_error" => some .gatewayError
  | "non_retryable" => some .nonRetryable
  | _ => none

/-- A failure as a document. -/
def toJson (f : PaymentFailure) : Json := .string f.name

/-- The failure of a document. -/
def decode? (n : Node) : Option PaymentFailure := n.variant? parse? false

theorem parse?_name (f : PaymentFailure) : parse? f.name = some f := by
  cases f <;> rfl

end PaymentFailure

end Dunning
