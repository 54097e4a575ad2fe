import Dunning.Json.Decode
import Dunning.Payment.Failure

/-!
# Account facts

What the overdue rules may know about an account: a snapshot supplied by the account system.

## Main definitions

* `AccountFacts` — the snapshot. Tags are kept in increasing order without repetition.
-/

namespace Dunning

/-- A snapshot of an account. The balance is in the smallest unit of the currency. -/
structure AccountFacts where
  /-- Days since the oldest unpaid invoice fell due, 0 when nothing is overdue. -/
  daysOverdue : UInt32 := 0
  unpaidInvoices : UInt32 := 0
  unpaidBalance : UInt64 := 0
  tags : List String := []
  paymentMethodPresent : Bool := false
  lastFailure : Option PaymentFailure := none
  deriving Repr, DecidableEq, Inhabited

namespace AccountFacts

/-- Put a tag into a list of tags in increasing order. -/
def insertTag (tag : String) : List String → List String
  | [] => [tag]
  | other :: rest =>
    if tag < other then tag :: other :: rest
    else if tag = other then other :: rest
    else other :: insertTag tag rest

/-- Tags in increasing order without repetition. -/
def tagSet (tags : List String) : List String :=
  tags.foldl (fun done tag => insertTag tag done) []

/-- An account with nothing owed. -/
def settled : AccountFacts := { paymentMethodPresent := true }

/-- An account with one invoice unpaid for some days. -/
def overdue (days : UInt32) (balance : UInt64) : AccountFacts :=
  { daysOverdue := days, unpaidInvoices := 1, unpaidBalance := balance,
    paymentMethodPresent := true }

/-- The account with one more tag. -/
def withTag (f : AccountFacts) (tag : String) : AccountFacts :=
  { f with tags := insertTag tag f.tags }

/-- Whether the account has a tag. -/
def hasTag (f : AccountFacts) (tag : String) : Bool := f.tags.contains tag

/-- A snapshot as a document. -/
def toJson (f : AccountFacts) : Json :=
  .object
    [("days_overdue", .nat f.daysOverdue.toNat),
     ("unpaid_invoice_count", .nat f.unpaidInvoices.toNat),
     ("unpaid_balance", .nat f.unpaidBalance.toNat), ("tags", Json.ofList .string f.tags),
     ("payment_method_present", .bool f.paymentMethodPresent),
     ("last_payment_failure", Json.ofOption PaymentFailure.toJson f.lastFailure)]

/-- The fields of a snapshot; all have defaults. -/
def shape : Shape :=
  ⟨[defaulted "days_overdue", defaulted "unpaid_invoice_count", defaulted "unpaid_balance",
    defaulted "tags", defaulted "payment_method_present", defaulted "last_payment_failure"], false⟩

/-- The snapshot of a document. -/
def decode? (n : Node) : Option AccountFacts := do
  let entries ← shape.entries? n
  let daysOverdue ← entries.withDefault "days_overdue" 0 Node.uint32?
  let unpaidInvoices ← entries.withDefault "unpaid_invoice_count" 0 Node.uint32?
  let unpaidBalance ← entries.withDefault "unpaid_balance" 0 Node.uint64?
  let tags ← entries.withDefault "tags" [] (Node.list? Node.string?)
  let paymentMethodPresent ← entries.withDefault "payment_method_present" false Node.bool?
  let lastFailure ← entries.optional "last_payment_failure" PaymentFailure.decode?
  pure { daysOverdue, unpaidInvoices, unpaidBalance, tags := tagSet tags, paymentMethodPresent,
         lastFailure }

end AccountFacts

end Dunning
