import Dunning.Payment.Attempt
import Dunning.StoreError

/-!
# The store of attempts

One record for each number of a payment. A new record is refused when the number is taken; a record
is replaced only by one of the same identifier.

## Main definitions

* `AttemptRequest` — the interface of every store of attempts, in memory or in a database.
* `AttemptStore` — the records in memory, viewed through `AttemptStore.get?`.
* `AttemptStore.insert`, `AttemptStore.update` — the two writes.
* `AttemptStore.ofPayment` — the attempts of a payment by number.
* `AttemptStore.respond` — every request of the interface.
-/

namespace Dunning

/-- A request to a store of attempts. -/
inductive AttemptRequest where
  /-- Record a new attempt unless its number is taken. -/
  | insert (attempt : Attempt)
  /-- Replace the attempt of the same identifier. -/
  | update (attempt : Attempt)
  | get (payment : PaymentId) (number : UInt32)
  /-- The attempts of a payment by number. -/
  | ofPayment (payment : PaymentId)

/-- The answer of a store to a request. -/
@[reducible] def AttemptRequest.Answer : AttemptRequest → Type
  | .insert _ => Except StoreError Unit
  | .update _ => Except StoreError Unit
  | .get .. => Except StoreError (Option Attempt)
  | .ofPayment _ => Except StoreError (List Attempt)

/-- Recorded attempts, at most one for each payment and number. -/
structure AttemptStore where
  records : List Attempt := []

namespace AttemptStore

/-- Whether a record is the attempt of a payment and number. -/
def isAttempt (payment : PaymentId) (number : UInt32) (a : Attempt) : Bool :=
  a.payment == payment && a.number == number

/-- The attempt of a payment and number. -/
def get? (s : AttemptStore) (payment : PaymentId) (number : UInt32) : Option Attempt :=
  s.records.find? (isAttempt payment number)

/-- Add a record unless its number is taken. -/
def insert (s : AttemptStore) (a : Attempt) : Except StoreError Unit × AttemptStore :=
  match s.get? a.payment a.number with
  | some _ =>
    (.error ⟨.conflict, "attempt " ++ toString a.number.toNat ++ " of payment " ++
      a.payment.render ++ " already exists"⟩, s)
  | none => (.ok (), ⟨s.records ++ [a]⟩)

/-- Replace the record of the same payment, number and identifier. -/
def update (s : AttemptStore) (a : Attempt) : Except StoreError Unit × AttemptStore :=
  match s.get? a.payment a.number with
  | some stored =>
    if stored.id = a.id then
      (.ok (), ⟨s.records.map fun r => if isAttempt a.payment a.number r then a else r⟩)
    else (.error ⟨.notFound, "retry attempt " ++ a.id.render⟩, s)
  | none => (.error ⟨.notFound, "retry attempt " ++ a.id.render⟩, s)

/-- The attempts of a payment in increasing order of their numbers. -/
def ofPayment (s : AttemptStore) (payment : PaymentId) : List Attempt :=
  (s.records.filter fun a => a.payment == payment).mergeSort fun a b => a.number ≤ b.number

/-- Answer a request. -/
def respond (s : AttemptStore) : (request : AttemptRequest) → request.Answer × AttemptStore
  | .insert attempt => s.insert attempt
  | .update attempt => s.update attempt
  | .get payment number => (.ok (s.get? payment number), s)
  | .ofPayment payment => (.ok (s.ofPayment payment), s)

end AttemptStore

end Dunning
