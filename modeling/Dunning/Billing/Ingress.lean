import Dunning.Billing.Event
import Dunning.Overdue.Engine
import Dunning.Request
import Dunning.Work.Payload

/-!
# Billing events become work

Every event schedules one item on the queue that it concerns, except the closing of an account: that
marks the owner and withdraws what is scheduled for later.

## Main definitions

* `BillingEvent.item?` — the item of an event.
* `BillingEvent.publish` — scheduling an event.
-/

namespace Dunning

/-- The queues whose later items are withdrawn when an account closes. -/
def accountQueues : List String := [refreshQueue, retryQueue, billingDateQueue]

namespace BillingEvent

/-- The owner of the work for an event. -/
def owner (event : BillingEvent) : String := event.account.render

/-- The item of an event, if it has one. -/
def item? (event : BillingEvent) : Option NewItem :=
  match event with
  | .invoiceCreated _ _ _ dueAt _ => some (refreshItem event.owner dueAt "invoice due")
  | .invoiceDue _ _ occurredAt => some (refreshItem event.owner occurredAt "invoice due")
  | .paymentSucceeded _ _ _ occurredAt =>
    some (refreshItem event.owner occurredAt "payment succeeded")
  | .billingDateScheduled _ targetDate _ =>
    some ⟨billingDateQueue, event.owner, targetDate, (⟨targetDate⟩ : BillingDatePayload).toJson⟩
  | .paymentFailed account payment amount failure occurredAt =>
    some ⟨retryQueue, event.owner, occurredAt,
      (RetryPayload.initialFailure payment account amount failure occurredAt).toJson⟩
  | .accountClosed .. => none

/-- Withdraw the later items of an owner from some queues, up to the first failure. -/
def withdraw (owner : String) (now : Instant) : List String → Program (Except StoreError Unit)
  | [] => pure (.ok ())
  | queue :: rest =>
    (Program.cancelPending queue owner now).bind fun
      | .ok _ => withdraw owner now rest
      | .error error => pure (.error error)

/-- Close an account: first mark it, then withdraw what is scheduled for later. -/
def close (owner : String) (now : Instant) : Program (Except StoreError Unit) :=
  (Program.markOwnerCancelled owner now).bind fun
    | .ok () => withdraw owner now accountQueues
    | .error error => pure (.error error)

/-- Schedule the work of an event: the new item, or none for the closing of an account. -/
def publish (event : BillingEvent) : Program (Except StoreError (Option ItemId)) :=
  match event.item? with
  | some item => do pure ((← Program.enqueue item).map some)
  | none => do pure ((← close event.owner event.occurredAt).map fun _ => none)

end BillingEvent

end Dunning
