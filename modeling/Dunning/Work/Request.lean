import Dunning.StoreError
import Dunning.Task
import Dunning.Work.Settlement

/-!
# What can be asked of a store of work items

The interface of every store of work items, in memory or in a database. Each request is carried out
as a whole; a request that fails has no effect.

## Main definitions

* `WorkRequest`, `WorkRequest.Answer` — the requests and what answers them.
-/

namespace Dunning

/-- A request to a store of work items. -/
inductive WorkRequest where
  /-- Record a new item. -/
  | enqueue (new : NewItem)
  /-- Lease due items of a queue to a claimer until the lease has passed, the longest due first. -/
  | claimDue (queue : String) (now : Instant) (lease : Span) (batch : Nat) (claimer : String)
  /-- Write what becomes of an item. False when the claim is no longer the claimer's. -/
  | settle (id : ItemId) (claimer : String) (settlement : Settlement)
  /-- Withdraw an item that has not ended. False when it has. -/
  | cancel (id : ItemId)
  /-- Withdraw the unclaimed items of an owner that are due later, and count them. -/
  | cancelPending (queue owner : String) (now : Instant)
  /-- The items of an owner that have not ended, the first due first. -/
  | pendingForOwner (queue owner : String)
  | get (id : ItemId)
  /-- The items of a queue that were given up, oldest first. -/
  | deadLetters (queue : String) (limit : Nat)
  | stats (queue : String) (now : Instant)
  /-- Record that nothing more may be done for an owner. -/
  | markOwnerCancelled (owner : String) (now : Instant)
  | isOwnerCancelled (owner : String)

/-- The answer of a store to a request. -/
@[reducible] def WorkRequest.Answer : WorkRequest → Type
  | .enqueue _ => Except StoreError ItemId
  | .claimDue .. => Except StoreError (List Item)
  | .settle .. => Except StoreError Bool
  | .cancel _ => Except StoreError Bool
  | .cancelPending .. => Except StoreError Nat
  | .pendingForOwner .. => Except StoreError (List Item)
  | .get _ => Except StoreError (Option Item)
  | .deadLetters .. => Except StoreError (List Item)
  | .stats .. => Except StoreError QueueStats
  | .markOwnerCancelled .. => Except StoreError Unit
  | .isOwnerCancelled _ => Except StoreError Bool

end Dunning
