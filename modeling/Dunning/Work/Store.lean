import Dunning.Work.Request

/-!
# The store of work items in memory

The store keeps every item it was given, in the order of creation. Claims exclude one another: an
item is leased only when it is due, has not ended and is under no running lease. A settlement counts
only while the claim it ends is still the claimer's.

A claim takes the items that are due the longest; among those the ones created first, and then the
ones of smaller identifier. Queues are listed by due time; items due at the same time keep the order
of creation.

## Main definitions

* `WorkStore` — the items.
* `WorkStore.claim`, `WorkStore.settle` — leasing items and settling them.
* `WorkStore.respond` — every request of `WorkRequest`. There is no answer only for a lease that
  ends beyond the calendar.
-/

namespace Dunning

/-- The queue of the marks of closed owners, which no dispatcher looks at. -/
def cancellationQueue : String := "_cancel"

/-- Items in the order of creation. -/
structure WorkStore where
  items : List Item := []

namespace WorkStore

/-- The item of an identifier. -/
def get? (s : WorkStore) (id : ItemId) : Option Item :=
  s.items.find? fun i => i.id == id

/-- Change the item of an identifier. -/
def modify (s : WorkStore) (id : ItemId) (change : Item → Item) : WorkStore :=
  ⟨s.items.map fun i => if i.id = id then change i else i⟩

/-! ## Order -/

/-- Earlier due first, then earlier created. -/
def dueBefore (a b : Item) : Bool :=
  decide (a.dueAt < b.dueAt) || (decide (a.dueAt = b.dueAt) && decide (a.createdAt ≤ b.createdAt))

/-- Items by due time. -/
def byDue (items : List Item) : List Item := items.mergeSort dueBefore

/-- Earlier due first, then earlier created, then smaller identifier first. -/
def claimedBefore (a b : Item) : Bool :=
  decide (a.dueAt < b.dueAt) || (decide (a.dueAt = b.dueAt) &&
    (decide (a.createdAt < b.createdAt) || (decide (a.createdAt = b.createdAt) &&
      decide (a.id.uuid.toNat ≤ b.id.uuid.toNat))))

/-! ## Writes -/

/-- Add a new item. -/
def enqueue (s : WorkStore) (id : ItemId) (new : NewItem) (clock : Instant) : WorkStore :=
  ⟨s.items ++ [Item.ofNew id new clock]⟩

/-- The item under a new lease. -/
def leased (claimer : String) (leaseEnd now : Instant) (i : Item) : Item :=
  { i with claimedBy := some claimer, leaseEnd := some leaseEnd, updatedAt := now }

/-- The items of a queue that may be claimed, in the order in which they are. -/
def claimable (s : WorkStore) (queue : String) (now : Instant) : List Item :=
  (s.items.filter fun i => i.queue == queue && i.isEligible now).mergeSort claimedBefore

/-- Lease the first claimable items of a queue until a moment. -/
def claimUntil (s : WorkStore) (queue : String) (now leaseEnd : Instant) (batch : Nat)
    (claimer : String) : List Item × WorkStore :=
  let taken := (s.claimable queue now).take batch
  (taken.map (leased claimer leaseEnd now),
    ⟨s.items.map fun i =>
      if taken.any fun t => t.id == i.id then leased claimer leaseEnd now i else i⟩)

/-- Lease the first claimable items of a queue, unless the lease would end beyond the calendar. -/
def claim (s : WorkStore) (queue : String) (now : Instant) (lease : Span) (batch : Nat)
    (claimer : String) : Option (List Item × WorkStore) :=
  (now.plus? lease.asDelay).map fun leaseEnd => s.claimUntil queue now leaseEnd batch claimer

/-- The error for an identifier without an item. -/
def unknownItem (id : ItemId) : StoreError := ⟨.notFound, "work item " ++ id.render⟩

/-- Change an item if it lets itself be changed. The time of its last touch moves either way. -/
def touch (s : WorkStore) (id : ItemId) (clock : Instant) (allowed : Item → Bool)
    (change : Item → Item) : Except StoreError Bool × WorkStore :=
  match s.get? id with
  | none => (.error (unknownItem id), s)
  | some item =>
    (.ok (allowed item),
      s.modify id fun i => { (if allowed i then change i else i) with updatedAt := clock })

/-- Settle an item on behalf of a claimer. -/
def settle (s : WorkStore) (id : ItemId) (claimer : String) (settlement : Settlement)
    (clock : Instant) : Except StoreError Bool × WorkStore :=
  s.touch id clock (fun i => i.accepts claimer) settlement.apply

/-- Withdraw an item. -/
def cancel (s : WorkStore) (id : ItemId) (clock : Instant) : Except StoreError Bool × WorkStore :=
  s.touch id clock (fun i => !i.status.isTerminal) fun i =>
    { i.unclaimed with status := .cancelled }

/-- Whether an item of an owner waits for a later time. -/
def waits (queue owner : String) (now : Instant) (i : Item) : Bool :=
  i.queue == queue && i.owner == owner && i.status == .available && decide (now < i.dueAt) &&
    !i.isClaimed now

/-- Withdraw the items of an owner that wait for a later time. -/
def cancelPending (s : WorkStore) (queue owner : String) (now : Instant) : Nat × WorkStore :=
  (s.items.countP (waits queue owner now),
    ⟨s.items.map fun i =>
      if waits queue owner now i then { i with status := .cancelled, updatedAt := now } else i⟩)

/-- The mark of a closed owner: an item that has already ended. -/
def mark (id : ItemId) (owner : String) (now : Instant) : Item :=
  { Item.ofNew id ⟨cancellationQueue, owner, now, .null⟩ now with status := .processed }

/-- Mark an owner as closed. -/
def markOwnerCancelled (s : WorkStore) (id : ItemId) (owner : String) (now : Instant) : WorkStore :=
  ⟨s.items ++ [mark id owner now]⟩

/-! ## Reads -/

/-- Whether an owner is marked as closed. -/
def isOwnerCancelled (s : WorkStore) (owner : String) : Bool :=
  s.items.any fun i => i.queue == cancellationQueue && i.owner == owner

/-- Every item of a queue by due time. -/
def ofQueue (s : WorkStore) (queue : String) : List Item :=
  byDue (s.items.filter fun i => i.queue == queue)

/-- The items of an owner that have not ended, by due time. -/
def pendingForOwner (s : WorkStore) (queue owner : String) : List Item :=
  byDue (s.items.filter fun i => i.queue == queue && i.owner == owner && !i.status.isTerminal)

/-- The items of a queue that were given up, by the time of their last touch. -/
def deadLetters (s : WorkStore) (queue : String) (limit : Nat) : List Item :=
  ((s.items.filter fun i => i.queue == queue && i.status == .deadLettered).mergeSort
    fun a b => decide (a.updatedAt ≤ b.updatedAt)).take limit

/-- The counters of a queue. -/
def stats (s : WorkStore) (queue : String) (now : Instant) : QueueStats :=
  let ofStatus (status : ItemStatus) : List Item :=
    s.items.filter fun i => i.queue == queue && i.status == status
  { available := (ofStatus .available).countP fun i => !i.isClaimed now
    claimed := (ofStatus .available).countP fun i => i.isClaimed now
    processed := (ofStatus .processed).length
    cancelled := (ofStatus .cancelled).length
    deadLettered := (ofStatus .deadLettered).length }

/-! ## All requests -/

/-- Answer a request at a time of the clock, with an unused identifier for whatever is created. -/
def respond (s : WorkStore) (clock : Instant) (fresh : ItemId) :
    (request : WorkRequest) → Option (request.Answer × WorkStore)
  | .enqueue new => some (.ok fresh, s.enqueue fresh new clock)
  | .claimDue queue now lease batch claimer =>
    (s.claim queue now lease batch claimer).map fun (items, s) => (.ok items, s)
  | .settle id claimer settlement => some (s.settle id claimer settlement clock)
  | .cancel id => some (s.cancel id clock)
  | .cancelPending queue owner now =>
    let (count, s) := s.cancelPending queue owner now
    some (.ok count, s)
  | .pendingForOwner queue owner => some (.ok (s.pendingForOwner queue owner), s)
  | .get id => some (.ok (s.get? id), s)
  | .deadLetters queue limit => some (.ok (s.deadLetters queue limit), s)
  | .stats queue now => some (.ok (s.stats queue now), s)
  | .markOwnerCancelled owner now => some (.ok (), s.markOwnerCancelled fresh owner now)
  | .isOwnerCancelled owner => some (.ok (s.isOwnerCancelled owner), s)

end WorkStore

end Dunning
