import Dunning.Ident
import Dunning.Time.Wire

/-!
# Work items

A work item is a unit of deferred work on a queue, due at some time on behalf of an owner. While a
dispatcher works on it the item is claimed: it carries the claimer's name and the end of the lease.
An item ends processed, cancelled or dead-lettered; until then it is available.

## Main definitions

* `ItemStatus`, `NewItem`, `Item` — the record.
* `Item.isClaimed`, `Item.isEligible` — whether an item may be claimed at a time.
-/

namespace Dunning

/-- The lifecycle of an item. -/
inductive ItemStatus where
  /-- Waiting for its time, or claimed. -/
  | available
  /-- Handled, or dropped because nobody handles its queue. -/
  | processed
  /-- Withdrawn before it ran. -/
  | cancelled
  /-- Given up. -/
  | deadLettered
  deriving Repr, DecidableEq, Inhabited

namespace ItemStatus

/-- The stored name. -/
def name : ItemStatus → String
  | .available => "available"
  | .processed => "processed"
  | .cancelled => "cancelled"
  | .deadLettered => "dead_lettered"

/-- The status of a stored name. -/
def parse? : String → Option ItemStatus
  | "available" => some .available
  | "processed" => some .processed
  | "cancelled" => some .cancelled
  | "dead_lettered" => some .deadLettered
  | _ => none

/-- Whether the item has ended. -/
def isTerminal (s : ItemStatus) : Bool := s != .available

/-- A status as a document. -/
def toJson (s : ItemStatus) : Json := .string s.name

/-- The status of a document. -/
def decode? (n : Node) : Option ItemStatus := n.variant? parse? false

end ItemStatus

/-- The account whose key an owner is, if it is one. -/
def ownerAccount? (owner : String) : Option AccountId := AccountId.parse? owner

/-- Work to be scheduled. It is not handed out before it is due; a time in the past means at once.
-/
structure NewItem where
  queue : String
  owner : String
  dueAt : Instant
  payload : Json

/-- A unit of deferred work. -/
structure Item where
  id : ItemId
  queue : String
  owner : String
  dueAt : Instant
  payload : Json
  createdAt : Instant
  updatedAt : Instant
  /-- The dispatcher that holds the lease. -/
  claimedBy : Option String
  leaseEnd : Option Instant
  /-- Failed invocations so far. -/
  attempts : UInt32
  status : ItemStatus
  lastError : Option String

namespace Item

/-- A new item, available from its due time on. -/
def ofNew (id : ItemId) (new : NewItem) (now : Instant) : Item where
  id
  queue := new.queue
  owner := new.owner
  dueAt := new.dueAt
  payload := new.payload
  createdAt := now
  updatedAt := now
  claimedBy := none
  leaseEnd := none
  attempts := 0
  status := .available
  lastError := none

/-- Whether a lease is running at a time; its last moment counts. -/
def isClaimed (i : Item) (now : Instant) : Bool := i.leaseEnd.any (now ≤ ·)

/-- Whether the item is due, not leased and not ended. -/
def isEligible (i : Item) (now : Instant) : Bool :=
  i.status == .available && decide (i.dueAt ≤ now) && !i.isClaimed now

/-- The item without a claim. -/
def unclaimed (i : Item) : Item := { i with claimedBy := none, leaseEnd := none }

/-- An item as a document. -/
def toJson (i : Item) : Json :=
  .object
    [("id", i.id.toJson), ("queue", .string i.queue), ("owner_key", .string i.owner),
     ("effective_at", i.dueAt.toJson), ("payload", i.payload), ("created_at", i.createdAt.toJson),
     ("updated_at", i.updatedAt.toJson), ("claim_owner", Json.ofOption .string i.claimedBy),
     ("claim_expires_at", Json.ofOption Instant.toJson i.leaseEnd),
     ("attempts", .nat i.attempts.toNat), ("status", i.status.toJson),
     ("last_error", Json.ofOption .string i.lastError)]

/-- The fields of an item. -/
def shape : Shape :=
  ⟨[field "id", field "queue", field "owner_key", field "effective_at", field "payload",
    field "created_at", field "updated_at", field "claim_owner", field "claim_expires_at",
    field "attempts", field "status", field "last_error"], false⟩

/-- A payload, which is read whole and nests one level less than its item. -/
def payload? (n : Node) : Option Json :=
  if n.depth < Node.maxDepth then n.toJson? else none

/-- The item of a document. -/
def decode? (n : Node) : Option Item := do
  let entries ← shape.entries? n
  let id ← entries.required "id" ItemId.decode?
  let queue ← entries.required "queue" Node.string?
  let owner ← entries.required "owner_key" Node.string?
  let dueAt ← entries.required "effective_at" Instant.decode?
  let payload ← entries.required "payload" payload?
  let createdAt ← entries.required "created_at" Instant.decode?
  let updatedAt ← entries.required "updated_at" Instant.decode?
  let claimedBy ← entries.optional "claim_owner" Node.string?
  let leaseEnd ← entries.optional "claim_expires_at" Instant.decode?
  let attempts ← entries.required "attempts" Node.uint32?
  let status ← entries.required "status" ItemStatus.decode?
  let lastError ← entries.optional "last_error" Node.string?
  pure { id, queue, owner, dueAt, payload, createdAt, updatedAt, claimedBy, leaseEnd, attempts,
         status, lastError }

end Item

/-- Counters of a queue. -/
structure QueueStats where
  available : Nat := 0
  claimed : Nat := 0
  processed : Nat := 0
  cancelled : Nat := 0
  deadLettered : Nat := 0
  deriving Repr, DecidableEq

/-- Counters as a document. -/
def QueueStats.toJson (s : QueueStats) : Json :=
  .object
    [("available", .nat s.available), ("claimed", .nat s.claimed), ("processed", .nat s.processed),
     ("cancelled", .nat s.cancelled), ("dead_lettered", .nat s.deadLettered)]

end Dunning
