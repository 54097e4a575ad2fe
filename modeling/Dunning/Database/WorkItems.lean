import Dunning.Database.Session
import Dunning.Json.Printer
import Dunning.Work.Store

/-!
# The table of work items

The store of work items in the database. Every request is one statement, so any number of
dispatchers can share the table; a settlement that affects no row asks whether the item exists at
all.

## Main definitions

* `readItem` — an item out of a row.
* `settleStatement` — the statement of a settlement.
* `WorkItems.carry` — every request of `WorkRequest`.
-/

namespace Dunning.Database.WorkItems

/-- The columns of an item. -/
def columns : String :=
  "id, queue_name, owner_key, effective_at, payload, created_at, updated_at, claim_owner, " ++
    "claim_expires_at, attempts, status, last_error"

/-! ## Reading -/

/-- The columns of an item before its status is understood. -/
def readColumns (row : Row) : Except DatabaseError (Item × String) := do
  let id ← required uuid? row "id"
  let queue ← required text? row "queue_name"
  let owner ← required text? row "owner_key"
  let dueAt ← required instant? row "effective_at"
  let payload ← required json? row "payload"
  let createdAt ← required instant? row "created_at"
  let updatedAt ← required instant? row "updated_at"
  let claimedBy ← optional text? row "claim_owner"
  let leaseEnd ← optional instant? row "claim_expires_at"
  let attempts ← required int4? row "attempts"
  let status ← required text? row "status"
  let lastError ← optional text? row "last_error"
  pure
    ({ id := ⟨id⟩, queue, owner, dueAt, payload, createdAt, updatedAt, claimedBy, leaseEnd
       attempts := UInt32.ofNat (clampedNat attempts.toInt), status := .available, lastError },
      status)

/-- An item out of a row. -/
def readItem (row : Row) : Except StoreError Item :=
  match stored "decode work item" (readColumns row) with
  | .error e => .error e
  | .ok (item, name) =>
    match ItemStatus.parse? name with
    | some status => .ok { item with status }
    | none => .error ⟨.serialization, "unknown work item status '" ++ name ++ "'"⟩

/-- Send a statement and read its items. -/
def items (operation : String) (statement : Statement) :
    Session (Except StoreError (List Item)) := do
  match ← Session.rows operation statement with
  | .error e => pure (.error e)
  | .ok rows => pure (readAll readItem rows)

/-! ## Statements -/

/-- Add an item. -/
def enqueueStatement (id : Uuid) (new : NewItem) : Statement where
  text :=
    "INSERT INTO work_items (id, queue_name, owner_key, effective_at, payload, created_at, " ++
      "updated_at, attempts, status) VALUES ($1, $2, $3, $4, $5, now(), now(), 0, 'available')"
  args :=
    [.ofUuid id, .ofText new.queue, .ofText new.owner, .ofInstant new.dueAt,
     some (.json new.payload.render)]

/-- Lease due items. -/
def claimStatement (queue : String) (now leaseEnd : Instant) (batch : Nat) (claimer : String) :
    Statement where
  text :=
    "UPDATE work_items SET claim_owner = $4, claim_expires_at = $3, updated_at = $2 WHERE id IN " ++
      "( SELECT id FROM work_items WHERE queue_name = $1 AND status = 'available' AND " ++
      "effective_at <= $2 AND (claim_expires_at IS NULL OR claim_expires_at < $2) ORDER BY " ++
      "effective_at ASC, created_at ASC LIMIT $5 FOR UPDATE SKIP LOCKED ) RETURNING " ++ columns
  args :=
    [.ofText queue, .ofInstant now, .ofInstant leaseEnd, .ofText claimer, .wrapping batch]

/-- The name of a settlement's operation. -/
def operationOf : Settlement → String
  | .complete => "complete"
  | .release => "release"
  | .reschedule _ => "reschedule"
  | .recordFailure .. => "record_failure"
  | .deadLetter _ => "dead_letter"

/-- Settle an item while the claim is still the claimer's. -/
def settleStatement (id : ItemId) (claimer : String) : Settlement → Statement
  | .complete =>
    ⟨"UPDATE work_items SET status = 'processed', claim_owner = NULL, claim_expires_at = NULL, " ++
      "updated_at = now() WHERE id = $1 AND status = 'available' AND claim_owner = $2",
      [.ofUuid id.uuid, .ofText claimer]⟩
  | .release =>
    ⟨"UPDATE work_items SET claim_owner = NULL, claim_expires_at = NULL, updated_at = now() " ++
      "WHERE id = $1 AND claim_owner = $2",
      [.ofUuid id.uuid, .ofText claimer]⟩
  | .reschedule due =>
    ⟨"UPDATE work_items SET effective_at = $3, claim_owner = NULL, claim_expires_at = NULL, " ++
      "updated_at = now() WHERE id = $1 AND claim_owner = $2",
      [.ofUuid id.uuid, .ofText claimer, .ofInstant due]⟩
  | .recordFailure error retryAt =>
    ⟨"UPDATE work_items SET attempts = attempts + 1, last_error = $3, effective_at = $4, " ++
      "claim_owner = NULL, claim_expires_at = NULL, updated_at = now() WHERE id = $1 AND " ++
      "claim_owner = $2",
      [.ofUuid id.uuid, .ofText claimer, .ofText error, .ofInstant retryAt]⟩
  | .deadLetter reason =>
    ⟨"UPDATE work_items SET status = 'dead_lettered', attempts = attempts + 1, last_error = $3, " ++
      "claim_owner = NULL, claim_expires_at = NULL, updated_at = now() WHERE id = $1 AND " ++
      "status = 'available' AND claim_owner = $2",
      [.ofUuid id.uuid, .ofText claimer, .ofText reason]⟩

/-- Withdraw an item. -/
def cancelStatement (id : ItemId) : Statement :=
  ⟨"UPDATE work_items SET status = 'cancelled', claim_owner = NULL, claim_expires_at = NULL, " ++
    "updated_at = now() WHERE id = $1 AND status = 'available'", [.ofUuid id.uuid]⟩

/-- Whether an item exists. -/
def existsStatement (id : ItemId) : Statement :=
  ⟨"SELECT EXISTS (SELECT 1 FROM work_items WHERE id = $1)", [.ofUuid id.uuid]⟩

/-- Withdraw the items of an owner that wait for a later time. -/
def cancelPendingStatement (queue owner : String) (now : Instant) : Statement :=
  ⟨"UPDATE work_items SET status = 'cancelled', updated_at = $3 WHERE queue_name = $1 AND " ++
    "owner_key = $2 AND status = 'available' AND effective_at > $3 AND (claim_expires_at IS " ++
    "NULL OR claim_expires_at < $3)", [.ofText queue, .ofText owner, .ofInstant now]⟩

/-- The items of an owner that have not ended. -/
def pendingStatement (queue owner : String) : Statement :=
  ⟨"SELECT " ++ columns ++ " FROM work_items WHERE queue_name = $1 AND owner_key = $2 AND " ++
    "status = 'available' ORDER BY effective_at ASC, created_at ASC",
    [.ofText queue, .ofText owner]⟩

/-- The item of an identifier. -/
def getStatement (id : ItemId) : Statement :=
  ⟨"SELECT " ++ columns ++ " FROM work_items WHERE id = $1", [.ofUuid id.uuid]⟩

/-- The items of a queue that were given up. -/
def deadLettersStatement (queue : String) (limit : Nat) : Statement :=
  ⟨"SELECT " ++ columns ++ " FROM work_items WHERE queue_name = $1 AND status = " ++
    "'dead_lettered' ORDER BY updated_at ASC LIMIT $2", [.ofText queue, .wrapping limit]⟩

/-- The counters of a queue. -/
def statsStatement (queue : String) (now : Instant) : Statement :=
  ⟨"SELECT COUNT(*) FILTER (WHERE status = 'available' AND (claim_expires_at IS NULL OR " ++
    "claim_expires_at < $2)) AS available, COUNT(*) FILTER (WHERE status = 'available' AND " ++
    "claim_expires_at >= $2) AS claimed, COUNT(*) FILTER (WHERE status = 'processed') AS " ++
    "processed, COUNT(*) FILTER (WHERE status = 'cancelled') AS cancelled, COUNT(*) FILTER " ++
    "(WHERE status = 'dead_lettered') AS dead_lettered FROM work_items WHERE queue_name = $1",
    [.ofText queue, .ofInstant now]⟩

/-- Mark an owner as closed. -/
def markStatement (id : Uuid) (owner : String) (now : Instant) : Statement where
  text :=
    "INSERT INTO work_items (id, queue_name, owner_key, effective_at, payload, created_at, " ++
      "updated_at, attempts, status) VALUES ($1, $2, $3, $4, 'null'::jsonb, $4, $4, 0, " ++
      "'processed')"
  args := [.ofUuid id, .ofText cancellationQueue, .ofText owner, .ofInstant now]

/-- Whether an owner is marked as closed. -/
def isMarkedStatement (owner : String) : Statement :=
  ⟨"SELECT EXISTS (SELECT 1 FROM work_items WHERE queue_name = $1 AND owner_key = $2)",
    [.ofText cancellationQueue, .ofText owner]⟩

/-! ## Requests -/

/-- The truth value in the first column of the first row. -/
def truth (operation : String) (statement : Statement) : Session (Except StoreError Bool) := do
  match ← Session.row operation statement with
  | .error e => pure (.error e)
  | .ok row => pure (stored operation (firstBool row))

/-- The end of a write that affected no row: false when the item exists. -/
def unchanged (operation : String) (id : ItemId) : Session (Except StoreError Bool) := do
  match ← truth operation (existsStatement id) with
  | .error e => pure (.error e)
  | .ok true => pure (.ok false)
  | .ok false => pure (.error (WorkStore.unknownItem id))

/-- A write on one item that counts when the affected rows are as they should be. -/
def write (operation : String) (id : ItemId) (statement : Statement) (counts : Nat → Bool) :
    Session (Except StoreError Bool) := do
  match ← Session.execute operation statement with
  | .error e => pure (.error e)
  | .ok affected => if counts affected then pure (.ok true) else unchanged operation id

/-- Record a new item. -/
def enqueue (new : NewItem) : Session (Except StoreError ItemId) := do
  let id ← Session.freshId
  pure ((← Session.execute "enqueue" (enqueueStatement id new)).map fun _ => ⟨id⟩)

/-- Lease due items, the longest due first. A lease that would end beyond the calendar gives up. -/
def claimDue (queue : String) (now : Instant) (lease : Span) (batch : Nat) (claimer : String) :
    Session (Except StoreError (List Item)) :=
  match now.plus? lease.asDelay with
  | none => Session.giveUp
  | some leaseEnd => do
    pure ((← items "claim_due" (claimStatement queue now leaseEnd batch claimer)).map
      WorkStore.byDue)

/-- The counters in a row. -/
def readStats (row : Row) : Except DatabaseError QueueStats := do
  let count (name : String) : Except DatabaseError Nat :=
    (required int8? row name).map fun n => clampedNat n.toInt
  let available ← count "available"
  let claimed ← count "claimed"
  let processed ← count "processed"
  let cancelled ← count "cancelled"
  let deadLettered ← count "dead_lettered"
  pure { available, claimed, processed, cancelled, deadLettered }

/-- The counters of a queue. -/
def stats (queue : String) (now : Instant) : Session (Except StoreError QueueStats) := do
  match ← Session.row "stats" (statsStatement queue now) with
  | .error e => pure (.error e)
  | .ok row => pure (stored "stats" (readStats row))

/-- Mark an owner as closed. -/
def markOwnerCancelled (owner : String) (now : Instant) : Session (Except StoreError Unit) := do
  let id ← Session.freshId
  pure ((← Session.execute "mark_owner_cancelled" (markStatement id owner now)).map fun _ => ())

/-- Carry a request to the store of work items out in the database. -/
def carry : (request : WorkRequest) → Session request.Answer
  | .enqueue new => enqueue new
  | .claimDue queue now lease batch claimer => claimDue queue now lease batch claimer
  | .settle id claimer settlement =>
    write (operationOf settlement) id (settleStatement id claimer settlement) (0 < ·)
  | .cancel id => write "cancel" id (cancelStatement id) (· == 1)
  | .cancelPending queue owner now =>
    Session.execute "cancel_pending" (cancelPendingStatement queue owner now)
  | .pendingForOwner queue owner => items "pending_for_owner" (pendingStatement queue owner)
  | .get id => do pure ((← items "get" (getStatement id)).map List.head?)
  | .deadLetters queue limit => items "list_dead_letters" (deadLettersStatement queue limit)
  | .stats queue now => stats queue now
  | .markOwnerCancelled owner now => markOwnerCancelled owner now
  | .isOwnerCancelled owner => truth "is_owner_cancelled" (isMarkedStatement owner)

end Dunning.Database.WorkItems
