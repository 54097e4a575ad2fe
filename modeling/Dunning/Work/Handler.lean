import Dunning.Text.Quoted
import Dunning.Work.Item

/-!
# Handlers

A handler processes the items of one queue and says what becomes of the item.

## Main definitions

* `HandlerOutcome`, `HandlerError` — what a handler says.
* `HandlerContext` — what it is told beside the item.
* `QueueTable` — handlers by queue.
-/

namespace Dunning

/-- What a handler did with an item. -/
inductive HandlerOutcome where
  /-- The item is done. -/
  | done
  /-- The item is to run again at a time. This is no failure. -/
  | rescheduleAt (due : Instant)
  /-- The item is given back at once. -/
  | release
  deriving DecidableEq

/-- Why a handler failed. -/
inductive HandlerError where
  /-- A later invocation may succeed; counted against the retry budget. -/
  | transient (reason : String)
  /-- No invocation will succeed. -/
  | permanent (reason : String)
  deriving Repr, DecidableEq

/-- The wording of a failure. -/
def HandlerError.message : HandlerError → String
  | .transient reason => "transient handler failure: " ++ reason
  | .permanent reason => "permanent handler failure: " ++ reason

/-- What an invocation is told beside the item. -/
structure HandlerContext where
  /-- The clock when the item was claimed. -/
  now : Instant
  /-- Failed invocations before this one. -/
  attempt : UInt32 := 0
  /-- Whether the item's owner is closed. -/
  ownerCancelled : Bool := false
  /-- Who holds the lease. -/
  dispatcher : String := "direct"
  deriving DecidableEq

/-- One handler for each queue, in increasing order of the queues. -/
structure QueueTable (α : Type) where
  entries : List (String × α) := []

namespace QueueTable

variable {α : Type}

/-- Put a handler into a list in increasing order; one of the same queue is replaced. -/
def insert (queue : String) (handler : α) : List (String × α) → List (String × α)
  | [] => [(queue, handler)]
  | (other, h) :: rest =>
    if queue < other then (queue, handler) :: (other, h) :: rest
    else if queue = other then (queue, handler) :: rest
    else (other, h) :: insert queue handler rest

/-- The table with a handler for a queue. -/
def register (t : QueueTable α) (queue : String) (handler : α) : QueueTable α :=
  ⟨insert queue handler t.entries⟩

/-- The handler of a queue. -/
def get? (t : QueueTable α) (queue : String) : Option α := t.entries.lookup queue

/-- The queues in increasing order. -/
def queues (t : QueueTable α) : List String := t.entries.map Prod.fst

/-- Whether no queue has a handler. -/
def isEmpty (t : QueueTable α) : Bool := t.entries.isEmpty

/-- How the table describes itself. -/
def shown (t : QueueTable α) : String :=
  Text.described "HandlerRegistry" "queues"
    (Text.listed (t.queues.map fun q => "QueueName(" ++ Text.quoted q ++ ")"))

end QueueTable

end Dunning
