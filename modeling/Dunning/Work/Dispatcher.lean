import Dunning.Work.Counters
import Dunning.Work.DispatcherConfig
import Dunning.Work.Handler
import Dunning.Work.Request

/-!
# The dispatcher

A dispatcher polls its queues: it leases due items, has their handlers run and settles the items
according to what the handlers say. Failures of handlers are counted against the backoff policy;
failures of the store never reach a handler.

One handler runs at a time. An item is started when the item before it is settled, and it runs when
the poll next waits; so the last item started runs after the claims of the queues that follow, up to
the next queue that yields an item.

## Main definitions

* `PollRequest` — what a poll asks of its surroundings.
* `Dispatcher` — the settings and the queues that have handlers.
* `Dispatcher.settlement` — what becomes of an item, given the end of its handler's run.
* `Dispatcher.settle` — writing a settlement, at most three times.
* `Dispatcher.poll` — one round over the queues.
* `Dispatcher.restAfter` — how long the polling loop rests after a poll.
-/

namespace Dunning

/-- How the run of a handler ended. -/
inductive HandlerRun where
  | returned (result : Except HandlerError HandlerOutcome)
  /-- The run took longer than allowed. -/
  | timedOut
  | panicked

/-- What a poll asks of its surroundings. -/
inductive PollRequest where
  | work (request : WorkRequest)
  /-- Run the handler of the item's queue within the allowed time. -/
  | invoke (item : Item) (context : HandlerContext)
  | count (counter : Counter) (n : Nat)
  /-- Report an item that was given up. -/
  | reportDead (item : Item) (reason : String)

/-- The answer to a request of a poll. -/
@[reducible] def PollRequest.Answer : PollRequest → Type
  | .work request => request.Answer
  | .invoke .. => HandlerRun
  | .count .. => Unit
  | .reportDead .. => Unit

/-- A task of a dispatcher. -/
abbrev PollTask (α : Type) : Type := Task PollRequest PollRequest.Answer α

/-- Count up. -/
def PollTask.count (counter : Counter) (n : Nat) : PollTask Unit := .ask (.count counter n) .done

/-- Report an item that was given up. -/
def PollTask.reportDead (item : Item) (reason : String) : PollTask Unit :=
  .ask (.reportDead item reason) .done

/-- A dispatcher: its settings and the queues that have handlers. -/
structure Dispatcher where
  config : DispatcherConfig
  /-- In increasing order. -/
  handled : List String

namespace Dispatcher

/-- The queues of a poll, in order. -/
def queues (d : Dispatcher) : List String :=
  if d.config.queues.isEmpty then d.handled else d.config.queues

/-! ## Settling -/

/-- How often a settlement is tried. -/
def settleTries : Nat := 3

/-- Write a settlement, with a number of tries left. A dead letter is reported once it is written.
-/
def settleWithin (d : Dispatcher) (item : Item) (settlement : Settlement) : Nat → PollTask Unit
  | 0 => pure ()
  | tries + 1 =>
    .ask (.work (.settle item.id d.config.name settlement)) fun (answer : Except StoreError Bool) =>
      match answer with
      | .ok true =>
        match settlement with
        | .deadLetter reason => PollTask.reportDead item reason
        | _ => pure ()
      | .ok false => PollTask.count .lostClaims 1
      | .error e =>
        (PollTask.count .storageErrors 1).bind fun _ =>
          if e.isTransient then d.settleWithin item settlement tries else pure ()

/-- Write a settlement. One that cannot be written leaves the item to the end of its lease. -/
def settle (d : Dispatcher) (item : Item) (settlement : Settlement) : PollTask Unit :=
  d.settleWithin item settlement settleTries

/-- What becomes of an item whose handler failed, and the counters that grow. Without a settlement
the next due time is beyond the calendar. -/
def failureSettlement (d : Dispatcher) (item : Item) (reason : String) (now : Instant) :
    List Counter × Option Settlement :=
  let failures := item.attempts + 1
  if d.config.backoff.allows failures then
    ([.failed],
      (now.plus? (d.config.backoff.delay failures).asDelay).map fun retryAt =>
        .recordFailure reason retryAt)
  else ([.failed, .deadLettered], some (.deadLetter reason))

/-- The text of a run that took too long. -/
def timeoutReason (d : Dispatcher) : String :=
  "handler timed out after " ++ toString d.config.handlerTimeout.millis ++ "ms"

/-- What becomes of an item, given the end of its handler's run, and the counters that grow. -/
def settlement (d : Dispatcher) (item : Item) (now : Instant) :
    HandlerRun → List Counter × Option Settlement
  | .returned (.ok .done) => ([.succeeded], some .complete)
  | .returned (.ok (.rescheduleAt due)) => ([.rescheduled], some (.reschedule due))
  | .returned (.ok .release) => ([.released], some .release)
  | .returned (.error (.permanent reason)) => ([.deadLettered], some (.deadLetter reason))
  | .returned (.error (.transient reason)) => d.failureSettlement item reason now
  | .timedOut =>
    let (counters, settlement) := d.failureSettlement item d.timeoutReason now
    (.timeouts :: counters, settlement)
  | .panicked =>
    let (counters, settlement) := d.failureSettlement item "handler panicked" now
    (.panics :: counters, settlement)

/-! ## Processing an item -/

/-- Count some counters up by one. -/
def countAll : List Counter → PollTask Unit
  | [] => pure ()
  | counter :: rest => (PollTask.count counter 1).bind fun _ => countAll rest

/-- What a handler is told beside the item. -/
def context (d : Dispatcher) (item : Item) (now : Instant) (ownerCancelled : Bool) :
    HandlerContext :=
  { now, attempt := item.attempts, ownerCancelled, dispatcher := d.config.name }

/-- Run the handler of an item and settle the item. -/
def handle (d : Dispatcher) (item : Item) (now : Instant) (ownerCancelled : Bool) : PollTask Unit :=
  .ask (.invoke item (d.context item now ownerCancelled)) fun (run : HandlerRun) =>
    let (counters, settlement) := d.settlement item now run
    (countAll counters).bind fun _ =>
      match settlement with
      | some settlement => d.settle item settlement
      | none => pure ()

/-- Process a claimed item. An item of a queue without a handler is dropped; one whose owner cannot
be looked up is left to the end of its lease. -/
def process (d : Dispatcher) (item : Item) (now : Instant) : PollTask Unit :=
  if d.handled.contains item.queue then
    .ask (.work (.isOwnerCancelled item.owner)) fun (answer : Except StoreError Bool) =>
      match answer with
      | .ok ownerCancelled => d.handle item now ownerCancelled
      | .error _ => PollTask.count .storageErrors 1
  else
    (PollTask.count .poisoned 1).bind fun _ => d.settle item .complete

/-! ## Polling -/

/-- How far a poll has come. -/
structure Progress where
  /-- The item started last, which has not run yet. -/
  started : Option Item := none
  claimed : Nat := 0
  /-- The first failed claim. -/
  error : Option StoreError := none

/-- Let the item started last run. -/
def finish (d : Dispatcher) (now : Instant) : Option Item → PollTask Unit
  | none => pure ()
  | some item => d.process item now

/-- Start items one after another; the last one is left to run later. -/
def startAll (d : Dispatcher) (now : Instant) (started : Option Item) :
    List Item → PollTask (Option Item)
  | [] => pure started
  | item :: rest => (d.finish now started).bind fun _ => d.startAll now (some item) rest

/-- Claim the items of a queue and start them. -/
def pollQueue (d : Dispatcher) (now : Instant) (queue : String) (progress : Progress) :
    PollTask Progress :=
  .ask (.work (.claimDue queue now d.config.lease d.config.batchSize d.config.name))
    fun (answer : Except StoreError (List Item)) =>
      match answer with
      | .ok items =>
        (PollTask.count .claimed items.length).bind fun _ =>
          (d.startAll now progress.started items).bind fun started =>
            pure { progress with started, claimed := progress.claimed + items.length }
      | .error e =>
        (PollTask.count .storageErrors 1).bind fun _ =>
          pure { progress with error := progress.error.or (some e) }

/-- Poll queues one after another. -/
def pollQueues (d : Dispatcher) (now : Instant) :
    List String → Progress → PollTask Progress
  | [], progress => pure progress
  | queue :: rest, progress =>
    (d.pollQueue now queue progress).bind fun progress => d.pollQueues now rest progress

/-- One round over the queues at a time: the number of claimed items, or the first failed claim. A
failed claim does not keep the other queues from being polled. -/
def poll (d : Dispatcher) (now : Instant) : PollTask (Except StoreError Nat) :=
  (PollTask.count .polls 1).bind fun _ =>
    (d.pollQueues now d.queues {}).bind fun progress =>
      (d.finish now progress.started).bind fun _ =>
        pure (match progress.error with
          | some e => .error e
          | none => .ok progress.claimed)

/-! ## The polling loop -/

/-- The rest after a poll, and the backoff to start from at the next failed claim: the poll interval
after a success, a growing rest after failures in a row. -/
def restAfter (config : DispatcherConfig) (backoff : Option Span) (succeeded : Bool) :
    Span × Option Span :=
  if succeeded then (config.pollInterval, none)
  else
    let rest := config.nextStorageBackoff backoff
    (rest, some rest)

end Dispatcher

end Dunning
