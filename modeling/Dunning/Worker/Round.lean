import Dunning.Overdue.FactsFile
import Dunning.Worker.Startup

/-!
# The rounds of a worker

A worker polls, rests and polls again until it is told to stop. Account facts come from a file. No
gateway and no invoice generator are connected: charges are refused for good, and billing dates
produce no invoices. Restrictions are only recorded; whoever enforces them reads the overdue status.

What a round has to say follows from what the dispatcher asked and was answered.

## Main definitions

* `Worker.ofRequest` — the surroundings of the handlers.
* `Worker.ofPoll` — a task of the dispatcher.
* `Worker.round` — one poll and the rest after it.
* `Worker.stop` — the end.
-/

namespace Dunning.Worker

/-! ## The surroundings of the handlers -/

/-- What is to be said about a file of account facts. -/
def factsLines (text : Option String) : List LogLine :=
  (FactsFile.strayKeys (text.getD "")).map fun _ =>
    .warn "ignoring facts entry with invalid account id"

/-- The answer to a request of a handler. None when it breaks the handler. -/
def ofRequest (w : Worker) : (request : Request) → WorkerTask (Option request.Answer)
  | .work request => .ofWork request
  | .state request => .ofState request
  | .attempt request => .ofAttempt request
  | .facts account => do
    let text ← WorkerTask.readFile w.factsPath
    WorkerTask.logAll (factsLines text)
    pure (some (FactsFile.lookup w.factsPath text account))
  | .setBlocked .. => do
    WorkerTask.log (.info "entitlement flags changed")
    pure (some (.ok ()))
  | .runHook _ => do
    WorkerTask.log (.info "overdue state transition")
    pure (some (.ok ()))
  | .charge _ => do
    WorkerTask.log (.warn "no payment gateway configured, refusing charge")
    pure (some (.ok (.failed .nonRetryable)))
  | .generateInvoices .. => do
    WorkerTask.log (.info "billing date reached, no invoice generator configured")
    WorkerTask.log (.info "invoices generated")
    pure (some (.ok 0))
  | .activeSet => pure (some w.active.current)
  | .freshId => WorkerTask.freshId.bind fun id => pure (some id)
  | .giveUp => pure none

/-! ## Handlers -/

/-- What is to be said about the end of a follow-up. -/
def directiveLine : RetryDirective → LogLine
  | .exhausted _ => .info "payment retries exhausted"
  | .aborted _ => .info "payment retry aborted by policy"
  | .scheduled _ _ _ (some _) => .info "payment retry scheduled"
  | .scheduled _ _ _ none => .warn "retry already scheduled, nothing to do"

/-- What is to be said about the delivery of a payment attempt. -/
def deliveryLines : Except DeliveryFault RetryDelivery → List LogLine
  | .ok .settledBefore => []
  | .ok (.givenUp _) => [.info "payment attempt aborted"]
  | .ok (.resumed directive) => [directiveLine directive]
  | .ok (.failed directive) => [directiveLine directive, .info "payment retry failed"]
  | .ok (.collected (.ok _)) => [.info "payment collected"]
  | .ok (.collected (.error _)) =>
    [.info "payment collected", .warn "could not schedule overdue refresh after payment"]
  | .error (.followUp _) => [.failedOperation]
  | .error (.other _) => []

/-- What is to be said about an answered request of a look. Restrictions are never refused here, so
every write of a state that succeeds is a change. -/
def lookRequestLines : (request : Request) → request.Answer → List LogLine
  | .state (.save ..), .ok _ => [.info "overdue state changed"]
  | .runHook _, .error _ => [.warn "overdue hook failed"]
  | .work (.cancelPending ..), .error _ => [.warn "could not drop stale re-evaluations"]
  | .work (.enqueue _), .error _ => [.warn "could not schedule re-evaluation"]
  | _, _ => []

/-- What is to be said about the end of a look. A refresh that was begun and failed is a failed
operation. -/
def lookLines : Except LookFault HandlerOutcome → List LogLine
  | .error (.refresh (.facts _)) => []
  | .error (.refresh (.conflictRetriesExhausted ..)) =>
    [.warn "giving up on contended overdue refresh", .failedOperation]
  | .error (.refresh _) => [.failedOperation]
  | _ => []

/-- The end of a handler that may have broken. -/
def ended : Option (Except HandlerError HandlerOutcome) → HandlerRun
  | some result => .returned result
  | none => .panicked

/-- Deliver a payment attempt. -/
def runDelivery (w : Worker) (item : Item) (context : HandlerContext) : WorkerTask HandlerRun := do
  let result ← (w.service.controller.deliver item context).attempt w.ofRequest
  WorkerTask.logAll ((result.map deliveryLines).getD [])
  pure (ended (result.map RetryDelivery.outcome))

/-- The answer to a request of a look, with what is to be said about it. -/
def ofLookRequest (w : Worker) (request : Request) : WorkerTask (Option request.Answer) := do
  let answer ← w.ofRequest request
  WorkerTask.logAll ((answer.map (lookRequestLines request)).getD [])
  pure answer

/-- Look at an account. -/
def runLook (w : Worker) (item : Item) (context : HandlerContext) : WorkerTask HandlerRun := do
  let result ← (w.service.engine.lookAt item context).attempt w.ofLookRequest
  WorkerTask.logAll ((result.map lookLines).getD [])
  pure (ended (result.map fun r => r.mapError LookFault.toHandlerError))

/-- Run the handler of an item. Those of payment attempts and of looks have more to say than the
others. -/
def runHandler (w : Worker) (item : Item) (context : HandlerContext) : WorkerTask HandlerRun :=
  if item.queue = retryQueue then w.runDelivery item context
  else if item.queue = refreshQueue then w.runLook item context
  else ((w.service.handle item context).attempt w.ofRequest).bind fun result => pure (ended result)

/-! ## What a round has to say -/

/-- What is to be said about a run of a handler. -/
def runLines (w : Worker) (item : Item) (context : HandlerContext) (run : HandlerRun) :
    List LogLine :=
  match run, (w.service.dispatcher.settlement item context.now run).2 with
  | .returned (.error (.permanent _)), _ => [.warn "permanent handler failure"]
  | _, some (.recordFailure ..) => [.warn "handler failed, retrying"]
  | _, none => [.error "work item task aborted"]
  | _, _ => []

/-- What is to be said about the write of a settlement, given the number of failed writes before it,
and the number after it. -/
def settleLines (failures : Nat) : Except StoreError Bool → List LogLine × Nat
  | .ok true => ([], 0)
  | .ok false => ([.warn "claim no longer held, settle dropped"], 0)
  | .error e =>
    if e.isTransient ∧ failures + 1 < Dispatcher.settleTries then
      ([.warn "settle failed"], failures + 1)
    else
      ([.warn "settle failed", .error "giving up on settle, leaving item to lease expiry"], 0)

/-- What is to be said about an operation of the dispatcher. -/
def workLines (failures : Nat) : (request : WorkRequest) → request.Answer → List LogLine × Nat
  | .settle .., answer => settleLines failures answer
  | .claimDue .., .error _ => ([.warn "claim failed"], failures)
  | .isOwnerCancelled _, .error _ => ([.warn "cancellation lookup failed"], failures)
  | _, _ => ([], failures)

/-- What is to be said when a counter grows. -/
def countLines : Counter → List LogLine
  | .poisoned => [.warn "no handler registered, dropping poison item"]
  | _ => []

/-! ## Polling -/

/-- A task of the dispatcher, with the number of failed writes of the settlement under way. None
when it breaks off. -/
def ofPoll (w : Worker) {α : Type} : PollTask α → Nat → WorkerTask (Option α)
  | .done value, _ => pure (some value)
  | .ask (.work request) next, failures => do
    match ← WorkerTask.ofWork request with
    | none => pure none
    | some answer =>
      let (lines, failures) := workLines failures request answer
      WorkerTask.logAll lines
      w.ofPoll (next answer) failures
  | .ask (.invoke item context) next, failures => do
    let run ← w.runHandler item context
    WorkerTask.logAll (w.runLines item context run)
    w.ofPoll (next run) failures
  | .ask (.count counter _) next, failures => do
    WorkerTask.logAll (countLines counter)
    w.ofPoll (next ()) failures
  | .ask (.reportDead ..) next, failures => do
    WorkerTask.log (.error "work item dead-lettered")
    w.ofPoll (next ()) failures

/-- What follows a poll: the rest after it and the worker with what the next rest depends on. -/
def afterPoll (w : Worker) (result : Except StoreError Nat) :
    WorkerTask (Option (Span × Worker)) := do
  let succeeded := result.isOk
  WorkerTask.logAll
    (if succeeded then [] else [.error "storage unavailable, backing off"])
  let (rest, backoff) :=
    Dispatcher.restAfter w.service.dispatcher.config w.backoff succeeded
  pure (some (rest, { w with backoff }))

/-- One poll and what follows it. None when the poll broke off; then there are no more. -/
def round (w : Worker) : WorkerTask (Option (Span × Worker)) := do
  let now ← WorkerTask.now
  match ← w.ofPoll (w.service.dispatcher.poll now) 0 with
  | none => pure none
  | some result => w.afterPoll result

/-- Stop after a round. The dispatcher of a round that broke off is gone already. -/
def stop (polling : Bool) : WorkerTask Unit :=
  WorkerTask.logAll
    [.info "shutdown requested",
     if polling then .info "dispatcher stopped" else .error "dispatcher task failed",
     .info "billing core stopped"]

end Dunning.Worker
