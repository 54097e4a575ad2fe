import Dunning.Billing.DateHandler
import Dunning.Billing.Ingress
import Dunning.Payment.RetryHandler
import Dunning.Settings
import Dunning.Work.Dispatcher

/-!
# The service

One process of the billing core: the engine, the controller and the dispatcher, put together from
the settings.

## Main definitions

* `Service`, `ServiceError` — the parts, and why a service does not start.
* `Service.build` — choosing the policy and loading the overdue configuration.
* `Service.handlers` — the handler of each queue.
-/

namespace Dunning

/-- Why a service does not start. -/
inductive ServiceError where
  | unknownPolicy (name : String)
  | config (cause : StateSetError)
  deriving DecidableEq

/-- The wording of a refusal. -/
def ServiceError.message : ServiceError → String
  | .unknownPolicy name => "unknown payment retry policy '" ++ name ++ "'"
  | .config cause => "overdue configuration rejected: " ++ cause.message

/-- The parts of a service. -/
structure Service where
  settings : Settings
  engine : OverdueEngine
  controller : RetryController

namespace Service

/-- Load the overdue configuration of the settings, if they name one. -/
def loadConfiguration (settings : Settings) (hooks : HookNames) (readFile : String → Option String)
    (active : ActiveSet) : Except ServiceError ActiveSet :=
  match settings.stateSetPath with
  | none => .ok active
  | some path =>
    match active.loadFile path (readFile path) hooks with
    | (.ok _, active) => .ok active
    | (.error cause, _) => .error (.config cause)

/-- Put a service together: the service and its active state set. An unknown policy is reported
before the configuration is looked at. -/
def build (settings : Settings) (policies : PolicyTable) (hooks : HookNames)
    (readFile : String → Option String) : Except ServiceError (Service × ActiveSet) :=
  match policies.get? settings.retryPolicy with
  | none => .error (.unknownPolicy settings.retryPolicy)
  | some policy =>
    match loadConfiguration settings hooks readFile {} with
    | .error e => .error e
    | .ok active =>
      .ok
        ({ settings
           engine := ⟨hooks, settings.maxConflictRetries.toNat⟩
           controller :=
            ({ policy } : RetryController).withMaxAttempts settings.paymentMaxAttempts }, active)

/-- The handler of each queue. -/
def handlers (s : Service) : QueueTable (Item → HandlerContext → HandlerProgram) :=
  (((({} : QueueTable (Item → HandlerContext → HandlerProgram)).register refreshQueue
    s.engine.handleLook).register retryQueue s.controller.handleRetry).register billingDateQueue
    BillingDate.handle)

/-- The dispatcher of the service. -/
def dispatcher (s : Service) : Dispatcher := ⟨s.settings.dispatcher, s.handlers.queues⟩

/-- Handle an item by the handler of its queue. The dispatcher asks for no others. -/
def handle (s : Service) (item : Item) (context : HandlerContext) : HandlerProgram :=
  match s.handlers.get? item.queue with
  | some handler => handler item context
  | none => Program.giveUp

end Service

end Dunning
