import Dunning.Overdue.RefreshHandler
import Dunning.Payment.Controller

/-!
# The handler of payment attempts

An item tells either that the first charge failed or that a pending attempt is to be executed. An
account that is closed or whose automatic payments are suspended is not charged; its attempt is
given up. A delivery that finds its attempt settled does nothing, one that finds it failed finishes
the follow-up.

Every delivery that does not fail is the end of its item, whatever it came to.

## Main definitions

* `RetryDelivery`, `DeliveryFault` — what a delivery came to, and why it failed.
* `RetryController.restriction` — why an account must not be charged.
* `RetryController.charge` — executing a pending attempt.
* `RetryController.deliver` — the delivery of an item.
* `RetryController.handleRetry` — the handler.
-/

namespace Dunning

/-- What the delivery of an item came to. -/
inductive RetryDelivery where
  /-- The attempt was settled before. -/
  | settledBefore
  /-- The account is restricted and the attempt was given up. -/
  | givenUp (reason : String)
  /-- A recorded failure was followed up. -/
  | resumed (directive : RetryDirective)
  /-- The charge failed, and that was followed up. -/
  | failed (directive : RetryDirective)
  /-- The charge collected the payment. Scheduling a look at the account may have failed. -/
  | collected (look : Except StoreError ItemId)

/-- Why a delivery failed. -/
inductive DeliveryFault where
  /-- A failed attempt could not be followed up. -/
  | followUp (cause : RetryError)
  | other (cause : HandlerError)
  deriving DecidableEq

/-- A failure of the controller as a failure of the handler. Storage failures pass with time. -/
def RetryError.toHandlerError : RetryError → HandlerError
  | .store cause => .transient (RetryError.store cause).message
  | e => .permanent e.message

/-- A failed delivery as a failure of the handler. -/
def DeliveryFault.toHandlerError : DeliveryFault → HandlerError
  | .followUp cause => cause.toHandlerError
  | .other cause => cause

/-- What becomes of the item of a delivery. -/
def RetryDelivery.outcome : Except DeliveryFault RetryDelivery → Except HandlerError HandlerOutcome
  | .ok _ => .ok .done
  | .error fault => .error fault.toHandlerError

/-- The delivery of an item, step by step. -/
abbrev DeliveryProgram : Type := Program (Except DeliveryFault RetryDelivery)

namespace RetryController

/-- A failure that passes with time. -/
def passing (reason : String) : DeliveryFault := .other (.transient reason)

/-- The end of a delivery, given the end of its follow-up. -/
def followedUp (delivery : RetryDirective → RetryDelivery) :
    Except RetryError RetryDirective → Except DeliveryFault RetryDelivery
  | .ok directive => .ok (delivery directive)
  | .error cause => .error (.followUp cause)

/-! ## Restrictions -/

/-- Why an account must not be charged now, if so. -/
def restriction (account : AccountId) (context : HandlerContext) :
    Program (Except DeliveryFault (Option String)) :=
  if context.ownerCancelled then pure (.ok (some "account closed"))
  else
    (OverdueEngine.status account).bind fun
      | .error error => pure (.error (passing error.message))
      | .ok status =>
        pure (.ok
          (if status.blocked.disableAutoPay then some "auto-pay disabled by overdue state"
            else none))

/-- Give the attempt of a restricted account up. -/
def giveUpAttempt (attempt : Attempt) (reason : String) (now : Instant) : DeliveryProgram :=
  (abort attempt reason now).bind fun
    | .ok _ => pure (.ok (.givenUp reason))
    | .error cause => pure (.error (.other cause.toHandlerError))

/-- Give an attempt up if the account is restricted, else go on. -/
def unlessRestricted (attempt : Attempt) (account : AccountId) (context : HandlerContext)
    (goOn : DeliveryProgram) : DeliveryProgram :=
  (restriction account context).bind fun
    | .error fault => pure (.error fault)
    | .ok (some reason) => giveUpAttempt attempt reason context.now
    | .ok none => goOn

/-! ## A failed first charge -/

/-- Record the first charge as an attempt, or find it recorded. -/
def recordFirst (candidate : Attempt) : Program (Except DeliveryFault Attempt) := do
  match ← Program.insertAttempt candidate with
  | .ok () => pure (.ok candidate)
  | .error error =>
    if error.isConflict then
      match ← Program.getAttempt candidate.payment 1 with
      | .error cause => pure (.error (passing cause.message))
      | .ok (some stored) => pure (.ok stored)
      | .ok none =>
        pure (.error (passing ("attempt 1 of payment " ++ candidate.payment.render ++ " vanished")))
    else pure (.error (passing error.message))

/-- Finish the follow-up of an attempt that is recorded as failed. -/
def resume (c : RetryController) (attempt : Attempt) : DeliveryProgram :=
  (c.resumeFailed attempt).bind fun result => pure (followedUp .resumed result)

/-- Deliver the failure of a first charge. -/
def firstFailure (c : RetryController) (payment : PaymentId) (account : AccountId)
    (amount : UInt64) (failure : PaymentFailure) (failedAt : Instant) (context : HandlerContext) :
    DeliveryProgram := do
  let id ← Program.freshId
  match ← recordFirst (Attempt.firstFailure id payment account amount failure failedAt) with
  | .error fault => pure (.error fault)
  | .ok attempt =>
    if attempt.isTerminal then pure (.ok .settledBefore)
    else unlessRestricted attempt account context (c.resume attempt)

/-! ## A scheduled attempt -/

/-- The charge of an attempt. -/
def requestOf (attempt : Attempt) (payment : PaymentId) (number : UInt32) : PaymentRequest :=
  ⟨payment, attempt.account, number, attempt.effectiveAmount⟩

/-- Record a collected payment and have the account looked at, which may fail. -/
def collect (attempt : Attempt) (now : Instant) : DeliveryProgram := do
  match ← recordSuccess attempt now with
  | .error cause => pure (.error (.other cause.toHandlerError))
  | .ok () =>
    let look ← Program.enqueue (refreshItem attempt.account.render now "payment succeeded")
    pure (.ok (.collected look))

/-- Execute a pending attempt. -/
def charge (c : RetryController) (attempt : Attempt) (payment : PaymentId) (number : UInt32)
    (now : Instant) : DeliveryProgram := do
  match ← Program.charge (requestOf attempt payment number) with
  | .error error => pure (.error (passing error.message))
  | .ok .succeeded => collect attempt now
  | .ok (.failed failure) =>
    pure (followedUp .failed (← c.handleFailure { attempt with failure := some failure } now))

/-- The wording for an item whose attempt is not recorded. -/
def missingAttempt (payment : PaymentId) (number : UInt32) : String :=
  "attempt " ++ toString number.toNat ++ " of payment " ++ payment.render ++ " does not exist"

/-- Deliver the item of a scheduled attempt. -/
def scheduledAttempt (c : RetryController) (payment : PaymentId) (number : UInt32)
    (context : HandlerContext) : DeliveryProgram := do
  match ← Program.getAttempt payment number with
  | .error cause => pure (.error (passing cause.message))
  | .ok none => pure (.error (.other (.permanent (missingAttempt payment number))))
  | .ok (some attempt) =>
    match attempt.outcome with
    | .pending =>
      unlessRestricted attempt attempt.account context
        (c.charge attempt payment number context.now)
    | .failed => c.resume attempt
    | .aborted => pure (.ok .settledBefore)
    | .success => pure (.ok .settledBefore)

/-! ## The handler -/

/-- Deliver an item of the queue of attempts. -/
def deliver (c : RetryController) (item : Item) (context : HandlerContext) : DeliveryProgram :=
  match RetryPayload.decode? item.payload.toNode with
  | none =>
    pure (.error (.other
      (.permanent "malformed payment retry payload: no record of an attempt")))
  | some (.initialFailure payment account amount failure failedAt) =>
    c.firstFailure payment account amount failure failedAt context
  | some (.scheduledRetry payment _ number _) => c.scheduledAttempt payment number context

/-- Handle an item of the queue of attempts. -/
def handleRetry (c : RetryController) (item : Item) (context : HandlerContext) : HandlerProgram :=
  (c.deliver item context).bind fun result => pure (RetryDelivery.outcome result)

end RetryController

end Dunning
