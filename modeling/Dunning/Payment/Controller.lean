import Dunning.Payment.Policy
import Dunning.Request
import Dunning.Work.Payload

/-!
# What follows a failed attempt

The policy's decision about a failed attempt becomes durable: the attempt's final outcome, the next
pending attempt and the work item that will execute it. Doing it again finishes what an interruption
left undone and adds nothing else. A ceiling on the number of attempts ends every chain, whatever
the policy says.

## Main definitions

* `RetryDirective`, `RetryError` — what came of a failed attempt.
* `RetryController` — the policy and the ceiling.
* `RetryController.applyDecision` — making a decision durable.
* `RetryController.handleFailure`, `RetryController.resumeFailed` — deciding about a fresh failure
  and about one that is already recorded.
-/

namespace Dunning

/-- What came of a failed attempt. -/
inductive RetryDirective where
  /-- Given up. -/
  | aborted (reason : String)
  /-- The ceiling is reached. -/
  | exhausted (attempts : UInt32)
  /-- A further attempt is scheduled. The item is missing when it was there before. -/
  | scheduled (number : UInt32) (due : Instant) (amount : UInt64) (item : Option ItemId)
  deriving DecidableEq

/-- Why a failed attempt could not be followed up. -/
inductive RetryError where
  | store (cause : StoreError)
  | attemptNotFound (payment : PaymentId) (number : UInt32)
  deriving DecidableEq

/-- The wording of a failure. -/
def RetryError.message : RetryError → String
  | .store cause => cause.message
  | .attemptNotFound payment number =>
    "attempt " ++ toString number.toNat ++ " of payment " ++ payment.render ++ " not found"

/-- The rules that follow up failed attempts. -/
structure RetryController where
  policy : RetryPolicy
  /-- The most attempts of a payment, the first charge included. -/
  maxAttempts : UInt32 := 4

namespace RetryController

/-- The controller with a ceiling of at least one attempt. -/
def withMaxAttempts (c : RetryController) (maxAttempts : UInt32) : RetryController :=
  { c with maxAttempts := max maxAttempts 1 }

/-- What the policy sees of an attempt that failed at a time. -/
def failedAttempt (attempt : Attempt) (failedAt : Instant) : FailedAttempt where
  payment := attempt.payment
  account := attempt.account
  number := attempt.number
  amount := attempt.amount
  attempted := attempt.effectiveAmount
  failure := attempt.failure.getD .gatewayError
  failedAt

/-! ## Writing -/

/-- An attempt with its outcome. -/
def finished (attempt : Attempt) (outcome : AttemptOutcome) (now : Instant) : Attempt :=
  { attempt with outcome, updatedAt := now }

/-- Record the outcome of an attempt, unless it has it. -/
def finish (attempt : Attempt) (outcome : AttemptOutcome) (now : Instant) :
    Program (Except RetryError Unit) :=
  if attempt.outcome = outcome then pure (.ok ())
  else
    (Program.updateAttempt (finished attempt outcome now)).bind fun
      | .ok () => pure (.ok ())
      | .error cause => pure (.error (.store cause))

/-- Record the next attempt, or find the one that is recorded. -/
def recordNext (attempt candidate : Attempt) : Program (Except RetryError Attempt) := do
  match ← Program.insertAttempt candidate with
  | .ok () => pure (.ok candidate)
  | .error error =>
    if error.isConflict then
      match ← Program.getAttempt attempt.payment candidate.number with
      | .error cause => pure (.error (.store cause))
      | .ok (some stored) => pure (.ok stored)
      | .ok none => pure (.error (.attemptNotFound attempt.payment candidate.number))
    else pure (.error (.store error))

/-- What the item of an attempt carries. -/
def payloadOf (attempt : Attempt) : RetryPayload :=
  .scheduledRetry attempt.payment attempt.account attempt.number attempt.effectiveAmount

/-- The item that will execute an attempt. -/
def itemOf (attempt : Attempt) : NewItem :=
  ⟨retryQueue, attempt.account.render, attempt.scheduledFor, (payloadOf attempt).toJson⟩

/-- Whether an item is that of an attempt. -/
def isItemOf (attempt : Attempt) (item : Item) : Bool :=
  (RetryPayload.decode? item.payload.toNode).any fun payload =>
    payload.sameAttempt (payloadOf attempt)

/-- The directive for a scheduled attempt. -/
def directive (attempt : Attempt) (item : Option ItemId) : RetryDirective :=
  .scheduled attempt.number attempt.scheduledFor attempt.effectiveAmount item

/-- Create the item of a pending attempt unless there is one. -/
def ensureItem (attempt : Attempt) : Program (Except RetryError RetryDirective) := do
  match ← Program.pendingForOwner retryQueue attempt.account.render with
  | .error cause => pure (.error (.store cause))
  | .ok items =>
    if items.any (isItemOf attempt) then pure (.ok (directive attempt none))
    else
      match ← Program.enqueue (itemOf attempt) with
      | .ok id => pure (.ok (directive attempt (some id)))
      | .error cause => pure (.error (.store cause))

/-- Schedule the attempt after a failed one. -/
def schedule (attempt : Attempt) (due : Instant) (adjusted : Option UInt64) (now : Instant) :
    Program (Except RetryError RetryDirective) := do
  let id ← Program.freshId
  match ← recordNext attempt (attempt.next id due adjusted now) with
  | .error error => pure (.error error)
  | .ok next =>
    if next.outcome = .pending then ensureItem next else pure (.ok (directive next none))

/-! ## Deciding -/

/-- Make a decision about a failed attempt durable. -/
def applyDecision (c : RetryController) (attempt : Attempt) (decision : RetryDecision)
    (now : Instant) : Program (Except RetryError RetryDirective) := do
  if c.maxAttempts ≤ attempt.number then
    match ← finish attempt .failed now with
    | .ok () => pure (.ok (.exhausted attempt.number))
    | .error error => pure (.error error)
  else
    match decision with
    | .abort reason =>
      match ← finish attempt .aborted now with
      | .ok () => pure (.ok (.aborted reason))
      | .error error => pure (.error error)
    | .retryAt due adjusted =>
      match ← finish attempt .failed now with
      | .ok () => schedule attempt due adjusted now
      | .error error => pure (.error error)

/-- Ask the policy about an attempt that failed at a time and follow its decision. Without a
decision there is nothing to do. -/
def followUp (c : RetryController) (attempt : Attempt) (failedAt : Instant) :
    Program (Except RetryError RetryDirective) :=
  match c.policy.decide (failedAttempt attempt failedAt) with
  | some decision => c.applyDecision attempt decision failedAt
  | none => Program.giveUp

/-- Follow up an attempt that fails now. -/
def handleFailure (c : RetryController) (attempt : Attempt) (now : Instant) :
    Program (Except RetryError RetryDirective) :=
  c.followUp attempt now

/-- Follow up an attempt that is recorded as failed. The policy is asked as of the recorded time, so
it decides as it did when the follow-up was interrupted. -/
def resumeFailed (c : RetryController) (attempt : Attempt) :
    Program (Except RetryError RetryDirective) :=
  c.followUp attempt attempt.updatedAt

/-- Record that an attempt collected the payment. -/
def recordSuccess (attempt : Attempt) (now : Instant) : Program (Except RetryError Unit) :=
  finish attempt .success now

/-- Give an attempt up for a reason outside the policy. -/
def abort (attempt : Attempt) (reason : String) (now : Instant) :
    Program (Except RetryError RetryDirective) :=
  (finish attempt .aborted now).bind fun
    | .ok () => pure (.ok (.aborted reason))
    | .error error => pure (.error error)

end RetryController

end Dunning
