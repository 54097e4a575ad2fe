import Dunning.Billing.Collaborator
import Dunning.Overdue.ActiveSet
import Dunning.Overdue.StateStore
import Dunning.Payment.AttemptStore
import Dunning.Work.Request

/-!
# What the rules ask of their surroundings

Handlers and services are programs: tasks over the requests of this module. The surroundings are the
three stores, the active state set and the systems around the core: account facts, the entitlement
gate, hooks, the payment gateway and the invoice generator.

## Main definitions

* `HookRun`, `HookError` — one run of a hook and why it failed.
* `Request`, `Request.Answer` — the requests and what answers them.
* `Program` — a task over them.
-/

namespace Dunning

/-- Whether a hook runs because its state is entered or left. -/
inductive HookPhase where
  | entering
  | leaving
  deriving Repr, DecidableEq

/-- The name of a phase. -/
def HookPhase.name : HookPhase → String
  | .entering => "entry"
  | .leaving => "exit"

/-- One run of a hook. -/
structure HookRun where
  hook : String
  account : AccountId
  phase : HookPhase
  oldState : String
  newState : String
  now : Instant
  deriving DecidableEq

/-- Why a run of a hook failed. -/
structure HookError where
  reason : String
  deriving DecidableEq

/-- What the rules ask of their surroundings. -/
inductive Request where
  | work (request : WorkRequest)
  | state (request : StateRequest)
  | attempt (request : AttemptRequest)
  /-- The facts of an account. -/
  | facts (account : AccountId)
  /-- Put restrictions on an account. Asking twice is asking once. -/
  | setBlocked (account : AccountId) (flags : BlockFlags)
  /-- Run a hook. A transition goes on when it fails. -/
  | runHook (run : HookRun)
  /-- Submit a charge to the gateway. -/
  | charge (request : PaymentRequest)
  /-- Generate the invoices of a billing date and count them. -/
  | generateInvoices (account : AccountId) (targetDate : Instant)
  /-- The active state set. -/
  | activeSet
  /-- An identifier that nothing has. -/
  | freshId
  /-- There is nothing sensible left to do. No answer exists. -/
  | giveUp

/-- The answer to a request. -/
@[reducible] def Request.Answer : Request → Type
  | .work request => request.Answer
  | .state request => request.Answer
  | .attempt request => request.Answer
  | .facts _ => Except CollaboratorError AccountFacts
  | .setBlocked .. => Except CollaboratorError Unit
  | .runHook _ => Except HookError Unit
  | .charge _ => Except CollaboratorError ChargeResult
  | .generateInvoices .. => Except CollaboratorError Nat
  | .activeSet => Option StateSet
  | .freshId => Uuid
  | .giveUp => Empty

/-- A program: what the rules do, step by step, with the answers of their surroundings. -/
abbrev Program (α : Type) : Type := Task Request Request.Answer α

namespace Program

/-- Record a new work item. -/
def enqueue (new : NewItem) : Program (Except StoreError ItemId) :=
  .ask (.work (.enqueue new)) .done

/-- Withdraw the unclaimed items of an owner that are due later. -/
def cancelPending (queue owner : String) (now : Instant) : Program (Except StoreError Nat) :=
  .ask (.work (.cancelPending queue owner now)) .done

/-- The items of an owner that have not ended. -/
def pendingForOwner (queue owner : String) : Program (Except StoreError (List Item)) :=
  .ask (.work (.pendingForOwner queue owner)) .done

/-- Mark an owner as closed. -/
def markOwnerCancelled (owner : String) (now : Instant) : Program (Except StoreError Unit) :=
  .ask (.work (.markOwnerCancelled owner now)) .done

/-- The recorded state of an account. -/
def getState (account : AccountId) : Program (Except StoreError (Option OverdueState)) :=
  .ask (.state (.get account)) .done

/-- Write the state of an account. -/
def saveState (record : OverdueState) (expected : Expected) : Program (Except StoreError Unit) :=
  .ask (.state (.save record expected)) .done

/-- Record a new attempt. -/
def insertAttempt (attempt : Attempt) : Program (Except StoreError Unit) :=
  .ask (.attempt (.insert attempt)) .done

/-- Replace an attempt. -/
def updateAttempt (attempt : Attempt) : Program (Except StoreError Unit) :=
  .ask (.attempt (.update attempt)) .done

/-- The attempt of a payment and number. -/
def getAttempt (payment : PaymentId) (number : UInt32) :
    Program (Except StoreError (Option Attempt)) :=
  .ask (.attempt (.get payment number)) .done

/-- The facts of an account. -/
def facts (account : AccountId) : Program (Except CollaboratorError AccountFacts) :=
  .ask (.facts account) .done

/-- Put restrictions on an account. -/
def setBlocked (account : AccountId) (flags : BlockFlags) :
    Program (Except CollaboratorError Unit) :=
  .ask (.setBlocked account flags) .done

/-- Run a hook. -/
def runHook (run : HookRun) : Program (Except HookError Unit) := .ask (.runHook run) .done

/-- Submit a charge. -/
def charge (request : PaymentRequest) : Program (Except CollaboratorError ChargeResult) :=
  .ask (.charge request) .done

/-- Generate the invoices of a billing date. -/
def generateInvoices (account : AccountId) (targetDate : Instant) :
    Program (Except CollaboratorError Nat) :=
  .ask (.generateInvoices account targetDate) .done

/-- The active state set. -/
def activeSet : Program (Option StateSet) := .ask .activeSet .done

/-- An identifier that nothing has. -/
def freshId : Program Uuid := .ask .freshId .done

/-- End here without a value. -/
def giveUp {α : Type} : Program α := .ask .giveUp fun answer => nomatch answer

end Program

end Dunning
