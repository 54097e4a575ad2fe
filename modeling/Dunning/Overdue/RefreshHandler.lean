import Dunning.Overdue.Engine
import Dunning.Work.Handler

/-!
# The handler of scheduled looks

A look refreshes the account. An account that stays in a state with an interval is looked at again:
when no other look is pending, the item that just ran is moved to the next time instead of being
completed.

## Main definitions

* `HandlerProgram` — what every handler is: a program for an item and its context.
* `LookFault` — why a look failed.
* `OverdueEngine.lookAt` — a look at the account of an item.
* `OverdueEngine.handleLook` — the handler.
-/

namespace Dunning

/-- What a handler does with an item. -/
abbrev HandlerProgram : Type := Program (Except HandlerError HandlerOutcome)

/-- The wording for an owner that is no account. -/
def notAnAccount (owner : String) : String := "owner key '" ++ owner ++ "' is not an account id"

/-- Why a look failed. -/
inductive LookFault where
  /-- The owner of the item is no account. -/
  | noAccount (owner : String)
  /-- The account could not be refreshed. -/
  | refresh (cause : OverdueError)
  /-- The other looks at the account could not be listed. -/
  | otherLooks (cause : StoreError)
  deriving DecidableEq

/-- A failed look as a failure of the handler. -/
def LookFault.toHandlerError : LookFault → HandlerError
  | .noAccount owner => .permanent (notAnAccount owner)
  | .refresh cause => .transient cause.message
  | .otherLooks cause => .transient cause.message

/-- A look, step by step. -/
abbrev LookProgram : Type := Program (Except LookFault HandlerOutcome)

namespace OverdueEngine

/-- When an account in a state is to be looked at again. -/
def nextLook? (set : Option StateSet) (stateName : String) (now : Instant) : Option Instant := do
  let definition ← (← set).state? stateName
  (← definition.interval).after? now

/-- Move a look to the next time unless another is pending. -/
def repeatLook (item : Item) (next : Instant) : LookProgram := do
  match ← pendingLooks item.owner with
  | .error cause => pure (.error (.otherLooks cause))
  | .ok looks =>
    if looks.any fun other => other.id != item.id then pure (.ok .done)
    else pure (.ok (.rescheduleAt next))

/-- Look at an account. -/
def look (e : OverdueEngine) (account : AccountId) (item : Item) (now : Instant) :
    LookProgram := do
  match ← e.refresh account now with
  | .error cause => pure (.error (.refresh cause))
  | .ok refreshed =>
    if refreshed.transitioned then pure (.ok .done)
    else
      let set ← Program.activeSet
      match nextLook? set refreshed.state.stateName now with
      | none => pure (.ok .done)
      | some next => repeatLook item next

/-- Look at the account of an item. Nothing is done for a closed account. -/
def lookAt (e : OverdueEngine) (item : Item) (context : HandlerContext) : LookProgram :=
  if context.ownerCancelled then pure (.ok .done)
  else
    match ownerAccount? item.owner with
    | none => pure (.error (.noAccount item.owner))
    | some account => e.look account item context.now

/-- Handle an item of the queue of looks. -/
def handleLook (e : OverdueEngine) (item : Item) (context : HandlerContext) : HandlerProgram :=
  (e.lookAt item context).bind fun result => pure (result.mapError LookFault.toHandlerError)

end OverdueEngine

end Dunning
