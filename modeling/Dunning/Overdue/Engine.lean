import Dunning.Overdue.Transition
import Dunning.Request
import Dunning.Work.Payload

/-!
# Refreshing the overdue state of an account

A refresh works out the state that the facts call for and writes it, expecting the version it read.
A writer that loses the race reads and decides again. The side effects of a transition run once its
write succeeded, in a fixed order: the hooks of the state that is left, the withdrawal of looks that
are no longer due, the restrictions, the hooks of the state that is entered, the next look. Of these
only the restrictions can fail the refresh; the record then gets its old flags back, so that the
next refresh tries again.

## Main definitions

* `OverdueEngine` — the known hooks and the number of repetitions.
* `OverdueEngine.refresh`, `OverdueEngine.refreshWithFacts` — bringing an account up to date.
* `OverdueEngine.apply` — the side effects of a written transition.
* `OverdueEngine.status` — what is recorded and configured about an account.
-/

namespace Dunning

/-- Why a refresh failed. -/
inductive OverdueError where
  | facts (cause : CollaboratorError)
  | entitlement (cause : CollaboratorError)
  | store (cause : StoreError)
  | conflictRetriesExhausted (account : AccountId) (retries : Nat)
  deriving DecidableEq

/-- The wording of a failure. -/
def OverdueError.message : OverdueError → String
  | .facts cause => "account facts unavailable: " ++ cause.message
  | .entitlement cause => "entitlement gate failed: " ++ cause.message
  | .store cause => cause.message
  | .conflictRetriesExhausted account retries =>
    "overdue state of account " ++ account.render ++ " kept changing after " ++ toString retries ++
      " retries"

/-- The result of a refresh. -/
structure Refreshed where
  state : OverdueState
  /-- Whether this refresh moved the account to a new state or to new flags. -/
  transitioned : Bool
  deriving DecidableEq

/-- What is recorded and configured about an account. -/
structure OverdueStatus where
  account : AccountId
  stateName : String
  blocked : BlockFlags
  lastTransitionAt : Option Instant
  /-- The configured message for the holder of the account. -/
  externalMessage : Option String
  /-- When the account is looked at next. -/
  nextLookAt : Option Instant
  deriving DecidableEq

/-- A status as a document. -/
def OverdueStatus.toJson (s : OverdueStatus) : Json :=
  .object
    [("account_id", s.account.toJson), ("state_name", .string s.stateName),
     ("blocked", s.blocked.toJson),
     ("last_transition_at", Json.ofOption Instant.toJson s.lastTransitionAt),
     ("external_message", Json.ofOption .string s.externalMessage),
     ("next_reevaluation_at", Json.ofOption Instant.toJson s.nextLookAt)]

/-- A scheduled look at an account. -/
def refreshItem (owner : String) (due : Instant) (reason : String) : NewItem :=
  ⟨refreshQueue, owner, due, ({ reason } : RefreshPayload).toJson⟩

/-- The rules that keep overdue states up to date. -/
structure OverdueEngine where
  /-- The hooks that there are. Others are skipped. -/
  hooks : HookNames := {}
  /-- How often a refresh is repeated after losing a race. -/
  maxConflictRetries : Nat := 5

namespace OverdueEngine

/-! ## Side effects -/

/-- Run the known ones of some hooks in order. Whether one succeeds does not matter. -/
def runHooks (e : OverdueEngine) (t : Transition) (phase : HookPhase) (now : Instant) :
    List String → Program Unit
  | [] => pure ()
  | hook :: rest =>
    if e.hooks.contains hook then
      (Program.runHook
        ⟨hook, t.after.account, phase, t.before.stateName, t.after.stateName, now⟩).bind fun _ =>
          e.runHooks t phase now rest
    else e.runHooks t phase now rest

/-- Withdraw the looks that belong to the state that is left. Whether that succeeds does not matter.
-/
def dropLooks (t : Transition) (now : Instant) : Program Unit :=
  if t.changesState then
    (Program.cancelPending refreshQueue t.after.account.render now).bind fun _ => pure ()
  else pure ()

/-- Put the new restrictions on the account. -/
def restrict (t : Transition) : Program (Except CollaboratorError Unit) :=
  match t.flagsChange with
  | some flags => Program.setBlocked t.after.account flags
  | none => pure (.ok ())

/-- Schedule the next look. Whether that succeeds does not matter. -/
def scheduleLook (t : Transition) : Program Unit :=
  match t.reevaluateAt with
  | some due =>
    (Program.enqueue (refreshItem t.after.account.render due "reevaluation")).bind fun _ => pure ()
  | none => pure ()

/-- The record that undoes a refused change of flags. -/
def reverted (t : Transition) (setVersion : UInt64) (now : Instant) : OverdueState :=
  t.after.advance t.after.stateName t.before.blocked setVersion now

/-- Record the old flags again. Whether that succeeds does not matter. -/
def revertFlags (t : Transition) (setVersion : UInt64) (now : Instant) : Program Unit :=
  (Program.saveState (reverted t setVersion now) (.exact t.after.version)).bind fun _ => pure ()

/-- The side effects of a written transition. -/
def apply (e : OverdueEngine) (t : Transition) (setVersion : UInt64) (now : Instant) :
    Program (Except OverdueError Unit) := do
  e.runHooks t .leaving now t.exitHooks
  dropLooks t now
  let restricted ← restrict t
  e.runHooks t .entering now t.entryHooks
  scheduleLook t
  match restricted with
  | .ok () => pure (.ok ())
  | .error cause =>
    revertFlags t setVersion now
    pure (.error (.entitlement cause))

/-! ## Refreshing -/

/-- Carry a planned transition out. None when the write lost the race. -/
def carryOut (e : OverdueEngine) (t : Transition) (setVersion : UInt64) (now : Instant) :
    Program (Option (Except OverdueError Refreshed)) := do
  match ← Program.saveState t.after (.ofRead t.before.version) with
  | .ok () =>
    match ← e.apply t setVersion now with
    | .ok () => pure (some (.ok ⟨t.after, true⟩))
    | .error error => pure (some (.error error))
  | .error error => pure (if error.isConflict then none else some (.error (.store error)))

/-- One attempt at a refresh. None when the write lost the race. -/
def tryRefresh (e : OverdueEngine) (account : AccountId) (facts : AccountFacts) (now : Instant) :
    Program (Option (Except OverdueError Refreshed)) := do
  let set ← Program.activeSet
  match ← Program.getState account with
  | .error error => pure (some (.error (.store error)))
  | .ok record =>
    let current := record.getD (.clear account)
    match planTransition current set facts now with
    | none => pure (some (.ok ⟨current, false⟩))
    | some transition => e.carryOut transition ((set.map StateSet.version).getD 0) now

/-- Refresh an account with a number of attempts left. -/
def refreshWithin (e : OverdueEngine) (account : AccountId) (facts : AccountFacts)
    (now : Instant) : Nat → Program (Except OverdueError Refreshed)
  | 0 => pure (.error (.conflictRetriesExhausted account e.maxConflictRetries))
  | attempts + 1 =>
    (e.tryRefresh account facts now).bind fun
      | some result => pure result
      | none => e.refreshWithin account facts now attempts

/-- Bring the recorded state of an account in line with some facts. -/
def refreshWithFacts (e : OverdueEngine) (account : AccountId) (facts : AccountFacts)
    (now : Instant) : Program (Except OverdueError Refreshed) :=
  e.refreshWithin account facts now (e.maxConflictRetries + 1)

/-- Bring the recorded state of an account in line with its facts. -/
def refresh (e : OverdueEngine) (account : AccountId) (now : Instant) :
    Program (Except OverdueError Refreshed) := do
  match ← Program.facts account with
  | .ok facts => e.refreshWithFacts account facts now
  | .error cause => pure (.error (.facts cause))

/-! ## Looking -/

/-- The scheduled looks at an account that have not ended, the first due first. -/
def pendingLooks (owner : String) : Program (Except StoreError (List Item)) :=
  Program.pendingForOwner refreshQueue owner

/-- What is recorded and configured about an account. -/
def status (account : AccountId) : Program (Except OverdueError OverdueStatus) := do
  match ← Program.getState account with
  | .error error => pure (.error (.store error))
  | .ok record =>
    let state := record.getD (.clear account)
    let set ← Program.activeSet
    match ← pendingLooks account.render with
    | .error error => pure (.error (.store error))
    | .ok looks =>
      let definition := set.bind fun s => s.state? state.stateName
      pure (.ok
        { account
          stateName := state.stateName
          blocked := state.blocked
          lastTransitionAt := state.lastTransitionAt
          externalMessage := definition.bind StateDef.externalMessage
          nextLookAt := looks.head?.map Item.dueAt })

end OverdueEngine

end Dunning
