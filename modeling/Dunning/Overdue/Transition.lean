import Dunning.Overdue.State

/-!
# Transitions

A refresh works out the state that the facts call for and compares it with the record. What has to
happen for the difference is a transition; when name and flags agree there is none.

## Main definitions

* `Transition` — the old and the new record and the side effects that are due.
* `planTransition` — the transition that the facts call for.
-/

namespace Dunning

/-- A change of the record with its side effects. -/
structure Transition where
  before : OverdueState
  after : OverdueState
  /-- Hooks of the state that is left, empty when the name stays. -/
  exitHooks : List String
  /-- Hooks of the state that is entered, empty when the name stays. -/
  entryHooks : List String
  /-- The new flags, when they differ from the recorded ones. -/
  flagsChange : Option BlockFlags
  /-- When the account is to be looked at again. -/
  reevaluateAt : Option Instant
  deriving DecidableEq

/-- Whether the name of the state changes. -/
def Transition.changesState (t : Transition) : Bool :=
  t.before.stateName != t.after.stateName

/-- The transition that the facts call for, given the active state set. Without a set every account
is clear. -/
def planTransition (current : OverdueState) (set : Option StateSet) (facts : AccountFacts)
    (now : Instant) : Option Transition :=
  let target := set.bind fun s => s.resolve facts
  let setVersion := (set.map StateSet.version).getD 0
  let name := resolvedName target
  let flags := resolvedActions target
  let renamed := current.stateName != name
  if !renamed && current.blocked == flags then none
  else
    let leaving := set.bind fun s => s.state? current.stateName
    some
      { before := current
        after := current.advance name flags setVersion now
        exitHooks := if renamed then (leaving.map StateDef.onExit).getD [] else []
        entryHooks := if renamed then (target.map StateDef.onEntry).getD [] else []
        flagsChange := if current.blocked == flags then none else some flags
        reevaluateAt :=
          if renamed then (target.bind StateDef.interval).bind fun i => i.after? now else none }

end Dunning
