import Dunning.Billing.Collaborator
import Dunning.DomainError
import Dunning.Overdue.State
import Dunning.Payment.Attempt
import Dunning.Settings
import Dunning.StoreError
import Dunning.Work.Handler

/-!
# Writing reports

A report gives values as documents and failures with their kind and wording. What depends on the run
is left out: readings of the clock here, identifiers and the wording of surrounding systems in
`Scenario.Masking`.

## Main definitions

* `ok`, `broken`, `failed` — the three shapes of an answer.
* `storeFailed`, `setFailed` and others — failures of each kind.
* `clockJson` — an instant, unless it is a reading of the clock.
-/

namespace Dunning.Scenario

/-- An object. -/
def obj (fields : List (String × Json)) : Json := .object fields

/-- A list of texts. -/
def texts (xs : List String) : Json := Json.ofList .string xs

/-- A value. -/
def ok (j : Json) : Json := obj [("ok", j)]

/-- A call that broke. -/
def broken : Json := obj [("error", .string "panic")]

/-- A document that cannot be read. -/
def malformed : Json := obj [("error", .string "Malformed")]

/-- A failure with its kind and wording. -/
def failed (kind message : String) : Json :=
  obj [("error", .string kind), ("message", .string message)]

/-! ## Failures -/

/-- The kind of a domain failure. -/
def domainKind : DomainFault → String
  | .validation => "Validation"
  | .invariantViolation => "InvariantViolation"
  | .invalidId => "InvalidId"
  | .conflict => "Conflict"

/-- A domain failure. -/
def domainFailed (e : DomainError) : Json := failed (domainKind e.fault) e.message

/-- The kind of a storage failure. -/
def storeKind : StoreFault → String
  | .notFound => "NotFound"
  | .conflict => "Conflict"
  | .unavailable => "Unavailable"
  | .serialization => "Serialization"

/-- The storage failure of a name. -/
def storeFaultOf : String → StoreFault
  | "not_found" => .notFound
  | "conflict" => .conflict
  | "serialization" => .serialization
  | _ => .unavailable

/-- A storage failure. -/
def storeFailed (e : StoreError) : Json := failed (storeKind e.fault) e.message

/-- The answer of a store. -/
def stored {α : Type} (write : α → Json) : Except StoreError α → Json
  | .ok a => ok (write a)
  | .error e => storeFailed e

/-- The kind of a refused configuration. -/
def setKind : StateSetError → String
  | .malformed _ => "Malformed"
  | .emptyName _ => "EmptyName"
  | .duplicateName _ => "DuplicateName"
  | .reservedName _ => "ReservedName"
  | .emptyCondition _ => "EmptyCondition"
  | .zeroInterval _ => "ZeroInterval"
  | .intervalTooLong _ => "IntervalTooLong"
  | .unknownHook _ _ => "UnknownHook"
  | .staleVersion _ _ => "StaleVersion"

/-- A refused configuration. -/
def setFailed (e : StateSetError) : Json := failed (setKind e) e.message

/-- A refused setting. -/
def settingsFailed (e : SettingsError) : Json := failed "Invalid" e.message

/-- A failure of a surrounding system. -/
def collaboratorFailed (e : CollaboratorError) : Json :=
  match e with
  | .unknownAccount _ => failed "UnknownAccount" e.message
  | .unavailable _ => failed "Unavailable" e.message

/-- A failure of a handler. -/
def handlerFailed (e : HandlerError) : Json :=
  match e with
  | .transient _ => failed "Transient" e.message
  | .permanent _ => failed "Permanent" e.message

/-! ## Records -/

/-- An instant that may be a reading of the clock; readings are not shown. -/
def clockJson (t : Instant) : Json :=
  let year := (Civil.ofDays (t.secs / 86400)).year
  if 2025 ≤ year ∧ year ≤ 2059 then .string "wall" else t.toJson

/-- A record with some of its fields replaced. -/
def replacing (others : List (String × Json)) : Json → Json
  | .object fields => .object (fields.map fun (k, v) => (k, (others.lookup k).getD v))
  | other => other

/-- A record without a field. -/
def without (name : String) : Json → Json
  | .object fields => .object (fields.filter fun f => f.1 != name)
  | other => other

/-- An attempt. -/
def attemptJson (a : Attempt) : Json :=
  replacing [("scheduled_for", clockJson a.scheduledFor), ("updated_at", clockJson a.updatedAt)]
    a.toJson

/-- The recorded state of an account. -/
def stateJson (s : OverdueState) : Json :=
  replacing (Json.fieldOf "last_transition_at" clockJson s.lastTransitionAt) s.toJson

/-- Answer the steps of a scenario one after another. -/
def answers {σ : Type} (step : σ → Node → Json × σ) : σ → List Node → List Json
  | _, [] => []
  | state, n :: rest =>
    let (answer, state) := step state n
    answer :: answers step state rest

end Dunning.Scenario
