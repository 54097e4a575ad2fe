import Dunning.Json.Parser
import Dunning.Json.Printer
import Dunning.Overdue.Condition
import Dunning.Overdue.Flags
import Dunning.Overdue.Interval
import Dunning.Text.Blank

/-!
# Overdue configuration

A state set is an ordered list of named states, each with a condition and the restrictions it puts
on an account. The first state whose condition holds is the account's; if none does the account is
clear.

A set is checked when it is built: the states in order, and of each state the name, then the
condition, then the interval. The first offence is reported.

## Main definitions

* `StateDef`, `StateSet` — the configuration.
* `StateSetError` — why a configuration is refused.
* `StateSet.build?`, `StateSet.ofText?` — building from definitions and from a document.
* `StateSet.resolve` — the state of an account.
* `StateSet.checkHooks` — whether every hook is known.
-/

namespace Dunning

/-- The name of the state of accounts that no condition holds of. -/
def clearName : String := "clear"

/-- The longest re-evaluation interval in days. -/
def maxIntervalDays : Nat := 3650

/-- A configured state. -/
structure StateDef where
  name : String
  condition : Condition
  actions : BlockFlags := {}
  /-- How long after entering the state the account is looked at again. -/
  interval : Option Interval := none
  /-- Shown to the holder of the account. -/
  externalMessage : Option String := none
  /-- Hooks run after entering the state. -/
  onEntry : List String := []
  /-- Hooks run after leaving the state. -/
  onExit : List String := []
  deriving Repr, DecidableEq, Inhabited

namespace StateDef

/-- The fields of a state in a document; what is not set is left out, the flags are written in full.
-/
def fields (d : StateDef) : List (String × Json) :=
  [("name", .string d.name), ("condition", d.condition.toJson), ("actions", d.actions.toJson)] ++
    Json.fieldOf "reevaluation_interval" Interval.toJson d.interval ++
    Json.fieldOf "external_message" .string d.externalMessage ++
    Json.listField "on_entry" .string d.onEntry ++
    Json.listField "on_exit" .string d.onExit

/-- A state as a document. -/
def toJson (d : StateDef) : Json := .object d.fields

/-- The fields of a state; no others may be given. -/
def shape : Shape :=
  ⟨[field "name", field "condition", defaulted "actions", defaulted "reevaluation_interval",
    defaulted "external_message", defaulted "on_entry", defaulted "on_exit"], true⟩

/-- The state of a document. -/
def decode? (n : Node) : Option StateDef := do
  let entries ← shape.entries? n
  let name ← entries.required "name" Node.string?
  let condition ← entries.required "condition" Condition.decode?
  let actions ← entries.withDefault "actions" {} BlockFlags.decode?
  let interval ← entries.optional "reevaluation_interval" Interval.decode?
  let externalMessage ← entries.optional "external_message" Node.string?
  let onEntry ← entries.withDefault "on_entry" [] (Node.list? Node.string?)
  let onExit ← entries.withDefault "on_exit" [] (Node.list? Node.string?)
  pure { name, condition, actions, interval, externalMessage, onEntry, onExit }

end StateDef

/-- Why a configuration is refused. -/
inductive StateSetError where
  | malformed (detail : String)
  | emptyName (position : Nat)
  | duplicateName (name : String)
  | reservedName (name : String)
  | emptyCondition (name : String)
  | zeroInterval (name : String)
  | intervalTooLong (name : String)
  | unknownHook (state hook : String)
  | staleVersion (offered active : UInt64)
  deriving Repr, DecidableEq

/-- The wording of a refusal. -/
def StateSetError.message : StateSetError → String
  | .malformed detail => "malformed state set: " ++ detail
  | .emptyName position => "state at position " ++ toString position ++ " has an empty name"
  | .duplicateName name => "duplicate state name: " ++ name
  | .reservedName name =>
    "state name '" ++ name ++ "' is reserved for the implicit clear state"
  | .emptyCondition name =>
    "state '" ++ name ++ "' has no condition criteria and would match every account"
  | .zeroInterval name => "state '" ++ name ++ "' has a zero re-evaluation interval"
  | .intervalTooLong name =>
    "state '" ++ name ++ "' has a re-evaluation interval above " ++ toString maxIntervalDays ++
      " days"
  | .unknownHook state hook =>
    "state '" ++ state ++ "' references unknown hook '" ++ hook ++ "'"
  | .staleVersion offered active =>
    "state set version " ++ toString offered.toNat ++ " is not newer than active version " ++
      toString active.toNat

/-- A checked configuration with the version it was given. -/
structure StateSet where
  version : UInt64
  states : List StateDef
  deriving Repr, DecidableEq

namespace StateSet

/-! ## Building -/

/-- What is wrong with an interval. -/
def intervalFault? (name : String) : Option Interval → Option StateSetError
  | none => none
  | some interval =>
    if interval.isZero then some (.zeroInterval name)
    else if maxIntervalDays * 24 * 60 < interval.totalMinutes then some (.intervalTooLong name)
    else none

/-- What is wrong with the state at a position, given the names before it. -/
def stateFault? (earlier : List String) (position : Nat) (d : StateDef) : Option StateSetError :=
  if Text.isBlankText d.name then some (.emptyName position)
  else if Text.asciiLower (Text.trim d.name) = clearName then some (.reservedName d.name)
  else if earlier.contains d.name then some (.duplicateName d.name)
  else if d.condition.isEmpty then some (.emptyCondition d.name)
  else intervalFault? d.name d.interval

/-- The first offence in a list of states. -/
def fault? (earlier : List String) (position : Nat) : List StateDef → Option StateSetError
  | [] => none
  | d :: rest =>
    match stateFault? earlier position d with
    | some fault => some fault
    | none => fault? (d.name :: earlier) (position + 1) rest

/-- The set of some states in order of priority, or the first offence. -/
def build? (version : UInt64) (states : List StateDef) : Except StateSetError StateSet :=
  match fault? [] 0 states with
  | some fault => .error fault
  | none => .ok ⟨version, states⟩

/-- The fields of a document. -/
def shape : Shape := ⟨[field "states"], true⟩

/-- The states of a document. -/
def decodeStates? (n : Node) : Option (List StateDef) := do
  let entries ← shape.entries? n
  entries.required "states" (Node.list? StateDef.decode?)

/-- The set written by a text. -/
def ofText? (version : UInt64) (text : String) : Except StateSetError StateSet :=
  match (Node.parse? text).bind decodeStates? with
  | some states => build? version states
  | none => .error (.malformed "the text is no document of states")

/-- The states as a document. -/
def toJson (s : StateSet) : Json := .object [("states", Json.ofList StateDef.toJson s.states)]

/-! ## Looking up -/

/-- The state of a name. -/
def state? (s : StateSet) (name : String) : Option StateDef :=
  s.states.find? fun d => d.name == name

/-- The first state whose condition holds of an account; none for a clear account. -/
def resolve (s : StateSet) (f : AccountFacts) : Option StateDef :=
  s.states.find? fun d => d.condition.holds f

/-- The first hook that is not known, with its state: entry hooks come before exit hooks. -/
def checkHooks (s : StateSet) (known : String → Bool) : Except StateSetError Unit :=
  let references := s.states.flatMap fun d => (d.onEntry ++ d.onExit).map fun hook => (d.name, hook)
  match references.find? fun (_, hook) => !known hook with
  | some (state, hook) => .error (.unknownHook state hook)
  | none => .ok ()

end StateSet

/-- The name of a resolved state. -/
def resolvedName : Option StateDef → String
  | none => clearName
  | some d => d.name

/-- The restrictions of a resolved state. -/
def resolvedActions : Option StateDef → BlockFlags
  | none => {}
  | some d => d.actions

end Dunning
