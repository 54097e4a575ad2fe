import Dunning.Scenario.Polling
import Dunning.Service

/-!
# Scenarios of a service

A whole service in the simulated world: events are published, accounts refreshed, payments retried,
and the dispatcher polls by hand or in its loop.

## Main definitions

* `Running` — a service, the world around it and its polling loop.
* `serviceStep` — the steps on a service.
* `serviceScenario` — a scenario with its report.
-/

namespace Dunning.Scenario

open Dunning.Simulation

/-! ## Values -/

/-- A failed refresh. -/
def overdueFailed (e : OverdueError) : Json :=
  let kind :=
    match e with
    | .facts _ => "Facts"
    | .entitlement _ => "Entitlement"
    | .store _ => "Store"
    | .conflictRetriesExhausted .. => "ConflictRetriesExhausted"
  failed kind e.message

/-- A failed follow-up. -/
def retryFailed (e : RetryError) : Json :=
  let kind :=
    match e with
    | .store _ => "Store"
    | .attemptNotFound .. => "AttemptNotFound"
  failed kind e.message

/-- A service that does not start. -/
def serviceFailed (e : ServiceError) : Json :=
  let kind :=
    match e with
    | .unknownPolicy _ => "UnknownPolicy"
    | .config _ => "Config"
  failed kind e.message

/-- The answer of the engine. -/
def refreshed {α : Type} (write : α → Json) : Except OverdueError α → Json
  | .ok a => ok (write a)
  | .error e => overdueFailed e

/-- The answer of the controller. -/
def followedUp {α : Type} (write : α → Json) : Except RetryError α → Json
  | .ok a => ok (write a)
  | .error e => retryFailed e

/-- A directive. -/
def directiveJson (w : World) : RetryDirective → Json
  | .aborted reason => obj [("directive", .string "aborted"), ("reason", .string reason)]
  | .exhausted attempts =>
    obj [("directive", .string "exhausted"), ("attempts", .nat attempts.toNat)]
  | .scheduled number due amount item =>
    obj
      [("directive", .string "scheduled"), ("attempt_number", .nat number.toNat),
       ("at", clockJson due), ("amount", .nat amount.toNat),
       ("work_item", Json.ofOption (labelJson w) item)]

/-- A status. -/
def statusJson (s : OverdueStatus) : Json :=
  replacing
    (Json.fieldOf "last_transition_at" clockJson s.lastTransitionAt ++
      Json.fieldOf "next_reevaluation_at" clockJson s.nextLookAt) s.toJson

/-- The version of a state set and the names of its states. -/
def setJson (set : StateSet) : Json :=
  obj [("version", .nat set.version.toNat), ("states", texts (set.states.map StateDef.name))]

/-! ## Scripts -/

/-- The facts of an account, unless they are taken away. -/
def factsAnswer? (n : Node) : Option (Except CollaboratorError AccountFacts) :=
  if isNull n then none
  else if given n "unavailable" then some (.error (.unavailable (textOf n "unavailable")))
  else some (.ok ((AccountFacts.decode? n).getD {}))

/-- How the gateway treats a charge. -/
def chargeScriptOf (n : Node) : ChargeScript :=
  if given n "unavailable" then .answer (.error (.unavailable (textOf n "unavailable")))
  else if given n "unknown" then .answer (.error (.unknownAccount (account (get n "unknown"))))
  else
    match str n with
    | "panic" => .panic
    | "hang" => .hang
    | name =>
      match PaymentFailure.parse? name with
      | some failure => .answer (.ok (.failed failure))
      | none => .answer (.ok .succeeded)

/-- The invoices of a billing date. -/
def invoicesOf (n : Node) : Except CollaboratorError Nat :=
  if given n "unavailable" then .error (.unavailable (textOf n "unavailable")) else .ok (nat n)

/-- A decision about a failed attempt, if it can be expressed. -/
def decisionOf? (n : Node) : Option RetryDecision :=
  match textOf n "decision" with
  | "retry_at" => some (.retryAt (time (get n "at")) (u64? (get n "adjusted_amount")))
  | "retry_after" =>
    (Offset.ofMillis? (int (get n "delay_ms"))).map fun delay =>
      .retryAfter (time (get n "failed_at")) delay.nanos
  | _ => some (.abort (textOf n "reason"))

/-! ## A running service -/

/-- A service, the world around it and its polling loop. -/
structure Running where
  service : Service
  poller : Poller
  world : World
  loop : Option Loop

/-- The service with its handlers as processes. -/
def pollerOfService (s : Service) : Poller :=
  ⟨s.dispatcher, fun item context => Process.ofProgram (s.handle item context)⟩

/-- The answer to a program, with the service after it. -/
def Running.ask {α : Type} (r : Running) (program : Program α) (write : World → α → Json) :
    Json × Running :=
  let (answer, w) := answerProgram r.world program write
  (answer, { r with world := w })

/-- The service with a changed world. -/
def Running.changed (r : Running) (change : World → World) : Json × Running :=
  (ok .null, { r with world := change r.world })

/-- Let time pass. -/
def Running.sleep (r : Running) (millis : Nat) : Running :=
  let moment := r.world.clock + millis
  match r.loop with
  | none => { r with world := { r.world with clock := moment } }
  | some loop =>
    let (loop, w) := loop.advance r.poller moment r.world
    { r with loop := some loop, world := w }

/-- Stop the polling loop. -/
def Running.shutdown (r : Running) : Running :=
  match r.loop with
  | none => r
  | some loop => { r with loop := none, world := loop.stop r.world }

/-! ## Steps on payments -/

/-- The attempt of a step: given, or read from the store. -/
def attemptOf (step : Node) : Program (Except StoreError (Option Attempt)) :=
  let override (a : Attempt) : Attempt :=
    match failure? (get step "failure") with
    | some failure => { a with failure := some failure }
    | none => a
  if given step "attempt" then pure (.ok ((Attempt.decode? (get step "attempt")).map override))
  else do
    let found ← Program.getAttempt (payment (get step "payment")) (u32 (get step "number"))
    pure (found.map fun a => a.map override)

/-- The answer of the controller about the attempt of a step. -/
def Running.onAttempt {α : Type} (r : Running) (step : Node)
    (program : Attempt → Program (Except RetryError α)) (write : World → α → Json) :
    Json × Running :=
  let whole : Program (Except RetryError α) := do
    match ← attemptOf step with
    | .error e => pure (.error (.store e))
    | .ok none =>
      pure (.error (.attemptNotFound (payment (get step "payment")) (u32 (get step "number"))))
    | .ok (some attempt) => program attempt
  r.ask whole fun w => followedUp (write w)

/-- A step on payments. -/
def paymentStep? (r : Running) (step : Node) : Option (Json × Running) :=
  let now := time (get step "now")
  match textOf step "do" with
  | "insert_attempt" =>
    match Attempt.decode? (get step "attempt") with
    | none => some (malformed, r)
    | some attempt =>
      let (answer, attempts) := r.world.attempts.insert attempt
      some (stored (fun _ => .null) answer, { r with world := { r.world with attempts } })
  | "attempts" =>
    let found := r.world.attempts.ofPayment (payment (get step "payment"))
    some (ok (Json.ofList (fun a => without "id" (attemptJson a)) found), r)
  | "outcome" =>
    match decisionOf? (get step "decision") with
    | none => some (broken, r)
    | some decision =>
      some (r.onAttempt step (fun a => r.service.controller.applyDecision a decision now)
        directiveJson)
  | "handle_failure" =>
    some (r.onAttempt step (fun a => r.service.controller.handleFailure a now) directiveJson)
  | "resume_failed" => some (r.onAttempt step r.service.controller.resumeFailed directiveJson)
  | "record_success" =>
    some (r.onAttempt step (fun a => RetryController.recordSuccess a now) fun _ _ => .null)
  | "abort" =>
    some (r.onAttempt step (fun a => RetryController.abort a (textOf step "reason") now)
      directiveJson)
  | _ => none

/-! ## Steps on accounts -/

/-- A step on accounts. -/
def accountStep? (r : Running) (step : Node) : Option (Json × Running) :=
  let engine := r.service.engine
  let account := account (get step "account")
  match textOf step "do" with
  | "refresh" =>
    let (now, w) :=
      if given step "now" then (time (get step "now"), r.world) else r.world.readClock
    some ({ r with world := w }.ask (engine.refresh account now) fun _ =>
      refreshed fun result => stateJson result.state)
  | "refresh_with_facts" =>
    let facts := (AccountFacts.decode? (get step "facts")).getD {}
    some (r.ask (engine.refreshWithFacts account facts (time (get step "now"))) fun _ =>
      refreshed fun result =>
        obj [("state", stateJson result.state), ("transitioned", .bool result.transitioned)])
  | "status" =>
    some (r.ask (OverdueEngine.status account) fun _ => refreshed statusJson)
  | "pending_refreshes" =>
    some (r.ask (OverdueEngine.pendingLooks (textOf step "owner")) fun w =>
      stored (Json.ofList (worldItemJson w)))
  | "reload" =>
    let (result, active) := r.world.active.load (textOf step "json") engine.hooks
    let answer :=
      match result with
      | .ok set => ok (.nat set.version.toNat)
      | .error e => setFailed e
    some (answer, { r with world := { r.world with active } })
  | "state_set" => some (ok (Json.ofOption setJson r.world.active.current), r)
  | _ => none

/-! ## Steps on the surroundings -/

/-- A step on the surroundings. -/
def surroundingStep? (r : Running) (step : Node) : Option (Json × Running) :=
  let script := items (get step "script")
  match textOf step "do" with
  | "facts" =>
    let account := account (get step "account")
    some (r.changed fun w =>
      let others := w.facts.filter fun entry => entry.1 != account
      match factsAnswer? (get step "facts") with
      | some answer => { w with facts := (account, answer) :: others }
      | none => { w with facts := others })
  | "gate" => some (r.changed fun w => { w with gateRefusals := nat (get step "fail") })
  | "executor" =>
    some (r.changed fun w => { w with charges := w.charges ++ script.map chargeScriptOf })
  | "invoices" =>
    some (r.changed fun w => { w with invoices := w.invoices ++ script.map invoicesOf })
  | "race" =>
    some (r.changed fun w =>
      { w with races := w.races ++ (OverdueState.decode? (get step "state")).toList })
  | "sleep" => some (ok .null, r.sleep (nat (get step "ms")))
  | "shutdown" => some (ok .null, r.shutdown)
  | _ => none

/-- What a service tells about itself. -/
def infoJson (r : Running) : Json :=
  obj
    [("policy", .string r.service.controller.policy.name),
     ("max_attempts", .nat r.service.controller.maxAttempts.toNat),
     ("running", .bool r.loop.isSome), ("dispatcher", .string r.service.settings.dispatcherName),
     ("hooks", texts r.service.engine.hooks.names),
     ("loaded", .bool r.world.active.current.isSome)]

/-- A step on the service itself. -/
def coreStep? (r : Running) (step : Node) : Option (Json × Running) :=
  match textOf step "do" with
  | "publish" =>
    match BillingEvent.decode? (get step "event") with
    | none => some (malformed, r)
    | some event =>
      some (r.ask event.publish fun w => stored (Json.ofOption (labelJson w)))
  | "info" => some (ok (infoJson r), r)
  | _ =>
    ((worldStep? r.world step).or (pollStep? r.poller r.world step)).map fun (answer, w) =>
      (answer, { r with world := w })

/-- A step of a scenario. -/
def serviceStep (r : Running) (step : Node) : Json × Running :=
  let (answer, r) :=
    ((coreStep? r step).or ((paymentStep? r step).or ((accountStep? r step).or
      (surroundingStep? r step)))).getD (ok .null, r)
  let (answer, w) := withCalls answer r.world
  (answer, { r with world := w })

/-! ## Scenarios -/

/-- The path of the overdue configuration in scenarios that give its text. -/
def configurationPath : String := "states.json"

/-- The identifier of a dispatcher that is left without a name. -/
def unnamedDispatcher : Uuid := Uuid.ofNat 0x3c9d60b7e51f4a28b4eb000000000000

/-- The settings of a scenario. The dispatcher has a short name unless the scenario names it. -/
def settingsOf (n : Node) : Except SettingsError Settings :=
  let env := fieldsOf (get n "env")
  let lookup (key : String) : Option String := (env.lookup key).bind str?
  let defaultName :=
    match lookup "DUEBILL_DISPATCHER_NAME" with
    | some _ => DispatcherConfig.defaultName unnamedDispatcher
    | none => "svc"
  (Settings.read defaultName lookup).map fun settings =>
    { settings with
      maxConcurrent := 1
      stateSetPath :=
        if given n "state_set" then some configurationPath else str? (get n "state_set_missing") }

/-- The name of a hook of a scenario, and how it answers. -/
def hookOf (n : Node) : String × Except HookError Unit :=
  (textOf n "name", if bool (get n "fail") then .error ⟨"told to fail"⟩ else .ok ())

/-- The world of a scenario. The last hook of a name is the one that runs. -/
def worldOf (n : Node) (hooks : List (String × Except HookError Unit)) (active : ActiveSet) :
    World where
  active
  facts := (fieldsOf (get n "facts")).filterMap fun (name, facts) =>
    match AccountId.parse? name, factsAnswer? facts with
    | some account, some answer => some (account, answer)
    | _, _ => none
  notesGate := !bool (get n "logging_gate")
  hasGateway := !bool (get n "no_gateway")
  generatesInvoices := !bool (get n "logging_invoices")
  notedHooks := hooks.reverse

/-- Put the service of a scenario together. -/
def startOf (n : Node) : Except Json Running :=
  match settingsOf n with
  | .error e => .error (settingsFailed e)
  | .ok settings =>
    let policies :=
      ((items (get n "policies")).filterMap policyOf?).foldl PolicyTable.register
        PolicyTable.builtin
    let hooks := (items (get n "hooks")).map hookOf
    let names := (hooks.map Prod.fst).foldl HookNames.register {}
    let readFile (path : String) : Option String :=
      if path = configurationPath then str? (get n "state_set") else none
    match Service.build settings policies names readFile with
    | .error e => .error (serviceFailed e)
    | .ok (service, active) =>
      .ok
        { service, poller := pollerOfService service, world := worldOf n hooks active
          loop := if bool (get n "start") then some (.resting 0 none) else none }

/-- A scenario of a service. -/
def serviceScenario (n : Node) : Json :=
  match startOf n with
  | .error answer => answer
  | .ok r => .array (answers serviceStep r (items (get n "steps")))

end Dunning.Scenario
