import Dunning.Request
import Dunning.Work.Counters
import Dunning.Work.Handler
import Dunning.Work.Store

/-!
# A simulated world

The surroundings of the rules, held in memory: the three stores, the systems around the core and two
clocks. Time stands still unless something rests; the calendar clock moves on at every reading, so
that later records carry later times.

Everything can be scripted. A fault makes a call to a store fail before it touches the store. The
gateway and the invoice generator take their answers from scripts, the gate refuses a number of
calls, and a rival writer may get ahead of the writes to the store of states. What the surroundings
were asked is noted.

## Main definitions

* `FaultPoint`, `Fault` — where and how calls to the stores fail.
* `Note` — what is noted of the calls to the other systems.
* `World` — the surroundings with their state.
* `World.respond` — the answer to a request: at once, after a rest, or never.
-/

namespace Dunning.Simulation

/-! ## Faults -/

/-- A call to a store that can be made to fail. -/
inductive FaultPoint where
  | enqueue
  | claimDue
  | complete
  | release
  | reschedule
  | recordFailure
  | deadLetter
  | cancelPending
  | pendingForOwner
  | markOwnerCancelled
  | isOwnerCancelled
  | getState
  | saveState
  | insertAttempt
  | updateAttempt
  | getAttempt
  deriving Repr, DecidableEq

/-- What happens to a call. -/
inductive Fault where
  /-- The call goes through. -/
  | pass
  | fail (error : StoreError)
  /-- A look-up finds nothing. -/
  | vanish
  deriving DecidableEq

/-- The point of a settlement. -/
def settlementPoint : Settlement → FaultPoint
  | .complete => .complete
  | .release => .release
  | .reschedule _ => .reschedule
  | .recordFailure .. => .recordFailure
  | .deadLetter _ => .deadLetter

/-- The point of a request to the store of work items, if it can fail. -/
def workPoint? : WorkRequest → Option FaultPoint
  | .enqueue _ => some .enqueue
  | .claimDue .. => some .claimDue
  | .settle _ _ settlement => some (settlementPoint settlement)
  | .cancelPending .. => some .cancelPending
  | .pendingForOwner .. => some .pendingForOwner
  | .markOwnerCancelled .. => some .markOwnerCancelled
  | .isOwnerCancelled _ => some .isOwnerCancelled
  | .cancel _ => none
  | .get _ => none
  | .deadLetters .. => none
  | .stats .. => none

/-- The point of a request to the store of states. -/
def statePoint : StateRequest → FaultPoint
  | .get _ => .getState
  | .save .. => .saveState

/-- The point of a request to the store of attempts, if it can fail. -/
def attemptPoint? : AttemptRequest → Option FaultPoint
  | .insert _ => some .insertAttempt
  | .update _ => some .updateAttempt
  | .get .. => some .getAttempt
  | .ofPayment _ => none

/-- The failed answer to a request. -/
def refuseWork (e : StoreError) : (request : WorkRequest) → request.Answer
  | .enqueue _ => .error e
  | .claimDue .. => .error e
  | .settle .. => .error e
  | .cancel _ => .error e
  | .cancelPending .. => .error e
  | .pendingForOwner .. => .error e
  | .get _ => .error e
  | .deadLetters .. => .error e
  | .stats .. => .error e
  | .markOwnerCancelled .. => .error e
  | .isOwnerCancelled _ => .error e

/-- The failed answer to a request. -/
def refuseState (e : StoreError) : (request : StateRequest) → request.Answer
  | .get _ => .error e
  | .save .. => .error e

/-- The failed answer to a request. -/
def refuseAttempt (e : StoreError) : (request : AttemptRequest) → request.Answer
  | .insert _ => .error e
  | .update _ => .error e
  | .get .. => .error e
  | .ofPayment _ => .error e

/-! ## Scripts and notes -/

/-- How the gateway treats a charge. -/
inductive ChargeScript where
  | answer (result : Except CollaboratorError ChargeResult)
  /-- The call breaks the handler. -/
  | panic
  /-- The answer takes very long. -/
  | hang

/-- A call that was noted. -/
inductive Note where
  | handler (item : Item) (context : HandlerContext)
  | deadLetter (item : Item) (reason : String)
  | gate (account : AccountId) (flags : BlockFlags) (failed : Bool)
  | charge (request : PaymentRequest)
  | invoices (account : AccountId) (targetDate : Instant)
  | hook (run : HookRun)

/-- What a scripted handler does with an item. -/
inductive Action where
  | finish (result : Except HandlerError HandlerOutcome)
  | panic
  | rest (millis : Nat) (next : Action)
  /-- Another dispatcher claims items. -/
  | claim (queue : String) (now : Instant) (lease : Span) (batch : Nat) (claimer : String)
      (next : Action)
  | enqueue (new : NewItem) (next : Action)

/-- How long a hanging call takes, in milliseconds. -/
def hangMillis : Nat := 1000000000

/-- A handler that hangs before it is done. -/
def Action.hang : Action := .rest hangMillis (.finish (.ok .done))

/-- The actions of a queue's handler: those of its first invocations and that of all others. -/
structure HandlerScript where
  queue : String
  upcoming : List Action
  otherwise : Action

/-! ## The world -/

/-- The surroundings of the rules. -/
structure World where
  /-- Milliseconds that passed. -/
  clock : Nat := 0
  /-- Readings of the calendar clock. -/
  readings : Nat := 0
  /-- Work items created so far. -/
  itemCount : Nat := 0
  /-- Marks of closed owners created so far. -/
  markCount : Nat := 0
  /-- Attempts created so far. -/
  attemptCount : Nat := 0
  work : WorkStore := {}
  states : StateStore := {}
  attempts : AttemptStore := {}
  /-- What happens to the next calls, by point and in order. -/
  faults : List (FaultPoint × Fault) := []
  /-- Records that a rival writes just before the next writes that reach the store of states. -/
  races : List OverdueState := []
  active : ActiveSet := {}
  facts : List (AccountId × Except CollaboratorError AccountFacts) := []
  /-- Whether calls to the gate are noted. -/
  notesGate : Bool := true
  /-- How many more calls the gate refuses. -/
  gateRefusals : Nat := 0
  charges : List ChargeScript := []
  /-- The answer to charges beyond the script; without a gateway all are refused. -/
  hasGateway : Bool := true
  invoices : List (Except CollaboratorError Nat) := []
  /-- Whether invoices are generated at all. -/
  generatesInvoices : Bool := true
  /-- The hooks whose runs are noted, with their answers. -/
  notedHooks : List (String × Except HookError Unit) := []
  scripts : List HandlerScript := []
  /-- Whether dead letters are noted. -/
  notesDeadLetters : Bool := true
  counters : Counters := {}
  /-- Every claim with the time that had passed, the latest first. -/
  claims : List (String × Nat) := []
  /-- The noted calls, the latest first. -/
  notes : List Note := []

namespace World

/-! ## Clock and identifiers -/

/-- Nanoseconds from 1970 to the first reading of the calendar clock, 2026-01-01T00:00:00Z. -/
def startNanos : Nat := 1767225600000000000

/-- The calendar clock after a number of readings, a microsecond apart. -/
def calendar (readings : Nat) : Instant :=
  (Instant.ofNanos? (startNanos + 1000 * readings : Nat)).getD Instant.last

/-- Read the calendar clock. -/
def readClock (w : World) : Instant × World :=
  (calendar w.readings, { w with readings := w.readings + 1 })

/-- The first identifier of work items, of marks and of attempts. -/
def firstItem : Nat := 0x3c9d60b7e51f4a28b4e7000000000000

/-- The first identifier of marks. -/
def firstMark : Nat := 0x3c9d60b7e51f4a28b4e8000000000000

/-- The first identifier of attempts. -/
def firstAttempt : Nat := 0x3c9d60b7e51f4a28b4e9000000000000

/-- The identifier of the work item of a number, counted from 0. -/
def itemId (n : Nat) : ItemId := ⟨Uuid.ofNat (firstItem + n)⟩

/-- The number of a work item that was created here. -/
def itemNumber? (w : World) (id : ItemId) : Option Nat :=
  let n := id.uuid.toNat - firstItem
  if firstItem ≤ id.uuid.toNat ∧ n < w.itemCount then some n else none

/-- Whether an identifier is that of a mark. -/
def isMark (w : World) (id : ItemId) : Bool :=
  decide (firstMark ≤ id.uuid.toNat) && decide (id.uuid.toNat - firstMark < w.markCount)

/-- An identifier for what a request creates. -/
def freshItem (w : World) : WorkRequest → ItemId × World
  | .enqueue _ => (itemId w.itemCount, { w with itemCount := w.itemCount + 1 })
  | .markOwnerCancelled .. =>
    (⟨Uuid.ofNat (firstMark + w.markCount)⟩, { w with markCount := w.markCount + 1 })
  | _ => (itemId w.itemCount, w)

/-- An identifier for an attempt. -/
def freshAttempt (w : World) : Uuid × World :=
  (Uuid.ofNat (firstAttempt + w.attemptCount), { w with attemptCount := w.attemptCount + 1 })

/-! ## Faults and notes -/

/-- Take the next fault of a point out of a list. -/
def takeFrom (point : FaultPoint) :
    List (FaultPoint × Fault) → Fault × List (FaultPoint × Fault)
  | [] => (.pass, [])
  | (other, fault) :: rest =>
    if other = point then (fault, rest)
    else
      let (found, rest) := takeFrom point rest
      (found, (other, fault) :: rest)

/-- What happens to a call at a point. -/
def takeFault (w : World) (point : FaultPoint) : Fault × World :=
  let (fault, faults) := takeFrom point w.faults
  (fault, { w with faults })

/-- What happens to a call that may have no point. -/
def takeFault? (w : World) : Option FaultPoint → Fault × World
  | some point => w.takeFault point
  | none => (.pass, w)

/-- Note a call. -/
def note (w : World) (entry : Note) : World := { w with notes := entry :: w.notes }

/-- Note a claim with the time that had passed. -/
def noteClaim (w : World) : WorkRequest → World
  | .claimDue queue .. => { w with claims := (queue, w.clock) :: w.claims }
  | _ => w

end World

/-! ## Answers -/

/-- How a call is answered. -/
inductive Reply (α : Type) where
  | now (answer : α)
  | after (millis : Nat) (answer : α)
  /-- The call breaks whoever made it. -/
  | never

namespace World

/-- Answer a request to the store of work items. -/
def respondWork (w : World) (request : WorkRequest) : Reply request.Answer × World :=
  match (w.noteClaim request).takeFault? (workPoint? request) with
  | (.fail e, w) => (.now (refuseWork e request), w)
  | (_, w) =>
    let (now, w) := w.readClock
    let (fresh, w) := w.freshItem request
    match w.work.respond now fresh request with
    | some (answer, work) => (.now answer, { w with work })
    | none => (.never, w)

/-- Let a rival write to the store of states. -/
def letRivalWrite (w : World) : StateRequest → World
  | .get _ => w
  | .save .. =>
    match w.races with
    | [] => w
    | record :: races => { w with races, states := w.states.put record }

/-- Answer a request to the store of states. -/
def respondState (w : World) (request : StateRequest) : request.Answer × World :=
  match w.takeFault (statePoint request) with
  | (.fail e, w) => (refuseState e request, w)
  | (_, w) =>
    let w := w.letRivalWrite request
    let (answer, states) := w.states.respond request
    (answer, { w with states })

/-- The answer of a look-up that finds nothing; other requests go through. -/
def vanished? : (request : AttemptRequest) → Option request.Answer
  | .get .. => some (.ok none)
  | .insert _ => none
  | .update _ => none
  | .ofPayment _ => none

/-- Answer a request to the store of attempts that goes through. -/
def passAttempt (w : World) (request : AttemptRequest) : request.Answer × World :=
  let (answer, attempts) := w.attempts.respond request
  (answer, { w with attempts })

/-- Answer a request to the store of attempts. -/
def respondAttempt (w : World) (request : AttemptRequest) : request.Answer × World :=
  match w.takeFault? (attemptPoint? request) with
  | (.fail e, w) => (refuseAttempt e request, w)
  | (.vanish, w) =>
    match vanished? request with
    | some answer => (answer, w)
    | none => w.passAttempt request
  | (.pass, w) => w.passAttempt request

/-- The facts of an account. -/
def factsOf (w : World) (account : AccountId) : Except CollaboratorError AccountFacts :=
  match w.facts.find? fun entry => entry.1 == account with
  | some (_, answer) => answer
  | none => .error (.unknownAccount account)

/-- Put restrictions on an account. -/
def respondGate (w : World) (account : AccountId) (flags : BlockFlags) :
    Except CollaboratorError Unit × World :=
  if w.notesGate then
    let failed := decide (0 < w.gateRefusals)
    let w := { w with gateRefusals := w.gateRefusals - 1 }.note (.gate account flags failed)
    (if failed then .error (.unavailable "gate down") else .ok (), w)
  else (.ok (), w)

/-- Answer a charge. -/
def respondCharge (w : World) (request : PaymentRequest) :
    Reply (Except CollaboratorError ChargeResult) × World :=
  if w.hasGateway then
    let w := w.note (.charge request)
    match w.charges with
    | [] => (.now (.ok .succeeded), w)
    | script :: charges =>
      let w := { w with charges }
      match script with
      | .answer result => (.now result, w)
      | .panic => (.never, w)
      | .hang => (.after hangMillis (.ok .succeeded), w)
  else (.now (.ok (.failed .nonRetryable)), w)

/-- Generate invoices. -/
def respondInvoices (w : World) (account : AccountId) (targetDate : Instant) :
    Except CollaboratorError Nat × World :=
  if w.generatesInvoices then
    let w := w.note (.invoices account targetDate)
    match w.invoices with
    | [] => (.ok 1, w)
    | answer :: invoices => (answer, { w with invoices })
  else (.ok 0, w)

/-- Run a hook. -/
def respondHook (w : World) (run : HookRun) : Except HookError Unit × World :=
  match w.notedHooks.lookup run.hook with
  | some answer => (answer, w.note (.hook run))
  | none => (.ok (), w)

/-- Answer a request. -/
def respond (w : World) : (request : Request) → Reply request.Answer × World
  | .work request => w.respondWork request
  | .state request => let (answer, w) := w.respondState request; (.now answer, w)
  | .attempt request => let (answer, w) := w.respondAttempt request; (.now answer, w)
  | .facts account => (.now (w.factsOf account), w)
  | .setBlocked account flags =>
    let (answer, w) := w.respondGate account flags
    (.now answer, w)
  | .runHook run => let (answer, w) := w.respondHook run; (.now answer, w)
  | .charge request => w.respondCharge request
  | .generateInvoices account targetDate =>
    let (answer, w) := w.respondInvoices account targetDate
    (.now answer, w)
  | .activeSet => (.now w.active.current, w)
  | .freshId => let (id, w) := w.freshAttempt; (.now id, w)
  | .giveUp => (.never, w)

/-- The action of the next invocation of a queue's handler, taken out of the scripts. -/
def takeAction (queue : String) : List HandlerScript → Action × List HandlerScript
  | [] => (.finish (.ok .done), [])
  | script :: rest =>
    if script.queue = queue then
      match script.upcoming with
      | [] => (script.otherwise, script :: rest)
      | action :: upcoming => (action, { script with upcoming } :: rest)
    else
      let (action, rest) := takeAction queue rest
      (action, script :: rest)

/-- Invoke the scripted handler of an item: what it is going to do. -/
def invoke (w : World) (item : Item) (context : HandlerContext) : Action × World :=
  let (action, scripts) := takeAction item.queue w.scripts
  (action, { w with scripts }.note (.handler item context))

/-- Report a dead letter. -/
def reportDead (w : World) (item : Item) (reason : String) : World :=
  if w.notesDeadLetters then w.note (.deadLetter item reason) else w

/-- Count up. -/
def count (w : World) (counter : Counter) (n : Nat) : World :=
  { w with counters := w.counters.add counter n }

end World

end Dunning.Simulation
