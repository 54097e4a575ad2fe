import Dunning.Database.OverdueStates
import Dunning.Database.RetryAttempts
import Dunning.Database.WorkItems
import Dunning.Worker.Log

/-!
# What a worker asks of its machine

A worker is one process. Its machine has a clock, files, a log and a connection to the database;
nothing else decides what it does. An operation on a store that breaks off leaves its caller without
an answer, and one that fails is recorded in the log.

## Main definitions

* `MachineRequest`, `WorkerTask` — the requests and tasks over them.
* `WorkerTask.ofSession` — a session with the database.
* `WorkerTask.ofWork`, `WorkerTask.ofState`, `WorkerTask.ofAttempt` — operations on the stores.
-/

namespace Dunning

open Database

/-- What a worker asks of its machine. -/
inductive MachineRequest where
  | log (line : LogLine)
  /-- Connect to the database of an address. -/
  | connect (address : String)
  | send (statement : Statement)
  /-- An identifier that nothing has. -/
  | freshId
  /-- The text of a file, if it can be read. -/
  | readFile (path : String)
  /-- The time of the calendar. -/
  | now

/-- What answers a request. -/
@[reducible] def MachineRequest.Answer : MachineRequest → Type
  | .log _ => Unit
  | .connect _ => Bool
  | .send _ => Except DatabaseError DatabaseReply
  | .freshId => Uuid
  | .readFile _ => Option String
  | .now => Instant

/-- A task of a worker. -/
abbrev WorkerTask (α : Type) : Type := Task MachineRequest MachineRequest.Answer α

namespace WorkerTask

/-- Write a line. -/
def log (line : LogLine) : WorkerTask Unit := .ask (.log line) .done

/-- Write lines in order. -/
def logAll : List LogLine → WorkerTask Unit
  | [] => .done ()
  | line :: rest => .ask (.log line) fun _ => logAll rest

/-- Connect to the database. False when that fails. -/
def connect (address : String) : WorkerTask Bool := .ask (.connect address) .done

/-- Send a statement. -/
def send (statement : Statement) : WorkerTask (Except DatabaseError DatabaseReply) :=
  .ask (.send statement) .done

/-- An identifier that nothing has. -/
def freshId : WorkerTask Uuid := .ask .freshId .done

/-- The text of a file, if it can be read. -/
def readFile (path : String) : WorkerTask (Option String) := .ask (.readFile path) .done

/-- The time of the calendar. -/
def now : WorkerTask Instant := .ask .now .done

/-! ## Operations on the stores -/

/-- A request of a session. -/
def ofDatabase : (request : DatabaseRequest) → WorkerTask (Option request.Answer)
  | .send statement => (send statement).bind fun reply => .done (some reply)
  | .freshId => freshId.bind fun id => .done (some id)
  | .giveUp => .done none

/-- A session with the database. None when it breaks off. -/
def ofSession {α : Type} (session : Session α) : WorkerTask (Option α) := session.attempt ofDatabase

/-- An operation on a store. A failure is recorded. -/
def operation {α : Type} (session : Session (Except StoreError α)) :
    WorkerTask (Option (Except StoreError α)) :=
  (ofSession session).bind fun
    | some (.error e) => (log .failedOperation).bind fun _ => .done (some (.error e))
    | other => .done other

/-- An operation on the store of work items. -/
def ofWork : (request : WorkRequest) → WorkerTask (Option request.Answer)
  | .enqueue new => operation (WorkItems.carry (.enqueue new))
  | .claimDue queue now lease batch claimer =>
    operation (WorkItems.carry (.claimDue queue now lease batch claimer))
  | .settle id claimer settlement => operation (WorkItems.carry (.settle id claimer settlement))
  | .cancel id => operation (WorkItems.carry (.cancel id))
  | .cancelPending queue owner now => operation (WorkItems.carry (.cancelPending queue owner now))
  | .pendingForOwner queue owner => operation (WorkItems.carry (.pendingForOwner queue owner))
  | .get id => operation (WorkItems.carry (.get id))
  | .deadLetters queue limit => operation (WorkItems.carry (.deadLetters queue limit))
  | .stats queue now => operation (WorkItems.carry (.stats queue now))
  | .markOwnerCancelled owner now => operation (WorkItems.carry (.markOwnerCancelled owner now))
  | .isOwnerCancelled owner => operation (WorkItems.carry (.isOwnerCancelled owner))

/-- An operation on the store of states. -/
def ofState : (request : StateRequest) → WorkerTask (Option request.Answer)
  | .get account => operation (OverdueStates.carry (.get account))
  | .save record expected => operation (OverdueStates.carry (.save record expected))

/-- An operation on the store of attempts. -/
def ofAttempt : (request : AttemptRequest) → WorkerTask (Option request.Answer)
  | .insert attempt => operation (RetryAttempts.carry (.insert attempt))
  | .update attempt => operation (RetryAttempts.carry (.update attempt))
  | .get payment number => operation (RetryAttempts.carry (.get payment number))
  | .ofPayment payment => operation (RetryAttempts.carry (.ofPayment payment))

end WorkerTask

end Dunning
