import Dunning.Database.Schema
import Dunning.Service
import Dunning.Worker.Machine

/-!
# Starting a worker

A worker reads its settings from the environment, connects to the database, creates the tables that
are missing and puts its service together. The first step that fails ends the start.

## Main definitions

* `WorkerError` — why a worker does not start, and its wording.
* `Worker` — a worker that has started.
* `Worker.start` — the start.
-/

namespace Dunning

open Database

/-- Why a worker does not start. -/
inductive WorkerError where
  | settings (cause : SettingsError)
  /-- No database is named. -/
  | noDatabase
  /-- The database cannot be reached. -/
  | unreachable
  /-- The tables cannot be created. -/
  | schema
  | service (cause : ServiceError)
  deriving DecidableEq

namespace WorkerError

/-- What was being done. -/
def context : WorkerError → String
  | .settings _ => "invalid DUEBILL_* configuration"
  | .noDatabase => "DATABASE_URL must be set"
  | .unreachable => "failed to connect to Postgres"
  | .schema => "failed to apply schema"
  | .service _ => "failed to start billing core"

/-- The causes, each the reason of the one before. -/
def causes : WorkerError → List String
  | .settings cause => [cause.message]
  | .noDatabase => ["environment variable not found"]
  | .unreachable => []
  | .schema => []
  | .service (.unknownPolicy name) => [(ServiceError.unknownPolicy name).message]
  | .service (.config cause) => [(ServiceError.config cause).message, cause.message]

/-- The causes as they are listed: a single one by itself, several by number. -/
def numbered : List String → List String
  | [cause] => [cause]
  | causes => causes.zipIdx.map fun (cause, n) => toString n ++ ": " ++ cause

/-- The report of a failed start. -/
def report (e : WorkerError) : List String := ("Error: " ++ e.context) :: numbered e.causes

end WorkerError

/-- A worker that has started. -/
structure Worker where
  service : Service
  active : ActiveSet
  /-- The file of account facts. -/
  factsPath : String
  /-- The rest after the last poll, when it failed. -/
  backoff : Option Span := none

namespace Worker

/-- The file of account facts unless another is named. -/
def defaultFactsPath : String := "account_facts.json"

/-- The file of account facts, with what is to be said about it. -/
def factsPathOf (environment : String → Option String) : String × List LogLine :=
  match environment "DUEBILL_ACCOUNT_FACTS_PATH" with
  | some path => (path, [])
  | none =>
    (defaultFactsPath,
      [.warn "DUEBILL_ACCOUNT_FACTS_PATH not set; using ./account_facts.json"])

/-- The text of the overdue configuration, if one is named and can be read. -/
def configurationText (settings : Settings) : WorkerTask (Option String) :=
  match settings.stateSetPath with
  | some path => .readFile path
  | none => .done none

/-- What is to be said about the overdue configuration. An unknown policy is found before it is
looked at, and a file that cannot be read is reported by the failed start alone. -/
def configurationLines (settings : Settings) (text : Option String) {α : Type} :
    Except ServiceError α → List LogLine
  | .ok _ =>
    match settings.stateSetPath with
    | some _ => [.info "overdue configuration activated"]
    | none => [.info "no overdue configuration given, every account stays clear"]
  | .error (.unknownPolicy _) => []
  | .error (.config _) =>
    match text with
    | some _ => [.warn "rejected overdue configuration, keeping previous"]
    | none => []

/-- Put the service together. -/
def startService (settings : Settings) (factsPath : String) :
    WorkerTask (Except WorkerError Worker) := do
  let text ← configurationText settings
  let built := Service.build settings .builtin {} fun _ => text
  WorkerTask.logAll (configurationLines settings text built)
  match built with
  | .error cause => pure (.error (.service cause))
  | .ok (service, active) =>
    WorkerTask.logAll [.info "dispatcher started", .info "billing core started"]
    pure (.ok { service, active, factsPath })

/-- Start over a database that is named. -/
def startOver (address : String) (settings : Settings) (factsPath : String) :
    WorkerTask (Except WorkerError Worker) := do
  if ← WorkerTask.connect address then
    match ← WorkerTask.send Schema.statement with
    | .error _ => pure (.error .schema)
    | .ok _ => startService settings factsPath
  else pure (.error .unreachable)

/-- Start in an environment of named texts. -/
def start (environment : String → Option String) : WorkerTask (Except WorkerError Worker) := do
  let id ← WorkerTask.freshId
  match Settings.read (DispatcherConfig.defaultName id) environment with
  | .error cause => pure (.error (.settings cause))
  | .ok settings =>
    match environment "DATABASE_URL" with
    | none => pure (.error .noDatabase)
    | some address =>
      let (factsPath, lines) := factsPathOf environment
      WorkerTask.logAll lines
      startOver address settings factsPath

end Worker

end Dunning
